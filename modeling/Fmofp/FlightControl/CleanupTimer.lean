import Fmofp.Machine.Run

/-! The timer that expires the pending requests of `FCSMessageHandler`: `start` and `stop`, called one
after the other, and the passes on the threads of the timers.  Each statement is a step, and the steps
of the threads come in any order; a timer fires once it is published. -/

namespace Fmofp.FlightControl

open Machine

/-- A timer and its thread, in the order of construction. -/
abbrev Timer := ℕ

/-- The statement of `_start_cleanup_timer` that a thread is at, with its local variables. -/
inductive Rearm where
  | read
  | guard (existing : Option Timer)
  | check
  | construct
  | daemonize (timer : Timer)
  | launch (timer : Timer)
  | publish (timer : Timer)
  deriving DecidableEq

inductive PassPoint where
  /-- The pass over the pending requests, which raises nothing. -/
  | body
  /-- `if self.started` in the `finally` block. -/
  | finallyCheck
  | rearm (point : Rearm)
  deriving DecidableEq

/-- A timer that is not published belongs to the thread that makes it: a pass, or the caller. -/
inductive Phase where
  | absent
  | made (owner : Option Timer)
  | launched (owner : Option Timer)
  | waiting
  | running (point : PassPoint)
  /-- The thread has nothing left to do, and ends. -/
  | leaving
  | ended
  deriving DecidableEq

def Phase.isAlive : Phase → Bool
  | .absent | .made _ | .ended => false
  | .launched _ | .waiting | .running _ | .leaving => true

/-- What the thread that calls `start` and `stop` is doing. -/
inductive Caller where
  | idle
  | startCheck
  | startSet
  | startRearm (point : Rearm)
  | stopCheck
  | stopSet
  | stopTest
  | stopCancel
  | stopClear
  deriving DecidableEq

/-- `surplus` records the timers that have waited next to another live one in the slot. -/
structure TimerState where
  started : Bool
  cleanupTimer : Option Timer
  caller : Caller
  phase : Timer → Phase
  next : Timer
  surplus : Timer → Bool

inductive TimerAction where
  | callStart
  | callStop
  /-- The next statement of `start` or `stop`. -/
  | caller
  | fire (t : Timer)
  /-- The next statement of the pass of a timer. -/
  | pass (t : Timer)
  | exit (t : Timer)

namespace TimerState

variable (s : TimerState)

def setPhase (t : Timer) (p : Phase) : TimerState :=
  { s with phase := Function.update s.phase t p }

/-- One statement of `_start_cleanup_timer` on a thread, and the next one unless it returns. -/
def rearm (thread : Option Timer) : Rearm → TimerState × Option Rearm
  | .read => (s, some (.guard s.cleanupTimer))
  | .guard existing => match existing with
    | none => (s, some .check)
    | some t => if (s.phase t).isAlive ∧ thread ≠ some t then (s, none) else (s, some .check)
  | .check => if s.started then (s, some .construct) else (s, none)
  | .construct =>
    ({ s.setPhase s.next (.made thread) with next := s.next + 1 }, some (.daemonize s.next))
  | .daemonize timer => (s, some (.launch timer))
  | .launch timer => (s.setPhase timer (.launched thread), some (.publish timer))
  | .publish timer => ({ s.setPhase timer .waiting with cleanupTimer := some timer }, none)

def pass (t : Timer) : TimerState :=
  match s.phase t with
  | .running .body => s.setPhase t (.running .finallyCheck)
  | .running .finallyCheck => s.setPhase t (if s.started then .running (.rearm .read) else .leaving)
  | .running (.rearm point) => match s.rearm (some t) point with
    | (s', some point') => s'.setPhase t (.running (.rearm point'))
    | (s', none) => s'.setPhase t .leaving
  | _ => s

/-- `self.cleanup_timer.cancel()`, which does not stop a pass that is running. -/
def cancel : TimerState :=
  match s.cleanupTimer with
  | none => s
  | some t => if s.phase t = .waiting then s.setPhase t .leaving else s

def callerStep : TimerState :=
  match s.caller with
  | .idle => s
  | .startCheck => { s with caller := if s.started then .idle else .startSet }
  | .startSet => { s with started := true, caller := .startRearm .read }
  | .startRearm point => match s.rearm none point with
    | (s', some point') => { s' with caller := .startRearm point' }
    | (s', none) => { s' with caller := .idle }
  | .stopCheck => { s with caller := if s.started then .stopSet else .idle }
  | .stopSet => { s with started := false, caller := .stopTest }
  | .stopTest => { s with caller := if s.cleanupTimer.isSome then .stopCancel else .idle }
  | .stopCancel => { s.cancel with caller := .stopClear }
  | .stopClear => { s with cleanupTimer := none, caller := .idle }

/-- The timer waits while the slot has another one that is alive. -/
def isSurplus (t : Timer) : Bool :=
  decide (s.phase t = .waiting) && match s.cleanupTimer with
    | none => false
    | some u => decide (u ≠ t) && (s.phase u).isAlive

def mark : TimerState :=
  { s with surplus := fun t => s.surplus t || s.isSurplus t }

def act : TimerAction → TimerState
  | .callStart => if s.caller = .idle then { s with caller := .startCheck } else s
  | .callStop => if s.caller = .idle then { s with caller := .stopCheck } else s
  | .caller => s.callerStep
  | .fire t => if s.phase t = .waiting then s.setPhase t (.running .body) else s
  | .pass t => s.pass t
  | .exit t => if s.phase t = .leaving then s.setPhase t .ended else s

end TimerState

def timerStep (s : TimerState) (a : TimerAction) : Unit × TimerState := ((), (s.act a).mark)

def notStarted : TimerState where
  started := false
  cleanupTimer := none
  caller := .idle
  phase _ := .absent
  next := 0
  surplus _ := false

/-! ### What the chain of timers should do -/

/-- The statements after the last look at `started`. -/
def Rearm.isCommitted : Rearm → Bool
  | .read | .guard _ | .check => false
  | .construct | .daemonize _ | .launch _ | .publish _ => true

namespace TimerState

variable (s : TimerState) (t : Timer)

/-- The pass of the timer is re-arming. -/
def Rearming : Prop := ∃ point, s.phase t = .running (.rearm point) ∧ point.isCommitted = true

/-- Left to itself, the pass of the timer comes to publish another one. -/
def WillRearm : Prop :=
  ∃ n u, ((fun s : TimerState => s.pass t)^[n] s).phase t = .running (.rearm (.publish u))

/-- The chain goes on while the handler is started, a surplus timer has no successor, and a handler that
is stopped re-arms nothing. -/
structure ChainSound : Prop where
  continues : s.started = true → s.caller = .idle → ∃ t, s.phase t = .waiting ∨ s.WillRearm t
  dies : ∀ t, s.surplus t = true → ¬ s.Rearming t
  silent : s.started = false → ∀ t, ¬ s.Rearming t

end TimerState

/-- `stop` does not begin while a pass is re-arming, and the pass of a surplus timer finds the timer that
it read from the slot alive. -/
def Undisturbed (s : TimerState) : TimerAction → Prop
  | .caller => s.caller = .stopSet → ∀ t, ¬ s.Rearming t
  | .pass t => ∀ existing, s.surplus t = true → s.phase t = .running (.rearm (.guard existing)) →
      ∃ u, existing = some u ∧ (s.phase u).isAlive = true
  | _ => True

end Fmofp.FlightControl
