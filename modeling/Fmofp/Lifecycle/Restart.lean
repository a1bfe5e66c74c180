import Fmofp.Machine.Run

/-! `EventBus.start` and `EventBus.stop`, called from any threads, and the loop of the processing
thread.  A call of `stop` has three parts: a section under the lock, the join, and another section under
the lock; a call of `start` is one section.  No two threads process events at once, and a `start` after the last `stop`
brings the bus up, if the calls do not come while a thread is abandoned or another `stop` is about to end. -/

namespace Fmofp.Lifecycle

/-- Where a thread is in `_process_events`. -/
inductive Stage (α : Type) where
  /-- Before the condition of the loop. -/
  | head
  /-- Before `if not self.running`. -/
  | check
  /-- Before it looks for an item in the queue. -/
  | poll
  | handling (item : α)
  | sleeping
  /-- Past the loop. -/
  | leaving
  | ended
  deriving DecidableEq

/-- A call of `stop` past its first section. -/
structure StopCall where
  thread : Option ℕ
  /-- The processing thread that it comes from, if a callback makes it. -/
  caller : Option ℕ
  joined : Bool

/-- Threads are numbered in the order in which they are made. -/
structure State (α : Type) where
  started : Bool
  running : Bool
  thread : Option ℕ
  stages : List (Stage α)
  stops : List StopCall
  eventQueue : List α

inductive Action (α : Type) where
  | publish (item : α)
  /-- `failing` if the system starts no thread when it is asked to. -/
  | start (failing : Bool)
  | stopBegin (caller : Option ℕ)
  /-- The call waits for the thread; `expired` if `STOP_JOIN_TIMEOUT` is over. -/
  | stopJoin (call : ℕ) (expired : Bool)
  | stopEnd (call : ℕ)
  /-- A step of a thread; `returned` if the callbacks are through with the item it handles. -/
  | turn (thread : ℕ) (returned : Bool)

inductive Answer where
  | done
  | raised
  deriving DecidableEq

variable {α : Type}

def start : State α := ⟨false, false, none, [], [], []⟩

def Stage.alive : Stage α → Bool
  | .ended => false
  | _ => true

def Stage.inLoop : Stage α → Bool
  | .leaving | .ended => false
  | _ => true

/-- A step of `_process_events` and what it leaves in the queue. -/
def Stage.next (running returned : Bool) (queue : List α) : Stage α → Stage α × List α
  | .head => (if running then .check else .leaving, queue)
  | .check => (if running then .poll else .leaving, queue)
  | .poll => match queue with
    | [] => (.sleeping, [])
    | item :: rest => (.handling item, rest)
  | .handling item => (if returned then .head else .handling item, queue)
  | .sleeping => (.head, queue)
  | .leaving | .ended => (.ended, queue)

namespace State

def isAlive (s : State α) (thread : Option ℕ) : Bool :=
  (thread.bind fun t => s.stages[t]?).any Stage.alive

/-- `start`; a thread that the system did not start counts as ended. -/
def start (failing : Bool) (s : State α) : Answer × State α :=
  if s.started then (.done, s)
  else if !s.running && !s.isAlive s.thread then
    if failing then
      (.raised, { s with
        running := true
        thread := some s.stages.length
        stages := s.stages ++ [.ended] })
    else
      (.done, { s with
        running := true
        thread := some s.stages.length
        stages := s.stages ++ [.head]
        started := true })
  else (.done, s)

def stopBegin (caller : Option ℕ) (s : State α) : Answer × State α :=
  if s.started then
    (.done, { s with running := false, stops := s.stops ++ [⟨s.thread, caller, false⟩] })
  else (.done, s)

/-- The join of a call of `stop`; a thread that is to wait for itself raises. -/
def stopJoin (call : ℕ) (expired : Bool) (s : State α) : Answer × State α :=
  match s.stops[call]? with
  | none => (.done, s)
  | some c =>
    if s.isAlive c.thread then
      if c.caller.isSome && decide (c.caller = c.thread) then
        (.raised, { s with stops := s.stops.eraseIdx call })
      else if expired then (.done, { s with stops := s.stops.set call { c with joined := true } })
      else (.done, s)
    else (.done, { s with stops := s.stops.set call { c with joined := true } })

def stopEnd (call : ℕ) (s : State α) : Answer × State α :=
  match s.stops[call]? with
  | none => (.done, s)
  | some c =>
    if c.joined then (.done, { s with started := false, stops := s.stops.eraseIdx call }) else (.done, s)

/-- The stage of a thread that may go on: a callback that calls `stop` waits for it. -/
def ready (s : State α) (thread : ℕ) : Option (Stage α) :=
  if s.stops.any fun c => decide (c.caller = some thread) then none else s.stages[thread]?

def turn (thread : ℕ) (returned : Bool) (s : State α) : State α :=
  match s.ready thread with
  | none => s
  | some stage =>
    let (stage, queue) := stage.next s.running returned s.eventQueue
    { s with stages := s.stages.set thread stage, eventQueue := queue }

end State

def step (s : State α) : Action α → Answer × State α
  | .publish item => (.done, { s with eventQueue := s.eventQueue ++ [item] })
  | .start failing => s.start failing
  | .stopBegin caller => s.stopBegin caller
  | .stopJoin call expired => s.stopJoin call expired
  | .stopEnd call => s.stopEnd call
  | .turn thread returned => (.done, s.turn thread returned)

/-! ### Threads -/

open Machine


/-- No thread but the one that the bus knows is alive. -/
def Alone (s : State α) : Prop :=
  ∀ t stage, s.stages[t]? = some stage → stage.alive = true → s.thread = some t

/-- An ended thread stays so. -/
theorem next_alive {running returned : Bool} {queue : List α} {stage : Stage α}
    (h : (stage.next running returned queue).1.alive = true) : stage.alive = true := by
  cases stage with
  | ended => exact h
  | _ => rfl

theorem ready_eq_some {s : State α} {thread : ℕ} {stage : Stage α}
    (h : s.ready thread = some stage) : s.stages[thread]? = some stage := by
  unfold State.ready at h
  split_ifs at h
  exact h

theorem isAlive_of_stage {s : State α} {t : ℕ} {stage : Stage α} (hthread : s.thread = some t)
    (hstage : s.stages[t]? = some stage) : s.isAlive s.thread = stage.alive := by
  simp [State.isAlive, hthread, hstage]

/-- Only `start` makes threads, and only when the last one is not alive. -/
theorem step_alone {s : State α} (h : Alone s) (a : Action α) : Alone (step s a).2 := by
  have hsame {s' : State α} (hstages : s'.stages = s.stages) (hthread : s'.thread = s.thread) :
      Alone s' := by
    intro t stage hstage halive
    rw [hthread]
    exact h t stage (hstages ▸ hstage) halive
  have hnew (first : Stage α) (hfree : (!s.running && !s.isAlive s.thread) = true) {s' : State α}
      (hstages : s'.stages = s.stages ++ [first]) (hthread : s'.thread = some s.stages.length) :
      Alone s' := by
    intro t stage hstage halive
    rw [hstages, List.getElem?_append] at hstage
    split_ifs at hstage with hold
    · have hdead : s.isAlive s.thread = true :=
        (isAlive_of_stage (h t stage hstage halive) hstage).trans halive
      simp [hdead] at hfree
    · have hlast : t - s.stages.length < 1 := (List.getElem?_eq_some_iff.mp hstage).1
      rw [hthread]
      congr 1
      omega
  cases a with
  | publish item => exact hsame rfl rfl
  | start failing =>
    simp only [step, State.start]
    split_ifs with hstarted hfree hfailing
    · exact h
    · exact hnew .ended hfree rfl rfl
    · exact hnew .head hfree rfl rfl
    · exact h
  | stopBegin caller =>
    simp only [step, State.stopBegin]
    split_ifs <;> exact hsame rfl rfl
  | stopJoin call expired =>
    simp only [step, State.stopJoin]
    split
    · exact h
    · split_ifs <;> exact hsame rfl rfl
  | stopEnd call =>
    simp only [step, State.stopEnd]
    split
    · exact h
    · split_ifs <;> exact hsame rfl rfl
  | turn thread returned =>
    cases hready : s.ready thread with
    | none =>
      have hturn : s.turn thread returned = s := by simp only [State.turn, hready]
      rw [step, hturn]
      exact h
    | some current =>
      intro t stage hstage halive
      simp only [step, State.turn, hready] at hstage ⊢
      by_cases ht : thread = t
      · subst ht
        have hcurrent := ready_eq_some hready
        rw [List.getElem?_set_self (List.getElem?_eq_some_iff.mp hcurrent).1] at hstage
        exact h thread current hcurrent (next_alive (Option.some.inj hstage ▸ halive))
      · rw [List.getElem?_set_ne ht] at hstage
        exact h t stage hstage halive

/-- No thread fails to start, no `start` comes after a `stop` that abandoned its thread while that thread
is alive, no callback calls `stop`, and no `stop` ends after the bus was started again. -/
def orderly (s : State α) : Action α → Bool
  | .start failing => !failing && (!s.stops.isEmpty || s.started || !s.isAlive s.thread)
  | .stopBegin caller => !s.started || caller.isNone
  | .stopEnd call => !(s.stops[call]?.any StopCall.joined) || !s.running
  | _ => true

/-- What an orderly run keeps: the flags agree unless a call of `stop` is between its two sections, and
a running bus has a thread in its loop. -/
structure Sound (s : State α) : Prop where
  started_of_running : s.running = true → s.started = true
  stopping : s.started = true → s.running = false → s.stops ≠ []
  callers : ∀ c ∈ s.stops, c.caller = none
  looping : s.running = true →
    ∃ t stage, s.thread = some t ∧ s.stages[t]? = some stage ∧ stage.inLoop = true

theorem next_inLoop {returned : Bool} {queue : List α} {stage : Stage α}
    (h : stage.inLoop = true) : (stage.next true returned queue).1.inLoop = true := by
  cases stage with
  | head => rfl
  | check => rfl
  | poll => cases queue <;> rfl
  | handling item => cases returned <;> rfl
  | sleeping => rfl
  | leaving => exact h
  | ended => exact h

/-- While the bus runs, a thread in the loop stays in the loop. -/
theorem turn_looping {s : State α} {t : ℕ} (thread : ℕ) (returned : Bool) (hrunning : s.running = true)
    (h : ∃ stage, s.stages[t]? = some stage ∧ stage.inLoop = true) :
    ∃ stage, (s.turn thread returned).stages[t]? = some stage ∧ stage.inLoop = true := by
  obtain ⟨stage, hstage, hloop⟩ := h
  cases hready : s.ready thread with
  | none => exact ⟨stage, by simpa only [State.turn, hready] using hstage, hloop⟩
  | some current =>
    simp only [State.turn, hready, hrunning]
    by_cases ht : thread = t
    · subst ht
      have hcurrent := ready_eq_some hready
      rw [hstage, Option.some.injEq] at hcurrent
      subst hcurrent
      exact ⟨_, List.getElem?_set_self (List.getElem?_eq_some_iff.mp hstage).1, next_inLoop hloop⟩
    · exact ⟨stage, by rw [List.getElem?_set_ne ht]; exact hstage, hloop⟩

/-- What a thread does changes no flag and no call. -/
theorem turn_frame (thread : ℕ) (returned : Bool) (s : State α) :
    (s.turn thread returned).started = s.started ∧ (s.turn thread returned).running = s.running ∧
      (s.turn thread returned).thread = s.thread ∧ (s.turn thread returned).stops = s.stops := by
  unfold State.turn
  cases s.ready thread <;> exact ⟨rfl, rfl, rfl, rfl⟩

theorem start_sound : Sound (start : State α) where
  started_of_running h := nomatch h
  stopping h := nomatch h
  callers _ hc := nomatch hc
  looping h := nomatch h

theorem step_sound {s : State α} (h : Sound s) {a : Action α} (horderly : orderly s a = true) :
    Sound (step s a).2 := by
  cases a with
  | publish item => exact ⟨h.started_of_running, h.stopping, h.callers, h.looping⟩
  | start failing =>
    simp only [orderly, Bool.and_eq_true, Bool.not_eq_true'] at horderly
    obtain ⟨rfl, -⟩ := horderly
    simp only [step, State.start, Bool.false_eq_true, if_false]
    split_ifs
    · exact h
    · refine ⟨fun _ => rfl, fun _ hrunning => ?_, h.callers, fun _ => ⟨_, .head, rfl, by simp, rfl⟩⟩
      cases hrunning
    · exact h
  | stopBegin caller =>
    simp only [step, State.stopBegin]
    split_ifs with hstarted
    · have hcaller : caller = none := by simpa [orderly, hstarted] using horderly
      refine ⟨fun hrunning => ?_, fun _ _ => by simp, fun c hc => ?_, fun hrunning => ?_⟩
      · cases hrunning
      · rcases List.mem_append.mp hc with hc | hc
        · exact h.callers c hc
        · rw [List.mem_singleton.mp hc]
          exact hcaller
      · cases hrunning
    · exact h
  | stopJoin call expired =>
    simp only [step, State.stopJoin]
    cases hcall : s.stops[call]? with
    | none => exact h
    | some c =>
      obtain ⟨waited, caller, joined⟩ := c
      obtain rfl : caller = none := h.callers _ (List.mem_of_getElem? hcall)
      have hset : Sound { s with stops := s.stops.set call ⟨waited, none, true⟩ } := by
        refine ⟨h.started_of_running, fun hstarted hrunning hnil => ?_, fun c' hc' => ?_, h.looping⟩
        · exact h.stopping hstarted hrunning (by simpa using hnil)
        · rcases List.mem_or_eq_of_mem_set hc' with hc' | rfl
          · exact h.callers c' hc'
          · rfl
      simp only [Option.isSome_none, Bool.false_and, Bool.false_eq_true, if_false]
      split_ifs
      · exact hset
      · exact h
      · exact hset
  | stopEnd call =>
    simp only [step, State.stopEnd]
    cases hcall : s.stops[call]? with
    | none => exact h
    | some c =>
      simp only
      split_ifs with hjoined
      · have hrunning : s.running = false := by simpa [orderly, hcall, hjoined] using horderly
        refine ⟨fun htrue => ?_, fun hstarted => ?_, fun c' hc' => ?_, h.looping⟩
        · exact absurd htrue (by simp [hrunning])
        · cases hstarted
        · exact h.callers c' (List.mem_of_mem_eraseIdx hc')
      · exact h
  | turn thread returned =>
    obtain ⟨hstarted, hrunning, hthread, hstops⟩ := turn_frame thread returned s
    simp only [step]
    refine ⟨?_, ?_, ?_, ?_⟩
    · rw [hstarted, hrunning]
      exact h.started_of_running
    · rw [hstarted, hrunning, hstops]
      exact h.stopping
    · rw [hstops]
      exact h.callers
    · rw [hrunning, hthread]
      intro hon
      obtain ⟨t, stage, ht, hstage, hloop⟩ := h.looping hon
      obtain ⟨stage', hstage', hloop'⟩ := turn_looping thread returned hon ⟨stage, hstage, hloop⟩
      exact ⟨t, stage', ht, hstage', hloop'⟩

/-- The bus is started and runs, no `stop` is under way, and thread `t` is in the loop. -/
structure Up (s : State α) (t : ℕ) : Prop where
  started : s.started = true
  running : s.running = true
  stops : s.stops = []
  thread : s.thread = some t
  looping : ∃ stage, s.stages[t]? = some stage ∧ stage.inLoop = true

/-- An orderly `start` with no `stop` under way brings the bus up. -/
theorem start_up {s : State α} (h : Sound s) {failing : Bool} (hstops : s.stops = [])
    (horderly : orderly s (.start failing) = true) : ∃ t, Up (step s (.start failing)).2 t := by
  simp only [orderly, hstops, List.isEmpty_nil, Bool.not_true, Bool.false_or, Bool.and_eq_true,
    Bool.not_eq_true', Bool.or_eq_true] at horderly
  obtain ⟨rfl, hfree⟩ := horderly
  simp only [step, State.start]
  cases hstarted : s.started with
  | true =>
    have hrunning : s.running = true := by
      by_contra hoff
      exact h.stopping hstarted (Bool.not_eq_true _ ▸ hoff) hstops
    obtain ⟨t, stage, ht, hstage, hloop⟩ := h.looping hrunning
    exact ⟨t, hstarted, hrunning, hstops, ht, stage, hstage, hloop⟩
  | false =>
    have hrunning : s.running = false := by
      by_contra hon
      have hstarted' := h.started_of_running (Bool.not_eq_false _ ▸ hon)
      simp [hstarted] at hstarted'
    have halive : s.isAlive s.thread = false := by simpa [hstarted] using hfree
    simp only [hrunning, halive, Bool.not_false, Bool.and_self, if_true, Bool.false_eq_true, if_false]
    exact ⟨s.stages.length, rfl, rfl, hstops, rfl, .head, by simp, rfl⟩

def isStop : Action α → Bool
  | .stopBegin _ => true
  | _ => false

/-- The bus stays up until `stop` is called. -/
theorem step_up {s : State α} {t : ℕ} (h : Up s t) {a : Action α} (ha : isStop a = false) :
    Up (step s a).2 t := by
  cases a with
  | publish item => exact ⟨h.started, h.running, h.stops, h.thread, h.looping⟩
  | start failing =>
    simp only [step, State.start, h.started, if_true]
    exact h
  | stopBegin caller => cases ha
  | stopJoin call expired =>
    simp only [step, State.stopJoin, h.stops, List.getElem?_nil]
    exact h
  | stopEnd call =>
    simp only [step, State.stopEnd, h.stops, List.getElem?_nil]
    exact h
  | turn thread returned =>
    obtain ⟨hstarted, hrunning, hthread, hstops⟩ := turn_frame thread returned s
    exact ⟨hstarted.trans h.started, hrunning.trans h.running, hstops.trans h.stops,
      hthread.trans h.thread, turn_looping thread returned h.running h.looping⟩

/-- The item that a thread handles. -/
def Stage.item : Stage α → List α
  | .handling item => [item]
  | _ => []

/-- The items that are queued or handled by thread `t`. -/
def pending (s : State α) (t : ℕ) : List α := ((s.stages[t]?).map Stage.item).getD [] ++ s.eventQueue

/-- The item that a step is done with. -/
def finished (s : State α) : Action α → List α
  | .turn thread true => ((s.ready thread).map Stage.item).getD []
  | _ => []

/-- The steps of a thread until it is done with an item, when there is one. -/
def Stage.rank : Stage α → ℕ
  | .handling _ => 1
  | .poll => 2
  | .check => 3
  | .head => 4
  | .sleeping => 5
  | .leaving | .ended => 0

/-- The steps of thread `t` in which no callback keeps it. -/
def turnsOf (t : ℕ) (actions : List (Action α)) : ℕ :=
  actions.countP fun
    | .turn thread returned => decide (thread = t) && returned
    | _ => false

theorem next_items (returned : Bool) (queue : List α) {stage : Stage α} (h : stage.inLoop = true) :
    stage.item ++ queue = (if returned then stage.item else []) ++
      ((stage.next true returned queue).1.item ++ (stage.next true returned queue).2) := by
  cases stage with
  | poll => cases queue <;> cases returned <;> rfl
  | handling item => cases returned <;> rfl
  | leaving => cases h
  | ended => cases h
  | _ => cases returned <;> rfl

theorem next_rank_le (returned : Bool) {queue : List α} {stage : Stage α} (h : stage.inLoop = true)
    (hpending : stage.item ++ queue ≠ []) (hkeeps : (returned && !stage.item.isEmpty) = false) :
    (stage.next true returned queue).1.rank + (if returned then 1 else 0) ≤ stage.rank := by
  cases stage with
  | poll =>
    cases queue with
    | nil => exact absurd rfl hpending
    | cons item rest => cases returned <;> simp [Stage.next, Stage.rank]
  | handling item =>
    cases returned with
    | true => cases hkeeps
    | false => simp [Stage.next]
  | leaving => cases h
  | ended => cases h
  | _ => cases returned <;> simp [Stage.next, Stage.rank]

theorem handling_of_item {stage : Stage α} (h : (!stage.item.isEmpty) = true) :
    ∃ item, stage = .handling item := by
  cases stage with
  | handling item => exact ⟨item, rfl⟩
  | _ => cases h

section Progress

variable {s : State α} {t : ℕ} {stage : Stage α}

theorem pending_eq (h : s.stages[t]? = some stage) : pending s t = stage.item ++ s.eventQueue := by
  rw [pending, h, Option.map_some, Option.getD_some]

theorem ready_of_up (h : Up s t) (thread : ℕ) : s.ready thread = s.stages[thread]? := by
  simp [State.ready, h.stops]

/-- A step that is not one of the thread leaves its stage, and puts an item in the queue at most. -/
theorem step_elsewhere (h : Up s t) (halone : Alone s) (hstage : s.stages[t]? = some stage)
    {a : Action α} (ha : isStop a = false) (hother : ∀ returned, a ≠ .turn t returned) :
    (step s a).2.stages[t]? = some stage ∧ finished s a = [] ∧
      s.eventQueue <+: (step s a).2.eventQueue := by
  cases a with
  | publish item => exact ⟨hstage, rfl, List.prefix_append _ _⟩
  | start failing =>
    simp only [step, State.start, h.started, if_true]
    exact ⟨hstage, rfl, List.prefix_refl _⟩
  | stopBegin caller => cases ha
  | stopJoin call expired =>
    simp only [step, State.stopJoin, h.stops, List.getElem?_nil]
    exact ⟨hstage, rfl, List.prefix_refl _⟩
  | stopEnd call =>
    simp only [step, State.stopEnd, h.stops, List.getElem?_nil]
    exact ⟨hstage, rfl, List.prefix_refl _⟩
  | turn thread returned =>
    have hne : thread ≠ t := by
      rintro rfl
      exact hother returned rfl
    cases hready : s.ready thread with
    | none =>
      simp only [step, State.turn, hready]
      exact ⟨hstage, by cases returned <;> simp [finished, hready], List.prefix_refl _⟩
    | some current =>
      have hended : current = .ended := by
        cases current with
        | ended => rfl
        | _ =>
          have hthread := halone thread _ (ready_eq_some hready) rfl
          rw [h.thread, Option.some.injEq] at hthread
          exact absurd hthread.symm hne
      subst hended
      simp only [step, State.turn, hready, Stage.next]
      refine ⟨?_, by cases returned <;> simp [finished, hready, Stage.item], List.prefix_refl _⟩
      rw [List.getElem?_set_ne hne]
      exact hstage

/-- A step of the thread while the bus is up. -/
theorem step_turn (h : Up s t) (hstage : s.stages[t]? = some stage) (returned : Bool) :
    (step s (.turn t returned)).2.stages[t]? =
        some (stage.next true returned s.eventQueue).1 ∧
      (step s (.turn t returned)).2.eventQueue = (stage.next true returned s.eventQueue).2 ∧
      finished s (.turn t returned) = if returned then stage.item else [] := by
  have hready : s.ready t = some stage := (ready_of_up h t).trans hstage
  simp only [step, State.turn, hready, h.running]
  refine ⟨List.getElem?_set_self (List.getElem?_eq_some_iff.mp hstage).1, trivial, ?_⟩
  cases returned
  · rfl
  · simp [finished, hready]

theorem rank_pos {stage : Stage α} (h : stage.inLoop = true) : 0 < stage.rank := by
  cases stage with
  | leaving => cases h
  | ended => cases h
  | _ => exact Nat.succ_pos _

theorem looping_of_up (h : Up s t) (hstage : s.stages[t]? = some stage) : stage.inLoop = true := by
  obtain ⟨stage', hstage', hloop⟩ := h.looping
  rw [hstage, Option.some.injEq] at hstage'
  exact hstage' ▸ hloop

/-- While the bus is up, `n` pending items are done with, in order, once their thread has taken enough
steps. -/
theorem progress {rest : List (Action α)} (h : Up s t) (halone : Alone s)
    (hstage : s.stages[t]? = some stage) (hrest : ∀ a ∈ rest, isStop a = false) {n : ℕ} (hn : 0 < n)
    (hlength : n ≤ (pending s t).length) (hturns : stage.rank + 5 * (n - 1) ≤ turnsOf t rest) :
    (pending s t).take n <+: collect step finished s rest := by
  induction rest generalizing s stage n with
  | nil =>
    have hpos := rank_pos (looping_of_up h hstage)
    have hzero : turnsOf t ([] : List (Action α)) = 0 := rfl
    omega
  | cons a rest ih =>
    have hloop := looping_of_up h hstage
    have ha := hrest a (by simp)
    have hup := step_up h ha
    have halone' := step_alone halone a
    have hrest' : ∀ b ∈ rest, isStop b = false := fun b hb => hrest b (List.mem_cons_of_mem _ hb)
    rw [collect_cons]
    rw [pending_eq hstage] at hlength ⊢
    by_cases hturn : ∃ returned, a = .turn t returned
    · obtain ⟨returned, rfl⟩ := hturn
      obtain ⟨hstage', hqueue', hfinished⟩ := step_turn h hstage returned
      have hitems := next_items returned s.eventQueue hloop
      have hcount : turnsOf t (.turn t returned :: rest) =
          turnsOf t rest + if returned then 1 else 0 := by
        simp [turnsOf, List.countP_cons]
      have hpending := pending_eq hstage'
      rw [hqueue'] at hpending
      rw [hitems, ← hpending] at hlength ⊢
      rw [hfinished]
      set s' := (step s (.turn t returned)).2
      cases hdone : returned && !stage.item.isEmpty with
      | true =>
        -- The thread is done with the item it handles and is back at the head of the loop.
        obtain ⟨rfl, hitem⟩ := Bool.and_eq_true_iff.mp hdone
        obtain ⟨item, rfl⟩ := handling_of_item hitem
        simp only [Stage.item, if_true, List.singleton_append, List.length_cons] at hlength ⊢
        obtain ⟨k, rfl⟩ := Nat.exists_eq_succ_of_ne_zero hn.ne'
        rw [List.take_succ_cons, List.prefix_cons_inj]
        rcases Nat.eq_zero_or_pos k with rfl | hk
        · exact List.nil_prefix
        · refine ih hup halone' hstage' hrest' hk (by omega) ?_
          simp only [Stage.next, Stage.rank, if_true] at hturns hcount ⊢
          omega
      | false =>
        have hnothing : (if returned then stage.item else []) = [] := by
          cases returned with
          | false => rfl
          | true => simpa using hdone
        have hne : stage.item ++ s.eventQueue ≠ [] := by
          rw [hitems, ← hpending, hnothing, List.nil_append]
          rw [hnothing, List.nil_append] at hlength
          exact List.ne_nil_of_length_pos (by omega)
        have hrank := next_rank_le returned hloop hne hdone
        rw [hnothing, List.nil_append] at hlength ⊢
        exact ih hup halone' hstage' hrest' hn hlength (by omega)
    · obtain ⟨hstage', hfinished, extra, hextra⟩ := step_elsewhere h halone hstage ha
        fun returned hne => hturn ⟨returned, hne⟩
      have hcount : turnsOf t (a :: rest) = turnsOf t rest := by
        rw [turnsOf, List.countP_cons]
        cases a with
        | turn thread returned =>
          have hne : thread ≠ t := fun heq => hturn ⟨returned, by rw [heq]⟩
          simp [turnsOf, hne]
        | _ => rfl
      have hpending := pending_eq hstage'
      rw [← hextra, ← List.append_assoc] at hpending
      have htake := ih hup halone' hstage' hrest' hn
        (by rw [hpending, List.length_append]; omega) (hcount ▸ hturns)
      rw [hpending, List.take_append_of_le_length hlength] at htake
      rw [hfinished]
      exact htake

end Progress

/-- Once a `start` that no `stop` overlaps has returned, and until `stop` is called: the bus is started
and runs, and its thread, which is alive, handles in order all that is queued when it has taken enough
steps. -/
def Restarts (actions : List (Action α)) : Prop :=
  ∀ before failing after rest, before ++ .start failing :: (after ++ rest) = actions →
    (final step start before).stops = [] → (∀ a ∈ after ++ rest, isStop a = false) →
    ∃ s t, s = final step start (before ++ .start failing :: after) ∧ s.started = true ∧
      s.running = true ∧ s.thread = some t ∧ s.isAlive (some t) = true ∧
      (5 * (pending s t).length ≤ turnsOf t rest → pending s t <+: collect step finished s rest)

theorem up_isAlive {s : State α} {t : ℕ} (h : Up s t) : s.isAlive (some t) = true := by
  obtain ⟨stage, hstage, hloop⟩ := h.looping
  rw [← h.thread, isAlive_of_stage h.thread hstage]
  cases stage <;> first | rfl | cases hloop

theorem final_alone (actions : List (Action α)) : Alone (final step start actions) := by
  refine invariant_reachable (fun s a (hs : Alone s) => step_alone hs a) (fun t stage hstage => ?_)
    ⟨actions, rfl⟩
  cases hstage

theorem run_up {s : State α} {t : ℕ} (h : Up s t) {actions : List (Action α)}
    (hquiet : ∀ a ∈ actions, isStop a = false) : Up (final step s actions) t := by
  induction actions generalizing s with
  | nil => exact h
  | cons a rest ih =>
    exact ih (step_up h (hquiet a (by simp))) fun b hb => hquiet b (List.mem_cons_of_mem _ hb)

theorem rank_le (stage : Stage α) : stage.rank ≤ 5 := by
  cases stage <;> simp [Stage.rank]

theorem all_handled {s : State α} {t : ℕ} (h : Up s t) (halone : Alone s) {rest : List (Action α)}
    (hrest : ∀ a ∈ rest, isStop a = false) (hturns : 5 * (pending s t).length ≤ turnsOf t rest) :
    pending s t <+: collect step finished s rest := by
  rcases Nat.eq_zero_or_pos (pending s t).length with hzero | hpos
  · rw [List.length_eq_zero_iff.mp hzero]
    exact List.nil_prefix
  · obtain ⟨stage, hstage, -⟩ := h.looping
    have hrank := rank_le stage
    have hprogress := progress h halone hstage hrest hpos le_rfl (by omega)
    rwa [List.take_length] at hprogress

/-- At most one thread is alive in every run, and every orderly run brings the bus up again. -/
theorem never_twice_and_restarts (actions : List (Action α)) :
    (∀ t t', (final step start actions).isAlive (some t) = true →
      (final step start actions).isAlive (some t') = true → t = t') ∧
    (Along step (fun s a => orderly s a = true) start actions → Restarts actions) := by
  constructor
  · intro t t' ht ht'
    have halone := final_alone actions
    have hthread {u : ℕ} (hu : (final step start actions).isAlive (some u) = true) :
        (final step start actions).thread = some u := by
      obtain ⟨stage, hstage, halive⟩ := (Option.any_eq_true _ _).mp hu
      exact halone u stage hstage halive
    exact Option.some.inj ((hthread ht).symm.trans (hthread ht'))
  · rintro horderly before failing after rest rfl hstops hquiet
    have hsound : Sound (final step start before) :=
      invariant_along (fun s a (hs : Sound s) ha => step_sound hs ha) start_sound horderly
    have hstart := along_iff.mp horderly before (.start failing) (after ++ rest) rfl
    obtain ⟨t, hstarted⟩ := start_up hsound hstops hstart
    have hup := run_up hstarted fun a ha => hquiet a (List.mem_append_left _ ha)
    have hfinal : final step start (before ++ .start failing :: after) =
        final step (step (final step start before) (.start failing)).2 after := by
      rw [final_append, final_cons]
    rw [← hfinal] at hup
    refine ⟨_, t, rfl, hup.started, hup.running, hup.thread, up_isAlive hup, fun hturns => ?_⟩
    exact all_handled hup (final_alone _) (fun a ha => hquiet a (List.mem_append_right _ ha)) hturns

/-- Started, and stopped from another thread while nothing is handled. -/
def stoppedInTime : List (Action ℕ) :=
  [.start false, .publish 7, .stopBegin none, .turn 0 true, .turn 0 true, .stopJoin 0 false, .stopEnd 0,
    .start false]

theorem stopped_in_time_restarts : Restarts stoppedInTime :=
  (never_twice_and_restarts stoppedInTime).2 (by decide)

/-- Started, and stopped while a callback takes longer than the join. -/
def abandoned : List (Action ℕ) :=
  [.publish 7, .start false, .turn 0 true, .turn 0 true, .turn 0 true, .stopBegin none, .stopJoin 0 true,
    .stopEnd 0]

/-- The bus is not started while the abandoned thread is alive, though `start` returns. -/
theorem abandoned_not_restarted : ¬Restarts (abandoned ++ [.start false]) := by
  intro h
  obtain ⟨s, t, rfl, hstarted, -⟩ := h abandoned false [] [] rfl (by decide) (by simp)
  revert hstarted
  decide

end Fmofp.Lifecycle
