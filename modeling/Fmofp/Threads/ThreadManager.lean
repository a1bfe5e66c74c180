import Fmofp.Machine.Run
import Fmofp.Python.Dict

/-! `ThreadManager.add_thread`, `start_thread` and `stop_thread`, and the wrapped targets of the threads.  A call holds
the lock of the manager from its first line to its end, and a target that makes a call waits for it; a wrapped target
writes its record without the lock.  Each line that reads or writes what another thread can write is one step.  The
tracker gains names from all managers and loses none. -/

namespace Fmofp.Threads

open Python

/-- `ThreadState`. -/
inductive ThreadState where
  | created
  | starting
  | running
  | stopping
  | stopped
  | error
  deriving DecidableEq

/-- What a target raises; `except Exception` catches the first kind only. -/
inductive Raised (E : Type) where
  | exception (e : E)
  | baseException
  deriving DecidableEq

/-- How a thread ends. -/
inductive Ending (E : Type) where
  /-- The wrapped target has found no record. -/
  | missing
  | returned
  | raised (r : Raised E)
  deriving DecidableEq

/-- A call of the manager. -/
inductive Call where
  | addThread (name : String)
  | startThread (name : String)
  | stopThread (name : String)
  deriving DecidableEq

/-- Where a thread is in `wrapped_target`; `record` is the object that it has found under its name. -/
inductive Worker (E : Type) where
  /-- `thread.ident` is `None`. -/
  | new
  | begun
  | found (record : ℕ)
  /-- In the target, which waits for the end of a call of the manager if it makes one. -/
  | target (record : ℕ) (call : Option Call)
  | returned (record : ℕ)
  | raised (record : ℕ) (e : E)
  /-- Between the two writes of the handler. -/
  | failing (record : ℕ) (e : E)
  | finished (ending : Ending E)
  /-- `is_alive` is false. -/
  | ended (ending : Ending E)
  deriving DecidableEq

/-- A `ManagedThread` with its thread; `starts` counts how often the thread was started. -/
structure ManagedThread (E : Type) where
  name : String
  state : ThreadState
  error : Option E
  starts : ℕ
  worker : Worker E
  deriving DecidableEq

/-- How a call ends. -/
inductive Answer where
  | silent
  | returned
  | started (answer : Bool)
  | raised
  deriving DecidableEq

/-- The line that a call comes to next. -/
inductive Position (E : Type) where
  | addCheck (name : String)
  | addRecord (name : String)
  | addMark (name : String)
  | startCheck (name : String)
  | setStarting (record : ℕ)
  | threadStart (record : ℕ)
  | startError (record : ℕ) (e : E)
  | startErrorState (record : ℕ)
  | stopCheck (name : String)
  | setStopping (record : ℕ)
  | join (record : ℕ)
  | aliveCheck (record : ℕ)
  | setTimedOut (record : ℕ)
  | setStopped (record : ℕ)
  | release (answer : Answer)
  deriving DecidableEq

/-- The call that has the lock; `caller` is the thread whose target makes it, if one does. -/
structure Holder (E : Type) where
  caller : Option ℕ
  position : Position E
  deriving DecidableEq

/-- A report that a thread did not stop; `waiting` if its target waits for a call of the manager at that time. -/
structure Report where
  record : ℕ
  waiting : Bool
  deriving DecidableEq

/-- The names that the tracker has for `thread_creation`, and the manager.  Threads are numbered in the order in which
they are made. -/
structure State (E : Type) where
  completed : List String
  threads : Dict String ℕ
  objects : List (ManagedThread E)
  holder : Option (Holder E)
  reports : List Report
  deriving DecidableEq

inductive Action (E : Type) where
  /-- A call gets the lock. -/
  | enter (caller : Option ℕ) (call : Call)
  /-- The next line of the call that has the lock; `failure` is what `thread.start()` raises, and `expired` says that
  the timeout of the join is over. -/
  | advance (failure : Option E) (expired : Bool)
  /-- The target of a thread asks for the lock. -/
  | callManager (thread : ℕ) (call : Call)
  /-- The next line of a wrapped target. -/
  | work (thread : ℕ)
  /-- The target of a thread returns or raises. -/
  | targetEnds (thread : ℕ) (raised : Option (Raised E))
  /-- Another manager marks a name. -/
  | markElsewhere (name : String)

variable {E : Type}

def start : State E := ⟨[], [], [], none, []⟩

namespace Worker

/-- `thread.is_alive()`. -/
def alive : Worker E → Bool
  | new | ended _ => false
  | _ => true

/-- `thread.ident is not None`. -/
def ident : Worker E → Bool
  | new => false
  | _ => true

/-- The target waits for the end of a call. -/
def calling : Worker E → Bool
  | target _ (some _) => true
  | _ => false

/-- The object that the wrapped target writes. -/
def record : Worker E → Option ℕ
  | found r | target r _ | returned r | raised r _ | failing r _ => some r
  | _ => none

/-- How the target came out, once the wrapped target makes no more writes. -/
def ending : Worker E → Option (Ending E)
  | finished ending | ended ending => some ending
  | _ => none

def endCall : Worker E → Worker E
  | target r _ => target r none
  | w => w

end Worker

namespace ManagedThread

def init (name : String) : ManagedThread E := ⟨name, .created, none, 0, .new⟩

def setState (state : ThreadState) (o : ManagedThread E) : ManagedThread E := { o with state := state }

def setError (e : E) (o : ManagedThread E) : ManagedThread E := { o with error := some e }

def setWorker (worker : Worker E) (o : ManagedThread E) : ManagedThread E := { o with worker := worker }

/-- `thread.start()`. -/
def startThread (o : ManagedThread E) : ManagedThread E := { o with starts := o.starts + 1, worker := .begun }

end ManagedThread

/-- The first line of a call. -/
def Call.position : Call → Position E
  | addThread name => .addCheck name
  | startThread name => .startCheck name
  | stopThread name => .stopCheck name

namespace State

variable (s : State E)

def modify (record : ℕ) (f : ManagedThread E → ManagedThread E) : State E :=
  { s with objects := s.objects.modify record f }

def moveTo (caller : Option ℕ) (position : Position E) : State E := { s with holder := some ⟨caller, position⟩ }

/-- `threads.get(name)`. -/
def find (name : String) : Option (ℕ × ManagedThread E) :=
  (Dict.get? s.threads name).bind fun record => (s.objects[record]?).map fun o => (record, o)

/-- `mark_operation_completed`. -/
def mark (name : String) : State E :=
  if name ∈ s.completed then s else { s with completed := s.completed ++ [name] }

def isAlive (record : ℕ) : Bool := (s.objects[record]?).any fun o => o.worker.alive

def isCalling (record : ℕ) : Bool := (s.objects[record]?).any fun o => o.worker.calling

/-- `self.threads[name] = managed_thread`. -/
def register (name : String) : State E :=
  { s with
    threads := Dict.set s.threads name s.objects.length
    objects := s.objects ++ [.init name] }

def report (record : ℕ) : State E := { s with reports := s.reports ++ [⟨record, s.isCalling record⟩] }

/-- A call gets the lock if no other call has it, and the call of a target if the target has asked for it. -/
def enter (caller : Option ℕ) (call : Call) : State E :=
  match s.holder with
  | some _ => s
  | none => match caller with
    | none => s.moveTo none call.position
    | some thread => match (s.objects[thread]?).map ManagedThread.worker with
      | some (.target _ (some c)) => if c = call then s.moveTo (some thread) call.position else s
      | _ => s

/-- The line of a call other than its end. -/
def line (caller : Option ℕ) (failure : Option E) (expired : Bool) : Position E → State E
  | .addCheck name =>
    if name ∈ s.completed ∧ Dict.has s.threads name then s.moveTo caller (.release .returned)
    else s.moveTo caller (.addRecord name)
  | .addRecord name => (s.register name).moveTo caller (.addMark name)
  | .addMark name => (s.mark name).moveTo caller (.release .returned)
  | .startCheck name => match s.find name with
    | none => s.moveTo caller (.release (.started false))
    | some (record, o) =>
      if o.worker.alive then s.moveTo caller (.release (.started false))
      else if o.worker.ident then s.moveTo caller (.release (.started false))
      else s.moveTo caller (.setStarting record)
  | .setStarting record => (s.modify record (.setState .starting)).moveTo caller (.threadStart record)
  | .threadStart record => match failure with
    | none => (s.modify record .startThread).moveTo caller (.release (.started true))
    | some e => s.moveTo caller (.startError record e)
  | .startError record e => (s.modify record (.setError e)).moveTo caller (.startErrorState record)
  | .startErrorState record => (s.modify record (.setState .error)).moveTo caller (.release (.started false))
  | .stopCheck name => match s.find name with
    | none => s.moveTo caller (.release .returned)
    | some (record, o) =>
      if o.worker.alive then s.moveTo caller (.setStopping record) else s.moveTo caller (.release .returned)
  | .setStopping record => (s.modify record (.setState .stopping)).moveTo caller (.join record)
  | .join record =>
    -- a thread that is to wait for itself raises
    if caller = some record then s.moveTo caller (.release .raised)
    else if s.isAlive record && !expired then s
    else s.moveTo caller (.aliveCheck record)
  | .aliveCheck record =>
    if s.isAlive record then s.moveTo caller (.setTimedOut record) else s.moveTo caller (.setStopped record)
  | .setTimedOut record => ((s.report record).modify record (.setState .error)).moveTo caller (.release .returned)
  | .setStopped record => (s.modify record (.setState .stopped)).moveTo caller (.release .returned)
  | .release _ => s

/-- The call ends, and the target that has made it goes on. -/
def release (caller : Option ℕ) : State E :=
  match caller with
  | none => { s with holder := none }
  | some thread => { s.modify thread fun o => o.setWorker o.worker.endCall with holder := none }

def advance (failure : Option E) (expired : Bool) : Answer × State E :=
  match s.holder with
  | none => (.silent, s)
  | some ⟨caller, .release answer⟩ => (answer, s.release caller)
  | some ⟨caller, position⟩ => (.silent, s.line caller failure expired position)

def callManager (thread : ℕ) (call : Call) : State E :=
  match (s.objects[thread]?).map ManagedThread.worker with
  | some (.target record none) => s.modify thread (.setWorker (.target record (some call)))
  | _ => s

/-- The next line of `wrapped_target` outside the target. -/
def work (thread : ℕ) : State E :=
  match s.objects[thread]? with
  | none => s
  | some o => match o.worker with
    | .begun => match Dict.get? s.threads o.name with
      | none => s.modify thread (.setWorker (.finished .missing))
      | some record => s.modify thread (.setWorker (.found record))
    | .found record => (s.modify record (.setState .running)).modify thread (.setWorker (.target record none))
    | .returned record => (s.modify record (.setState .stopped)).modify thread (.setWorker (.finished .returned))
    | .raised record e => (s.modify record (.setError e)).modify thread (.setWorker (.failing record e))
    | .failing record e =>
      (s.modify record (.setState .error)).modify thread (.setWorker (.finished (.raised (.exception e))))
    | .finished ending => s.modify thread (.setWorker (.ended ending))
    | .new | .target _ _ | .ended _ => s

/-- A target that waits for a call does not end. -/
def targetEnds (thread : ℕ) (raised : Option (Raised E)) : State E :=
  match (s.objects[thread]?).map ManagedThread.worker with
  | some (.target record none) => match raised with
    | none => s.modify thread (.setWorker (.returned record))
    | some (.exception e) => s.modify thread (.setWorker (.raised record e))
    | some .baseException => s.modify thread (.setWorker (.finished (.raised .baseException)))
  | _ => s

end State

def step (s : State E) : Action E → Answer × State E
  | .enter caller call => (.silent, s.enter caller call)
  | .advance failure expired => s.advance failure expired
  | .callManager thread call => (.silent, s.callManager thread call)
  | .work thread => (.silent, s.work thread)
  | .targetEnds thread raised => (.silent, s.targetEnds thread raised)
  | .markElsewhere name => (.silent, s.mark name)

/-! ### What the records are to say -/

/-- The record shows how its thread has ended: `STOPPED`, or `ERROR` with the exception. -/
def ManagedThread.Shows (o : ManagedThread E) : Ending E → Prop
  | .returned => o.state = .stopped
  | .raised (.exception e) => o.state = .error ∧ o.error = some e
  | .missing | .raised .baseException => False

namespace State

variable (s : State E)

/-- No two live threads have one name. -/
def OneLive : Prop := ∀ (i j : ℕ) (oi oj : ManagedThread E), s.objects[i]? = some oi → s.objects[j]? = some oj →
  oi.worker.alive → oj.worker.alive → oi.name = oj.name → i = j

def StartedOnce : Prop := ∀ o ∈ s.objects, o.starts ≤ 1

/-- While no call has the lock, the record under the name of an ended thread is its own and shows how it ended. -/
def RecordsTrue : Prop := s.holder = none → ∀ i o ending, s.objects[i]? = some o → o.worker = .ended ending →
  s.find o.name = some (i, o) ∧ o.Shows ending

/-- No thread was reported while its target waited for the manager. -/
def ReportsTrue : Prop := ∀ report ∈ s.reports, report.waiting = false

end State

end Fmofp.Threads
