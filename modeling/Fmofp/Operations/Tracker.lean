import Fmofp.Machine.Run
import Fmofp.Python.Text

/-! The operation tracker: `track_operation` claims an operation, performs it without the lock and
records it, while other callers wait or claim, and records are made and cleared.  Each part that holds
`_file_lock` is one step. -/

namespace Fmofp.Operations

open Python Machine

/-- `_key`. -/
def key (operationName identifier : String) : String := operationName ++ "::" ++ identifier

/-- Where a caller of `track_operation` is.  A callback that calls it again is a caller of its own. -/
inductive Phase where
  | idle
  /-- At the top of the loop. -/
  | calling (key : String)
  /-- At `in_flight.wait()`. -/
  | waiting (key : String) (event : ℕ)
  | performing (key : String)
  /-- The callback has returned, and the record is not made. -/
  | performed (key : String) (result : Value)
  /-- Before the `finally`. -/
  | releasing (key : String) (result : Except Exception Value)
  /-- Before `ev.set()`. -/
  | notifying (event : ℕ) (result : Except Exception Value)

/-- The key whose claim the caller holds. -/
def Phase.owned : Phase → Option String
  | performing k | performed k _ | releasing k _ => some k
  | _ => none

/-- `_completed`, `_in_progress`, the events that are set, the number of the next event, and the
callers. -/
structure State where
  completed : Dict String String
  inProgress : Dict String ℕ
  events : List ℕ
  nextEvent : ℕ
  phase : ℕ → Phase

def start : State := ⟨[], [], [], 0, fun _ => .idle⟩

inductive Action where
  | call (caller : ℕ) (operationName identifier : String)
  | enter (caller : ℕ)
  | wake (caller : ℕ)
  /-- The callback returns or raises. -/
  | finish (caller : ℕ) (result : Except Exception Value)
  | record (caller : ℕ) (now : String)
  | release (caller : ℕ)
  | notify (caller : ℕ)
  | mark (operationName identifier now : String)
  | clear (operationName identifier : Option String)

/-- What a step does that the properties speak of. -/
inductive Answer where
  | silent
  | skipped (key : String)
  | claimed (key : String)
  | succeeded (key : String)
  | failed (key : String)
  | recorded (key : String)
  | returned (result : Except Exception Value)

namespace State

variable (s : State)

def setPhase (caller : ℕ) (phase : Phase) : State :=
  { s with phase := Function.update s.phase caller phase }

/-- The first critical section of `track_operation`. -/
def enter (caller : ℕ) : Answer × State :=
  match s.phase caller with
  | .calling k =>
    if Dict.has s.completed k then (.skipped k, s.setPhase caller .idle)
    else match Dict.get? s.inProgress k with
      | some event => (.silent, s.setPhase caller (.waiting k event))
      | none => (.claimed k,
          { s.setPhase caller (.performing k) with
            inProgress := Dict.set s.inProgress k s.nextEvent, nextEvent := s.nextEvent + 1 })
  | _ => (.silent, s)

def wake (caller : ℕ) : Answer × State :=
  match s.phase caller with
  | .waiting k event =>
    if event ∈ s.events then (.silent, s.setPhase caller (.calling k)) else (.silent, s)
  | _ => (.silent, s)

def finish (caller : ℕ) (result : Except Exception Value) : Answer × State :=
  match s.phase caller, result with
  | .performing k, .ok value => (.succeeded k, s.setPhase caller (.performed k value))
  | .performing k, .error e => (.failed k, s.setPhase caller (.releasing k (.error e)))
  | _, _ => (.silent, s)

def record (caller : ℕ) (now : String) : Answer × State :=
  match s.phase caller with
  | .performed k value => (.recorded k,
      { s.setPhase caller (.releasing k (.ok value)) with completed := Dict.set s.completed k now })
  | _ => (.silent, s)

def release (caller : ℕ) : Answer × State :=
  match s.phase caller with
  | .releasing k result => match Dict.get? s.inProgress k with
    | some event => (.silent,
        { s.setPhase caller (.notifying event result) with inProgress := Dict.erase s.inProgress k })
    | none => (.returned result, s.setPhase caller .idle)
  | _ => (.silent, s)

def notify (caller : ℕ) : Answer × State :=
  match s.phase caller with
  | .notifying event result =>
    (.returned result, { s.setPhase caller .idle with events := event :: s.events })
  | _ => (.silent, s)

/-- `mark_operation_completed`. -/
def mark (operationName identifier now : String) : Answer × State :=
  let k := key operationName identifier
  if Dict.has s.completed k then (.silent, s)
  else (.recorded k, { s with completed := Dict.set s.completed k now })

end State

/-- What an optional argument names, if it is given and not empty. -/
def given : Option String → Option String
  | some name => if name = "" then none else some name
  | none => none

/-- `clear_operation_tracking`. -/
def clear (operationName identifier : Option String) (completed : Dict String String) :
    Dict String String :=
  match given operationName, given identifier with
  | some operation, some identifier => Dict.erase completed (key operation identifier)
  | some operation, none => completed.filter fun e => !startsWith e.1 (operation ++ "::")
  | none, _ => []

/-- The keys that `clear_operation_tracking` drops. -/
def clears (operationName identifier : Option String) (k : String) : Bool :=
  match given operationName, given identifier with
  | some operation, some identifier => key operation identifier == k
  | some operation, none => startsWith k (operation ++ "::")
  | none, _ => true

def step (s : State) : Action → Answer × State
  | .call caller operationName identifier =>
    match s.phase caller with
    | .idle => (.silent, s.setPhase caller (.calling (key operationName identifier)))
    | _ => (.silent, s)
  | .enter caller => s.enter caller
  | .wake caller => s.wake caller
  | .finish caller result => s.finish caller result
  | .record caller now => s.record caller now
  | .release caller => s.release caller
  | .notify caller => s.notify caller
  | .mark operationName identifier now => s.mark operationName identifier now
  | .clear operationName identifier =>
    (.silent, { s with completed := clear operationName identifier s.completed })

/-- The action clears the key. -/
def Action.clears (a : Action) (k : String) : Bool :=
  match a with
  | .clear operationName identifier => Operations.clears operationName identifier k
  | _ => false

@[simp] theorem setPhase_completed (s : State) (c : ℕ) (p : Phase) :
    (s.setPhase c p).completed = s.completed := rfl

@[simp] theorem setPhase_inProgress (s : State) (c : ℕ) (p : Phase) :
    (s.setPhase c p).inProgress = s.inProgress := rfl

theorem setPhase_phase (s : State) (c d : ℕ) (p : Phase) :
    (s.setPhase c p).phase d = if d = c then p else s.phase d := by
  simp [State.setPhase, Function.update_apply]

theorem has_clear (operationName identifier : Option String) (completed : Dict String String)
    (k : String) : Dict.has (clear operationName identifier completed) k =
      (Dict.has completed k && !clears operationName identifier k) := by
  unfold clear clears Dict.has
  split
  · rename_i operation identifier _ _
    rw [Dict.get?_erase]
    by_cases hk : key operation identifier = k <;> simp [hk]
  · rename_i operation _ _
    rw [Dict.get?_filter completed (fun k => !startsWith k (operation ++ "::"))]
    by_cases hk : startsWith k (operation ++ "::") = true <;> simp [hk]
  · simp

/-- What the steps do: the actions that are not possible in the state change nothing. -/
inductive Moves (s : State) : Action → Answer → State → Prop
  | stay {a : Action} (h : ∀ k, a.clears k = false) : Moves s a .silent s
  | call {c : ℕ} {operationName identifier : String} (h : s.phase c = .idle) :
      Moves s (.call c operationName identifier) .silent
        (s.setPhase c (.calling (key operationName identifier)))
  | skip {c : ℕ} {k : String} (h : s.phase c = .calling k) (hdone : Dict.has s.completed k = true) :
      Moves s (.enter c) (.skipped k) (s.setPhase c .idle)
  | await {c event : ℕ} {k : String} (h : s.phase c = .calling k)
      (hevent : Dict.get? s.inProgress k = some event) :
      Moves s (.enter c) .silent (s.setPhase c (.waiting k event))
  | claim {c : ℕ} {k : String} (h : s.phase c = .calling k)
      (hdone : Dict.has s.completed k = false) (hnone : Dict.get? s.inProgress k = none) :
      Moves s (.enter c) (.claimed k)
        { s.setPhase c (.performing k) with
          inProgress := Dict.set s.inProgress k s.nextEvent, nextEvent := s.nextEvent + 1 }
  | wake {c event : ℕ} {k : String} (h : s.phase c = .waiting k event) :
      Moves s (.wake c) .silent (s.setPhase c (.calling k))
  | succeed {c : ℕ} {k : String} {value : Value} (h : s.phase c = .performing k) :
      Moves s (.finish c (.ok value)) (.succeeded k) (s.setPhase c (.performed k value))
  | fail {c : ℕ} {k : String} {e : Exception} (h : s.phase c = .performing k) :
      Moves s (.finish c (.error e)) (.failed k) (s.setPhase c (.releasing k (.error e)))
  | record {c : ℕ} {k now : String} {value : Value} (h : s.phase c = .performed k value) :
      Moves s (.record c now) (.recorded k)
        { s.setPhase c (.releasing k (.ok value)) with completed := Dict.set s.completed k now }
  | release {c event : ℕ} {k : String} {result : Except Exception Value}
      (h : s.phase c = .releasing k result) (hevent : Dict.get? s.inProgress k = some event) :
      Moves s (.release c) .silent
        { s.setPhase c (.notifying event result) with inProgress := Dict.erase s.inProgress k }
  | leave {c : ℕ} {k : String} {result : Except Exception Value}
      (h : s.phase c = .releasing k result) (hnone : Dict.get? s.inProgress k = none) :
      Moves s (.release c) (.returned result) (s.setPhase c .idle)
  | notify {c event : ℕ} {result : Except Exception Value} (h : s.phase c = .notifying event result) :
      Moves s (.notify c) (.returned result)
        { s.setPhase c .idle with events := event :: s.events }
  | mark {operationName identifier now : String}
      (h : Dict.has s.completed (key operationName identifier) = false) :
      Moves s (.mark operationName identifier now) (.recorded (key operationName identifier))
        { s with completed := Dict.set s.completed (key operationName identifier) now }
  | clear {operationName identifier : Option String} :
      Moves s (.clear operationName identifier) .silent
        { s with completed := clear operationName identifier s.completed }

theorem step_moves (s : State) (a : Action) : Moves s a (step s a).1 (step s a).2 := by
  cases a with
  | call c operationName identifier =>
    simp only [step]
    split
    · exact .call ‹_›
    · exact .stay fun _ => rfl
  | enter c =>
    simp only [step, State.enter]
    split
    · rename_i k h
      split_ifs with hdone
      · exact .skip h hdone
      · rw [Bool.not_eq_true] at hdone
        split
        · exact .await h ‹_›
        · exact .claim h hdone ‹_›
    · exact .stay fun _ => rfl
  | wake c =>
    simp only [step, State.wake]
    split
    · split_ifs
      · exact .wake ‹_›
      · exact .stay fun _ => rfl
    · exact .stay fun _ => rfl
  | finish c result =>
    simp only [step, State.finish]
    split
    · exact .succeed ‹_›
    · exact .fail ‹_›
    · exact .stay fun _ => rfl
  | record c now =>
    simp only [step, State.record]
    split
    · exact .record ‹_›
    · exact .stay fun _ => rfl
  | release c =>
    simp only [step, State.release]
    split
    · rename_i k result h
      split
      · exact .release h ‹_›
      · exact .leave h ‹_›
    · exact .stay fun _ => rfl
  | notify c =>
    simp only [step, State.notify]
    split
    · exact .notify ‹_›
    · exact .stay fun _ => rfl
  | mark operationName identifier now =>
    simp only [step, State.mark]
    split_ifs with hdone
    · exact .stay fun _ => rfl
    · exact .mark (Bool.not_eq_true _ ▸ hdone)
  | clear operationName identifier => exact .clear

end Fmofp.Operations
