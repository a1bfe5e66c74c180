import Fmofp.Threads.ThreadManager

/-! Each object of a thread manager is the one under its name, and its thread is started at most once: what the calls
and the wrapped targets keep, line by line. -/

namespace Fmofp.Threads

open Python

variable {E : Type}

/-- What is true of the entries of a list after one of them is changed. -/
theorem forall_modify {α : Type} {l : List α} {r : ℕ} {f : α → α} {P Q : ℕ → α → Prop}
    (h : ∀ i a, l[i]? = some a → P i a) (hself : ∀ a, l[r]? = some a → P r a → Q r (f a))
    (hrest : ∀ i a, i ≠ r → P i a → Q i a) : ∀ i a, (l.modify r f)[i]? = some a → Q i a := by
  intro i a ha
  rw [List.getElem?_modify] at ha
  obtain ⟨b, hb, rfl⟩ := Option.map_eq_some_iff.mp ha
  by_cases hi : r = i
  · subst hi
    rw [if_pos rfl]
    exact hself b hb (h r b hb)
  · rw [if_neg hi]
    exact hrest i b (Ne.symm hi) (h i b hb)

theorem modify_congr {α : Type} {l : List α} {i : ℕ} {a : α} {f g : α → α} (ha : l[i]? = some a) (h : f a = g a) :
    l.modify i f = l.modify i g := by
  refine List.ext_getElem? fun j => ?_
  rw [List.getElem?_modify, List.getElem?_modify]
  by_cases hj : i = j
  · subst hj
    simp [ha, h]
  · simp [hj]

/-- The exception that the wrapped target has written. -/
def Worker.exception : Worker E → Option E
  | failing _ e => some e
  | w => match w.ending with
    | some (.raised (.exception e)) => some e
    | _ => none

/-! ### What a call is about -/

/-- The object that a call is about to start. -/
def Position.starting : Position E → Option ℕ
  | setStarting r | threadStart r | startError r _ | startErrorState r => some r
  | _ => none

/-- The object that a call has set to `STOPPING` and is to write again. -/
def Position.stopping : Position E → Option ℕ
  | join r | aliveCheck r | setTimedOut r | setStopped r => some r
  | _ => none

namespace State

variable (s : State E)

def position : Option (Position E) := s.holder.map Holder.position

def caller : Option ℕ := s.holder.bind Holder.caller

def starting : Option ℕ := s.position.bind Position.starting

def stopping : Option ℕ := s.position.bind Position.stopping

end State

section Move

variable (s : State E) (caller : Option ℕ) (position : Position E)

@[simp] theorem position_moveTo : (s.moveTo caller position).position = some position := rfl

@[simp] theorem caller_moveTo : (s.moveTo caller position).caller = caller := rfl

@[simp] theorem starting_moveTo : (s.moveTo caller position).starting = position.starting := rfl

@[simp] theorem stopping_moveTo : (s.moveTo caller position).stopping = position.stopping := rfl

@[simp] theorem objects_moveTo : (s.moveTo caller position).objects = s.objects := rfl

@[simp] theorem threads_moveTo : (s.moveTo caller position).threads = s.threads := rfl

@[simp] theorem completed_moveTo : (s.moveTo caller position).completed = s.completed := rfl

@[simp] theorem position_release : (s.release caller).position = none := by cases caller <;> rfl

@[simp] theorem caller_release : (s.release caller).caller = none := by cases caller <;> rfl

@[simp] theorem starting_release : (s.release caller).starting = none := by
  rw [State.starting, position_release]
  rfl

theorem objects_mark (name : String) : (s.mark name).objects = s.objects := by
  rw [State.mark]
  split <;> rfl

theorem threads_mark (name : String) : (s.mark name).threads = s.threads := by
  rw [State.mark]
  split <;> rfl

theorem completed_mark (name : String) : s.completed ⊆ (s.mark name).completed := by
  rw [State.mark]
  split <;> simp

theorem holder_mark (name : String) : (s.mark name).holder = s.holder := by
  rw [State.mark]
  split <;> rfl

end Move

theorem find_eq_some {s : State E} {name : String} {r : ℕ} {o : ManagedThread E} :
    s.find name = some (r, o) ↔ Dict.get? s.threads name = some r ∧ s.objects[r]? = some o := by
  simp [State.find, Option.bind_eq_some_iff]

theorem position_of_holder {s : State E} {caller : Option ℕ} {position : Position E}
    (h : s.holder = some ⟨caller, position⟩) : s.position = some position := by
  rw [State.position, h]
  rfl

theorem caller_of_holder {s : State E} {caller : Option ℕ} {position : Position E}
    (h : s.holder = some ⟨caller, position⟩) : s.caller = caller := by
  rw [State.caller, h]
  rfl

theorem ident_eq_false {w : Worker E} : w.ident = false ↔ w = .new := by cases w <;> simp [Worker.ident]

/-! ### What a thread does -/

/-- A step of a thread that does not end a call; `escaping` if its target may raise what is no `Exception`. -/
inductive Turn (escaping : Prop) (i : ℕ) (o : ManagedThread E) : ManagedThread E → Prop where
  | found (h : o.worker = .begun) : Turn escaping i o (o.setWorker (.found i))
  | running (h : o.worker = .found i) : Turn escaping i o ((o.setState .running).setWorker (.target i none))
  | call (c : Call) (h : o.worker = .target i none) : Turn escaping i o (o.setWorker (.target i (some c)))
  | returns (h : o.worker = .target i none) : Turn escaping i o (o.setWorker (.returned i))
  | raises (e : E) (h : o.worker = .target i none) : Turn escaping i o (o.setWorker (.raised i e))
  | escapes (hescaping : escaping) (h : o.worker = .target i none) :
    Turn escaping i o (o.setWorker (.finished (.raised .baseException)))
  | stopped (h : o.worker = .returned i) : Turn escaping i o ((o.setState .stopped).setWorker (.finished .returned))
  | error (e : E) (h : o.worker = .raised i e) : Turn escaping i o ((o.setError e).setWorker (.failing i e))
  | failed (e : E) (h : o.worker = .failing i e) :
    Turn escaping i o ((o.setState .error).setWorker (.finished (.raised (.exception e))))
  | ended (ending : Ending E) (h : o.worker = .finished ending) : Turn escaping i o (o.setWorker (.ended ending))

/-- What a thread does between two states: nothing, or a step that changes its own object. -/
def Turns (escaping : Prop) (i : ℕ) (s s' : State E) : Prop :=
  s' = s ∨ ∃ o o', s.objects[i]? = some o ∧ Turn escaping i o o' ∧ s' = s.modify i fun _ => o'

/-! ### The names -/

/-- A name that the manager has is marked, unless the call that adds it is about to mark it; a call that is about to
add a name has found it free. -/
structure Registry (s : State E) : Prop where
  marked : ∀ name, Dict.has s.threads name = true → name ∈ s.completed ∨ s.position = some (.addMark name)
  free : ∀ name, s.position = some (.addRecord name) → Dict.has s.threads name = false

/-! ### Threads and calls -/

/-- An object is the one under its name, its thread was started if it has an identity and writes no other object; a
call that is about to start it has found it new, and its target waits for the call that it makes. -/
structure Tracked (s : State E) (i : ℕ) (o : ManagedThread E) : Prop where
  registered : Dict.get? s.threads o.name = some i
  starts : o.starts = o.worker.ident.toNat
  record : ∀ r, o.worker.record = some r → r = i
  starting : s.starting = some i → o.worker.ident = false
  calling : s.caller = some i → o.worker.calling = true

def AllTracked (s : State E) : Prop := ∀ i o, s.objects[i]? = some o → Tracked s i o

structure Inv (s : State E) : Prop where
  registry : Registry s
  tracked : AllTracked s
  caller : ∀ i, s.caller = some i → i < s.objects.length

theorem Registry.keep {s s' : State E} (h : Registry s) (hthreads : s'.threads = s.threads)
    (hcompleted : s.completed ⊆ s'.completed) (hmark : ∀ name, s.position = some (.addMark name) → name ∈ s'.completed ∨
      s'.position = some (.addMark name))
    (hfree : ∀ name, s'.position = some (.addRecord name) → Dict.has s.threads name = false) : Registry s' where
  marked := by
    intro name hname
    rw [hthreads] at hname
    rcases h.marked name hname with hmem | hpos
    · exact .inl (hcompleted hmem)
    · exact hmark name hpos
  free := by
    intro name hpos
    rw [hthreads]
    exact hfree name hpos

theorem registry_line {s : State E} {caller : Option ℕ} {failure : Option E} {expired : Bool} {position : Position E}
    (h : Registry s) (hpos : s.position = some position) : Registry (s.line caller failure expired position) := by
  cases position with
  | addCheck name =>
    simp only [State.line]
    split
    · exact h.keep rfl (List.Subset.refl _) (by simp [hpos]) (by simp)
    · rename_i hfound
      refine h.keep rfl (List.Subset.refl _) (by simp [hpos]) fun n hn => ?_
      obtain rfl : name = n := by simpa using hn
      by_contra hhas
      have hhas := Bool.eq_true_of_not_eq_false hhas
      rcases h.marked name hhas with hmem | hmark
      · exact hfound ⟨hmem, hhas⟩
      · simp [hpos] at hmark
  | addRecord name =>
    refine ⟨fun n hn => ?_, by simp [State.line]⟩
    obtain ⟨v, hv⟩ := Dict.has_iff.mp hn
    rw [State.line, threads_moveTo, State.register, Dict.get?_set] at hv
    by_cases hname : name = n
    · subst hname
      exact .inr rfl
    · rw [if_neg hname] at hv
      rcases h.marked n (Dict.has_iff.mpr ⟨v, hv⟩) with hmem | hmark
      · exact .inl hmem
      · simp [hpos] at hmark
  | addMark name =>
    simp only [State.line, State.mark]
    split
    · rename_i hmem
      exact h.keep rfl (List.Subset.refl _) (by simp [hpos, hmem]) (by simp)
    · exact h.keep rfl (by simp) (by simp [hpos]) (by simp)
  | _ =>
    simp only [State.line]
    repeat' split
    all_goals first
      | exact h
      | exact h.keep rfl (List.Subset.refl _) (by simp [hpos]) (by simp)

theorem Tracked.keep {s s' : State E} {i : ℕ} {o : ManagedThread E} (h : Tracked s i o)
    (hthreads : s'.threads = s.threads) (hstarting : s'.starting = some i → o.worker.ident = false)
    (hcalling : s'.caller = some i → o.worker.calling = true) : Tracked s' i o :=
  ⟨hthreads ▸ h.registered, h.starts, h.record, hstarting, hcalling⟩

theorem caller_line {s : State E} {caller : Option ℕ} {failure : Option E} {expired : Bool} {position : Position E}
    (hcaller : s.caller = caller) : (s.line caller failure expired position).caller = caller := by
  cases position <;> simp only [State.line] <;> repeat' split
  all_goals first
    | exact hcaller
    | rfl

/-- A call comes to another line, which is about to start no other object than before. -/
theorem AllTracked.move {s : State E} {caller : Option ℕ} (h : AllTracked s) (hcaller : s.caller = caller)
    {position : Position E} (hstarting : ∀ i o, s.objects[i]? = some o → position.starting = some i →
      s.starting = some i ∨ o.worker.ident = false) : AllTracked (s.moveTo caller position) := by
  intro i o ho
  have htracked := h i o ho
  refine htracked.keep rfl (fun hi => ?_) fun hi => htracked.calling (hcaller.trans hi)
  exact (hstarting i o ho hi).elim htracked.starting id

theorem AllTracked.same {s s' : State E} (h : AllTracked s) (hobjects : s'.objects = s.objects)
    (hthreads : s'.threads = s.threads) (hholder : s'.holder = s.holder) : AllTracked s' := by
  intro i o ho
  have htracked := h i o (hobjects ▸ ho)
  refine htracked.keep hthreads ?_ ?_
  · rw [State.starting, State.position, hholder]
    exact htracked.starting
  · rw [State.caller, hholder]
    exact htracked.calling

/-- A write to a record changes no thread. -/
theorem AllTracked.modify {s : State E} (h : AllTracked s) (r : ℕ) {f : ManagedThread E → ManagedThread E}
    (hf : ∀ o, (f o).name = o.name ∧ (f o).starts = o.starts ∧ (f o).worker = o.worker) :
    AllTracked (s.modify r f) := by
  refine forall_modify h (fun o _ ho => ?_) fun i o _ ho => ho.keep rfl ho.starting ho.calling
  obtain ⟨hname, hstarts, hworker⟩ := hf o
  exact ⟨hname ▸ ho.registered, by rw [hstarts, hworker]; exact ho.starts, hworker ▸ ho.record, hworker ▸ ho.starting,
    hworker ▸ ho.calling⟩

theorem AllTracked.setState {s : State E} (h : AllTracked s) (r : ℕ) (state : ThreadState) :
    AllTracked (s.modify r (.setState state)) := h.modify r fun _ => ⟨rfl, rfl, rfl⟩

theorem AllTracked.setError {s : State E} (h : AllTracked s) (r : ℕ) (e : E) :
    AllTracked (s.modify r (.setError e)) := h.modify r fun _ => ⟨rfl, rfl, rfl⟩

theorem AllTracked.register {s : State E} (h : Inv s) {name : String} (hfree : Dict.has s.threads name = false) :
    AllTracked (s.register name) := by
  intro i o ho
  rw [State.register, List.getElem?_append] at ho
  split at ho
  · have htracked := h.tracked i o ho
    refine ⟨?_, htracked.starts, htracked.record, htracked.starting, htracked.calling⟩
    have hne : name ≠ o.name := by
      rintro rfl
      simp [Dict.has, htracked.registered] at hfree
    rw [State.register, Dict.get?_set_ne _ _ hne]
    exact htracked.registered
  · rename_i hlen
    obtain ⟨rfl, rfl⟩ : i = s.objects.length ∧ o = .init name := by
      obtain ⟨hlast, hinit⟩ := List.getElem?_eq_some_iff.mp ho
      simp only [List.length_singleton] at hlast
      exact ⟨by omega, by simpa using hinit.symm⟩
    refine ⟨by simp [State.register, ManagedThread.init], rfl, by simp [ManagedThread.init, Worker.record],
      fun _ => rfl, fun hcaller => ?_⟩
    have := h.caller _ hcaller
    omega

theorem tracked_line {s : State E} {caller : Option ℕ} {failure : Option E} {expired : Bool} {position : Position E}
    (h : Inv s) (hpos : s.position = some position) (hcaller : s.caller = caller) :
    AllTracked (s.line caller failure expired position) := by
  have hstarting : s.starting = position.starting := by simp [State.starting, hpos]
  cases position with
  | addCheck name =>
    simp only [State.line]
    split
    · exact h.tracked.move hcaller (by simp [Position.starting])
    · exact h.tracked.move hcaller (by simp [Position.starting])
  | addRecord name =>
    exact (AllTracked.register h (h.registry.free name hpos)).move hcaller (by simp [Position.starting])
  | addMark name =>
    exact (h.tracked.same (objects_mark s name) (threads_mark s name) (holder_mark s name)).move
      (by rw [State.caller, holder_mark]; exact hcaller) (by simp [Position.starting])
  | startCheck name =>
    simp only [State.line]
    split
    · exact h.tracked.move hcaller (by simp [Position.starting])
    · rename_i record o hfind
      split
      · exact h.tracked.move hcaller (by simp [Position.starting])
      · split
        · exact h.tracked.move hcaller (by simp [Position.starting])
        · rename_i hident
          refine h.tracked.move hcaller fun i p hp hi => .inr ?_
          obtain rfl : record = i := by simpa [Position.starting] using hi
          obtain rfl : o = p := Option.some_inj.mp ((find_eq_some.mp hfind).2.symm.trans hp)
          exact Bool.eq_false_iff.mpr hident
  | setStarting record =>
    exact (h.tracked.setState record _).move hcaller fun i o ho hi => .inl (hstarting.trans hi)
  | threadStart record =>
    simp only [State.line]
    split
    · refine forall_modify h.tracked (fun o _ ho => ?_) fun i o _ ho => ho.keep rfl (by simp [Position.starting])
        fun hi => ho.calling (hcaller.trans hi)
      have hnew := ident_eq_false.mp (ho.starting hstarting)
      refine ⟨ho.registered, ?_, by simp [ManagedThread.startThread, Worker.record], by simp [Position.starting],
        fun hi => ?_⟩
      · have hstarts := ho.starts
        rw [hnew] at hstarts
        simp [ManagedThread.startThread, Worker.ident, hstarts]
      · have hcalling := ho.calling (hcaller.trans hi)
        simp [hnew, Worker.calling] at hcalling
    · exact h.tracked.move hcaller fun i o ho hi => .inl (hstarting.trans hi)
  | startError record e =>
    exact (h.tracked.setError record e).move hcaller fun i o ho hi => .inl (hstarting.trans hi)
  | startErrorState record => exact (h.tracked.setState record _).move hcaller (by simp [Position.starting])
  | stopCheck name =>
    simp only [State.line]
    repeat' split
    all_goals exact h.tracked.move hcaller (by simp [Position.starting])
  | setStopping record => exact (h.tracked.setState record _).move hcaller (by simp [Position.starting])
  | join record =>
    simp only [State.line]
    split
    · exact h.tracked.move hcaller (by simp [Position.starting])
    · split
      · exact h.tracked
      · exact h.tracked.move hcaller (by simp [Position.starting])
  | aliveCheck record =>
    simp only [State.line]
    split
    · exact h.tracked.move hcaller (by simp [Position.starting])
    · exact h.tracked.move hcaller (by simp [Position.starting])
  | setTimedOut record =>
    have hreport : AllTracked (s.report record) := h.tracked.same rfl rfl rfl
    exact (hreport.setState record _).move hcaller (by simp [Position.starting])
  | setStopped record => exact (h.tracked.setState record _).move hcaller (by simp [Position.starting])
  | release answer => exact h.tracked

theorem modify_eq {s : State E} {i : ℕ} {o : ManagedThread E} (ho : s.objects[i]? = some o)
    (f : ManagedThread E → ManagedThread E) : s.modify i f = s.modify i fun _ => f o := by
  rw [State.modify, State.modify, modify_congr (g := fun _ => f o) ho rfl]

theorem modify_modify {s : State E} {i : ℕ} {o : ManagedThread E} (ho : s.objects[i]? = some o)
    (f g : ManagedThread E → ManagedThread E) : (s.modify i f).modify i g = s.modify i fun _ => g (f o) := by
  have htwice : (s.modify i f).modify i g = s.modify i (g ∘ f) := by
    rw [State.modify, State.modify, State.modify, List.modify_modify_eq]
  exact htwice.trans (modify_eq ho (g ∘ f))

theorem turns_work {s : State E} (h : AllTracked s) (i : ℕ) : Turns False i s (s.work i) := by
  rw [State.work]
  cases ho : s.objects[i]? with
  | none => exact .inl rfl
  | some o =>
    have htracked := h i o ho
    have hrecord := htracked.record
    dsimp only
    cases hw : o.worker with
    | new => exact .inl rfl
    | begun =>
      dsimp only
      rw [htracked.registered]
      exact .inr ⟨o, _, ho, .found hw, modify_eq ho _⟩
    | found r =>
      obtain rfl := hrecord r (by rw [hw, Worker.record])
      exact .inr ⟨o, _, ho, .running hw, modify_modify ho _ _⟩
    | target r call => exact .inl rfl
    | returned r =>
      obtain rfl := hrecord r (by rw [hw, Worker.record])
      exact .inr ⟨o, _, ho, .stopped hw, modify_modify ho _ _⟩
    | raised r e =>
      obtain rfl := hrecord r (by rw [hw, Worker.record])
      exact .inr ⟨o, _, ho, .error e hw, modify_modify ho _ _⟩
    | failing r e =>
      obtain rfl := hrecord r (by rw [hw, Worker.record])
      exact .inr ⟨o, _, ho, .failed e hw, modify_modify ho _ _⟩
    | finished ending => exact .inr ⟨o, _, ho, .ended ending hw, modify_eq ho _⟩
    | ended ending => exact .inl rfl

theorem turns_callManager {s : State E} (h : AllTracked s) (i : ℕ) (c : Call) :
    Turns False i s (s.callManager i c) := by
  rw [State.callManager]
  split
  · rename_i r hworker
    obtain ⟨o, ho, hw⟩ := Option.map_eq_some_iff.mp hworker
    obtain rfl := (h i o ho).record r (by rw [hw, Worker.record])
    exact .inr ⟨o, _, ho, .call c hw, modify_eq ho _⟩
  · exact .inl rfl

theorem turns_targetEnds {s : State E} (h : AllTracked s) (i : ℕ) (raised : Option (Raised E)) :
    Turns (raised = some .baseException) i s (s.targetEnds i raised) := by
  rw [State.targetEnds]
  split
  · rename_i r hworker
    obtain ⟨o, ho, hw⟩ := Option.map_eq_some_iff.mp hworker
    obtain rfl := (h i o ho).record r (by rw [hw, Worker.record])
    match raised with
    | none => exact .inr ⟨o, _, ho, .returns hw, modify_eq ho _⟩
    | some (.exception e) => exact .inr ⟨o, _, ho, .raises e hw, modify_eq ho _⟩
    | some .baseException => exact .inr ⟨o, _, ho, .escapes rfl hw, modify_eq ho _⟩
  · exact .inl rfl

/-- A thread that takes a step was started and waits for no call. -/
theorem Turn.facts {escaping : Prop} {i : ℕ} {o o' : ManagedThread E} (h : Turn escaping i o o') :
    o'.name = o.name ∧ o'.starts = o.starts ∧ o.worker.ident = true ∧ o'.worker.ident = true ∧
      o.worker.calling = false ∧ ∀ r, o'.worker.record = some r → r = i := by
  cases h <;>
    simp_all [ManagedThread.setWorker, ManagedThread.setState, ManagedThread.setError, Worker.ident, Worker.calling,
      Worker.record]

theorem AllTracked.turns {s s' : State E} {escaping : Prop} {i : ℕ} (h : AllTracked s)
    (hturns : Turns escaping i s s') : AllTracked s' := by
  obtain rfl | ⟨o, o', ho, hturn, rfl⟩ := hturns
  · exact h
  · obtain ⟨hname, hstarts, hident, hident', hcalling, hrecord⟩ := hturn.facts
    have htracked := h i o ho
    refine forall_modify h (fun _ _ _ => ?_) fun j p _ hp => hp.keep rfl hp.starting hp.calling
    refine ⟨hname ▸ htracked.registered, ?_, hrecord, fun hi => ?_, fun hi => ?_⟩
    · rw [hstarts, hident', htracked.starts, hident]
    · rw [htracked.starting hi] at hident
      cases hident
    · rw [htracked.calling hi] at hcalling
      cases hcalling

/-! ### Every step -/

theorem Inv.turns {s s' : State E} {escaping : Prop} {i : ℕ} (h : Inv s) (hturns : Turns escaping i s s') : Inv s' := by
  refine ⟨?_, h.tracked.turns hturns, ?_⟩
  · obtain rfl | ⟨o, o', ho, hturn, rfl⟩ := hturns
    · exact h.registry
    · exact h.registry.keep rfl (List.Subset.refl _) (fun _ hpos => .inr hpos) h.registry.free
  · obtain rfl | ⟨o, o', ho, hturn, rfl⟩ := hturns
    · exact h.caller
    · simpa [State.modify, State.caller] using h.caller

theorem Inv.mark {s : State E} (h : Inv s) (name : String) : Inv (s.mark name) := by
  refine ⟨?_, h.tracked.same (objects_mark s name) (threads_mark s name) (holder_mark s name), ?_⟩
  · refine h.registry.keep (threads_mark s name) (completed_mark s name) (fun n hpos => .inr ?_) fun n hpos => ?_
    · rw [State.position, holder_mark]
      exact hpos
    · rw [State.position, holder_mark] at hpos
      exact h.registry.free n hpos
  · rw [State.caller, holder_mark, objects_mark]
    exact h.caller

theorem inv_start : Inv (start : State E) := by
  refine ⟨⟨?_, ?_⟩, ?_, ?_⟩ <;> simp [start, Dict.has, State.position, State.caller, AllTracked]

theorem Call.position_starting (c : Call) : (c.position : Position E).starting = none := by cases c <;> rfl

/-- A call that gets the lock is at its first line; one that a target makes finds it waiting. -/
theorem enter_cases (s : State E) (caller : Option ℕ) (c : Call) : s.enter caller c = s ∨ s.holder = none ∧
    s.enter caller c = s.moveTo caller c.position ∧ ∀ i, caller = some i → s.isCalling i = true := by
  rw [State.enter.eq_def]
  split
  · exact .inl rfl
  · rename_i hholder
    split
    · exact .inr ⟨hholder, rfl, by simp⟩
    · rename_i thread
      split
      · rename_i r asked hworker
        split
        · obtain ⟨o, ho, hw⟩ := Option.map_eq_some_iff.mp hworker
          refine .inr ⟨hholder, rfl, fun i hi => ?_⟩
          obtain rfl := Option.some_inj.mp hi
          simp [State.isCalling, ho, hw, Worker.calling]
        · exact .inl rfl
      · exact .inl rfl

theorem isCalling_iff {s : State E} {i : ℕ} :
    s.isCalling i = true ↔ ∃ o, s.objects[i]? = some o ∧ o.worker.calling = true := by
  cases ho : s.objects[i]? <;> simp [State.isCalling, ho]

theorem Inv.enter {s : State E} (h : Inv s) (caller : Option ℕ) (c : Call) : Inv (s.enter caller c) := by
  obtain heq | ⟨hholder, heq, hcalling⟩ := enter_cases s caller c
  · rw [heq]
    exact h
  · rw [heq]
    have hposition : s.position = none := by rw [State.position, hholder]; rfl
    refine ⟨h.registry.keep rfl (List.Subset.refl _) (by simp [hposition]) ?_, fun i o ho => ?_, fun i hi => ?_⟩
    · intro name hpos
      cases c <;> simp [Call.position] at hpos
    · refine (h.tracked i o ho).keep rfl (by simp [Call.position_starting]) fun hi => ?_
      obtain ⟨p, hp, hcalls⟩ := isCalling_iff.mp (hcalling i hi)
      obtain rfl : o = p := Option.some_inj.mp (ho.symm.trans hp)
      exact hcalls
    · obtain ⟨p, hp, -⟩ := isCalling_iff.mp (hcalling i hi)
      exact (List.getElem?_eq_some_iff.mp hp).1

theorem length_line {s : State E} {caller : Option ℕ} {failure : Option E} {expired : Bool} {position : Position E} :
    s.objects.length ≤ (s.line caller failure expired position).objects.length := by
  cases position <;> simp only [State.line] <;> repeat' split
  all_goals simp [State.modify, State.report, State.register, objects_mark]

theorem Inv.line {s : State E} {caller : Option ℕ} {position : Position E} (h : Inv s)
    (hholder : s.holder = some ⟨caller, position⟩) (failure : Option E) (expired : Bool) :
    Inv (s.line caller failure expired position) := by
  have hcaller : s.caller = caller := caller_of_holder hholder
  have hpos : s.position = some position := position_of_holder hholder
  refine ⟨registry_line h.registry hpos, tracked_line h hpos hcaller, fun i hi => ?_⟩
  rw [caller_line hcaller] at hi
  exact (h.caller i (hcaller.trans hi)).trans_le length_line

theorem endCall_facts (w : Worker E) :
    w.endCall.ident = w.ident ∧ w.endCall.record = w.record ∧ w.endCall.ending = w.ending ∧
      w.endCall.exception = w.exception := by
  cases w <;> simp [Worker.endCall, Worker.ident, Worker.record, Worker.ending, Worker.exception]

/-- The end of a call changes of the objects at most where the target of its caller is. -/
theorem Inv.release {s : State E} {caller : Option ℕ} {answer : Answer} (h : Inv s)
    (hholder : s.holder = some ⟨caller, .release answer⟩) : Inv (s.release caller) := by
  have hpos : s.position = some (.release answer) := position_of_holder hholder
  cases caller with
  | none =>
    refine ⟨h.registry.keep rfl (List.Subset.refl _) (by simp [hpos]) (by simp), fun i o ho => ?_, by simp⟩
    exact (h.tracked i o ho).keep rfl (by simp) (by simp)
  | some thread =>
    refine ⟨h.registry.keep rfl (List.Subset.refl _) (by simp [hpos]) (by simp), ?_, by simp⟩
    refine forall_modify h.tracked (fun o _ ho => ?_) fun i o _ ho => ho.keep rfl (by simp) (by simp)
    obtain ⟨hident, hrecord, -⟩ := endCall_facts o.worker
    refine ⟨ho.registered, ?_, hrecord ▸ ho.record, by simp, by simp⟩
    rw [ManagedThread.setWorker, hident]
    exact ho.starts

theorem Inv.step {s : State E} (h : Inv s) (a : Action E) : Inv (step s a).2 := by
  cases a with
  | enter caller c => exact h.enter caller c
  | advance failure expired =>
    change Inv (s.advance failure expired).2
    rw [State.advance.eq_def]
    split
    · exact h
    · rename_i caller answer hholder
      exact h.release hholder
    · rename_i caller position _ hholder
      exact h.line hholder failure expired
  | callManager thread c => exact h.turns (turns_callManager h.tracked thread c)
  | work thread => exact h.turns (turns_work h.tracked thread)
  | targetEnds thread raised => exact h.turns (turns_targetEnds h.tracked thread raised)
  | markElsewhere name => exact h.mark name

theorem Inv.oneLive {s : State E} (h : Inv s) : s.OneLive := by
  intro i j oi oj hi hj _ _ hname
  have hsame := (h.tracked i oi hi).registered
  rw [hname, (h.tracked j oj hj).registered] at hsame
  exact (Option.some_inj.mp hsame).symm

theorem Inv.startedOnce {s : State E} (h : Inv s) : s.StartedOnce := by
  intro o ho
  obtain ⟨i, hi⟩ := List.mem_iff_getElem?.mp ho
  rw [(h.tracked i o hi).starts]
  exact Bool.toNat_le _

end Fmofp.Threads
