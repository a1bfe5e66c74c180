import Fmofp.Threads.Tracking

/-! What the record of a thread shows once the thread has ended, and which steps of `stop_thread` leave it true. -/

namespace Fmofp.Threads

open Machine

variable {E : Type}

/-! ### What the records say -/

namespace State

variable (s : State E)

/-- The wrapped target has recorded that its target returned. -/
def hasReturned (record : ℕ) : Bool := (s.objects[record]?).any fun o => match o.worker.ending with
  | some .returned => true
  | _ => false

/-- The wrapped target has recorded that its target raised. -/
def hasRaised (record : ℕ) : Bool := (s.objects[record]?).any fun o => match o.worker.ending with
  | some (.raised _) => true
  | _ => false

/-- `STOPPED` is written after the join over no `ERROR` of the wrapped target, and `ERROR` after the timeout over no
`STOPPED` of it, nor while the target waits for the manager. -/
def harmlessAt : Position E → Bool
  | .setStopped record => !s.hasRaised record
  | .setTimedOut record => !s.hasReturned record && !s.isCalling record
  | _ => true

/-- A step by which a call writes what is so, or by which a target ends with no other than an `Exception`. -/
def harmless : Action E → Bool
  | .targetEnds _ (some .baseException) => false
  | .advance _ _ => s.position.all s.harmlessAt
  | _ => true

end State

/-- The state that a record is to show. -/
def Ending.state : Ending E → ThreadState
  | returned => .stopped
  | missing | raised _ => .error

/-- The record has the exception of its wrapped target, and the state after the last write of it unless a call of
`stop_thread` has written since and is to write again. -/
structure Truthful (s : State E) (i : ℕ) (o : ManagedThread E) : Prop where
  told : ∀ ending, o.worker.ending = some ending → ending ≠ .missing ∧ ending ≠ .raised .baseException
  error : ∀ e, o.worker.exception = some e → o.error = some e
  state : ∀ ending, o.worker.ending = some ending → o.state = ending.state ∨ s.stopping = some i

def AllTruthful (s : State E) : Prop := ∀ i o, s.objects[i]? = some o → Truthful s i o

structure Truth (s : State E) : Prop where
  truthful : AllTruthful s
  reports : s.ReportsTrue

theorem Truthful.keep {s s' : State E} {i : ℕ} {o : ManagedThread E} (h : Truthful s i o)
    (hstopping : s.stopping = some i → s'.stopping = some i) : Truthful s' i o :=
  ⟨h.told, h.error, fun ending hending => (h.state ending hending).imp_right hstopping⟩

theorem ending_of_ident_eq_false {w : Worker E} (h : w.ident = false) : w.ending = none ∧ w.exception = none := by
  rw [ident_eq_false] at h
  subst h
  exact ⟨rfl, rfl⟩

theorem ending_of_calling {w : Worker E} (h : w.calling = true) : w.ending = none ∧ w.exception = none := by
  cases w <;> simp_all [Worker.calling, Worker.ending, Worker.exception]

/-- An object whose wrapped target makes further writes. -/
theorem truthful_of_pending {s : State E} {i : ℕ} {o : ManagedThread E}
    (h : o.worker.ending = none ∧ o.worker.exception = none) : Truthful s i o := by
  refine ⟨?_, ?_, ?_⟩ <;> simp [h.1, h.2]

/-- A call writes a record and comes to another line. -/
theorem AllTruthful.write {s : State E} (h : AllTruthful s)
    (caller : Option ℕ) {r : ℕ} {f : ManagedThread E → ManagedThread E} {position : Position E}
    (hself : ∀ o, s.objects[r]? = some o → Truthful s r o → Truthful ((s.modify r f).moveTo caller position) r (f o))
    (hrest : ∀ i, i ≠ r → s.stopping = some i → position.stopping = some i) :
    AllTruthful ((s.modify r f).moveTo caller position) :=
  forall_modify h hself fun i _ hi ho => ho.keep (hrest i hi)

theorem AllTruthful.move {s : State E} (h : AllTruthful s) (caller : Option ℕ) {position : Position E}
    (hstopping : ∀ i o, s.objects[i]? = some o → s.stopping = some i → o.worker.ending = none ∨
      position.stopping = some i) : AllTruthful (s.moveTo caller position) := by
  intro i o ho
  have htruthful := h i o ho
  refine ⟨htruthful.told, htruthful.error, fun ending hending => ?_⟩
  rcases htruthful.state ending hending with hstate | hi
  · exact .inl hstate
  · rcases hstopping i o ho hi with hpending | hi
    · rw [hpending] at hending
      cases hending
    · exact .inr hi

theorem Turn.truthful {s s' : State E} {escaping : Prop} {i : ℕ} {o o' : ManagedThread E} (h : Turn escaping i o o')
    (ho : Truthful s i o) (hescaping : ¬ escaping) (hstopping : s'.stopping = s.stopping) : Truthful s' i o' := by
  cases h with
  | found _ => exact truthful_of_pending ⟨rfl, rfl⟩
  | running _ => exact truthful_of_pending ⟨rfl, rfl⟩
  | call _ _ => exact truthful_of_pending ⟨rfl, rfl⟩
  | returns _ => exact truthful_of_pending ⟨rfl, rfl⟩
  | raises _ _ => exact truthful_of_pending ⟨rfl, rfl⟩
  | escapes hescapes _ => exact absurd hescapes hescaping
  | stopped _ =>
    refine ⟨?_, ?_, ?_⟩ <;>
      simp [ManagedThread.setWorker, ManagedThread.setState, Worker.ending, Worker.exception, Ending.state]
  | error e _ =>
    refine ⟨?_, ?_, ?_⟩ <;> simp [ManagedThread.setWorker, ManagedThread.setError, Worker.ending, Worker.exception]
  | failed e hw =>
    have herror := ho.error e (by rw [hw]; rfl)
    refine ⟨?_, ?_, ?_⟩ <;>
      simp [ManagedThread.setWorker, ManagedThread.setState, Worker.ending, Worker.exception, Ending.state, herror]
  | ended ending hw =>
    refine ⟨fun e he => ho.told e (by rw [hw]; exact he), fun e he => ho.error e ?_, fun e he => ?_⟩
    · rw [hw]
      exact he
    · rw [hstopping]
      exact ho.state e (by rw [hw]; exact he)

theorem AllTruthful.same {s s' : State E} (h : AllTruthful s) (hobjects : s'.objects = s.objects)
    (hholder : s'.holder = s.holder) : AllTruthful s' := by
  intro i o ho
  refine (h i o (hobjects ▸ ho)).keep fun hi => ?_
  rw [State.stopping, State.position, hholder]
  exact hi

theorem AllTruthful.register {s : State E} (h : AllTruthful s) (name : String) : AllTruthful (s.register name) := by
  intro i o ho
  rw [State.register, List.getElem?_append] at ho
  split at ho
  · exact (h i o ho).keep id
  · obtain rfl : .init name = o := by
      have hmem := List.mem_of_getElem? ho
      exact (List.mem_singleton.mp hmem).symm
    exact truthful_of_pending ⟨rfl, rfl⟩

theorem ending_ne_returned {s : State E} {r : ℕ} {o : ManagedThread E} (h : s.hasReturned r = false)
    (ho : s.objects[r]? = some o) : o.worker.ending ≠ some .returned := by
  intro hending
  simp [State.hasReturned, ho, hending] at h

theorem ending_ne_raised {s : State E} {r : ℕ} {o : ManagedThread E} (h : s.hasRaised r = false)
    (ho : s.objects[r]? = some o) (raised : Raised E) : o.worker.ending ≠ some (.raised raised) := by
  intro hending
  simp [State.hasRaised, ho, hending] at h

theorem truthful_line {s : State E} {caller : Option ℕ} {failure : Option E} {expired : Bool} {position : Position E}
    (hinv : Inv s) (h : AllTruthful s) (hpos : s.position = some position) (hcaller : s.caller = caller)
    (hharmless : s.harmlessAt position = true) : AllTruthful (s.line caller failure expired position) := by
  have hstarting : s.starting = position.starting := by simp [State.starting, hpos]
  have hstopping : s.stopping = position.stopping := by simp [State.stopping, hpos]
  cases position with
  | addCheck name =>
    simp only [State.line]
    split
    · exact h.move caller (by simp [hstopping, Position.stopping])
    · exact h.move caller (by simp [hstopping, Position.stopping])
  | addRecord name => exact (h.register name).move caller fun i o ho hi => by cases hstopping.symm.trans hi
  | addMark name =>
    refine (h.same (objects_mark s name) (holder_mark s name)).move caller fun i o ho hi => ?_
    rw [State.stopping, State.position, holder_mark] at hi
    cases hstopping.symm.trans hi
  | startCheck name =>
    simp only [State.line]
    repeat' split
    all_goals exact h.move caller (by simp [hstopping, Position.stopping])
  | setStarting record =>
    refine h.write caller (fun o ho _ => ?_) (by simp [hstopping, Position.stopping])
    exact truthful_of_pending (ending_of_ident_eq_false ((hinv.tracked record o ho).starting hstarting))
  | threadStart record =>
    simp only [State.line]
    split
    · exact h.write caller (fun o ho _ => truthful_of_pending ⟨rfl, rfl⟩) (by simp [hstopping, Position.stopping])
    · exact h.move caller (by simp [hstopping, Position.stopping])
  | startError record e =>
    refine h.write caller (fun o ho _ => ?_) (by simp [hstopping, Position.stopping])
    exact truthful_of_pending (ending_of_ident_eq_false ((hinv.tracked record o ho).starting hstarting))
  | startErrorState record =>
    refine h.write caller (fun o ho _ => ?_) (by simp [hstopping, Position.stopping])
    exact truthful_of_pending (ending_of_ident_eq_false ((hinv.tracked record o ho).starting hstarting))
  | stopCheck name =>
    simp only [State.line]
    repeat' split
    all_goals exact h.move caller (by simp [hstopping, Position.stopping])
  | setStopping record =>
    refine h.write caller (fun o _ ho => ⟨ho.told, ho.error, fun _ _ => .inr rfl⟩) ?_
    simp [hstopping, Position.stopping]
  | join record =>
    simp only [State.line]
    split
    · rename_i hself
      refine h.move caller fun i o ho hi => .inl ?_
      obtain rfl : record = i := by simpa [hstopping, Position.stopping] using hi
      exact (ending_of_calling ((hinv.tracked record o ho).calling (hcaller.trans hself))).1
    · split
      · exact h
      · exact h.move caller fun i o ho hi => .inr (hstopping.symm.trans hi)
  | aliveCheck record =>
    simp only [State.line]
    split
    · exact h.move caller fun i o ho hi => .inr (hstopping.symm.trans hi)
    · exact h.move caller fun i o ho hi => .inr (hstopping.symm.trans hi)
  | setTimedOut record =>
    simp only [State.harmlessAt, Bool.and_eq_true, Bool.not_eq_true'] at hharmless
    have hreport : AllTruthful (s.report record) := h.same rfl rfl
    refine hreport.write caller (fun o hobj ho => ⟨ho.told, ho.error, fun ending hending => .inl ?_⟩)
      fun i hi hstop => ?_
    · cases ending with
      | missing => rfl
      | returned =>
        have hwas : o.worker.ending = some .returned := hending
        exact absurd hwas (ending_ne_returned hharmless.1 hobj)
      | raised raised => rfl
    · exact absurd (Option.some_inj.mp (hstopping.symm.trans hstop)).symm hi
  | setStopped record =>
    simp only [State.harmlessAt, Bool.not_eq_true'] at hharmless
    refine h.write caller (fun o hobj ho => ⟨ho.told, ho.error, fun ending hending => .inl ?_⟩) fun i hi hstop => ?_
    · cases ending with
      | missing => exact absurd rfl (ho.told _ hending).1
      | returned => rfl
      | raised raised => exact absurd hending (ending_ne_raised hharmless hobj raised)
    · exact absurd (Option.some_inj.mp (hstopping.symm.trans hstop)).symm hi
  | release answer => exact h

theorem reports_line {s : State E} {caller : Option ℕ} {failure : Option E} {expired : Bool} {position : Position E}
    (h : s.ReportsTrue) (hharmless : s.harmlessAt position = true) :
    (s.line caller failure expired position).ReportsTrue := by
  cases position with
  | setTimedOut record =>
    simp only [State.harmlessAt, Bool.and_eq_true, Bool.not_eq_true'] at hharmless
    intro report hreport
    rcases List.mem_append.mp hreport with hbefore | hnew
    · exact h report hbefore
    · rw [List.mem_singleton.mp hnew]
      exact hharmless.2
  | addMark name =>
    simp only [State.line, State.mark]
    split
    · exact h
    · exact h
  | _ =>
    simp only [State.line]
    repeat' split
    all_goals exact h

theorem Truth.turns {s s' : State E} {escaping : Prop} {i : ℕ} (h : Truth s) (hturns : Turns escaping i s s')
    (hescaping : ¬ escaping) : Truth s' := by
  obtain rfl | ⟨o, o', ho, hturn, rfl⟩ := hturns
  · exact h
  · refine ⟨forall_modify h.truthful (fun _ _ _ => ?_) fun j p _ hp => hp.keep id, h.reports⟩
    exact hturn.truthful (h.truthful i o ho) hescaping rfl

theorem Truth.release {s : State E} {caller : Option ℕ} {answer : Answer} (h : Truth s)
    (hholder : s.holder = some ⟨caller, .release answer⟩) : Truth (s.release caller) := by
  have hstopping : s.stopping = none := by
    rw [State.stopping, position_of_holder hholder]
    rfl
  cases caller with
  | none => exact ⟨fun i o ho => (h.truthful i o ho).keep (by simp [hstopping]), h.reports⟩
  | some thread =>
    refine ⟨forall_modify h.truthful (fun o _ ho => ?_) fun i o _ ho => ho.keep (by simp [hstopping]), h.reports⟩
    obtain ⟨-, -, hending, hexception⟩ := endCall_facts o.worker
    refine ⟨?_, ?_, ?_⟩
    · rw [ManagedThread.setWorker, hending]
      exact ho.told
    · rw [ManagedThread.setWorker, hexception]
      exact ho.error
    · rw [ManagedThread.setWorker, hending]
      exact (ho.keep (by simp [hstopping])).state

theorem Truth.step {s : State E} (hinv : Inv s) (h : Truth s) (a : Action E) (hharmless : s.harmless a = true) :
    Truth (step s a).2 := by
  cases a with
  | enter caller c =>
    change Truth (s.enter caller c)
    obtain heq | ⟨hholder, heq, -⟩ := enter_cases s caller c
    · rw [heq]
      exact h
    · rw [heq]
      refine ⟨h.truthful.move caller fun i o ho hi => ?_, h.reports⟩
      simp [State.stopping, State.position, hholder] at hi
  | advance failure expired =>
    change Truth (s.advance failure expired).2
    rw [State.advance.eq_def]
    split
    · exact h
    · rename_i hholder
      exact h.release hholder
    · rename_i caller position _ hholder
      have hpos : s.position = some position := position_of_holder hholder
      have hcaller : s.caller = caller := caller_of_holder hholder
      have hharmless : s.harmlessAt position = true := by simpa [State.harmless, hpos] using hharmless
      exact ⟨truthful_line hinv h.truthful hpos hcaller hharmless, reports_line h.reports hharmless⟩
  | callManager thread c => exact h.turns (turns_callManager hinv.tracked thread c) id
  | work thread => exact h.turns (turns_work hinv.tracked thread) id
  | targetEnds thread raised =>
    refine h.turns (turns_targetEnds hinv.tracked thread raised) ?_
    rintro rfl
    cases hharmless
  | markElsewhere name =>
    refine ⟨h.truthful.same (objects_mark s name) (holder_mark s name), ?_⟩
    change State.ReportsTrue (s.mark name)
    rw [State.mark]
    split
    · exact h.reports
    · exact h.reports

theorem truth_start : Truth (start : State E) := by
  constructor <;> simp [start, AllTruthful, State.ReportsTrue]

theorem Truth.recordsTrue {s : State E} (hinv : Inv s) (h : Truth s) : s.RecordsTrue := by
  intro hholder i o ending ho hended
  have hending : o.worker.ending = some ending := by rw [hended, Worker.ending]
  have htruthful := h.truthful i o ho
  have hstate : o.state = ending.state := by
    rcases htruthful.state ending hending with hstate | hstopping
    · exact hstate
    · simp [State.stopping, State.position, hholder] at hstopping
  refine ⟨find_eq_some.mpr ⟨(hinv.tracked i o ho).registered, ho⟩, ?_⟩
  cases ending with
  | missing => exact absurd rfl (htruthful.told _ hending).1
  | returned => exact hstate
  | raised raised =>
    cases raised with
    | exception e => exact ⟨hstate, htruthful.error e (by rw [hended]; rfl)⟩
    | baseException => exact absurd rfl (htruthful.told _ hending).2

/-- In every run, no two live threads have one name and no thread is started twice; while all steps are harmless, the
records of ended threads show how they ended, and no thread is reported while its target waits for the manager. -/
theorem bookkeeping_true (actions : List (Action E)) :
    (∀ before, before <+: actions →
      (final step start before).OneLive ∧ (final step start before).StartedOnce) ∧
    (Along step (fun s a => s.harmless a = true) start actions → ∀ before, before <+: actions →
      (final step start before).RecordsTrue ∧ (final step start before).ReportsTrue) := by
  refine ⟨fun before _ => ?_, ?_⟩
  · have hinv := invariant_final Inv (fun s a hs => hs.step a) inv_start before
    exact ⟨hinv.oneLive, hinv.startedOnce⟩
  · rintro hharmless before ⟨rest, rfl⟩
    have hstep (s : State E) (a : Action E) (hs : Inv s ∧ Truth s) (hsafe : s.harmless a = true) :
        Inv (step s a).2 ∧ Truth (step s a).2 := ⟨hs.1.step a, hs.2.step hs.1 a hsafe⟩
    have h := invariant_along hstep ⟨inv_start, truth_start⟩ hharmless
    exact ⟨h.2.recordsTrue h.1, h.2.reports⟩

section Runs

def lines (n : ℕ) : List (Action String) := List.replicate n (.advance none false)

/-- A call and its first lines. -/
def callLines (call : Call) (n : ℕ) : List (Action String) := .enter none call :: lines n

/-- A thread is added and started, and its target runs. -/
def addAndStart (name : String) (thread : ℕ) : List (Action String) :=
  callLines (.addThread name) 4 ++ callLines (.startThread name) 4 ++ [.work thread, .work thread]

/-- One target raises on its own, and another returns while it is stopped. -/
def twoThreads : List (Action String) :=
  addAndStart "listener" 0 ++ [.targetEnds 0 (some (.exception "refused")), .work 0, .work 0, .work 0] ++
    addAndStart "monitor" 1 ++ callLines (.stopThread "monitor") 2 ++ [.targetEnds 1 none, .work 1, .work 1] ++ lines 4

theorem twoThreads_true : (final step start twoThreads).holder = none ∧
    (final step start twoThreads).RecordsTrue ∧ (final step start twoThreads).ReportsTrue :=
  ⟨by decide +kernel, (bookkeeping_true twoThreads).2 (by decide +kernel) twoThreads (List.prefix_refl twoThreads)⟩

/-- The target raises while it is stopped. -/
def raisesWhileStopped : List (Action String) :=
  addAndStart "listener" 0 ++ callLines (.stopThread "listener") 2 ++
    [.targetEnds 0 (some (.exception "refused")), .work 0, .work 0, .work 0] ++ lines 4

/-- The target calls the manager while it is stopped, and the timeout of the join passes. -/
def callsWhileStopped : List (Action String) :=
  addAndStart "listener" 0 ++ callLines (.stopThread "listener") 2 ++
    [.callManager 0 (.startThread "monitor"), .advance none true] ++ lines 3

theorem whileStopped_untrue : ¬ (final step start raisesWhileStopped).RecordsTrue ∧
    ¬ (final step start callsWhileStopped).ReportsTrue := by
  constructor
  · intro h
    have hfinal : final step start raisesWhileStopped = ⟨["listener"], [("listener", 0)],
        [⟨"listener", .stopped, some "refused", 1, .ended (.raised (.exception "refused"))⟩], none, []⟩ := by
      decide +kernel
    rw [hfinal] at h
    exact absurd (h rfl 0 _ _ rfl rfl).2.1 (by decide)
  · intro h
    have hreport : (⟨0, true⟩ : Report) ∈ (final step start callsWhileStopped).reports := by decide +kernel
    exact absurd (h _ hreport) (by decide)

end Runs

end Fmofp.Threads
