import Fmofp.Machine.Run

/-! The batch queue of `SystemDatabase` for one operation type: producers append to a list and submit
tasks, and each task reads the list, writes out what is in it and replaces it. -/

namespace Fmofp.Storage.Batch

open Machine

/-- An item of one call of `add_to_batch`. -/
structure Entry (α : Type) where
  call : ℕ
  item : α
  deriving DecidableEq

/-- Where a worker is in `_process_batch`, with the list that it has read. -/
inductive Task where
  | idle
  | read (list : ℕ)
  /-- Before the `finally`. -/
  | inserted (list : ℕ)
  deriving DecidableEq

/-- The lists that the queue has been, by number, the one that it is now, the tests and the tasks that
are due, the calls that were made and the batches that were written out, each with its list. -/
structure State (α : Type) where
  lists : ℕ → List (Entry α)
  queue : ℕ
  tests : ℕ
  submitted : ℕ
  tasks : ℕ → Task
  added : List (Entry α)
  written : List (ℕ × List (Entry α))

inductive Action (α : Type) where
  /-- `batch_queue[operation_type].append(data)`. -/
  | append (item : α)
  /-- The comparison with the batch size, which submits a task. -/
  | test
  | read (worker : ℕ)
  /-- `batch_insert` succeeds, or raises and writes nothing. -/
  | insert (worker : ℕ) (ok : Bool)
  | reset (worker : ℕ)

variable {α : Type}

def start (α : Type) : State α := ⟨fun _ => [], 0, 0, 0, fun _ => .idle, [], []⟩

/-- The list that the queue is. -/
def State.queued (s : State α) : List (Entry α) := s.lists s.queue

/-- The items that have been written out. -/
def State.writtenItems (s : State α) : List (Entry α) := s.written.flatMap Prod.snd

def next (batchSize : ℤ) (s : State α) : Action α → State α
  | .append item =>
    let entry := ⟨s.added.length, item⟩
    { s with
      lists := Function.update s.lists s.queue (s.queued ++ [entry])
      added := s.added ++ [entry]
      tests := s.tests + 1 }
  | .test =>
    if s.tests = 0 then s
    else if batchSize ≤ s.queued.length then
      { s with tests := s.tests - 1, submitted := s.submitted + 1 }
    else { s with tests := s.tests - 1 }
  | .read worker =>
    if s.submitted = 0 ∨ s.tasks worker ≠ .idle then s
    else if s.queued = [] then { s with submitted := s.submitted - 1 }
    else { s with
      submitted := s.submitted - 1
      tasks := Function.update s.tasks worker (.read s.queue) }
  | .insert worker ok => match s.tasks worker with
    | .read list =>
      { s with
        tasks := Function.update s.tasks worker (.inserted list)
        written := if ok then s.written ++ [(list, s.lists list)] else s.written }
    | _ => s
  | .reset worker => match s.tasks worker with
    | .inserted _ =>
      -- The lists are numbered in order, so that the next number is that of an empty one.
      { s with tasks := Function.update s.tasks worker .idle, queue := s.queue + 1 }
    | _ => s

def step (batchSize : ℤ) (s : State α) (a : Action α) : Unit × State α := ((), next batchSize s a)

end Fmofp.Storage.Batch

/-! Batched writes: an item is lost or written twice exactly when a batch is written out a second time,
or a list is replaced that has items which were not written out. -/

namespace Fmofp.Storage.Batch

open Machine

variable {α : Type} {batchSize : ℤ} {s : State α}

/-- No task is on its way. -/
def Quiet (s : State α) : Prop := ∀ worker, s.tasks worker = .idle

/-- No item has been written out twice, each is written out or in the queue, and while no task is on its
way each is in one of the two places only. -/
def Accounted (s : State α) : Prop :=
  s.writtenItems.Nodup ∧ (∀ e ∈ s.added, e ∈ s.writtenItems ∨ e ∈ s.queued) ∧
    (Quiet s → s.added.Perm (s.writtenItems ++ s.queued))

/-- A batch is written out from a list from which none has been; and the list that is replaced is empty
or has been written out as it is. -/
def Orderly (s : State α) : Action α → Prop
  | .insert worker true => ∀ list, s.tasks worker = .read list → ∀ b ∈ s.written, b.1 ≠ list
  | .reset worker => (∃ list, s.tasks worker = .inserted list) →
      s.queued = [] ∨ (s.queue, s.queued) ∈ s.written
  | _ => True

/-- What an orderly run keeps. -/
structure Inv (s : State α) : Prop where
  calls : ∀ e ∈ s.added, e.call < s.added.length
  added : s.added.Nodup
  listed : ∀ r, ∀ e ∈ s.lists r, e ∈ s.added
  apart : ∀ r r' e, e ∈ s.lists r → e ∈ s.lists r' → r = r'
  nodup : ∀ r, (s.lists r).Nodup
  later : ∀ r, s.queue < r → s.lists r = []
  reading : ∀ worker r, s.tasks worker = .read r → r ≤ s.queue ∧ s.lists r ≠ []
  batches : (s.written.map Prod.fst).Nodup
  contents : ∀ b ∈ s.written, b.1 ≤ s.queue ∧ b.2 ≠ [] ∧ b.2 <+: s.lists b.1
  kept : ∀ e ∈ s.added, e ∈ s.writtenItems ∨ e ∈ s.queued
  resetting : ∀ b ∈ s.written, b.1 = s.queue → ∃ worker, s.tasks worker = .inserted s.queue

theorem mem_writtenItems {e : Entry α} : e ∈ s.writtenItems ↔ ∃ b ∈ s.written, e ∈ b.2 := by
  simp [State.writtenItems]

theorem Inv.nodup_writtenItems (h : Inv s) : s.writtenItems.Nodup := by
  unfold State.writtenItems
  rw [List.nodup_flatMap]
  constructor
  · intro b hb
    exact (h.contents b hb).2.2.sublist.nodup (h.nodup b.1)
  · have hpair := List.pairwise_map.mp h.batches
    refine hpair.imp_of_mem fun {b c} hb hc hne => ?_
    intro e hbe hce
    exact hne (h.apart b.1 c.1 e ((h.contents b hb).2.2.subset hbe) ((h.contents c hc).2.2.subset hce))

theorem Inv.accounted (h : Inv s) : Accounted s := by
  refine ⟨h.nodup_writtenItems, h.kept, fun hquiet => ?_⟩
  have hnodup : (s.writtenItems ++ s.queued).Nodup := by
    refine List.Nodup.append h.nodup_writtenItems (h.nodup s.queue) ?_
    intro e hwritten hqueued
    obtain ⟨b, hb, heb⟩ := mem_writtenItems.mp hwritten
    have hlist := h.apart b.1 s.queue e ((h.contents b hb).2.2.subset heb) hqueued
    obtain ⟨worker, hworker⟩ := h.resetting b hb hlist
    rw [hquiet worker] at hworker
    cases hworker
  refine (List.perm_ext_iff_of_nodup h.added hnodup).mpr fun e => ?_
  rw [List.mem_append]
  constructor
  · exact h.kept e
  · rintro (hwritten | hqueued)
    · obtain ⟨b, hb, heb⟩ := mem_writtenItems.mp hwritten
      exact h.listed b.1 e ((h.contents b hb).2.2.subset heb)
    · exact h.listed s.queue e hqueued

theorem inv_append (h : Inv s) (item : α) : Inv (next batchSize s (.append item)) := by
  have hnew : (⟨s.added.length, item⟩ : Entry α) ∉ s.added := fun hmem => by
    have hlt := h.calls _ hmem
    exact absurd hlt (lt_irrefl _)
  have hlists : ∀ r, (next batchSize s (.append item)).lists r =
      if r = s.queue then s.queued ++ [⟨s.added.length, item⟩] else s.lists r := fun r => by
    simp [next, Function.update_apply]
  have hmem : ∀ r e, e ∈ (next batchSize s (.append item)).lists r ↔
      e ∈ s.lists r ∨ (r = s.queue ∧ e = ⟨s.added.length, item⟩) := by
    intro r e
    rw [hlists]
    split_ifs with hr
    · subst hr
      simp [State.queued]
    · simp [hr]
  have hgrow : ∀ r, s.lists r <+: (next batchSize s (.append item)).lists r := by
    intro r
    rw [hlists]
    split_ifs with hr
    · subst hr
      exact List.prefix_append _ _
    · exact List.prefix_rfl
  refine ⟨?_, ?_, ?_, ?_, ?_, ?_, ?_, h.batches, ?_, ?_, h.resetting⟩
  · intro e he
    show e.call < (s.added ++ [_]).length
    rw [List.length_append, List.length_singleton]
    rcases List.mem_append.mp he with he | he
    · have hlt := h.calls e he
      omega
    · rw [List.mem_singleton.mp he]
      exact Nat.lt_succ_self _
  · exact h.added.append (List.nodup_singleton _) (by simpa using hnew)
  · intro r e he
    rcases (hmem r e).mp he with he | ⟨-, rfl⟩
    · exact List.mem_append_left _ (h.listed r e he)
    · exact List.mem_append_right _ (List.mem_singleton_self _)
  · intro r r' e he he'
    rcases (hmem r e).mp he with he | ⟨hr, hnewe⟩
    · rcases (hmem r' e).mp he' with he' | ⟨-, hnewe'⟩
      · exact h.apart r r' e he he'
      · exact absurd (h.listed r e he) (by rw [hnewe']; exact hnew)
    · rcases (hmem r' e).mp he' with he' | ⟨hr', -⟩
      · exact absurd (h.listed r' e he') (by rw [hnewe]; exact hnew)
      · rw [hr, hr']
  · intro r
    rw [hlists]
    split_ifs with hr
    · refine (h.nodup s.queue).append (List.nodup_singleton _) ?_
      rw [List.disjoint_singleton]
      exact fun hold => hnew (h.listed _ _ hold)
    · exact h.nodup r
  · intro r hr
    change s.queue < r at hr
    rw [hlists, if_neg (Nat.ne_of_gt hr)]
    exact h.later r hr
  · intro worker r hworker
    obtain ⟨hle, hne⟩ := h.reading worker r hworker
    exact ⟨hle, fun hnil => hne (List.prefix_nil.mp (hnil ▸ hgrow r))⟩
  · intro b hb
    obtain ⟨hle, hne, hprefix⟩ := h.contents b hb
    exact ⟨hle, hne, hprefix.trans (hgrow b.1)⟩
  · intro e he
    rcases List.mem_append.mp he with he | he
    · exact (h.kept e he).imp_right fun hq => (hgrow s.queue).subset hq
    · exact .inr ((hmem s.queue e).mpr (.inr ⟨rfl, List.mem_singleton.mp he⟩))

/-- A step that changes only the tests, the submitted tasks and one task, which was idle. -/
theorem inv_read (h : Inv s) {s' : State α} (hlists : s'.lists = s.lists) (hqueue : s'.queue = s.queue)
    (hadded : s'.added = s.added) (hwritten : s'.written = s.written)
    (hinserted : ∀ worker r, s.tasks worker = .inserted r → s'.tasks worker = .inserted r)
    (hreading : ∀ worker r, s'.tasks worker = .read r → r ≤ s.queue ∧ s.lists r ≠ []) : Inv s' := by
  obtain ⟨lists, queue, tests, submitted, tasks, added, written⟩ := s'
  dsimp only at hlists hqueue hadded hwritten hinserted hreading
  subst hlists hqueue hadded hwritten
  refine ⟨h.calls, h.added, h.listed, h.apart, h.nodup, h.later, hreading, h.batches, h.contents,
    h.kept, fun b hb hlist => ?_⟩
  obtain ⟨worker, hworker⟩ := h.resetting b hb hlist
  exact ⟨worker, hinserted worker _ hworker⟩

theorem inv_insert (h : Inv s) {worker list : ℕ} (hworker : s.tasks worker = .read list)
    (hfirst : ∀ b ∈ s.written, b.1 ≠ list) : Inv (next batchSize s (.insert worker true)) := by
  have hnext : next batchSize s (.insert worker true) =
      { s with
        tasks := Function.update s.tasks worker (.inserted list)
        written := s.written ++ [(list, s.lists list)] } := by
    simp [next, hworker]
  obtain ⟨hle, hne⟩ := h.reading worker list hworker
  rw [hnext]
  refine ⟨h.calls, h.added, h.listed, h.apart, h.nodup, h.later, ?_, ?_, ?_, ?_, ?_⟩
  · intro worker' r hread
    dsimp only at hread
    rw [Function.update_apply] at hread
    split_ifs at hread
    exact h.reading worker' r hread
  · rw [List.map_append, List.map_singleton]
    refine h.batches.append (List.nodup_singleton _) ?_
    rw [List.disjoint_singleton]
    intro hmem
    obtain ⟨b, hb, hlist⟩ := List.mem_map.mp hmem
    exact hfirst b hb hlist
  · intro b hb
    rcases List.mem_append.mp hb with hb | hb
    · exact h.contents b hb
    · rw [List.mem_singleton.mp hb]
      exact ⟨hle, hne, List.prefix_rfl⟩
  · intro e he
    refine (h.kept e he).imp_left fun hold => ?_
    obtain ⟨b, hb, heb⟩ := mem_writtenItems.mp hold
    exact mem_writtenItems.mpr ⟨b, List.mem_append_left _ hb, heb⟩
  · intro b hb hlist
    rcases List.mem_append.mp hb with hb | hb
    · obtain ⟨worker', hworker'⟩ := h.resetting b hb hlist
      refine ⟨worker', ?_⟩
      dsimp only
      rw [Function.update_of_ne]
      · exact hworker'
      · rintro rfl
        rw [hworker] at hworker'
        cases hworker'
    · rw [List.mem_singleton.mp hb] at hlist
      change list = s.queue at hlist
      exact ⟨worker, by rw [← hlist]; exact Function.update_self _ _ _⟩

theorem inv_reset (h : Inv s) {worker list : ℕ} (hworker : s.tasks worker = .inserted list)
    (hdone : s.queued = [] ∨ (s.queue, s.queued) ∈ s.written) :
    Inv (next batchSize s (.reset worker)) := by
  have hnext : next batchSize s (.reset worker) =
      { s with tasks := Function.update s.tasks worker .idle, queue := s.queue + 1 } := by
    simp [next, hworker]
  rw [hnext]
  refine ⟨h.calls, h.added, h.listed, h.apart, h.nodup, ?_, ?_, h.batches, ?_, ?_, ?_⟩
  · intro r hr
    exact h.later r (Nat.lt_of_succ_lt hr)
  · intro worker' r hread
    dsimp only at hread
    rw [Function.update_apply] at hread
    split_ifs at hread
    obtain ⟨hle, hne⟩ := h.reading worker' r hread
    exact ⟨Nat.le_succ_of_le hle, hne⟩
  · intro b hb
    obtain ⟨hle, hcontents⟩ := h.contents b hb
    exact ⟨Nat.le_succ_of_le hle, hcontents⟩
  · intro e he
    left
    rcases h.kept e he with hold | hqueued
    · exact hold
    · rcases hdone with hempty | hwritten
      · rw [hempty] at hqueued
        cases hqueued
      · exact mem_writtenItems.mpr ⟨_, hwritten, hqueued⟩
  · intro b hb hlist
    have hle := (h.contents b hb).1
    dsimp only at hlist
    omega

/-- An orderly step keeps the invariant. -/
theorem inv_next (h : Inv s) (a : Action α) (hguard : Orderly s a) : Inv (next batchSize s a) := by
  cases a with
  | append item => exact inv_append h item
  | test =>
    simp only [next]
    split_ifs
    · exact h
    · exact inv_read h rfl rfl rfl rfl (fun _ _ hw => hw) h.reading
    · exact inv_read h rfl rfl rfl rfl (fun _ _ hw => hw) h.reading
  | read worker =>
    simp only [next]
    split_ifs with hidle hempty
    · exact h
    · exact inv_read h rfl rfl rfl rfl (fun _ _ hw => hw) h.reading
    · push Not at hidle
      refine inv_read h rfl rfl rfl rfl ?_ ?_
      · intro worker' r hworker
        dsimp only
        rw [Function.update_of_ne]
        · exact hworker
        · rintro rfl
          rw [hidle.2] at hworker
          cases hworker
      · intro worker' r hread
        dsimp only at hread
        rw [Function.update_apply] at hread
        split_ifs at hread
        · obtain rfl := Task.read.inj hread
          exact ⟨le_refl _, hempty⟩
        · exact h.reading worker' r hread
  | insert worker ok =>
    cases hworker : s.tasks worker with
    | read list =>
      cases ok with
      | true => exact inv_insert h hworker (hguard list hworker)
      | false =>
        have hnext : next batchSize s (.insert worker false) =
            { s with tasks := Function.update s.tasks worker (.inserted list) } := by
          simp [next, hworker]
        rw [hnext]
        refine inv_read h rfl rfl rfl rfl ?_ ?_
        · intro worker' r hinserted
          dsimp only
          rw [Function.update_of_ne]
          · exact hinserted
          · rintro rfl
            rw [hworker] at hinserted
            cases hinserted
        · intro worker' r hread
          dsimp only at hread
          rw [Function.update_apply] at hread
          split_ifs at hread
          exact h.reading worker' r hread
    | idle | inserted =>
      simp only [next, hworker]
      exact h
  | reset worker =>
    cases hworker : s.tasks worker with
    | inserted list => exact inv_reset h hworker (hguard ⟨list, hworker⟩)
    | idle | read =>
      simp only [next, hworker]
      exact h

/-- A list that has been written out a second time. -/
theorem not_accounted_insert (h : Inv s) {worker list : ℕ} (hworker : s.tasks worker = .read list)
    {b : ℕ × List (Entry α)} (hb : b ∈ s.written) (hlist : b.1 = list) :
    ¬Accounted (next batchSize s (.insert worker true)) := by
  rintro ⟨hnodup, -⟩
  obtain ⟨-, hne, hprefix⟩ := h.contents b hb
  obtain ⟨e, he⟩ := List.exists_mem_of_ne_nil _ hne
  have hnext : (next batchSize s (.insert worker true)).writtenItems =
      s.writtenItems ++ s.lists list := by
    simp [next, hworker, State.writtenItems]
  rw [hnext, List.nodup_append'] at hnodup
  exact hnodup.2.2 (mem_writtenItems.mpr ⟨b, hb, he⟩) (hlist ▸ hprefix.subset he)

/-- When all that is queued has been written out, it is one batch. -/
theorem mem_written_of_forall (h : Inv s) (hne : s.queued ≠ [])
    (hall : ∀ e ∈ s.queued, e ∈ s.writtenItems) : (s.queue, s.queued) ∈ s.written := by
  have hbatch : ∀ e ∈ s.queued, ∃ b ∈ s.written, b.1 = s.queue ∧ e ∈ b.2 := by
    intro e he
    obtain ⟨b, hb, heb⟩ := mem_writtenItems.mp (hall e he)
    exact ⟨b, hb, h.apart b.1 s.queue e ((h.contents b hb).2.2.subset heb) he, heb⟩
  obtain ⟨e, he⟩ := List.exists_mem_of_ne_nil _ hne
  obtain ⟨b, hb, hqueue, -⟩ := hbatch e he
  have hsubset : ∀ e ∈ s.queued, e ∈ b.2 := by
    intro e he
    obtain ⟨c, hc, hcqueue, hec⟩ := hbatch e he
    obtain rfl : b = c := List.inj_on_of_nodup_map h.batches hb hc (hqueue.trans hcqueue.symm)
    exact hec
  obtain ⟨rest, hrest⟩ := (h.contents b hb).2.2
  rw [hqueue] at hrest
  have hnodup := h.nodup s.queue
  rw [← hrest, List.nodup_append'] at hnodup
  have hnil : rest = [] := by
    refine List.eq_nil_iff_forall_not_mem.mpr fun e he => ?_
    refine hnodup.2.2 (hsubset e ?_) he
    rw [State.queued, ← hrest]
    exact List.mem_append_right _ he
  rw [hnil, List.append_nil] at hrest
  rw [State.queued, ← hrest, ← hqueue]
  exact hb

/-- Items that are not written out go with the list. -/
theorem not_accounted_reset (h : Inv s) {worker list : ℕ} (hworker : s.tasks worker = .inserted list)
    (hne : s.queued ≠ []) (hnot : (s.queue, s.queued) ∉ s.written) :
    ¬Accounted (next batchSize s (.reset worker)) := by
  rintro ⟨-, hkept, -⟩
  refine hnot (mem_written_of_forall h hne fun e he => ?_)
  have hnext : next batchSize s (.reset worker) =
      { s with tasks := Function.update s.tasks worker .idle, queue := s.queue + 1 } := by
    simp [next, hworker]
  rw [hnext] at hkept
  rcases hkept e (h.listed _ e he) with hwritten | hqueued
  · exact hwritten
  · have hempty := h.later (s.queue + 1) (Nat.lt_succ_self _)
    change e ∈ s.lists (s.queue + 1) at hqueued
    rw [hempty] at hqueued
    cases hqueued

theorem not_accounted_next (h : Inv s) (a : Action α) (hbad : ¬Orderly s a) :
    ¬Accounted (next batchSize s a) := by
  cases a with
  | append | test | read => exact absurd trivial hbad
  | insert worker ok =>
    cases ok with
    | false => exact absurd trivial hbad
    | true =>
      simp only [Orderly] at hbad
      push Not at hbad
      obtain ⟨list, hworker, b, hb, hlist⟩ := hbad
      exact not_accounted_insert h hworker hb hlist
  | reset worker =>
    simp only [Orderly] at hbad
    push Not at hbad
    obtain ⟨⟨list, hworker⟩, hne, hnot⟩ := hbad
    exact not_accounted_reset h hworker hne hnot

theorem inv_start : Inv (start α) where
  calls _ he := by cases he
  added := List.nodup_nil
  listed _ _ he := by cases he
  apart _ _ _ he := by cases he
  nodup _ := List.nodup_nil
  later _ _ := rfl
  reading _ _ hread := by cases hread
  batches := List.nodup_nil
  contents _ hb := by cases hb
  kept _ he := by cases he
  resetting _ hb := by cases hb

/-- In a run every item is accounted for throughout exactly when every step of the run is orderly. -/
theorem batched_writes_iff (batchSize : ℤ) (actions : List (Action α)) :
    (∀ before, before <+: actions → Accounted (final (step batchSize) (start α) before)) ↔
      Along (step batchSize) Orderly (start α) actions :=
  (@along_iff_of_exact _ _ _ (step batchSize) Inv Accounted Orderly (fun _ a h => inv_next h a)
    (fun _ h => h.accounted) (fun _ a h => not_accounted_next h a) _ inv_start actions).symm

/-- An item is appended after the batch is written out and before the list is replaced. -/
theorem item_lost :
    ¬∀ (batchSize : ℤ) (actions : List (Action String)), (∀ worker, .insert worker false ∉ actions) →
      Quiet (final (step batchSize) (start String) actions) →
      (final (step batchSize) (start String) actions).added.Perm
        ((final (step batchSize) (start String) actions).writtenItems ++
          (final (step batchSize) (start String) actions).queued) := by
  intro h
  have hperm := h 1 [.append "first", .test, .read 0, .insert 0 true, .append "second", .reset 0]
    (by simp) (fun worker => by cases worker <;> rfl)
  exact absurd hperm.length_eq (by decide)

end Fmofp.Storage.Batch
