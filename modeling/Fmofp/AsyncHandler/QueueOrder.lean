import Fmofp.AsyncHandler.QueueThreads

/-! `PriorityQueue` under any interleaving of its methods: no item is lost or handed out twice, each
queue is served in order, the counter is right when nobody is inside, and one consumer alone serves the
higher priorities first.  Two consumers may return in another order than they take. -/

namespace Fmofp.AsyncHandler

open Python Machine

variable {T : Type}

/-- The item in a thread's hands, with the last thing that happened to it. -/
def Point.holding : Point → Option (Stage × Priority × QueueItem)
  | .counting p item => some (.stored, p, item)
  | .discounting p item => some (.took, p, item)
  | .returning p item => some (.discounted, p, item)
  | _ => none

/-- The thread takes nothing. -/
def Point.putSide : Point → Bool
  | .idle | .putting _ _ _ | .counting _ _ => true
  | _ => false

def QueueCall.takes : QueueCall → Bool
  | .put _ => false
  | _ => true

/-- What happens next to an item in a thread's hands. -/
def Stage.next : Stage → Option Stage
  | .stored => some .counted
  | .took => some .discounted
  | .discounted => some .returned
  | .counted | .returned => none

/-- The thread that an input is for. -/
def QueueInput.thread : QueueInput T → T
  | .call t _ _ | .run t _ => t

/-- The items that get to a stage in a step. -/
def Effect.reaching (stage : Stage) : Option (Effect T) → List (Handled T)
  | some (.moved reached m) => if reached = stage then [m] else []
  | _ => []

theorem Effect.mem_reaching {stage : Stage} {o : Option (Effect T)} {m : Handled T} :
    m ∈ Effect.reaching stage o ↔ o = some (.moved stage m) := by
  constructor
  · intro h
    unfold Effect.reaching at h
    split at h
    · split_ifs at h with hstage
      · rw [hstage, List.mem_singleton.mp h]
      · exact (nomatch h)
    · exact (nomatch h)
  · rintro rfl
    simp [Effect.reaching]

namespace QueueState

/-- What a step can do to the queues, the counter and the thread's hands. -/
inductive Change (t : T) (s s' : QueueState T) : Option (Effect T) → Prop
  | quiet {o} (hquiet : ∀ stage, Effect.reaching stage o = [])
      (hqueues : s'.queue.queues = s.queue.queues) (hsize : s'.size = s.size)
      (hheld : (s'.point t).holding = (s.point t).holding) : Change t s s' o
  | stored {p item}
      (hqueues : s'.queue.queues = Function.update s.queue.queues p (s.queue.queues p ++ [item]))
      (hsize : s'.size = s.size) (hbefore : (s.point t).holding = none)
      (hafter : (s'.point t).holding = some (.stored, p, item)) :
      Change t s s' (some (.moved .stored ⟨t, p, item⟩))
  | counted {p item} (hqueues : s'.queue.queues = s.queue.queues) (hsize : s'.size = s.size + 1)
      (hbefore : (s.point t).holding = some (.stored, p, item))
      (hafter : (s'.point t).holding = none) : Change t s s' (some (.moved .counted ⟨t, p, item⟩))
  | took {p item rest} (hfront : s.queue.queues p = item :: rest)
      (hqueues : s'.queue.queues = Function.update s.queue.queues p rest)
      (hsize : s'.size = s.size) (hbefore : (s.point t).holding = none)
      (hafter : (s'.point t).holding = some (.took, p, item)) :
      Change t s s' (some (.moved .took ⟨t, p, item⟩))
  | discounted {p item} (hqueues : s'.queue.queues = s.queue.queues) (hsize : s'.size = s.size - 1)
      (hbefore : (s.point t).holding = some (.took, p, item))
      (hafter : (s'.point t).holding = some (.discounted, p, item)) :
      Change t s s' (some (.moved .discounted ⟨t, p, item⟩))
  | returned {p item} (hqueues : s'.queue.queues = s.queue.queues) (hsize : s'.size = s.size)
      (hbefore : (s.point t).holding = some (.discounted, p, item))
      (hafter : (s'.point t).holding = none) : Change t s s' (some (.moved .returned ⟨t, p, item⟩))

/-- What a step does: nobody else moves. -/
structure StepSpec (t : T) (s s' : QueueState T) (o : Option (Effect T)) : Prop where
  others : ∀ u, u ≠ t → s'.point u = s.point u
  change : Change t s s' o

variable [DecidableEq T] {py : Runtime} {s : QueueState T} {t u : T}

@[simp] theorem point_goto (s : QueueState T) (t : T) (p : Point) : (s.goto t p).point t = p := by
  simp [goto]

theorem point_goto_ne (s : QueueState T) (h : u ≠ t) (p : Point) :
    (s.goto t p).point u = s.point u := by
  simp [goto, h]

@[simp] theorem queue_goto (s : QueueState T) (t : T) (p : Point) : (s.goto t p).queue = s.queue := rfl

theorem holding_goto (s : QueueState T) (t : T) (p : Point) :
    ((s.goto t p).point t).holding = p.holding := by
  rw [point_goto]

/-- A thread that holds nothing goes where it holds nothing. -/
theorem spec_goto {o : Option (Effect T)} (hquiet : ∀ stage, Effect.reaching stage o = [])
    (hbefore : (s.point t).holding = none) {p : Point} (hafter : p.holding = none) :
    StepSpec t s (s.goto t p) o where
  others _ h := point_goto_ne s h p
  change := .quiet hquiet rfl rfl (by rw [holding_goto, hbefore, hafter])

omit [DecidableEq T] in
theorem spec_same {o : Option (Effect T)} (hquiet : ∀ stage, Effect.reaching stage o = []) :
    StepSpec t s s o := ⟨fun _ _ => rfl, .quiet hquiet rfl rfl rfl⟩

theorem start_spec {now : ℚ} {c : QueueCall} (h : s.point t = .idle) :
    StepSpec t s (s.start py t now c).2 (s.start py t now c).1 := by
  have hbefore : (s.point t).holding = none := by rw [h]; rfl
  cases c with
  | put item =>
    rw [start]
    split
    · exact spec_goto (fun _ => rfl) hbefore rfl
    · exact spec_same fun _ => rfl
  | get timeout => exact spec_goto (fun _ => rfl) hbefore rfl
  | getNowait => exact spec_goto (fun _ => rfl) hbefore rfl
  | getHighPriorityMessage => exact spec_goto (fun _ => rfl) hbefore rfl

theorem exhausted_spec {now : ℚ} (g : Getter) (h : (s.point t).holding = none) :
    StepSpec t s (s.exhausted t now g).2 (s.exhausted t now g).1 := by
  cases g with
  | get timeout startTime =>
    cases timeout with
    | none => exact spec_goto (fun _ => rfl) h rfl
    | some timeout =>
      rw [exhausted]
      split_ifs
      · exact spec_goto (fun _ => rfl) h rfl
      · exact spec_goto (fun _ => rfl) h rfl
  | getNowait => exact spec_goto (fun _ => rfl) h rfl
  | highPriorityMessage => exact spec_goto (fun _ => rfl) h rfl

theorem foundEmpty_spec {left : List Priority} (g : Getter) (h : (s.point t).holding = none) :
    StepSpec t s (s.foundEmpty t left g).2 (s.foundEmpty t left g).1 := by
  cases g with
  | get timeout startTime => exact spec_goto (fun _ => rfl) h rfl
  | getNowait => exact spec_goto (fun _ => rfl) h rfl
  | highPriorityMessage => exact spec_goto (fun _ => rfl) h rfl

theorem advance_spec {now : ℚ} {p : Point} (h : s.point t = p) :
    StepSpec t s (s.advance t now p).2 (s.advance t now p).1 := by
  have hholding : (s.point t).holding = p.holding := by rw [h]
  cases p with
  | idle => exact spec_same fun _ => rfl
  | putting item id key =>
    rw [advance.eq_def]
    dsimp only
    split_ifs
    · exact spec_same fun _ => rfl
    · cases key with
      | ok p =>
        exact ⟨fun _ h => point_goto_ne _ h _, .stored rfl rfl hholding (holding_goto _ t _)⟩
      | error e =>
        refine ⟨fun _ h => point_goto_ne _ h _, .quiet (fun _ => rfl) rfl rfl ?_⟩
        exact (holding_goto _ t .idle).trans hholding.symm
  | counting p item =>
    exact ⟨fun _ h => point_goto_ne _ h _, .counted rfl rfl hholding (holding_goto _ t .idle)⟩
  | scanning g left =>
    cases left with
    | nil => exact exhausted_spec g hholding
    | cons p left =>
      rw [advance]
      split_ifs
      · exact spec_goto (fun _ => rfl) hholding rfl
      · exact spec_goto (fun _ => rfl) hholding rfl
  | taking g p left =>
    rw [advance, PriorityQueue.takeFrom]
    cases hfront : s.queue.queues p with
    | nil => exact foundEmpty_spec g hholding
    | cons item rest =>
      exact ⟨fun _ h => point_goto_ne _ h _, .took hfront rfl rfl hholding (holding_goto _ t _)⟩
  | discounting p item =>
    rw [advance]
    split_ifs
    · exact spec_same fun _ => rfl
    · exact ⟨fun _ h => point_goto_ne _ h _, .discounted rfl rfl hholding (holding_goto _ t _)⟩
  | returning p item =>
    exact ⟨fun _ h => point_goto_ne s h _, .returned rfl rfl hholding (holding_goto _ t .idle)⟩

variable (py s) in
theorem step_spec (i : QueueInput T) : StepSpec i.thread s (step py s i).2 (step py s i).1 := by
  cases i with
  | call t now c =>
    rw [step]
    split
    · rename_i hidle
      exact start_spec hidle
    · exact spec_same fun _ => rfl
  | run t now => exact advance_spec rfl

omit [DecidableEq T] in
/-- What gets to a stage is in the thread of the step. -/
theorem Change.thread_of_mem {s' : QueueState T} {o : Option (Effect T)} (h : Change t s s' o)
    {stage : Stage} {m : Handled T} (hm : m ∈ Effect.reaching stage o) : m.thread = t := by
  obtain rfl := Effect.mem_reaching.mp hm
  cases h with
  | quiet hquiet _ _ _ =>
    rw [hquiet] at hm
    exact (nomatch hm)
  | _ => rfl

/-! ### Histories -/

/-- The items that get to a stage in a run, in order. -/
def history (py : Runtime) (stage : Stage) (is : List (QueueInput T)) : List (Handled T) :=
  collect (step py) (fun s i => Effect.reaching stage (step py s i).1) new is

/-- The item, if it is of the priority. -/
def inQueue (p : Priority) (m : Handled T) : Option QueueItem :=
  if m.priority = p then some m.item else none

/-- The item, if it is the thread's. -/
def byThread (t : T) : Handled T → Option (Handled T) := Option.guard fun m => decide (m.thread = t)

def inHands (stage : Stage) (t : T) : Option (Stage × Priority × QueueItem) → List (Handled T)
  | some (reached, p, item) => if reached = stage then [⟨t, p, item⟩] else []
  | none => []

/-- The items in a thread's hands that have got to a stage. -/
def held (stage : Stage) (s : QueueState T) (t : T) : List (Handled T) :=
  inHands stage t (s.point t).holding

omit [DecidableEq T] in
theorem Change.inQueue {s s' : QueueState T} {o : Option (Effect T)} (h : Change t s s' o)
    (p : Priority) :
    s.queue.queues p ++ (Effect.reaching .stored o).filterMap (inQueue p) =
      (Effect.reaching .took o).filterMap (inQueue p) ++ s'.queue.queues p := by
  cases h with
  | quiet hquiet hqueues _ _ => simp [hquiet, hqueues]
  | @stored q item hqueues _ _ _ =>
    by_cases hq : q = p
    · subst hq
      simp [Effect.reaching, QueueState.inQueue, hqueues]
    · simp [Effect.reaching, QueueState.inQueue, hqueues, hq, Ne.symm hq]
  | counted hqueues _ _ _ => simp [Effect.reaching, hqueues]
  | @took q item rest hfront hqueues _ _ _ =>
    by_cases hq : q = p
    · subst hq
      simp [Effect.reaching, QueueState.inQueue, hqueues, hfront]
    · simp [Effect.reaching, QueueState.inQueue, hqueues, hq, Ne.symm hq]
  | discounted hqueues _ _ _ => simp [Effect.reaching, hqueues]
  | returned hqueues _ _ _ => simp [Effect.reaching, hqueues]

theorem filterMap_byThread {ms : List (Handled T)} (h : ∀ m ∈ ms, m.thread = u) :
    ms.filterMap (byThread t) = if u = t then ms else [] := by
  rw [byThread, List.filterMap_eq_filter]
  split_ifs with hu
  · exact List.filter_eq_self.mpr fun m hm => decide_eq_true ((h m hm).trans hu)
  · exact List.filter_eq_nil_iff.mpr fun m hm => by simp [h m hm, hu]

/-- What a thread holds at a stage goes on to the next stage. -/
theorem StepSpec.held {s s' : QueueState T} {o : Option (Effect T)} (h : StepSpec u s s' o)
    {stage next : Stage} (hnext : stage.next = some next) (t : T) :
    held stage s t ++ (Effect.reaching stage o).filterMap (byThread t) =
      (Effect.reaching next o).filterMap (byThread t) ++ held stage s' t := by
  obtain ⟨hothers, hchange⟩ := h
  rw [filterMap_byThread fun m => hchange.thread_of_mem, filterMap_byThread fun m => hchange.thread_of_mem]
  by_cases hu : u = t
  · subst hu
    rw [if_pos rfl, if_pos rfl]
    cases hchange with
    | quiet hquiet _ _ hheld => simp [hquiet, QueueState.held, hheld]
    | stored _ _ hbefore hafter =>
      rw [QueueState.held, QueueState.held, hbefore, hafter]
      cases stage <;> cases hnext <;> rfl
    | counted _ _ hbefore hafter =>
      rw [QueueState.held, QueueState.held, hbefore, hafter]
      cases stage <;> cases hnext <;> rfl
    | took _ _ _ hbefore hafter =>
      rw [QueueState.held, QueueState.held, hbefore, hafter]
      cases stage <;> cases hnext <;> rfl
    | discounted _ _ hbefore hafter =>
      rw [QueueState.held, QueueState.held, hbefore, hafter]
      cases stage <;> cases hnext <;> rfl
    | returned _ _ hbefore hafter =>
      rw [QueueState.held, QueueState.held, hbefore, hafter]
      cases stage <;> cases hnext <;> rfl
  · rw [if_neg hu, if_neg hu, QueueState.held, QueueState.held, hothers t (Ne.symm hu)]
    simp

/-- What is put is, in order, what is taken and what is left. -/
theorem history_inQueue (p : Priority) (is : List (QueueInput T)) :
    (history py .stored is).filterMap (inQueue p) =
      (history py .took is).filterMap (inQueue p) ++ (final (step py) new is).queue.queues p := by
  have hrun := fifo (step py) (fun s i => (step_spec py s i).change.inQueue p) new is
  rwa [collect_filterMap (step py) fun _ _ => rfl, collect_filterMap (step py) fun _ _ => rfl] at hrun

variable (py) in
/-- What a thread has brought to a stage it has brought to the next one, in order, or holds. -/
theorem history_byThread (stage : Stage) {next : Stage} (hnext : stage.next = some next) (t : T)
    (is : List (QueueInput T)) :
    (history py stage is).filterMap (byThread t) =
      (history py next is).filterMap (byThread t) ++ held stage (final (step py) new is) t := by
  have hrun := @fifo _ _ _ _ (step py) (fun s => held stage s t) _ _
    (fun s i => (step_spec py s i).held hnext t) new is
  rwa [collect_filterMap (step py) fun _ _ => rfl, collect_filterMap (step py) fun _ _ => rfl] at hrun

/-- No operation is in progress. -/
def AtRest (s : QueueState T) : Prop := ∀ t, s.point t = .idle

omit [DecidableEq T] in
theorem AtRest.held {s : QueueState T} (h : s.AtRest) (stage : Stage) (t : T) : held stage s t = [] := by
  rw [QueueState.held, h t]
  rfl

/-- Nothing is left between two stages when no operation is in progress. -/
theorem history_perm {is : List (QueueInput T)} (hrest : (final (step py) new is).AtRest)
    (stage : Stage) {next : Stage} (hnext : stage.next = some next) :
    (history py stage is).Perm (history py next is) := by
  refine perm_of_parts (f := Handled.thread) fun t => ?_
  have hparts := history_byThread py stage hnext t is
  rw [hrest.held, List.append_nil, byThread, List.filterMap_eq_filter] at hparts
  exact hparts

omit [DecidableEq T] in
/-- What a step puts in and takes out, of all the queues together. -/
theorem Change.items {s s' : QueueState T} {o : Option (Effect T)} (h : Change t s s' o) :
    (↑s.queue.items : Multiset QueueItem) + ↑((Effect.reaching .stored o).map Handled.item) =
      ↑((Effect.reaching .took o).map Handled.item) + ↑s'.queue.items := by
  cases h with
  | quiet hquiet hqueues _ _ => simp [hquiet, hqueues, PriorityQueue.items]
  | @stored p item hqueues _ _ _ =>
    rw [PriorityQueue.items, PriorityQueue.items, hqueues, flatMap_update_append]
    simp [Effect.reaching]
  | counted hqueues _ _ _ => simp [Effect.reaching, hqueues, PriorityQueue.items]
  | @took p item rest hfront hqueues _ _ _ =>
    rw [PriorityQueue.items, PriorityQueue.items, hqueues, flatMap_update_tail _ hfront]
    simp [Effect.reaching, add_comm]
  | discounted hqueues _ _ _ => simp [Effect.reaching, hqueues, PriorityQueue.items]
  | returned hqueues _ _ _ => simp [Effect.reaching, hqueues, PriorityQueue.items]

omit [DecidableEq T] in
/-- What a step counts and discounts. -/
theorem Change.size {s s' : QueueState T} {o : Option (Effect T)} (h : Change t s s' o) :
    s.size + ((Effect.reaching .counted o).length : ℤ) =
      ((Effect.reaching .discounted o).length : ℤ) + s'.size := by
  cases h with
  | quiet hquiet _ hsize _ => simp [hquiet, hsize]
  | stored _ hsize _ _ => simp [Effect.reaching, hsize]
  | counted _ hsize _ _ => simp [Effect.reaching, hsize]
  | took _ _ hsize _ _ => simp [Effect.reaching, hsize]
  | discounted _ hsize _ _ => simp [Effect.reaching, hsize]
  | returned _ hsize _ _ => simp [Effect.reaching, hsize]

variable (py) in
theorem history_items (is : List (QueueInput T)) :
    (↑((history py .stored is).map Handled.item) : Multiset QueueItem) =
      ↑((history py .took is).map Handled.item) + ↑(final (step py) new is).queue.items := by
  have hrun := conserved (step py) (μ := fun ms => (↑(ms.map Handled.item) : Multiset QueueItem)) rfl
    (fun xs ys => by simp) (fun s i => (step_spec py s i).change.items) new is
  have hnew : (↑(new : QueueState T).queue.items : Multiset QueueItem) = 0 := rfl
  rwa [hnew, zero_add] at hrun

variable (py) in
theorem history_size (is : List (QueueInput T)) :
    ((history py .counted is).length : ℤ) =
      ((history py .discounted is).length : ℤ) + (final (step py) new is).size := by
  have hrun := conserved (step py) (μ := fun ms => (ms.length : ℤ)) rfl (fun xs ys => by simp)
    (fun s i => (step_spec py s i).change.size) new is
  have hnew : (new : QueueState T).size = 0 := rfl
  rwa [hnew, zero_add] at hrun

/-- When no operation is in progress, every item that was put has been returned or is queued, and the
counter is the number of the queued ones. -/
theorem conserved_at_rest {is : List (QueueInput T)} (hrest : (final (step py) new is).AtRest) :
    ((history py .stored is).map Handled.item).Perm
        ((history py .returned is).map Handled.item ++ (final (step py) new is).queue.items) ∧
      (final (step py) new is).qsize = ((final (step py) new is).queue.items.length : ℤ) := by
  have hcounted := history_perm hrest .stored rfl
  have hdiscounted := history_perm hrest .took rfl
  have hreturned := history_perm hrest .discounted rfl
  have hitems := history_items py is
  constructor
  · rw [← Multiset.coe_eq_coe, hitems, ← Multiset.coe_add,
      Multiset.coe_eq_coe.mpr ((hdiscounted.trans hreturned).map Handled.item)]
  · have hsize := history_size py is
    have hcards := congrArg Multiset.card hitems
    rw [Multiset.card_add, Multiset.coe_card, Multiset.coe_card, Multiset.coe_card, List.length_map,
      List.length_map] at hcards
    rw [← hcounted.length_eq, ← hdiscounted.length_eq] at hsize
    rw [qsize]
    omega

/-! ### One consumer -/

/-- Nobody else takes anything in the run. -/
def OnlyConsumer (t : T) (is : List (QueueInput T)) : Prop :=
  ∀ u now c, .call u now c ∈ is → c.takes = true → u = t

/-- A thread that only puts leaves every queue as long as it is, and goes on with its `put`. -/
theorem step_of_putSide {i : QueueInput T} (hside : (s.point i.thread).putSide = true)
    (hcall : ∀ u now c, i = .call u now c → c.takes = false) :
    ((step py s i).2.point i.thread).putSide = true ∧
      ∀ q, s.queue.queues q ≠ [] → (step py s i).2.queue.queues q ≠ [] := by
  cases i with
  | call t now c =>
    rw [step]
    split
    · cases c with
      | put item =>
        rw [start]
        split
        · exact ⟨by rw [QueueInput.thread, point_goto]; rfl, fun _ h => h⟩
        · exact ⟨hside, fun _ h => h⟩
      | get timeout => cases hcall t now _ rfl
      | getNowait => cases hcall t now _ rfl
      | getHighPriorityMessage => cases hcall t now _ rfl
    · exact ⟨hside, fun _ h => h⟩
  | run t now =>
    rw [QueueInput.thread] at hside ⊢
    rw [step]
    cases hpoint : s.point t with
    | idle => exact ⟨by rw [advance, hpoint]; rfl, fun _ h => h⟩
    | putting item id key =>
      rw [advance.eq_def]
      dsimp only
      split_ifs
      · exact ⟨by rw [hpoint]; rfl, fun _ h => h⟩
      · cases key with
        | ok p =>
          refine ⟨by rw [point_goto]; rfl, fun q h => ?_⟩
          by_cases hq : q = p
          · subst hq
            simp [PriorityQueue.put]
          · simpa [PriorityQueue.put, hq] using h
        | error e => exact ⟨by rw [point_goto]; rfl, fun _ h => h⟩
    | counting p item => exact ⟨by rw [advance, point_goto]; rfl, fun _ h => h⟩
    | scanning g left => rw [hpoint] at hside; cases hside
    | taking g p left => rw [hpoint] at hside; cases hside
    | discounting p item => rw [hpoint] at hside; cases hside
    | returning p item => rw [hpoint] at hside; cases hside

/-- The others only put. -/
def OthersPut (t : T) (s : QueueState T) : Prop := ∀ u, u ≠ t → (s.point u).putSide = true

theorem step_othersPut (h : s.OthersPut t) {i : QueueInput T}
    (hcall : ∀ u now c, i = .call u now c → c.takes = true → u = t) :
    (step py s i).2.OthersPut t := by
  intro u hu
  by_cases hi : u = i.thread
  · subst hi
    refine (step_of_putSide (h _ hu) fun v now c hc => ?_).1
    by_contra htakes
    refine hu ?_
    rw [hc]
    exact hcall v now c hc (by simpa using htakes)
  · rw [(step_spec _ _ i).others u hi]
    exact h u hu

/-- The queues that are left to look at are in order, and the queue is one of them or all of them come
before it. -/
def Fits (q : Priority) (left : List Priority) : Prop :=
  left.Pairwise (fun a b => a.value < b.value) ∧ (q ∈ left ∨ ∀ p ∈ left, p.value ≤ q.value)

instance (q : Priority) (left : List Priority) : Decidable (Fits q left) :=
  inferInstanceAs (Decidable (_ ∧ _))

theorem fits_priorities (q : Priority) : Fits q priorities := by
  cases q <;> decide

theorem fits_high (q : Priority) : Fits q [.high] := by
  cases q <;> decide

theorem Fits.tail {q p : Priority} {left : List Priority} (h : Fits q (p :: left)) (hne : p ≠ q) :
    Fits q left := by
  obtain ⟨hsorted, hleft⟩ := h
  refine ⟨hsorted.of_cons, ?_⟩
  rcases hleft with hmem | hall
  · exact .inl ((List.mem_cons.mp hmem).resolve_left (Ne.symm hne))
  · exact .inr fun p' hp' => hall p' (List.mem_cons_of_mem p hp')

theorem Fits.head_le {q p : Priority} {left : List Priority} (h : Fits q (p :: left)) :
    p.value ≤ q.value := by
  obtain ⟨hsorted, hmem | hall⟩ := h
  · rcases List.mem_cons.mp hmem with rfl | hmem
    · exact le_rfl
    · exact (List.rel_of_pairwise_cons hsorted hmem).le
  · exact hall p (List.mem_cons_self ..)

/-- While the queue of priority `q` is not empty, the thread comes to nothing of a lower priority. -/
def Serving (q : Priority) (waiting : Prop) : Point → Prop
  | .scanning _ left => waiting ∧ Fits q left
  | .taking _ p left => waiting ∧ Fits q (p :: left)
  | .discounting p _ | .returning p _ => p.value ≤ q.value
  | _ => False

/-- A step of the thread itself, where it does not finish. -/
theorem serving_advance {q : Priority} {now : ℚ}
    (h : Serving q (s.queue.queues q ≠ []) (s.point t))
    (hbusy : (s.advance t now (s.point t)).2.point t ≠ .idle) :
    Serving q ((s.advance t now (s.point t)).2.queue.queues q ≠ [])
      ((s.advance t now (s.point t)).2.point t) := by
  cases hpoint : s.point t with
  | idle => rw [hpoint] at h; exact h.elim
  | putting item id key => rw [hpoint] at h; exact h.elim
  | counting p item => rw [hpoint] at h; exact h.elim
  | scanning g left =>
    rw [hpoint] at h hbusy
    obtain ⟨hwaiting, hfits⟩ := h
    cases left with
    | nil =>
      cases g with
      | get timeout startTime =>
        cases timeout with
        | none =>
          rw [advance, exhausted, point_goto]
          exact ⟨hwaiting, fits_priorities q⟩
        | some timeout =>
          rw [advance, exhausted] at hbusy ⊢
          split_ifs at hbusy ⊢
          · exact absurd (point_goto s t _) hbusy
          · rw [point_goto]
            exact ⟨hwaiting, fits_priorities q⟩
      | getNowait => exact absurd (point_goto s t _) hbusy
      | highPriorityMessage => exact absurd (point_goto s t _) hbusy
    | cons p left =>
      rw [advance]
      split_ifs with hempty
      · rw [point_goto]
        refine ⟨hwaiting, hfits.tail ?_⟩
        rintro rfl
        exact hwaiting hempty
      · rw [point_goto]
        exact ⟨hwaiting, hfits⟩
  | taking g p left =>
    rw [hpoint] at h hbusy
    obtain ⟨hwaiting, hfits⟩ := h
    rw [advance, PriorityQueue.takeFrom] at hbusy ⊢
    cases hfront : s.queue.queues p with
    | nil =>
      rw [hfront] at hbusy
      have hne : p ≠ q := by
        rintro rfl
        exact hwaiting hfront
      cases g with
      | get timeout startTime => exact absurd (point_goto s t _) hbusy
      | getNowait =>
        dsimp only [foundEmpty]
        rw [point_goto]
        exact ⟨hwaiting, hfits.tail hne⟩
      | highPriorityMessage =>
        dsimp only [foundEmpty]
        rw [point_goto]
        exact ⟨hwaiting, hfits.tail hne⟩
    | cons item rest =>
      dsimp only
      rw [point_goto]
      exact hfits.head_le
  | discounting p item =>
    rw [hpoint] at h
    rw [advance]
    split_ifs
    · rw [hpoint]
      exact h
    · rw [point_goto]
      exact h
  | returning p item =>
    rw [hpoint] at hbusy
    exact absurd (point_goto s t _) hbusy

/-- What a thread that has come so far returns. -/
theorem point_of_returned {i : QueueInput T} {m : Handled T}
    (h : (step py s i).1 = some (.moved .returned m)) :
    m.thread = i.thread ∧ s.point i.thread = .returning m.priority m.item := by
  obtain ⟨-, hchange⟩ := step_spec py s i
  rw [h] at hchange
  cases hchange with
  | quiet hquiet _ _ _ =>
    have hnone := hquiet .returned
    rw [Effect.reaching, if_pos rfl] at hnone
    cases hnone
  | @returned p item _ _ hbefore _ =>
    refine ⟨rfl, ?_⟩
    cases hpoint : s.point i.thread <;> rw [hpoint] at hbefore <;> cases hbefore
    rfl

omit [DecidableEq T] in
theorem Serving.mono {q : Priority} {waiting waiting' : Prop} (h : waiting → waiting') {p : Point}
    (hserving : Serving q waiting p) : Serving q waiting' p := by
  cases p with
  | scanning g left => exact ⟨h hserving.1, hserving.2⟩
  | taking g p left => exact ⟨h hserving.1, hserving.2⟩
  | discounting p item => exact hserving
  | returning p item => exact hserving
  | _ => exact hserving.elim

/-- A step of any thread, where the others only put and the call goes on. -/
theorem serving_step {q : Priority} (hothers : s.OthersPut t) {i : QueueInput T}
    (hcall : ∀ u now c, i = .call u now c → c.takes = true → u = t)
    (h : Serving q (s.queue.queues q ≠ []) (s.point t)) (hbusy : (step py s i).2.point t ≠ .idle) :
    Serving q ((step py s i).2.queue.queues q ≠ []) ((step py s i).2.point t) := by
  by_cases hi : t = i.thread
  · cases i with
    | call u now c =>
      obtain rfl : t = u := hi
      rw [step]
      split
      · rename_i hidle
        rw [hidle] at h
        exact h.elim
      · exact h
    | run u now =>
      obtain rfl : t = u := hi
      exact serving_advance h hbusy
  · rw [(step_spec _ _ i).others t hi]
    refine h.mono ((step_of_putSide (hothers _ (Ne.symm hi)) fun v now c hc => ?_).2 q)
    by_contra htakes
    refine hi ?_
    rw [hc]
    exact (hcall v now c hc (by simpa using htakes)).symm

theorem serving_run {q : Priority} {is : List (QueueInput T)} (hothers : s.OthersPut t)
    (honly : OnlyConsumer t is) (h : Serving q (s.queue.queues q ≠ []) (s.point t))
    (hbusy : ∀ before, before <+: is → (final (step py) s before).point t ≠ .idle) :
    Serving q ((final (step py) s is).queue.queues q ≠ []) ((final (step py) s is).point t) := by
  induction is generalizing s with
  | nil => exact h
  | cons i is ih =>
    have hcall : ∀ u now c, i = .call u now c → c.takes = true → u = t := by
      rintro u now c rfl
      exact honly u now c (List.mem_cons_self ..)
    have hfirst : (step py s i).2.point t ≠ .idle := hbusy [i] (List.prefix_append [i] is)
    refine ih (step_othersPut hothers hcall) ?_ (serving_step hothers hcall h hfirst) ?_
    · exact fun u now c hc => honly u now c (List.mem_cons_of_mem i hc)
    · exact fun before hbefore => hbusy (i :: before) ((List.prefix_cons_inj i).mpr hbefore)

theorem othersPut_run {is : List (QueueInput T)} (hothers : s.OthersPut t) (honly : OnlyConsumer t is) :
    (final (step py) s is).OthersPut t := by
  induction is generalizing s with
  | nil => exact hothers
  | cons i is ih =>
    refine ih (step_othersPut hothers ?_) fun u now c hc => honly u now c (List.mem_cons_of_mem i hc)
    rintro u now c rfl
    exact honly u now c (List.mem_cons_self ..)

omit [DecidableEq T] in
theorem othersPut_new (t : T) : (new : QueueState T).OthersPut t := fun _ _ => rfl

/-- A call that takes an item begins by serving whatever is queued. -/
theorem serving_call {q : Priority} {now : ℚ} {c : QueueCall} (hidle : s.point t = .idle)
    (htakes : c.takes = true) (hwaiting : s.queue.queues q ≠ []) :
    Serving q ((step py s (.call t now c)).2.queue.queues q ≠ [])
      ((step py s (.call t now c)).2.point t) := by
  rw [step, hidle]
  cases c with
  | put item => cases htakes
  | get timeout =>
    rw [start, point_goto]
    exact ⟨hwaiting, fits_priorities q⟩
  | getNowait =>
    rw [start, point_goto]
    exact ⟨hwaiting, fits_priorities q⟩
  | getHighPriorityMessage =>
    rw [start, point_goto]
    exact ⟨hwaiting, fits_high q⟩

/-- The input ends a call that takes an item, which began after `before` and went on through `middle`, by
returning an item of priority `p`. -/
structure Returns (py : Runtime) (t : T) (before middle : List (QueueInput T)) (c : QueueCall)
    (now : ℚ) (i : QueueInput T) (p : Priority) (item : QueueItem) : Prop where
  takes : c.takes = true
  idle : (final (step py) new before).point t = .idle
  busy : ∀ pre, pre <+: middle →
    (final (step py) new (before ++ .call t now c :: pre)).point t ≠ .idle
  returned : (step py (final (step py) new (before ++ .call t now c :: middle)) i).1 =
    some (.moved .returned ⟨t, p, item⟩)

/-- What the only consumer returns is of the highest priority that was queued when it called. -/
theorem empty_of_returns {before middle after : List (QueueInput T)} {c : QueueCall} {now : ℚ}
    {i : QueueInput T} {p q : Priority} {item : QueueItem}
    (honly : OnlyConsumer t (before ++ .call t now c :: (middle ++ i :: after)))
    (h : Returns py t before middle c now i p item) (hq : q.value < p.value) :
    (final (step py) new before).queue.queues q = [] := by
  by_contra hwaiting
  have hsplit : ∀ pre, final (step py) new (before ++ .call t now c :: pre) =
      final (step py) (step py (final (step py) new before) (.call t now c)).2 pre := by
    intro pre
    rw [final_append, final_cons]
  have hbefore : (final (step py) new before).OthersPut t :=
    othersPut_run (othersPut_new t) fun u now c hc => honly u now c (by simp [hc])
  have hcalled : (step py (final (step py) new before) (.call t now c)).2.OthersPut t := by
    refine step_othersPut hbefore ?_
    rintro u now' c' ⟨⟩ -
    rfl
  have hbusy : ∀ pre, pre <+: middle →
      (final (step py) (step py (final (step py) new before) (.call t now c)).2 pre).point t ≠ .idle :=
    fun pre hpre => hsplit pre ▸ h.busy pre hpre
  have hserving := serving_run hcalled (fun u now c hc => honly u now c (by simp [hc]))
    (serving_call h.idle h.takes hwaiting) hbusy
  obtain ⟨hthread, hpoint⟩ := point_of_returned h.returned
  rw [hsplit, ← hthread] at hpoint
  rw [hpoint] at hserving
  exact absurd hq (not_lt.mpr hserving)

theorem thread_of_returned {is : List (QueueInput T)} (hothers : s.OthersPut t)
    (honly : OnlyConsumer t is) {m : Handled T}
    (hm : m ∈ collect (step py) (fun s i => Effect.reaching .returned (step py s i).1) s is) :
    m.thread = t := by
  induction is generalizing s with
  | nil => exact (nomatch hm)
  | cons i is ih =>
    rcases List.mem_append.mp hm with hm | hm
    · by_contra hne
      have hreturned : (step py s i).1 = some (.moved .returned m) := Effect.mem_reaching.mp hm
      obtain ⟨hthread, hpoint⟩ := point_of_returned hreturned
      have hside := hothers m.thread hne
      rw [hthread, hpoint] at hside
      cases hside
    · refine ih (step_othersPut hothers ?_) (fun u now c hc => ?_) hm
      · rintro u now c rfl
        exact honly u now c (List.mem_cons_self ..)
      · exact honly u now c (List.mem_cons_of_mem i hc)

/-- Items of one priority are returned in the order in which they were put. -/
def ReturnedInOrder (py : Runtime) (is : List (QueueInput T)) : Prop :=
  ∀ p, ((history py .returned is).filterMap (inQueue p)).Sublist
    ((history py .stored is).filterMap (inQueue p))

variable (py) in
/-- What one thread returns, it returns in the order in which it was put. -/
theorem returned_sublist (t : T) (p : Priority) (is : List (QueueInput T)) :
    (((history py .returned is).filterMap (byThread t)).filterMap (inQueue p)).Sublist
      ((history py .stored is).filterMap (inQueue p)) := by
  have htaken : ((history py .took is).filterMap (inQueue p)).Sublist
      ((history py .stored is).filterMap (inQueue p)) := by
    rw [history_inQueue]
    exact List.sublist_append_left _ _
  have hthread : ((history py .took is).filterMap (byThread t)).Sublist (history py .took is) := by
    rw [byThread, List.filterMap_eq_filter]
    exact List.filter_sublist
  have hreturned : ((history py .returned is).filterMap (byThread t)).Sublist
      ((history py .took is).filterMap (byThread t)) := by
    rw [history_byThread py .took rfl, history_byThread py .discounted rfl,
      List.append_assoc]
    exact List.sublist_append_left _ _
  exact ((hreturned.trans hthread).filterMap _).trans htaken

/-- What the queue does in a run, whatever the threads are and however their steps are mixed. -/
structure QueueCorrect (py : Runtime) (is : List (QueueInput T)) : Prop where
  /-- Each queue is served in order. -/
  taken : ∀ p, (history py .stored is).filterMap (inQueue p) =
    (history py .took is).filterMap (inQueue p) ++ (final (step py) new is).queue.queues p
  /-- What a thread has taken it has returned once, or it is in its hands. -/
  handed : ∀ t, (history py .took is).filterMap (byThread t) =
    (history py .returned is).filterMap (byThread t) ++
      (held .discounted (final (step py) new is) t ++ held .took (final (step py) new is) t)
  returnedOrQueued : (final (step py) new is).AtRest →
    ((history py .stored is).map Handled.item).Perm
      ((history py .returned is).map Handled.item ++ (final (step py) new is).queue.items)
  qsize : (final (step py) new is).AtRest →
    (final (step py) new is).qsize = ((final (step py) new is).queue.items.length : ℤ)
  eachInOrder : ∀ t p,
    (((history py .returned is).filterMap (byThread t)).filterMap (inQueue p)).Sublist
      ((history py .stored is).filterMap (inQueue p))
  singleInOrder : ∀ t, OnlyConsumer t is → ReturnedInOrder py is
  singleHighest : ∀ t, OnlyConsumer t is → ∀ before now c middle i after,
    is = before ++ .call t now c :: (middle ++ i :: after) →
      ∀ p item, Returns py t before middle c now i p item →
        ∀ q : Priority, q.value < p.value → (final (step py) new before).queue.queues q = []

/-- Every run of the threads keeps the items and their order. -/
theorem queue_correct (py : Runtime) (is : List (QueueInput T)) : QueueCorrect py is where
  taken p := history_inQueue p is
  handed t := by
    rw [history_byThread py .took rfl, history_byThread py .discounted rfl,
      List.append_assoc]
  returnedOrQueued hrest := (conserved_at_rest hrest).1
  qsize hrest := (conserved_at_rest hrest).2
  eachInOrder t p := returned_sublist py t p is
  singleInOrder t honly p := by
    have hall : (history py .returned is).filterMap (byThread t) = history py .returned is := by
      have hthread : ∀ m ∈ history py .returned is, m.thread = t := fun m hm =>
        thread_of_returned (othersPut_new t) honly hm
      rw [filterMap_byThread hthread, if_pos rfl]
    have hsublist := returned_sublist py t p is
    rwa [hall] at hsublist
  singleHighest t honly before now c middle i after hsplit p item hreturns q hq := by
    subst hsplit
    exact empty_of_returns honly hreturns hq

/-- A thread puts two items; one consumer takes the first, and before it returns another one takes and
returns the second. -/
def overtaking : List (QueueInput ℕ) :=
  let put (id : String) : List (QueueInput ℕ) :=
    [.call 0 0 (.put (.triple (.str "radar") [("message_id", .str id)] (.int 1))), .run 0 0, .run 0 0]
  let get (t : ℕ) : List (QueueInput ℕ) := [.call t 0 .getNowait, .run t 0, .run t 0, .run t 0]
  put "first" ++ put "second" ++ get 1 ++ get 2 ++ [.run 2 0, .run 2 0, .run 1 0, .run 1 0]

/-- Two consumers may return items of one priority in another order than they were put. -/
theorem overtaking_not_inOrder :
    ¬ ∀ (py : Runtime) (is : List (QueueInput ℕ)), ReturnedInOrder py is := by
  intro h
  have hnormal := h .ascii overtaking .normal
  revert hnormal
  decide +kernel

end QueueState

end Fmofp.AsyncHandler
