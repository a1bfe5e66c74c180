import Mathlib

/-! Runs of a machine that takes one input at a time and answers each: what holds after every step,
and what a part of the inputs gets answered whatever the other inputs are. -/

namespace Machine

variable {σ τ ι κ ο ω : Type}

/-- The answers to a list of inputs and the state after them. -/
def run (step : σ → ι → ο × σ) : σ → List ι → List ο × σ
  | s, [] => ([], s)
  | s, i :: is => ((step s i).1 :: (run step (step s i).2 is).1, (run step (step s i).2 is).2)

def outputs (step : σ → ι → ο × σ) (s : σ) (is : List ι) : List ο := (run step s is).1

def final (step : σ → ι → ο × σ) (s : σ) (is : List ι) : σ := (run step s is).2

/-- Every input of the run meets `P` in the state that it comes to. -/
def Along (step : σ → ι → ο × σ) (P : σ → ι → Prop) : σ → List ι → Prop
  | _, [] => True
  | s, i :: is => P s i ∧ Along step P (step s i).2 is

instance decidableAlong (step : σ → ι → ο × σ) (P : σ → ι → Prop) [∀ s i, Decidable (P s i)] :
    ∀ s is, Decidable (Along step P s is)
  | _, [] => .isTrue trivial
  | s, i :: is => have := decidableAlong step P (step s i).2 is
    inferInstanceAs (Decidable (P s i ∧ Along step P (step s i).2 is))

/-- A state that some run from `s` ends in. -/
def Reachable (step : σ → ι → ο × σ) (s s' : σ) : Prop := ∃ is, final step s is = s'

/-- The answers to the inputs that `visible` holds of. -/
def visibleOutputs (step : σ → ι → ο × σ) (visible : ι → Bool) : σ → List ι → List ο
  | _, [] => []
  | s, i :: is =>
    if visible i then (step s i).1 :: visibleOutputs step visible (step s i).2 is
    else visibleOutputs step visible (step s i).2 is

section Basic

variable (step : σ → ι → ο × σ) (s : σ)

@[simp] theorem final_nil : final step s [] = s := rfl

@[simp] theorem final_cons (i : ι) (is : List ι) :
    final step s (i :: is) = final step (step s i).2 is := rfl

@[simp] theorem outputs_nil : outputs step s [] = [] := rfl

@[simp] theorem outputs_cons (i : ι) (is : List ι) :
    outputs step s (i :: is) = (step s i).1 :: outputs step (step s i).2 is := rfl

theorem final_append (is js : List ι) :
    final step s (is ++ js) = final step (final step s is) js := by
  induction is generalizing s with
  | nil => rfl
  | cons i is ih => exact ih (step s i).2

theorem outputs_append (is js : List ι) :
    outputs step s (is ++ js) = outputs step s is ++ outputs step (final step s is) js := by
  induction is generalizing s with
  | nil => rfl
  | cons i is ih =>
    rw [List.cons_append, outputs_cons, ih, outputs_cons, final_cons, List.cons_append]

end Basic

/-- A run meets a property throughout exactly when each of its steps does, in the state that it comes
to. -/
theorem along_iff {step : σ → ι → ο × σ} {P : σ → ι → Prop} {s : σ} {is : List ι} :
    Along step P s is ↔ ∀ before i after, is = before ++ i :: after → P (final step s before) i := by
  constructor
  · rintro h before i after rfl
    induction before generalizing s with
    | nil => exact h.1
    | cons j before ih => exact ih h.2
  · intro h
    induction is generalizing s with
    | nil => trivial
    | cons i is ih =>
      refine ⟨h [] i is rfl, ih fun before j after hsplit => ?_⟩
      exact h (i :: before) j after (by rw [hsplit, List.cons_append])

/-- What one step preserves under a guard holds after every part of a run whose steps all meet the
guard. -/
theorem invariant_along {step : σ → ι → ο × σ} {Inv : σ → Prop} {guard : σ → ι → Prop}
    (hstep : ∀ s i, Inv s → guard s i → Inv (step s i).2) {s : σ} (hs : Inv s) {is js : List ι}
    (hguard : Along step guard s (is ++ js)) : Inv (final step s is) := by
  induction is generalizing s with
  | nil => exact hs
  | cons i is ih => exact ih (hstep s i hs hguard.1) hguard.2

/-- A guard that the run meets, together with a property of its inputs. -/
theorem along_and {step : σ → ι → ο × σ} {P : σ → ι → Prop} {Q : ι → Prop} {s : σ} {is : List ι}
    (hP : Along step P s is) (hQ : ∀ i ∈ is, Q i) : Along step (fun s i => P s i ∧ Q i) s is := by
  induction is generalizing s with
  | nil => trivial
  | cons i is ih =>
    exact ⟨⟨hP.1, hQ i (by simp)⟩, ih hP.2 fun j hj => hQ j (by simp [hj])⟩

/-- What every step preserves holds in every reachable state. -/
theorem invariant_reachable {step : σ → ι → ο × σ} {Inv : σ → Prop}
    (hstep : ∀ s i, Inv s → Inv (step s i).2) {s s' : σ} (hs : Inv s)
    (hreach : Reachable step s s') : Inv s' := by
  obtain ⟨is, rfl⟩ := hreach
  induction is generalizing s with
  | nil => exact hs
  | cons i is ih => exact ih (hstep s i hs)

/-- What every step preserves holds after every run. -/
theorem invariant_final {step : σ → ι → ο × σ} (Inv : σ → Prop)
    (hstep : ∀ s i, Inv s → Inv (step s i).2) {s : σ} (hs : Inv s) (is : List ι) :
    Inv (final step s is) :=
  invariant_reachable hstep hs ⟨is, rfl⟩

/-- A guard that is exact for `Q`: a step that meets it keeps the invariant, one that does not breaks
`Q`.  A run then meets the guard throughout if and only if `Q` holds after every part of it. -/
theorem along_iff_of_exact {step : σ → ι → ο × σ} {Inv Q : σ → Prop} {guard : σ → ι → Prop}
    (hstep : ∀ s i, Inv s → guard s i → Inv (step s i).2) (hInv : ∀ s, Inv s → Q s)
    (hexact : ∀ s i, Inv s → ¬ guard s i → ¬ Q (step s i).2) {s : σ} (hs : Inv s) (is : List ι) :
    Along step guard s is ↔ ∀ before, before <+: is → Q (final step s before) := by
  constructor
  · rintro hguard before ⟨rest, rfl⟩
    exact hInv _ (invariant_along hstep hs hguard)
  · intro hQ
    induction is generalizing s with
    | nil => trivial
    | cons i is ih =>
      have hmeets : guard s i := by
        by_contra hbreaks
        exact hexact s i hs hbreaks (hQ [i] (List.prefix_append [i] is))
      refine ⟨hmeets, ih (hstep s i hs hmeets) fun before hbefore => ?_⟩
      exact hQ (i :: before) (List.prefix_cons_inj i |>.mpr hbefore)

/-- A property of steps that says the same as a guard in every state with the invariant, which a guarded
step keeps, holds throughout the runs that the guard holds throughout. -/
theorem along_iff_guard {step : σ → ι → ο × σ} {Inv : σ → Prop} {P guard : σ → ι → Prop}
    (hstep : ∀ s i, Inv s → guard s i → Inv (step s i).2) (hiff : ∀ s i, Inv s → (P s i ↔ guard s i))
    {s : σ} (hs : Inv s) (is : List ι) : Along step P s is ↔ Along step guard s is := by
  induction is generalizing s with
  | nil => exact Iff.rfl
  | cons i is ih =>
    constructor
    · rintro ⟨hfirst, hrest⟩
      have hguard := (hiff s i hs).mp hfirst
      exact ⟨hguard, (ih (hstep s i hs hguard)).mp hrest⟩
    · rintro ⟨hguard, hrest⟩
      exact ⟨(hiff s i hs).mpr hguard, (ih (hstep s i hs hguard)).mpr hrest⟩

/-- Two properties of steps that say the same in every state with the invariant hold throughout the same
runs. -/
theorem along_congr {step : σ → ι → ο × σ} {Inv : σ → Prop} {P Q : σ → ι → Prop}
    (hstep : ∀ s i, Inv s → Inv (step s i).2) (hiff : ∀ s i, Inv s → (P s i ↔ Q s i)) {s : σ}
    (hs : Inv s) (is : List ι) : Along step P s is ↔ Along step Q s is :=
  along_iff_guard (fun s i hs _ => hstep s i hs) hiff hs is

/-- Two lists that agree in what `f` and `g` read off them. -/
theorem map_eq_map_iff_forall₂ {γ : Type} {f : ι → γ} {g : κ → γ} {is : List ι} {js : List κ} :
    is.map f = js.map g ↔ List.Forall₂ (fun i j => f i = g j) is js := by
  have h : List.Forall₂ (· = ·) (is.map f) (js.map g) ↔
      List.Forall₂ (fun i j => f i = g j) is js := by
    rw [List.forall₂_map_left_iff, List.forall₂_map_right_iff]
  rw [← h, List.forall₂_eq_eq_eq]

/-- Two machines side by side: the second takes only the visible inputs of the first.  If a hidden
input keeps the states related, and a visible one keeps them related and gets related answers from
both, then the visible answers of the first run are related to the answers of the second. -/
theorem visibleOutputs_related {step : σ → ι → ο × σ} {step' : τ → κ → ω × τ} {visible : ι → Bool}
    {guard : σ → ι → Prop} {guard' : τ → κ → Prop} {R : σ → τ → Prop} {Same : ι → κ → Prop}
    {Alike : ο → ω → Prop}
    (hhidden : ∀ s t i, visible i = false → guard s i → R s t → R (step s i).2 t)
    (hvisible : ∀ s t i j, visible i = true → Same i j → guard s i → guard' t j → R s t →
      Alike (step s i).1 (step' t j).1 ∧ R (step s i).2 (step' t j).2)
    {s : σ} {t : τ} (hR : R s t) {is : List ι} {js : List κ}
    (hsame : List.Forall₂ Same (is.filter visible) js) (hguard : Along step guard s is)
    (hguard' : Along step' guard' t js) :
    List.Forall₂ Alike (visibleOutputs step visible s is) (outputs step' t js) := by
  induction is generalizing s t js with
  | nil =>
    cases hsame
    exact .nil
  | cons i is ih =>
    obtain ⟨hfirst, hrest⟩ := hguard
    cases hv : visible i with
    | false =>
      rw [List.filter_cons_of_neg (by simp [hv])] at hsame
      rw [visibleOutputs, hv]
      exact ih (hhidden s t i hv hfirst hR) hsame hrest hguard'
    | true =>
      rw [List.filter_cons_of_pos hv] at hsame
      obtain ⟨j, js', hij, hsame', rfl⟩ := List.forall₂_cons_left_iff.mp hsame
      obtain ⟨halike, hR'⟩ := hvisible s t i j hv hij hfirst hguard'.1 hR
      rw [visibleOutputs, hv, outputs_cons]
      exact .cons halike (ih hR' hsame' hrest hguard'.2)

end Machine

/-! What the steps of a run put into a queue and take out of it, and that they leave the rest of it,
in order. -/

namespace Machine

variable {σ ι ο α β : Type}

/-- What the steps of a run yield, in order. -/
def collect (step : σ → ι → ο × σ) (f : σ → ι → List α) : σ → List ι → List α
  | _, [] => []
  | s, i :: is => f s i ++ collect step f (step s i).2 is

variable (step : σ → ι → ο × σ)

@[simp] theorem collect_nil (f : σ → ι → List α) (s : σ) : collect step f s [] = [] := rfl

theorem collect_cons (f : σ → ι → List α) (s : σ) (i : ι) (is : List ι) :
    collect step f s (i :: is) = f s i ++ collect step f (step s i).2 is := rfl

/-- What holds of all that each step yields holds of all that a run yields. -/
theorem forall_mem_collect {f : σ → ι → List α} {P : α → Prop} (hstep : ∀ s i, ∀ a ∈ f s i, P a)
    {s : σ} {is : List ι} {a : α} (h : a ∈ collect step f s is) : P a := by
  induction is generalizing s with
  | nil => cases h
  | cons i is ih => exact (List.mem_append.mp h).elim (hstep s i a) ih

/-- What every step yields of what it takes, the run yields of what it takes. -/
theorem collect_filterMap {f : σ → ι → List α} {g : σ → ι → List β} {h : α → Option β}
    (hstep : ∀ s i, g s i = (f s i).filterMap h) (s : σ) (is : List ι) :
    collect step g s is = (collect step f s is).filterMap h := by
  induction is generalizing s with
  | nil => rfl
  | cons i is ih => rw [collect_cons, collect_cons, List.filterMap_append, hstep, ih]

/-- When each step takes from the front of the queue and puts at its end, what was in the queue and
what was put in is, in order, what was taken and what is left. -/
theorem fifo {queue : σ → List α} {pushed taken : σ → ι → List α}
    (hstep : ∀ s i, queue s ++ pushed s i = taken s i ++ queue (step s i).2) (s : σ) (is : List ι) :
    queue s ++ collect step pushed s is = collect step taken s is ++ queue (final step s is) := by
  induction is generalizing s with
  | nil => simp
  | cons i is ih =>
    rw [collect_cons, collect_cons, ← List.append_assoc, hstep, List.append_assoc, ih,
      List.append_assoc, final_cons]

/-- When each step adds to the stock what it gains and takes off what it loses, so does the run.  What is
gained and lost is measured by `μ`. -/
theorem conserved {M : Type} [AddCommMonoid M] {stock : σ → M} {μ : List α → M} (hnil : μ [] = 0)
    (happend : ∀ xs ys, μ (xs ++ ys) = μ xs + μ ys) {gained lost : σ → ι → List α}
    (hstep : ∀ s i, stock s + μ (gained s i) = μ (lost s i) + stock (step s i).2) (s : σ)
    (is : List ι) :
    stock s + μ (collect step gained s is) = μ (collect step lost s is) + stock (final step s is) := by
  induction is generalizing s with
  | nil => simp [hnil]
  | cons i is ih =>
    rw [collect_cons, collect_cons, happend, happend, ← add_assoc, hstep, add_assoc, ih, ← add_assoc,
      final_cons]

/-- Two lists that have the same part for each key have the same entries. -/
theorem perm_of_parts {κ : Type} [DecidableEq κ] {f : α → κ} {xs ys : List α}
    (h : ∀ k, xs.filter (fun a => f a = k) = ys.filter fun a => f a = k) : xs.Perm ys := by
  classical
  rw [List.perm_iff_count]
  intro a
  have hcount := congrArg (List.count a) (h (f a))
  rwa [List.count_filter (by simp), List.count_filter (by simp)] at hcount

end Machine
