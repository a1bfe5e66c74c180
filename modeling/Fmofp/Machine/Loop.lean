import Mathlib

/-! `while` loops: a body that gives the next state, or nothing where the condition of the loop fails. -/

namespace Machine

variable {σ : Type}

/-- At most `fuel` rounds of the loop: nothing if it is still running then. -/
def whileLoop (body : σ → Option σ) : ℕ → σ → Option σ
  | 0, s => if (body s).isNone then some s else none
  | fuel + 1, s => match body s with
    | none => some s
    | some s' => whileLoop body fuel s'

theorem whileLoop_done {body : σ → Option σ} {s : σ} (h : body s = none) (fuel : ℕ) :
    whileLoop body fuel s = some s := by
  cases fuel with
  | zero => rw [whileLoop, h]; rfl
  | succ fuel => rw [whileLoop, h]

/-- A loop whose rounds keep the invariant and make the variant smaller ends within the variant. -/
theorem whileLoop_invariant {body : σ → Option σ} (Inv : σ → Prop) (variant : σ → ℕ)
    (hround : ∀ s s', Inv s → body s = some s' → Inv s' ∧ variant s' < variant s) {s : σ} (hs : Inv s) {fuel : ℕ}
    (hfuel : variant s ≤ fuel) :
    ∃ s', whileLoop body fuel s = some s' ∧ Inv s' ∧ body s' = none := by
  induction fuel generalizing s with
  | zero =>
    cases hbody : body s with
    | none => exact ⟨s, whileLoop_done hbody 0, hs, hbody⟩
    | some s' =>
      have hless := (hround s s' hs hbody).2
      omega
  | succ fuel ih =>
    cases hbody : body s with
    | none => exact ⟨s, whileLoop_done hbody (fuel + 1), hs, hbody⟩
    | some s' =>
      obtain ⟨hinv, hless⟩ := hround s s' hs hbody
      obtain ⟨last, hrun, hlast⟩ := ih hinv (by omega)
      refine ⟨last, ?_, hlast⟩
      rw [whileLoop, hbody]
      exact hrun

end Machine

/-! Streaks of failures: the outcomes of a loop, latest first, each a success or the time of a failure. -/

namespace Machine

variable {τ : Type}

/-- The time of the first failure of the unbroken streak that the outcomes end in, if they do. -/
def streakStart (outcomes : List (Option τ)) : Option τ :=
  ((outcomes.takeWhile Option.isSome).getLast?).join

@[simp] theorem streakStart_nil : streakStart ([] : List (Option τ)) = none := rfl

@[simp] theorem streakStart_success (outcomes : List (Option τ)) :
    streakStart (none :: outcomes) = none := rfl

/-- A failure goes on with the streak, or begins one. -/
theorem streakStart_failure (t : τ) (outcomes : List (Option τ)) :
    streakStart (some t :: outcomes) = some ((streakStart outcomes).getD t) := by
  unfold streakStart
  rw [List.takeWhile_cons_of_pos (by rfl)]
  cases hstreak : outcomes.takeWhile Option.isSome with
  | nil => rfl
  | cons o rest =>
    rw [List.getLast?_cons_cons]
    have hmem := List.getLast_mem (List.cons_ne_nil o rest)
    have hsome : ((o :: rest).getLast (List.cons_ne_nil o rest)).isSome = true := by
      apply @List.mem_takeWhile_imp _ _ outcomes
      rw [hstreak]
      exact hmem
    rw [List.getLast?_eq_some_getLast (List.cons_ne_nil o rest)]
    obtain ⟨s, hs⟩ := Option.isSome_iff_exists.mp hsome
    rw [hs]
    rfl

/-- There is a streak exactly when the latest outcome is a failure. -/
theorem streakStart_isSome_iff (outcomes : List (Option τ)) :
    (streakStart outcomes).isSome = true ↔ ∃ t, outcomes.head? = some (some t) := by
  match outcomes with
  | [] => simp
  | none :: rest => simp
  | some t :: rest => simp [streakStart_failure]

end Machine

/-! Folds whose steps may fail: the fold succeeds exactly when each step, from the state that the steps
before it leave, is one that succeeds. -/

namespace Machine

variable {α β ε : Type}

/-- Every step of the fold by `g` passes the check in the state it is taken from. -/
def along (check : α → β → Bool) (g : α → β → α) : α → List β → Bool
  | _, [] => true
  | a, b :: bs => check a b && along check g (g a b) bs

/-- The checks along two lists, the second from where the first ends. -/
theorem along_append (check : α → β → Bool) (g : α → β → α) (a : α) (bs cs : List β) :
    along check g a (bs ++ cs) = (along check g a bs && along check g (bs.foldl g a) cs) := by
  induction bs generalizing a with
  | nil => rw [List.nil_append, along, Bool.true_and, List.foldl_nil]
  | cons b bs ih => rw [List.cons_append, along, ih, along, List.foldl_cons, Bool.and_assoc]

variable {check : α → β → Bool} {f : α → β → Except ε α} {g : α → β → α}

theorem foldlM_of_along (hok : ∀ a b, check a b = true → f a b = .ok (g a b)) {a : α} {bs : List β}
    (h : along check g a bs = true) : bs.foldlM f a = .ok (bs.foldl g a) := by
  induction bs generalizing a with
  | nil => rfl
  | cons b bs ih =>
    rw [along, Bool.and_eq_true] at h
    rw [List.foldlM_cons, hok a b h.1, List.foldl_cons]
    exact ih h.2

theorem foldlM_error_of_along (hok : ∀ a b, check a b = true → f a b = .ok (g a b))
    (herror : ∀ a b, check a b = false → ∃ e, f a b = .error e) {a : α} {bs : List β}
    (h : along check g a bs = false) : ∃ e, bs.foldlM f a = .error e := by
  induction bs generalizing a with
  | nil => cases h
  | cons b bs ih =>
    rw [List.foldlM_cons]
    cases hcheck : check a b with
    | true =>
      rw [along, hcheck, Bool.true_and] at h
      rw [hok a b hcheck]
      exact ih h
    | false =>
      obtain ⟨e, he⟩ := herror a b hcheck
      exact ⟨e, by rw [he]; rfl⟩

/-- A check that holds wherever a prefix of the list can lead holds all along. -/
theorem along_of_prefixes {a : α} {bs : List β}
    (h : ∀ front b back, bs = front ++ b :: back → check (front.foldl g a) b = true) :
    along check g a bs = true := by
  induction bs generalizing a with
  | nil => rfl
  | cons b bs ih =>
    rw [along, Bool.and_eq_true]
    refine ⟨h [] b bs rfl, ih fun front c back hsplit => ?_⟩
    have hfront := h (b :: front) c back (by rw [hsplit, List.cons_append])
    rwa [List.foldl_cons] at hfront

end Machine
