import Fmofp.Machine.Run

/-! Runs and all that they answered: what every step keeps between the inputs, the answers so far and the
state, what a part of the state makes of the inputs that concern it, and when a state keeps account of what was
answered. -/

namespace Machine

variable {σ ι α : Type} {step : σ → ι → List α × σ}

/-- All the answers of a run, in order. -/
def answers (step : σ → ι → List α × σ) (s : σ) (is : List ι) : List α := (outputs step s is).flatten

@[simp] theorem answers_nil (s : σ) : answers step s [] = [] := rfl

theorem answers_concat (s : σ) (is : List ι) (i : ι) :
    answers step s (is ++ [i]) = answers step s is ++ (step (final step s is) i).1 := by
  simp [answers, outputs_append]

theorem final_concat (s : σ) (is : List ι) (i : ι) :
    final step s (is ++ [i]) = (step (final step s is) i).2 := by
  simp [final_append]

/-- What every step keeps between the inputs, the answers so far and the state holds after every run. -/
theorem history_induction (P : List ι → List α → σ → Prop)
    (hstep : ∀ is as s i, P is as s → P (is ++ [i]) (as ++ (step s i).1) (step s i).2) {s : σ}
    (hs : P [] [] s) (is : List ι) : P is (answers step s is) (final step s is) := by
  induction is using List.reverseRecOn with
  | nil => exact hs
  | append_singleton is i ih =>
    rw [answers_concat, final_concat]
    exact hstep is _ _ i ih

/-- A part of the state that only the visible inputs change, each as a machine of its own that has just that
part: whatever the other inputs are, the part and the visible answers are those of that machine. -/
theorem projected_run {τ ο : Type} {step : σ → ι → ο × σ} {own : τ → ι → ο × τ} {visible : ι → Bool}
    (proj : σ → τ) (Inv : σ → Prop) (hinv : ∀ s i, Inv s → Inv (step s i).2)
    (hhidden : ∀ s i, visible i = false → proj (step s i).2 = proj s)
    (hvisible : ∀ s i, Inv s → visible i = true →
      (step s i).1 = (own (proj s) i).1 ∧ proj (step s i).2 = (own (proj s) i).2)
    {s : σ} (hs : Inv s) (is : List ι) :
    visibleOutputs step visible s is = outputs own (proj s) (is.filter visible) ∧
      proj (final step s is) = final own (proj s) (is.filter visible) := by
  induction is generalizing s with
  | nil => exact ⟨rfl, rfl⟩
  | cons i is ih =>
    obtain ⟨hanswers, hpart⟩ := ih (hinv s i hs)
    cases hi : visible i with
    | false =>
      rw [hhidden s i hi] at hanswers hpart
      rw [List.filter_cons_of_neg (by simp [hi]), visibleOutputs, hi, final_cons]
      exact ⟨hanswers, hpart⟩
    | true =>
      obtain ⟨hanswer, hnext⟩ := hvisible s i hs hi
      rw [hnext] at hanswers hpart
      rw [List.filter_cons_of_pos hi, visibleOutputs, hi, outputs_cons, final_cons, final_cons, hanswer]
      exact ⟨by rw [if_pos rfl, hanswers], hpart⟩

/-- Accounts that the state keeps of the answers, and that no step keeps short.  If a step that misses the guard
puts too much into one of them, then after a run all the accounts are what was answered if and only if each step
of the run meets the guard: what is too much in an account stays in it. -/
theorem accounts_iff_along {κ β : Type} (held : σ → κ → List β) (told : List α → κ → List β)
    (guard : σ → ι → Prop) (hnil : ∀ k, told [] k = [])
    (happend : ∀ as bs k, told (as ++ bs) k = told as k ++ told bs k)
    (hexact : ∀ s i, guard s i → ∀ k, held (step s i).2 k = held s k ++ told (step s i).1 k)
    (hmore : ∀ s i k, (held s k).length + (told (step s i).1 k).length ≤ (held (step s i).2 k).length)
    (hexcess : ∀ s i, ¬guard s i →
      ∃ k, (held s k).length + (told (step s i).1 k).length < (held (step s i).2 k).length)
    (s : σ) (is : List ι) :
    (∀ k, held (final step s is) k = held s k ++ told (answers step s is) k) ↔ Along step guard s is := by
  have hcons : ∀ (s : σ) (i : ι) (is : List ι) (k : κ), told (answers step s (i :: is)) k =
      told (step s i).1 k ++ told (answers step (step s i).2 is) k := by
    intro s i is k
    rw [← happend]
    rfl
  have hgrows : ∀ (is : List ι) (s : σ) (k : κ),
      (held s k).length + (told (answers step s is) k).length ≤ (held (final step s is) k).length := by
    intro is
    induction is with
    | nil =>
      intro s k
      simp [hnil]
    | cons i is ih =>
      intro s k
      have hfirst := hmore s i k
      have hrest := ih (step s i).2 k
      rw [hcons, List.length_append, final_cons]
      omega
  induction is generalizing s with
  | nil => simp [hnil, Along]
  | cons i is ih =>
    constructor
    · intro hkept
      have hguard : guard s i := by
        by_contra hmisses
        obtain ⟨k, hk⟩ := hexcess s i hmisses
        have hrest := hgrows is (step s i).2 k
        have hlength := congrArg List.length (hkept k)
        rw [hcons, List.length_append, List.length_append, final_cons] at hlength
        omega
      refine ⟨hguard, (ih (step s i).2).mp fun k => ?_⟩
      have hk := hkept k
      rwa [hcons, final_cons, ← List.append_assoc, ← hexact s i hguard k] at hk
    · rintro ⟨hguard, hrest⟩ k
      rw [hcons, final_cons, (ih (step s i).2).mpr hrest k, hexact s i hguard k, List.append_assoc]

end Machine
