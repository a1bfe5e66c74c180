import Mathlib

/-! Insertion into a list that is sorted by a key, behind all elements with a key that is not greater: the
list stays sorted, and nothing is lost. -/

namespace Machine

variable {α K : Type} [LinearOrder K] (key : α → K)

def SortedBy (l : List α) : Prop := l.Pairwise fun a b => key a ≤ key b

/-- `x` goes before the first element with a greater key. -/
def insertByKey (l : List α) (x : α) : List α :=
  l.insertIdx (l.findIdx fun a => decide (key x < key a)) x

variable {key}

theorem insertByKey_cons (a : α) (l : List α) (x : α) :
    insertByKey key (a :: l) x =
      if key x < key a then x :: a :: l else a :: insertByKey key l x := by
  rw [insertByKey, List.findIdx_cons]
  by_cases h : key x < key a
  · rw [decide_eq_true h, if_pos h]
    rfl
  · rw [decide_eq_false h, if_neg h]
    rfl

theorem insertByKey_perm (l : List α) (x : α) : (insertByKey key l x).Perm (x :: l) :=
  List.perm_insertIdx x l List.findIdx_le_length

theorem SortedBy.insertByKey {l : List α} (h : SortedBy key l) (x : α) :
    SortedBy key (insertByKey key l x) := by
  induction l with
  | nil => exact List.pairwise_singleton _ x
  | cons a l ih =>
    obtain ⟨hhead, htail⟩ := List.pairwise_cons.mp h
    rw [insertByKey_cons]
    split_ifs with hx
    · refine List.pairwise_cons.mpr ⟨fun b hb => ?_, h⟩
      rcases List.mem_cons.mp hb with rfl | hb
      · exact hx.le
      · exact hx.le.trans (hhead b hb)
    · refine List.pairwise_cons.mpr ⟨fun b hb => ?_, ih htail⟩
      rcases List.mem_cons.mp ((insertByKey_perm l x).mem_iff.mp hb) with rfl | hb
      · exact not_lt.mp hx
      · exact hhead b hb

theorem SortedBy.foldl_insertByKey {l : List α} (h : SortedBy key l) (xs : List α) :
    SortedBy key (xs.foldl (Machine.insertByKey key) l) := by
  induction xs generalizing l with
  | nil => exact h
  | cons x xs ih => exact ih (h.insertByKey x)

theorem foldl_insertByKey_perm (l xs : List α) :
    (xs.foldl (insertByKey key) l).Perm (l ++ xs) := by
  induction xs generalizing l with
  | nil => rw [List.append_nil, List.foldl_nil]
  | cons x xs ih =>
    have hx : (insertByKey key l x ++ xs).Perm (x :: l ++ xs) := (insertByKey_perm l x).append_right xs
    exact (ih _).trans (hx.trans List.perm_middle.symm)

/-- The stable sort by a key. -/
def sortByKey (key : α → K) (l : List α) : List α := l.mergeSort fun a b => decide (key a ≤ key b)

theorem sortByKey_perm (l : List α) : (sortByKey key l).Perm l := List.mergeSort_perm l _

theorem sortedBy_sortByKey (l : List α) : SortedBy key (sortByKey key l) := by
  have h : (sortByKey key l).Pairwise fun a b => decide (key a ≤ key b) = true := by
    refine List.pairwise_mergeSort (fun a b c hab hbc => ?_) (fun a b => ?_) l
    · simp only [decide_eq_true_eq] at hab hbc ⊢
      exact hab.trans hbc
    · simp only [Bool.or_eq_true, decide_eq_true_eq]
      exact le_total _ _
  exact h.imp fun hab => of_decide_eq_true hab

/-- A list that is sorted already stays as it is. -/
theorem SortedBy.sortByKey_eq {l : List α} (h : SortedBy key l) : sortByKey key l = l :=
  List.mergeSort_of_pairwise (h.imp fun hab => decide_eq_true hab)

end Machine

/-! A list of distinct items with a position in it: what inserting and removing an item does to the item
at the position and to those before it. -/

namespace Machine

variable {α : Type}

/-- `x` put before the item at position `p`. -/
def insertAt (l : List α) (p : ℕ) (x : α) : List α := l.take p ++ x :: l.drop p

theorem insertAt_perm (l : List α) (p : ℕ) (x : α) : (insertAt l p x).Perm (x :: l) := by
  rw [insertAt]
  refine List.perm_middle.trans (List.Perm.cons x ?_)
  rw [List.take_append_drop]

theorem nodup_insertAt {l : List α} {p : ℕ} {x : α} : (insertAt l p x).Nodup ↔ x ∉ l ∧ l.Nodup := by
  rw [(insertAt_perm l p x).nodup_iff, List.nodup_cons]

theorem length_insertAt (l : List α) (p : ℕ) (x : α) : (insertAt l p x).length = l.length + 1 := by
  rw [(insertAt_perm l p x).length_eq, List.length_cons]

theorem map_insertAt {β : Type} (f : α → β) (l : List α) (p : ℕ) (x : α) :
    (insertAt l p x).map f = insertAt (l.map f) p (f x) := by
  rw [insertAt, insertAt, List.map_append, List.map_cons, List.map_take, List.map_drop]

theorem take_insertAt {l : List α} {a p : ℕ} (hp : p ≤ l.length) (ha : a ≤ p) (x : α) :
    (insertAt l p x).take a = l.take a := by
  have hlength : (l.take p).length = p := by
    rw [List.length_take]
    omega
  rw [insertAt, List.take_append_of_le_length (by omega), List.take_take]
  congr 1
  omega

theorem getElem?_insertAt_of_lt {l : List α} {a p : ℕ} (hp : p ≤ l.length) (ha : a < p) (x : α) :
    (insertAt l p x)[a]? = l[a]? := by
  have hlength : (l.take p).length = p := by
    rw [List.length_take]
    omega
  rw [insertAt, List.getElem?_append_left (by omega), List.getElem?_take_of_lt ha]

/-- Behind the new item every item moves up by one. -/
theorem getElem?_insertAt_of_gt {l : List α} {a p : ℕ} (hp : p ≤ l.length) (ha : p ≤ a) (x : α) :
    (insertAt l p x)[a + 1]? = l[a]? := by
  have hlength : (l.take p).length = p := by
    rw [List.length_take]
    omega
  rw [insertAt, List.getElem?_append_right (by omega), hlength,
    show a + 1 - p = (a - p) + 1 by omega, List.getElem?_cons_succ, List.getElem?_drop]
  congr 1
  omega

/-- In a list of distinct items no item stands at two positions. -/
theorem ne_of_nodup {l : List α} (hl : l.Nodup) {a b : ℕ} (hb : b < l.length) (hne : a ≠ b) :
    l[a]? ≠ l[b]? := by
  intro h
  rw [List.getElem?_eq_getElem hb] at h
  obtain ⟨ha, heq⟩ := List.getElem?_eq_some_iff.mp h
  exact hne ((List.Nodup.getElem_inj_iff hl).mp heq)

/-- The item at a position is not one of those before it. -/
theorem notMem_take_of_nodup {l : List α} (hl : l.Nodup) {a : ℕ} {x : α} (hx : l[a]? = some x) :
    x ∉ l.take a := by
  intro hmem
  obtain ⟨b, hb, hget⟩ := List.mem_take_iff_getElem.mp hmem
  obtain ⟨ha, hat⟩ := List.getElem?_eq_some_iff.mp hx
  have heq := (List.Nodup.getElem_inj_iff hl).mp (hget.trans hat.symm)
  omega

/-! ### An item taken out -/

theorem getElem?_removed_of_lt {before after : List α} {x : α} {a : ℕ} (ha : a < before.length) :
    (before ++ after)[a]? = (before ++ x :: after)[a]? := by
  rw [List.getElem?_append_left ha, List.getElem?_append_left ha]

theorem getElem?_removed_of_le {before after : List α} {x : α} {a : ℕ} (ha : before.length ≤ a) :
    (before ++ after)[a]? = (before ++ x :: after)[a + 1]? := by
  rw [List.getElem?_append_right ha, List.getElem?_append_right (by omega),
    show a + 1 - before.length = (a - before.length) + 1 by omega, List.getElem?_cons_succ]

theorem take_removed_of_le {before : List α} (after : List α) (x : α) {a : ℕ} (ha : a ≤ before.length) :
    (before ++ after).take a = (before ++ x :: after).take a := by
  rw [List.take_append_of_le_length ha, List.take_append_of_le_length ha]

theorem mem_take_removed_of_lt {before after : List α} {x y : α} {a : ℕ} (ha : before.length ≤ a)
    (hy : y ≠ x) : y ∈ (before ++ after).take a ↔ y ∈ (before ++ x :: after).take (a + 1) := by
  have ha' : before.length ≤ a + 1 := by omega
  rw [List.take_append, List.take_append, List.take_of_length_le ha, List.take_of_length_le ha', show a + 1 - before.length = (a - before.length) + 1 by omega,
    List.take_succ_cons, List.mem_append, List.mem_append, List.mem_cons, or_iff_right hy]

variable [DecidableEq α]

/-- A list of distinct items, split at one of them: removing it joins the two parts. -/
theorem exists_split_of_nodup {l : List α} (hl : l.Nodup) {x : α} (hx : x ∈ l) :
    ∃ before after, l = before ++ x :: after ∧ (l.filter fun y => y ≠ x) = before ++ after := by
  obtain ⟨before, after, rfl⟩ := List.append_of_mem hx
  have hmiddle := List.perm_middle.nodup_iff.mp hl
  rw [List.nodup_cons, List.mem_append, not_or] at hmiddle
  refine ⟨before, after, rfl, ?_⟩
  rw [List.filter_append, List.filter_cons_of_neg (by simp)]
  have hkeep : ∀ part : List α, x ∉ part → (part.filter fun y => y ≠ x) = part := by
    intro part hpart
    apply List.filter_eq_self.mpr
    intro y hy
    exact decide_eq_true fun h => hpart (h ▸ hy)
  rw [hkeep before hmiddle.1.1, hkeep after hmiddle.1.2]

end Machine
