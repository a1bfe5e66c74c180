import Mathlib

/-! Python dictionaries as lists of entries in insertion order: reading, writing, removing and
merging, with the lemmas that say what a key reads after each. -/

namespace Python

/-- A Python dictionary: its entries, in insertion order. -/
abbrev Dict (κ α : Type) := List (κ × α)

namespace Dict

variable {κ α : Type} [DecidableEq κ]

/-- `d.get(k)`: the value of the first entry for `k`. -/
def get? : Dict κ α → κ → Option α
  | [], _ => none
  | (k', v) :: rest, k => if k' = k then some v else get? rest k

/-- `k in d`. -/
def has (d : Dict κ α) (k : κ) : Bool := (get? d k).isSome

/-- `d.get(k, default)`. -/
def getD (d : Dict κ α) (k : κ) (default : α) : α := (get? d k).getD default

/-- `d[k] = v`: a present key keeps its place, a new one goes to the end. -/
def set : Dict κ α → κ → α → Dict κ α
  | [], k, v => [(k, v)]
  | (k', v') :: rest, k, v => if k' = k then (k, v) :: rest else (k', v') :: set rest k v

/-- `del d[k]`. -/
def erase (d : Dict κ α) (k : κ) : Dict κ α := d.filter fun e => decide (e.1 ≠ k)

/-- `d.update(e)`. -/
def update (d e : Dict κ α) : Dict κ α := e.foldl (fun acc kv => set acc kv.1 kv.2) d

/-- Every entry for `k` with its value changed by `f`. -/
def modify (d : Dict κ α) (k : κ) (f : α → α) : Dict κ α :=
  d.map fun e => if e.1 = k then (e.1, f e.2) else e

@[simp] theorem get?_nil (k : κ) : get? ([] : Dict κ α) k = none := rfl

theorem get?_cons (k' : κ) (v : α) (rest : Dict κ α) (k : κ) :
    get? ((k', v) :: rest) k = if k' = k then some v else get? rest k := rfl

theorem get?_append (d e : Dict κ α) (k : κ) : get? (d ++ e) k = (get? d k).or (get? e k) := by
  induction d with
  | nil => rfl
  | cons kv rest ih =>
    obtain ⟨k', v⟩ := kv
    by_cases hk : k' = k <;> simp [get?, hk, ih]

/-- A key that no entry has reads nothing. -/
theorem get?_eq_none {d : Dict κ α} {k : κ} (h : ∀ e ∈ d, e.1 ≠ k) : get? d k = none := by
  induction d with
  | nil => rfl
  | cons kv rest ih =>
    obtain ⟨k', v⟩ := kv
    have hk : k' ≠ k := h (k', v) (by simp)
    simp only [get?, hk, if_false]
    exact ih fun e he => h e (by simp [he])

theorem get?_set (d : Dict κ α) (k j : κ) (v : α) :
    get? (set d k v) j = if k = j then some v else get? d j := by
  induction d with
  | nil => rfl
  | cons e rest ih =>
    obtain ⟨k', v'⟩ := e
    by_cases hk : k' = k
    · subst hk
      simp only [set, if_true, get?]
      split <;> rfl
    · simp only [set, hk, if_false, get?, ih]
      by_cases hj : k' = j
      · subst hj
        simp [Ne.symm hk]
      · simp [hj]

@[simp] theorem get?_set_self (d : Dict κ α) (k : κ) (v : α) : get? (set d k v) k = some v := by
  simp [get?_set]

theorem get?_set_ne (d : Dict κ α) {k j : κ} (v : α) (h : k ≠ j) :
    get? (set d k v) j = get? d j := by
  simp [get?_set, h]

/-- An entry after a write is the written one or one that was there. -/
theorem mem_set {d : Dict κ α} {k : κ} {v : α} {e : κ × α} (h : e ∈ set d k v) :
    e = (k, v) ∨ e ∈ d := by
  induction d with
  | nil => exact .inl (List.mem_singleton.mp h)
  | cons e' rest ih =>
    obtain ⟨k', v'⟩ := e'
    rw [set] at h
    split_ifs at h
    · exact (List.mem_cons.mp h).imp_right fun h => List.mem_cons_of_mem _ h
    · rcases List.mem_cons.mp h with h | h
      · exact .inr (h ▸ List.mem_cons_self)
      · exact (ih h).imp_right fun h => List.mem_cons_of_mem _ h

theorem nodup_keys_set {d : Dict κ α} (h : (d.map Prod.fst).Nodup) (k : κ) (v : α) :
    ((set d k v).map Prod.fst).Nodup := by
  induction d with
  | nil => exact List.nodup_singleton k
  | cons e rest ih =>
    obtain ⟨k', v'⟩ := e
    rw [List.map_cons, List.nodup_cons] at h
    rw [set]
    split_ifs with hk
    · rw [List.map_cons, List.nodup_cons, ← hk]
      exact h
    · rw [List.map_cons, List.nodup_cons]
      refine ⟨fun hmem => ?_, ih h.2⟩
      obtain ⟨e, he, hkey⟩ := List.mem_map.mp hmem
      rcases mem_set he with rfl | he
      · exact hk hkey.symm
      · exact h.1 (hkey ▸ List.mem_map_of_mem he)

theorem nodup_keys_erase {d : Dict κ α} (h : (d.map Prod.fst).Nodup) (k : κ) :
    ((erase d k).map Prod.fst).Nodup :=
  h.sublist (List.filter_sublist.map Prod.fst)

theorem get?_filter (d : Dict κ α) (p : κ → Bool) (j : κ) :
    get? (d.filter fun e => p e.1) j = if p j then get? d j else none := by
  induction d with
  | nil => simp
  | cons e rest ih =>
    obtain ⟨k, v⟩ := e
    by_cases hk : p k
    · simp only [List.filter_cons, hk, if_true, get?, ih]
      by_cases hkj : k = j
      · subst hkj
        simp [hk]
      · simp [hkj]
    · simp only [List.filter_cons, hk, Bool.false_eq_true, if_false, get?, ih]
      by_cases hkj : k = j
      · subst hkj
        simp [hk]
      · simp [hkj]

theorem get?_erase (d : Dict κ α) (k j : κ) :
    get? (erase d k) j = if k = j then none else get? d j := by
  unfold erase
  rw [get?_filter d (fun i => decide (i ≠ k)) j]
  by_cases h : k = j
  · simp [h]
  · simp [h, Ne.symm h]

@[simp] theorem get?_erase_self (d : Dict κ α) (k : κ) : get? (erase d k) k = none := by
  simp [get?_erase]

theorem get?_erase_ne (d : Dict κ α) {k j : κ} (h : k ≠ j) : get? (erase d k) j = get? d j := by
  simp [get?_erase, h]

/-- A list of entries, read from its last entry for `k` back. -/
theorem get?_update (d e : Dict κ α) (k : κ) :
    get? (update d e) k = (get? e.reverse k).or (get? d k) := by
  induction e generalizing d with
  | nil => rfl
  | cons kv rest ih =>
    obtain ⟨k', v⟩ := kv
    show get? (update (set d k' v) rest) k = _
    rw [ih, List.reverse_cons, get?_append, get?_set, Option.or_assoc]
    by_cases hk : k' = k <;> simp [get?, hk]

/-- What a key reads is an entry of it. -/
theorem mem_of_get?_eq_some {d : Dict κ α} {k : κ} {v : α} (h : get? d k = some v) :
    (k, v) ∈ d := by
  induction d with
  | nil => simp at h
  | cons e rest ih =>
    obtain ⟨k', v'⟩ := e
    by_cases hk : k' = k
    · subst hk
      simp only [get?, if_true, Option.some.injEq] at h
      simp [h]
    · simp only [get?, hk, if_false] at h
      exact List.mem_cons_of_mem _ (ih h)

/-- With one entry for each key, an entry is what its key reads. -/
theorem get?_of_mem {d : Dict κ α} (h : (d.map Prod.fst).Nodup) {k : κ} {v : α} (hmem : (k, v) ∈ d) :
    get? d k = some v := by
  induction d with
  | nil => simp at hmem
  | cons e rest ih =>
    obtain ⟨k', v'⟩ := e
    rw [List.map_cons, List.nodup_cons] at h
    rcases List.mem_cons.mp hmem with heq | hmem
    · cases heq
      simp [get?]
    · have hk : k' ≠ k := by
        rintro rfl
        exact h.1 (List.mem_map.mpr ⟨_, hmem, rfl⟩)
      rw [get?, if_neg hk]
      exact ih h.2 hmem

/-- With one entry for each key, the order of the entries plays no part in reading. -/
theorem get?_perm {d e : Dict κ α} (h : d.Perm e) (hd : (d.map Prod.fst).Nodup) (k : κ) :
    get? d k = get? e k := by
  have he : (e.map Prod.fst).Nodup := (h.map Prod.fst).nodup_iff.mp hd
  cases hk : get? e k with
  | some v => exact get?_of_mem hd (h.mem_iff.mpr (mem_of_get?_eq_some hk))
  | none =>
    cases hk' : get? d k with
    | none => rfl
    | some v =>
      have hv := get?_of_mem he (h.mem_iff.mp (mem_of_get?_eq_some hk'))
      rw [hk] at hv
      cases hv

/-- Keys renamed by a function that takes no other key of the dictionary to `f k`. -/
theorem get?_map_key {ι : Type} [DecidableEq ι] (d : Dict κ α) (f : κ → ι) {k : κ}
    (h : ∀ e ∈ d, f e.1 = f k → e.1 = k) :
    get? (d.map fun e => (f e.1, e.2)) (f k) = get? d k := by
  induction d with
  | nil => rfl
  | cons e rest ih =>
    obtain ⟨k', v⟩ := e
    have hrest := ih fun e he => h e (List.mem_cons_of_mem _ he)
    by_cases hk : k' = k
    · subst hk
      simp [get?]
    · have hf : f k' ≠ f k := fun hf => hk (h (k', v) (by simp) hf)
      simp only [List.map_cons, get?, hk, hf, if_false]
      exact hrest

theorem erase_cons (k' : κ) (v : α) (rest : Dict κ α) (k : κ) :
    erase ((k', v) :: rest) k = if k' = k then erase rest k else (k', v) :: erase rest k := by
  by_cases hk : k' = k <;> simp [erase, hk]

theorem erase_set_ne (d : Dict κ α) {k j : κ} (v : α) (h : k ≠ j) :
    erase (set d k v) j = set (erase d j) k v := by
  induction d with
  | nil => simp [set, erase, h]
  | cons e rest ih =>
    obtain ⟨k', v'⟩ := e
    by_cases hk : k' = k
    · subst hk
      simp [set, erase_cons, h]
    · rw [set, if_neg hk, erase_cons, erase_cons, ih]
      by_cases hj : k' = j
      · rw [if_pos hj, if_pos hj]
      · rw [if_neg hj, if_neg hj, set, if_neg hk]

@[simp] theorem erase_set_self (d : Dict κ α) (k : κ) (v : α) : erase (set d k v) k = erase d k := by
  induction d with
  | nil => simp [set, erase]
  | cons e rest ih =>
    obtain ⟨k', v'⟩ := e
    by_cases hk : k' = k <;> simp [set, erase_cons, hk, ih]

@[simp] theorem erase_erase_self (d : Dict κ α) (k : κ) : erase (erase d k) k = erase d k := by
  simp [erase, List.filter_filter]

theorem erase_update (d e : Dict κ α) (k : κ) :
    erase (update d e) k = update (erase d k) (erase e k) := by
  induction e generalizing d with
  | nil => rfl
  | cons kv rest ih =>
    obtain ⟨k', v⟩ := kv
    show erase (update (set d k' v) rest) k = _
    rw [ih, erase_cons]
    by_cases hk : k' = k
    · subst hk
      simp
    · rw [erase_set_ne d v hk, if_neg hk]
      rfl

theorem modify_cons (k' : κ) (v : α) (rest : Dict κ α) (k : κ) (f : α → α) :
    modify ((k', v) :: rest) k f = (k', if k' = k then f v else v) :: modify rest k f := by
  by_cases hk : k' = k <;> simp [modify, hk]

theorem get?_modify (d : Dict κ α) (k j : κ) (f : α → α) :
    get? (modify d k f) j = if k = j then (get? d j).map f else get? d j := by
  induction d with
  | nil => simp [modify]
  | cons e rest ih =>
    obtain ⟨k', v⟩ := e
    rw [modify_cons]
    by_cases hj : k' = j
    · subst hj
      by_cases hk : k' = k
      · simp [get?, hk]
      · simp [get?, hk, Ne.symm hk]
    · simp [get?, hj, ih]

theorem modify_set (d : Dict κ α) (k j : κ) (v : α) (f : α → α) :
    modify (set d j v) k f = set (modify d k f) j (if j = k then f v else v) := by
  induction d with
  | nil => by_cases hj : j = k <;> simp [set, modify, hj]
  | cons e rest ih =>
    obtain ⟨k', v'⟩ := e
    by_cases hk : k' = j
    · subst hk
      simp [set, modify_cons]
    · simp [set, modify_cons, hk, ih]

theorem modify_modify (d : Dict κ α) (k : κ) (f g : α → α) :
    modify (modify d k f) k g = modify d k (g ∘ f) := by
  simp only [modify, List.map_map]
  refine List.map_congr_left fun e _ => ?_
  by_cases hk : e.1 = k <;> simp [hk]

theorem has_iff {d : Dict κ α} {k : κ} : has d k = true ↔ ∃ v, get? d k = some v := by
  simp [has, Option.isSome_iff_exists]

theorem has_of_mem {d : Dict κ α} {e : κ × α} (h : e ∈ d) : has d e.1 = true := by
  induction d with
  | nil => cases h
  | cons e' rest ih =>
    obtain ⟨k', v'⟩ := e'
    rw [has, get?_cons]
    split_ifs with hk
    · rfl
    · rcases List.mem_cons.mp h with rfl | h
      · exact absurd rfl hk
      · exact ih h

theorem has_set_of_has {d : Dict κ α} {j : κ} (h : has d j = true) (k : κ) (v : α) :
    has (set d k v) j = true := by
  unfold has at h ⊢
  rw [get?_set]
  split
  · rfl
  · exact h

theorem getD_of_get? {d : Dict κ α} {k : κ} {v : α} (h : get? d k = some v) (default : α) :
    getD d k default = v := by
  rw [getD, h, Option.getD_some]

theorem getD_set_self (d : Dict κ α) (k : κ) (v default : α) : getD (set d k v) k default = v := by
  rw [getD, get?_set_self, Option.getD_some]

theorem getD_set_ne (d : Dict κ α) {k j : κ} (h : k ≠ j) (v default : α) :
    getD (set d k v) j default = getD d j default := by
  rw [getD, get?_set_ne d v h, getD]

theorem has_eq_false {d : Dict κ α} {k : κ} : has d k = false ↔ get? d k = none := by
  simp [has]

theorem get?_eq_none_iff {d : Dict κ α} {k : κ} : get? d k = none ↔ k ∉ d.map Prod.fst := by
  constructor
  · intro h hmem
    obtain ⟨e, he, rfl⟩ := List.mem_map.mp hmem
    have hhas := has_of_mem he
    rw [has, h] at hhas
    cases hhas
  · intro h
    apply get?_eq_none
    rintro e he rfl
    exact h (List.mem_map_of_mem he)

/-- A dictionary with its values changed by `f`. -/
theorem get?_map_value {β : Type} (d : Dict κ α) (f : α → β) (k : κ) :
    get? (d.map fun e => (e.1, f e.2)) k = (get? d k).map f := by
  induction d with
  | nil => rfl
  | cons e rest ih =>
    obtain ⟨k', v⟩ := e
    rw [List.map_cons, get?_cons, get?_cons, ih]
    split_ifs <;> rfl

/-- A write to a present key leaves the keys as they are. -/
theorem keys_set_of_get? {d : Dict κ α} {k : κ} {v : α} (h : get? d k = some v) (v' : α) :
    (set d k v').map Prod.fst = d.map Prod.fst := by
  induction d with
  | nil => cases h
  | cons e rest ih =>
    obtain ⟨k', w⟩ := e
    rw [get?_cons] at h
    rw [set]
    split_ifs at h ⊢ with hk
    · rw [List.map_cons, List.map_cons, hk]
    · rw [List.map_cons, List.map_cons, ih h]

/-- Writing what is there already changes nothing. -/
theorem set_of_get? {d : Dict κ α} {k : κ} {v : α} (h : get? d k = some v) : set d k v = d := by
  induction d with
  | nil => cases h
  | cons e rest ih =>
    obtain ⟨j, w⟩ := e
    rw [get?_cons] at h
    rw [set]
    split_ifs at h ⊢ with hjk
    · cases h
      rw [hjk]
    · rw [ih h]

/-- A write to a new key goes to the end. -/
theorem set_eq_append {d : Dict κ α} {k : κ} (h : get? d k = none) (v : α) :
    set d k v = d ++ [(k, v)] := by
  induction d with
  | nil => rfl
  | cons e rest ih =>
    obtain ⟨k', w⟩ := e
    rw [get?_cons] at h
    split_ifs at h with hk
    rw [set, if_neg hk, ih h, List.cons_append]

@[simp] theorem set_set_self (d : Dict κ α) (k : κ) (v v' : α) :
    set (set d k v) k v' = set d k v' := by
  induction d with
  | nil => simp [set]
  | cons e rest ih =>
    obtain ⟨k', w⟩ := e
    by_cases hk : k' = k <;> simp [set, hk, ih]

/-- Entries with keys of their own, written one after the other. -/
theorem update_eq_append {d e : Dict κ α} (h : ((d ++ e).map Prod.fst).Nodup) :
    update d e = d ++ e := by
  induction e generalizing d with
  | nil => exact (List.append_nil d).symm
  | cons kv rest ih =>
    have hnew : get? d kv.1 = none := by
      rw [get?_eq_none_iff]
      intro hmem
      rw [List.map_append, List.nodup_append] at h
      exact h.2.2 _ hmem _ List.mem_cons_self rfl
    show update (set d kv.1 kv.2) rest = d ++ kv :: rest
    rw [set_eq_append hnew, ih (by rwa [List.append_assoc]), List.append_assoc]
    rfl

theorem update_nil {d : Dict κ α} (h : (d.map Prod.fst).Nodup) : update [] d = d :=
  update_eq_append h

end Dict

end Python

/-! The part of a dictionary whose values are of one class: what it reads, and what becomes of it when the
whole dictionary is written to. -/

namespace Python

namespace Dict

variable {κ α γ : Type} [DecidableEq γ] (d : Dict κ α) (f : α → γ) (c : γ)

/-- The entries whose values are of the class `c`. -/
def part : Dict κ α := d.filter fun e => decide (f e.2 = c)

@[simp] theorem part_nil : part ([] : Dict κ α) f c = [] := rfl

theorem part_cons (e : κ × α) :
    part (e :: d) f c = if f e.2 = c then e :: part d f c else part d f c := by
  simp only [part, List.filter_cons, decide_eq_true_eq]

variable {d} in
theorem nodup_keys_part (h : (d.map Prod.fst).Nodup) : ((part d f c).map Prod.fst).Nodup :=
  h.sublist (List.filter_sublist.map Prod.fst)

variable [DecidableEq κ]

variable {d} in
/-- With one entry for each key, a part reads what the whole reads, if it is of the class. -/
theorem get?_part (h : (d.map Prod.fst).Nodup) (k : κ) :
    get? (part d f c) k = (get? d k).filter fun v => decide (f v = c) := by
  induction d with
  | nil => rfl
  | cons e rest ih =>
    obtain ⟨k', v⟩ := e
    rw [List.map_cons, List.nodup_cons] at h
    rw [part_cons]
    by_cases hk : k' = k
    · subst hk
      have hrest : get? rest k' = none := get?_eq_none_iff.mpr h.1
      have hgone : get? (part rest f c) k' = none := by rw [ih h.2, hrest, Option.filter_none]
      by_cases hv : f v = c
      · simp only [hv, if_true, get?_cons, Option.filter_some, decide_true]
      · simp only [hv, if_false, hgone, get?_cons, if_true, Option.filter_some, decide_false,
          Bool.false_eq_true]
    · rw [get?_cons, if_neg hk, ← ih h.2]
      split_ifs
      · rw [get?_cons, if_neg hk]
      · rfl

variable {d} in
/-- A value that stays in its class is written into its part. -/
theorem part_set {k : κ} {v : α} (h : ∀ w, get? d k = some w → f w = f v) :
    part (set d k v) f c = if f v = c then set (part d f c) k v else part d f c := by
  induction d with
  | nil => rw [set, part_cons, part_nil, set]
  | cons e rest ih =>
    obtain ⟨k', w⟩ := e
    by_cases hk : k' = k
    · subst hk
      have hw : f w = f v := h w (by rw [get?_cons, if_pos rfl])
      rw [set, if_pos rfl, part_cons, part_cons, hw]
      split_ifs
      · rw [set, if_pos rfl]
      · rfl
    · have hrest := ih fun w' hw' => h w' (by rw [get?_cons, if_neg hk, hw'])
      rw [set, if_neg hk, part_cons, part_cons, hrest]
      split_ifs
      · rw [set, if_neg hk]
      · rfl
      · rfl
      · rfl

theorem part_erase (k : κ) : part (erase d k) f c = erase (part d f c) k := by
  simp only [part, erase, List.filter_filter, Bool.and_comm]

variable {d} in
theorem erase_of_get?_eq_none {k : κ} (h : get? d k = none) : erase d k = d := by
  refine List.filter_eq_self.mpr fun e he => decide_eq_true fun hk => ?_
  exact get?_eq_none_iff.mp h (hk ▸ List.mem_map_of_mem he)

end Dict

end Python

/-! Sums over the values of a dictionary, and what a write does to them. -/

namespace Python.Dict

variable {κ α M : Type} [AddCommMonoid M]

/-- The sum of `f` over the values. -/
def tally (f : α → M) (d : Dict κ α) : M := (d.map fun e => f e.2).sum

@[simp] theorem tally_nil (f : α → M) : tally f ([] : Dict κ α) = 0 := rfl

theorem tally_cons (f : α → M) (k : κ) (v : α) (d : Dict κ α) :
    tally f ((k, v) :: d) = f v + tally f d := rfl

variable [DecidableEq κ]

/-- A write exchanges what its key counted for; an absent key counts for a default that counts for
nothing. -/
theorem tally_set {f : α → M} {default : α} (hdefault : f default = 0) (d : Dict κ α) (k : κ) (v : α) :
    tally f (set d k v) + f (getD d k default) = tally f d + f v := by
  induction d with
  | nil =>
    show tally f [(k, v)] + f default = 0 + f v
    rw [hdefault, tally_cons, tally_nil, add_zero, add_zero, zero_add]
  | cons e d ih =>
    obtain ⟨k', v'⟩ := e
    rw [set, getD, get?_cons, tally_cons]
    split_ifs
    · rw [tally_cons, Option.getD_some, add_comm (f v), add_right_comm, add_comm (f v')]
    · rw [tally_cons, add_assoc, ← getD, ih, add_assoc]

/-- Two keys count apart. -/
theorem exists_tally_eq {f : α → M} {default : α} (hdefault : f default = 0) (d : Dict κ α) {j k : κ}
    (h : j ≠ k) : ∃ rest, tally f d = rest + f (getD d k default) + f (getD d j default) := by
  refine ⟨tally f (set (set d j default) k default), ?_⟩
  have hj := tally_set hdefault d j default
  have hk := tally_set hdefault (set d j default) k default
  rw [hdefault, add_zero] at hj hk
  have hget : getD (set d j default) k default = getD d k default := by
    rw [getD, get?_set_ne _ _ h, getD]
  rw [hget] at hk
  rw [hk, hj]

end Python.Dict
