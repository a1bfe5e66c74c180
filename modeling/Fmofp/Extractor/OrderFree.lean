import Fmofp.Extractor.Flatten

/-! Flattening key by key: what each entry brings under a key, and why the order of the entries plays no
part where the values that meet under a key agree. -/

namespace Fmofp.Extractor

open Python Machine

/-! ### What two values make of one another -/

/-- A value of the message itself and one from a flattened dictionary that leave the former in either
order. -/
def topAgrees (key : String) (v w : Value) : Prop :=
  (v = .none → w = .none) ∧ (v ≠ .none → v.equal w = true ∨
    key = "timestamp" ∧ (w = .none ∨ ∃ p q, v.number? = some p ∧ w.number? = some q ∧ p ≤ q))

/-- Two values from flattened dictionaries of which one is kept whichever comes first. -/
def sideAgrees (key : String) (w w' : Value) : Prop :=
  w = w' ∨ key = "timestamp" ∧
    (w = .none ∨ w' = .none ∨ ∃ p q, w.number? = some p ∧ w'.number? = some q ∧ p ≠ q)

theorem sideAgrees.symm {key : String} {w w' : Value} (h : sideAgrees key w w') : sideAgrees key w' w := by
  rcases h with rfl | ⟨hkey, h | h | ⟨p, q, hp, hq, hne⟩⟩
  · exact .inl rfl
  · exact .inr ⟨hkey, .inr (.inl h)⟩
  · exact .inr ⟨hkey, .inl h⟩
  · exact .inr ⟨hkey, .inr (.inr ⟨q, p, hq, hp, Ne.symm hne⟩)⟩

theorem number?_ne_none {v : Value} {p : ℚ} (h : v.number? = some p) : v ≠ .none := by
  rintro rfl
  cases h

theorem equal_of_number? {v w : Value} {p q : ℚ} (hv : v.number? = some p) (hw : w.number? = some q) :
    v.equal w = decide (p = q) := by
  cases v <;> cases hv <;> cases w <;> cases hw <;> rfl

theorem kept_some {key : String} {v : Value} (hv : v ≠ .none) (w : Value) :
    kept key (some v) w = if v.equal w then v
      else if key = "timestamp" then
        match v.number?, w.number? with
        | some p, some q => if q < p then w else v
        | _, _ => v
      else v := by
  cases v with
  | none => exact absurd rfl hv
  | _ => rfl

/-- One of the two values is kept. -/
theorem kept_cases (key : String) (found : Option Value) (w : Value) :
    kept key found w = w ∨ found = some (kept key found w) := by
  cases found with
  | none => exact .inl rfl
  | some v =>
    by_cases hv : v = .none
    · subst hv
      exact .inl rfl
    · rw [kept_some hv]
      split_ifs
      · exact .inr rfl
      · cases v.number? <;> cases w.number? <;> dsimp only <;> try exact .inr rfl
        split_ifs
        · exact .inl rfl
        · exact .inr rfl
      · exact .inr rfl

theorem kept_of_topAgrees {key : String} {v w : Value} (h : topAgrees key v w) :
    kept key (some v) w = v := by
  by_cases hv : v = .none
  · subst hv
    exact h.1 rfl
  · rw [kept_some hv]
    rcases h.2 hv with hequal | ⟨hkey, rfl | ⟨p, q, hp, hq, hle⟩⟩
    · rw [if_pos hequal]
    · split_ifs
      · rfl
      · cases v.number? <;> rfl
    · rw [hp, hq]
      dsimp only
      rw [if_neg (not_lt.mpr hle), ite_self, ite_self]

theorem not_clashes_of_topAgrees {key : String} {v w : Value} (h : topAgrees key v w) :
    clashes key (some v) w = false := by
  by_cases hv : v = .none
  · subst hv
    rfl
  · rw [clashes]
    · rcases h.2 hv with hequal | ⟨rfl, rfl | ⟨p, q, hp, hq, -⟩⟩
      · simp [hequal]
      · simp
      · simp [hp, hq]
    · exact hv

theorem not_clashes_of_sideAgrees {key : String} {w w' : Value} (h : sideAgrees key w w') :
    clashes key (some w) w' = false := by
  by_cases hw : w = .none
  · subst hw
    rfl
  · rw [clashes]
    · rcases h with rfl | ⟨rfl, h | rfl | ⟨p, q, hp, hq, -⟩⟩
      · simp [Value.equal_self]
      · exact absurd h hw
      · simp
      · simp [hp, hq]
    · exact hw

/-- `None` after a timestamp changes nothing. -/
theorem kept_timestamp_none (v : Value) : kept "timestamp" (some v) .none = v :=
  kept_of_topAgrees ⟨fun _ => rfl, fun _ => .inr ⟨rfl, .inl rfl⟩⟩

theorem kept_timestamp {v w : Value} {p q : ℚ} (hv : v.number? = some p) (hw : w.number? = some q) :
    kept "timestamp" (some v) w = if q < p then w else v := by
  rw [kept_some (number?_ne_none hv), equal_of_number? hv hw, hv, hw]
  dsimp only
  by_cases hpq : p = q
  · rw [if_pos (decide_eq_true hpq), if_neg (by rw [hpq]; exact lt_irrefl q)]
  · rw [if_neg (by rw [decide_eq_false hpq]; decide), if_pos rfl]

/-- `None` before a value changes nothing. -/
theorem kept_after_none (found : Option Value) (w : Value) :
    kept "timestamp" (some (kept "timestamp" found .none)) w = kept "timestamp" found w := by
  cases found with
  | none => rfl
  | some v => rw [kept_timestamp_none]

/-- Of values that agree, the same is kept in either order. -/
theorem kept_comm {key : String} {w w' : Value} (h : sideAgrees key w w') (found : Option Value) :
    kept key (some (kept key found w)) w' = kept key (some (kept key found w')) w := by
  rcases h with rfl | ⟨rfl, rfl | rfl | ⟨p, q, hp, hq, hne⟩⟩
  · rfl
  · rw [kept_after_none, kept_timestamp_none]
  · rw [kept_after_none, kept_timestamp_none]
  · have hfirst : kept "timestamp" (some w) w' = kept "timestamp" (some w') w := by
      rw [kept_timestamp hp hq, kept_timestamp hq hp]
      rcases lt_or_gt_of_ne hne with hlt | hlt
      · rw [if_neg (not_lt.mpr hlt.le), if_pos hlt]
      · rw [if_pos hlt, if_neg (not_lt.mpr hlt.le)]
    cases found with
    | none => exact hfirst
    | some v =>
      by_cases hv : v = .none
      · subst hv
        exact hfirst
      · cases hr : v.number? with
        | none =>
          have hstays : ∀ u : Value, kept "timestamp" (some v) u = v := by
            intro u
            rw [kept_some hv, hr]
            split_ifs <;> rfl
          rw [hstays, hstays, hstays]
        | some r =>
          rw [kept_timestamp hr hp, kept_timestamp hr hq]
          split_ifs with hpr hqr hqr
          · exact hfirst
          · rw [kept_timestamp hp hq, kept_timestamp hr hp, if_pos hpr, if_neg]
            exact not_lt.mpr (hpr.le.trans (not_lt.mp hqr))
          · rw [kept_timestamp hr hq, kept_timestamp hq hp, if_pos hqr, if_neg]
            exact not_lt.mpr (hqr.le.trans (not_lt.mp hpr))
          · rw [kept_timestamp hr hp, kept_timestamp hr hq, if_neg hpr, if_neg hqr]

/-! ### Entry by entry -/

/-- What an entry writes under a key, whatever is found there. -/
def hardAt (nested : Message → Message) (key : String) (e : String × Value) : Option Value :=
  if e.1 = key then
    match e.2 with
    | .dict d => if isFlattened e.1 then none else some (.dict (nested d))
    | v => some v
  else none

/-- What a flattened dictionary brings under a key. -/
def softAt (nested : Message → Message) (key : String) (e : String × Value) : Option Value :=
  match e.2 with
  | .dict d => if isFlattened e.1 then Dict.get? (nested d) key else none
  | _ => none

/-- What a key reads after an entry. -/
def reading (nested : Message → Message) (key : String) (found : Option Value) (e : String × Value) :
    Option Value :=
  match hardAt nested key e, softAt nested key e with
  | some v, _ => some v
  | none, some w => some (kept key found w)
  | none, none => found

theorem nodup_keys_foldl_addField {result : Message} (h : (result.map Prod.fst).Nodup) (fields : Message) :
    ((fields.foldl addField result).map Prod.fst).Nodup := by
  induction fields generalizing result with
  | nil => exact h
  | cons e fields ih => exact ih (Dict.nodup_keys_set h _ _)

theorem nodup_keys_foldl_addEntry (nested : Message → Message) {result : Message}
    (h : (result.map Prod.fst).Nodup) (m : Message) :
    ((m.foldl (addEntry nested) result).map Prod.fst).Nodup := by
  induction m generalizing result with
  | nil => exact h
  | cons e m ih =>
    apply ih
    obtain ⟨key, v⟩ := e
    cases v with
    | dict d =>
      rw [addEntry]
      dsimp only
      split_ifs
      · exact nodup_keys_foldl_addField h _
      · exact Dict.nodup_keys_set h _ _
    | _ => exact Dict.nodup_keys_set h _ _

theorem nodup_keys_flat (levels : ℕ) (m : Message) : ((flat levels m).map Prod.fst).Nodup := by
  cases levels with
  | zero => exact List.nodup_singleton _
  | succ levels => exact @nodup_keys_foldl_addEntry (flat levels) [] List.nodup_nil m

theorem get?_foldl_addField {fields : Message} (h : (fields.map Prod.fst).Nodup) (result : Message)
    (key : String) :
    Dict.get? (fields.foldl addField result) key = match Dict.get? fields key with
      | some w => some (kept key (Dict.get? result key) w)
      | none => Dict.get? result key := by
  induction fields generalizing result with
  | nil => rfl
  | cons e fields ih =>
    obtain ⟨j, w⟩ := e
    rw [List.map_cons, List.nodup_cons] at h
    rw [List.foldl_cons, ih h.2, Dict.get?_cons]
    by_cases hj : j = key
    · subst hj
      have hrest : Dict.get? fields j = none := Dict.get?_eq_none_iff.mpr h.1
      rw [hrest, if_pos rfl]
      exact Dict.get?_set_self _ _ _
    · have hsame : Dict.get? (addField result (j, w)) key = Dict.get? result key :=
        Dict.get?_set_ne _ _ hj
      rw [hsame, if_neg hj]

variable {levels : ℕ}

theorem get?_addEntry (result : Message) (key : String) (e : String × Value) :
    Dict.get? (addEntry (flat levels) result e) key =
      reading (flat levels) key (Dict.get? result key) e := by
  obtain ⟨j, v⟩ := e
  cases v with
  | dict d =>
    rw [addEntry, reading, hardAt, softAt]
    dsimp only
    by_cases hj : isFlattened j = true
    · rw [if_pos hj, if_pos hj, if_pos hj, ite_self, get?_foldl_addField (nodup_keys_flat levels d)]
      cases Dict.get? (flat levels d) key <;> rfl
    · rw [if_neg hj, if_neg hj, if_neg hj, Dict.get?_set]
      split_ifs <;> rfl
  | _ =>
    simp only [addEntry, reading, hardAt, softAt, Dict.get?_set]
    split_ifs <;> rfl

theorem get?_foldl_addEntry (m : Message) (result : Message) (key : String) :
    Dict.get? (m.foldl (addEntry (flat levels)) result) key =
      m.foldl (reading (flat levels) key) (Dict.get? result key) := by
  induction m generalizing result with
  | nil => rfl
  | cons e m ih => rw [List.foldl_cons, List.foldl_cons, ih, get?_addEntry]

theorem get?_flat (m : Message) (key : String) :
    Dict.get? (flat (levels + 1) m) key = m.foldl (reading (flat levels) key) none :=
  get?_foldl_addEntry m [] key

/-- What a key reads, some entry brought. -/
theorem brought_of_reading {m : Message} {key : String} {found : Option Value} {v : Value}
    (h : m.foldl (reading (flat levels) key) found = some v) :
    found = some v ∨ ∃ e ∈ m, hardAt (flat levels) key e = some v ∨ softAt (flat levels) key e = some v := by
  induction m generalizing found with
  | nil => exact .inl h
  | cons e m ih =>
    rcases ih h with hread | ⟨e', he', hv⟩
    · rw [reading] at hread
      cases hhard : hardAt (flat levels) key e with
      | some u =>
        rw [hhard] at hread
        exact .inr ⟨e, List.mem_cons_self, .inl (hhard.trans hread)⟩
      | none =>
        cases hsoft : softAt (flat levels) key e with
        | some w =>
          simp only [hhard, hsoft, Option.some.injEq] at hread
          rcases kept_cases key found w with hw | hfound
          · exact .inr ⟨e, List.mem_cons_self, .inr (by rw [hsoft, ← hread, hw])⟩
          · exact .inl (by rw [hfound, hread])
        | none =>
          rw [hhard, hsoft] at hread
          exact .inl hread
    · exact .inr ⟨e', List.mem_cons_of_mem _ he', hv⟩

/-! ### Entries that agree -/

/-- Every nested dictionary flattens without a clash, and whatever the flattened ones bring agrees with
what is under the same key elsewhere. -/
structure Agreeing (levels : ℕ) (m : Message) : Prop where
  nested : ∀ key d, (key, Value.dict d) ∈ m → calm levels d = true
  top : ∀ e ∈ m, ∀ e' ∈ m, ∀ key v w, hardAt (flat levels) key e = some v →
    softAt (flat levels) key e' = some w → topAgrees key v w
  sides : ∀ e ∈ m, ∀ e' ∈ m, e ≠ e' → ∀ key w w', softAt (flat levels) key e = some w →
    softAt (flat levels) key e' = some w' → sideAgrees key w w'

theorem Agreeing.perm {m m' : Message} (h : Agreeing levels m) (hperm : m'.Perm m) :
    Agreeing levels m' where
  nested key d hd := h.nested key d (hperm.mem_iff.mp hd)
  top e he e' he' := h.top e (hperm.mem_iff.mp he) e' (hperm.mem_iff.mp he')
  sides e he e' he' := h.sides e (hperm.mem_iff.mp he) e' (hperm.mem_iff.mp he')

theorem key_of_hardAt {nested : Message → Message} {key : String} {e : String × Value} {v : Value}
    (h : hardAt nested key e = some v) : e.1 = key := by
  by_contra hkey
  rw [hardAt, if_neg hkey] at h
  cases h

variable {m : Message} (hkeys : (m.map Prod.fst).Nodup) (h : Agreeing levels m)
include hkeys h

theorem reading_comm {e e' : String × Value} (he : e ∈ m) (he' : e' ∈ m) (key : String)
    (found : Option Value) :
    reading (flat levels) key (reading (flat levels) key found e) e' =
      reading (flat levels) key (reading (flat levels) key found e') e := by
  by_cases hne : e = e'
  · rw [hne]
  have htop : ∀ a ∈ m, ∀ b ∈ m, ∀ v w, hardAt (flat levels) key a = some v →
      softAt (flat levels) key b = some w → kept key (some v) w = v := fun a ha b hb v w hv hw =>
    kept_of_topAgrees (h.top a ha b hb key v w hv hw)
  cases hhard : hardAt (flat levels) key e with
  | some v =>
    cases hhard' : hardAt (flat levels) key e' with
    | some v' =>
      have hsame : e.1 = e'.1 := (key_of_hardAt hhard).trans (key_of_hardAt hhard').symm
      have hread := Dict.get?_of_mem hkeys he
      rw [hsame, Dict.get?_of_mem hkeys he'] at hread
      exact absurd (Prod.ext hsame (Option.some.inj hread).symm) hne
    | none =>
      cases hsoft' : softAt (flat levels) key e' with
      | some w =>
        simp only [reading, hhard, hhard', hsoft', htop e he e' he' v w hhard hsoft']
      | none => simp only [reading, hhard, hhard', hsoft']
  | none =>
    cases hsoft : softAt (flat levels) key e with
    | some w =>
      cases hhard' : hardAt (flat levels) key e' with
      | some v =>
        simp only [reading, hhard, hhard', hsoft, htop e' he' e he v w hhard' hsoft]
      | none =>
        cases hsoft' : softAt (flat levels) key e' with
        | some w' =>
          simp only [reading, hhard, hhard', hsoft, hsoft',
            kept_comm (h.sides e he e' he' hne key w w' hsoft hsoft')]
        | none => simp only [reading, hhard, hhard', hsoft, hsoft']
    | none => simp only [reading, hhard, hsoft]

/-- The order of the entries plays no part in what flattening gathers. -/
theorem get?_flat_of_perm {m' : Message} (hperm : m'.Perm m) (key : String) :
    Dict.get? (flat (levels + 1) m') key = Dict.get? (flat (levels + 1) m) key := by
  rw [get?_flat, get?_flat]
  refine (hperm.symm.foldl_eq' (fun e he e' he' found => ?_) none).symm
  exact (reading_comm hkeys h he' he key found).symm

/-- A value of the message itself is gathered as it is. -/
theorem get?_flat_of_hardAt {e : String × Value} (he : e ∈ m) {key : String} {v : Value}
    (hhard : hardAt (flat levels) key e = some v) : Dict.get? (flat (levels + 1) m) key = some v := by
  have hperm : (List.erase m e ++ [e]).Perm m :=
    (List.perm_append_singleton e _).trans (List.perm_cons_erase he).symm
  rw [← get?_flat_of_perm hkeys h hperm, get?_flat, List.foldl_append, List.foldl_cons, List.foldl_nil,
    reading, hhard]

/-- Entries that agree clash in no order. -/
theorem calm_of_agreeing : calm (levels + 1) m = true := by
  rw [calm]
  refine along_of_prefixes fun front e back hsplit => ?_
  obtain ⟨j, v⟩ := e
  cases v with
  | dict d =>
    have he : (j, Value.dict d) ∈ m := by
      rw [hsplit]
      exact List.mem_append_right _ List.mem_cons_self
    rw [calmEntry]
    dsimp only
    rw [h.nested j d he, Bool.true_and, Bool.or_eq_true, Bool.not_eq_true']
    by_cases hj : isFlattened j = true
    · refine .inr (along_of_prefixes fun front' field back' hfields => ?_)
      obtain ⟨key, w⟩ := field
      have hnodup : ((front' ++ (key, w) :: back').map Prod.fst).Nodup := hfields ▸ nodup_keys_flat levels d
      rw [List.map_append, List.map_cons, List.nodup_append] at hnodup
      have hnew : Dict.get? front' key = none := by
        rw [Dict.get?_eq_none_iff]
        exact fun hmem => hnodup.2.2 key hmem key List.mem_cons_self rfl
      have hsoft : softAt (flat levels) key (j, .dict d) = some w := by
        rw [softAt]
        dsimp only
        rw [if_pos hj]
        exact Dict.get?_of_mem (nodup_keys_flat levels d) (hfields ▸ List.mem_append_right _ List.mem_cons_self)
      rw [calmField, Bool.not_eq_true', get?_foldl_addField hnodup.1]
      dsimp only
      rw [hnew]
      dsimp only
      rw [get?_foldl_addEntry]
      cases hfound : front.foldl (reading (flat levels) key) (Dict.get? [] key) with
      | none => rfl
      | some v =>
        rcases brought_of_reading hfound with hnil | ⟨e', he', hbrought⟩
        · cases hnil
        · have hmem : e' ∈ m := by
            rw [hsplit]
            exact List.mem_append_left _ he'
          rcases hbrought with hhard | hsoft'
          · exact not_clashes_of_topAgrees (h.top e' hmem _ he key v w hhard hsoft)
          · refine not_clashes_of_sideAgrees (h.sides e' hmem _ he ?_ key v w hsoft' hsoft)
            rintro rfl
            have hdistinct := hkeys
            rw [hsplit, List.map_append, List.map_cons, List.nodup_append] at hdistinct
            exact hdistinct.2.2 j (List.mem_map_of_mem he') j List.mem_cons_self rfl
    · exact .inl (by simpa using hj)
  | _ => rfl

end Fmofp.Extractor
