import Fmofp.Normalizer.Structure

/-! What the two sides of a message hold after the schema has been applied: the fields of the schema on
both, and the defaults, the count and the flags of a response. -/

namespace Fmofp.Normalizer

open Python Metadata

theorem get?_mirrorField (sides : Sides) (field k : String) :
    Dict.get? (mirrorField sides field).1 k =
        (if k = field then (Dict.get? sides.1 k).or (Dict.get? sides.2 k) else Dict.get? sides.1 k) ∧
      Dict.get? (mirrorField sides field).2 k =
        if k = field then (Dict.get? sides.2 k).or (Dict.get? sides.1 k) else Dict.get? sides.2 k := by
  by_cases hk : k = field
  · subst hk
    rw [if_pos rfl, if_pos rfl, mirrorField, Dict.has]
    cases hleft : Dict.get? sides.1 k with
    | none =>
      cases hright : Dict.get? sides.2 k with
      | none => simp [hleft, hright]
      | some v => simp [hright]
    | some v =>
      cases hright : Dict.get? sides.2 k with
      | none => simp [hleft]
      | some w => simp [hleft, hright]
  · rw [if_neg hk, if_neg hk, mirrorField]
    cases hleft : Dict.get? sides.1 field with
    | none =>
      cases hright : Dict.get? sides.2 field with
      | none => exact ⟨rfl, rfl⟩
      | some v => exact ⟨Dict.get?_set_ne _ v (Ne.symm hk), rfl⟩
    | some v =>
      dsimp only
      split_ifs
      · exact ⟨rfl, rfl⟩
      · exact ⟨rfl, Dict.get?_set_ne _ v (Ne.symm hk)⟩

/-- A field of the schema is on both sides after it has been on one; the others are left alone. -/
theorem get?_mirror (fields : List String) (sides : Sides) (k : String) :
    Dict.get? (mirror fields sides).1 k =
        (if k ∈ fields then (Dict.get? sides.1 k).or (Dict.get? sides.2 k)
          else Dict.get? sides.1 k) ∧
      Dict.get? (mirror fields sides).2 k =
        if k ∈ fields then (Dict.get? sides.2 k).or (Dict.get? sides.1 k)
          else Dict.get? sides.2 k := by
  induction fields generalizing sides with
  | nil => exact ⟨rfl, rfl⟩
  | cons field fields ih =>
    obtain ⟨hleft, hright⟩ := ih (mirrorField sides field)
    obtain ⟨hfirst, hsecond⟩ := get?_mirrorField sides field k
    have hstep : mirror (field :: fields) sides = mirror fields (mirrorField sides field) := rfl
    rw [hstep, hleft, hright, hfirst, hsecond]
    by_cases hk : k = field
    · subst hk
      cases Dict.get? sides.1 k <;> cases Dict.get? sides.2 k <;> simp
    · simp [hk]

/-- Sides with the same fields of the schema stay as they are. -/
theorem mirror_eq_self {fields : List String} {sides : Sides}
    (h : ∀ field ∈ fields, Dict.has sides.1 field = Dict.has sides.2 field) :
    mirror fields sides = sides := by
  induction fields with
  | nil => rfl
  | cons field fields ih =>
    have hfield := h field (List.mem_cons_self ..)
    have hstep : mirrorField sides field = sides := by
      rw [mirrorField]
      rw [Dict.has, Dict.has] at hfield
      cases hleft : Dict.get? sides.1 field with
      | none =>
        rw [hleft] at hfield
        cases hright : Dict.get? sides.2 field with
        | none => rfl
        | some v => rw [hright] at hfield; cases hfield
      | some v =>
        rw [hleft] at hfield
        rw [Dict.has, ← hfield]
        rfl
    have hrest := ih fun f hf => h f (List.mem_cons_of_mem field hf)
    rw [mirror, List.foldl_cons, hstep]
    exact hrest

/-- The metadata stays as it is if it has all fields of the schema that the message has. -/
theorem mirror_snd_eq {fields : List String} {sides : Sides}
    (h : ∀ field ∈ fields, Dict.has sides.1 field = true → Dict.has sides.2 field = true) :
    (mirror fields sides).2 = sides.2 := by
  induction fields generalizing sides with
  | nil => rfl
  | cons field fields ih =>
    have hstep : (mirrorField sides field).2 = sides.2 := by
      rw [mirrorField]
      cases hleft : Dict.get? sides.1 field with
      | none => cases Dict.get? sides.2 field <;> rfl
      | some v =>
        have hboth := h field (List.mem_cons_self ..) (by rw [Dict.has, hleft]; rfl)
        dsimp only
        rw [if_pos hboth]
    have hrest : ∀ f ∈ fields, Dict.has (mirrorField sides field).1 f = true →
        Dict.has (mirrorField sides field).2 f = true := by
      intro f hf hhas
      rw [hstep]
      rw [Dict.has, (get?_mirrorField sides field f).1] at hhas
      by_cases hk : f = field
      · rw [if_pos hk] at hhas
        cases hleft : Dict.get? sides.1 f with
        | some v => exact h f (List.mem_cons_of_mem field hf) (by rw [Dict.has, hleft]; rfl)
        | none =>
          rw [hleft] at hhas
          exact hhas
      · rw [if_neg hk] at hhas
        exact h f (List.mem_cons_of_mem field hf) hhas
    have hfold : mirror (field :: fields) sides = mirror fields (mirrorField sides field) := rfl
    rw [hfold, ih hrest, hstep]

section Writes

variable (key k : String) (v : Value) (sides : Sides)

theorem get?_setBoth :
    Dict.get? (setBoth key v sides).1 k = (if key = k then some v else Dict.get? sides.1 k) ∧
      Dict.get? (setBoth key v sides).2 k = if key = k then some v else Dict.get? sides.2 k :=
  ⟨Dict.get?_set sides.1 key k v, Dict.get?_set sides.2 key k v⟩

theorem get?_setDefault :
    Dict.get? (setDefault key v sides).1 k =
        (if key = k then some ((Dict.get? sides.1 k).getD v) else Dict.get? sides.1 k) ∧
      Dict.get? (setDefault key v sides).2 k =
        if key = k ∧ Dict.has sides.1 key = false then some v else Dict.get? sides.2 k := by
  rw [setDefault]
  cases hhas : Dict.has sides.1 key with
  | true =>
    rw [if_pos rfl]
    obtain ⟨w, hw⟩ := Dict.has_iff.mp hhas
    constructor
    · split_ifs with hk
      · subst hk
        rw [hw]
        rfl
      · rfl
    · simp
  | false =>
    obtain ⟨hleft, hright⟩ := get?_setBoth key k v sides
    rw [if_neg (by simp), hleft, hright]
    constructor
    · split_ifs with hk
      · subst hk
        rw [Dict.has_eq_false.mp hhas]
        rfl
      · rfl
    · simp

end Writes

/-- The flags are written over what is there. -/
theorem get?_flags (flags : List String) (d : Message) (k : String) :
    Dict.get? (flags.foldl (fun metadata flag => Dict.set metadata flag (.bool true)) d) k =
      if k ∈ flags then some (.bool true) else Dict.get? d k := by
  induction flags generalizing d with
  | nil => rfl
  | cons flag flags ih =>
    rw [List.foldl_cons, ih, Dict.get?_set]
    by_cases hk : k ∈ flags
    · simp [hk]
    · by_cases hf : flag = k
      · simp [hf]
      · simp [hk, hf, Ne.symm hf]

theorem flags_eq_self {flags : List String} {d : Message}
    (h : ∀ flag ∈ flags, Dict.get? d flag = some (.bool true)) :
    flags.foldl (fun metadata flag => Dict.set metadata flag (.bool true)) d = d := by
  induction flags with
  | nil => rfl
  | cons flag flags ih =>
    rw [List.foldl_cons, Dict.set_of_get? (h flag (List.mem_cons_self ..))]
    exact ih fun f hf => h f (List.mem_cons_of_mem flag hf)

theorem setDefault_of_has {key : String} {sides : Sides} (v : Value)
    (h : Dict.has sides.1 key = true) : setDefault key v sides = sides := if_pos h

namespace Response

variable (r : Response) (count : Option ℕ) (sides : Sides) (k : String)

/-- The sides with the command in place. -/
def named : Sides :=
  setDefault "command_name" (.str r.commandName)
    (setDefault "command_type" (.str r.commandType) sides)

/-- The sides with the count in place too. -/
def counted : Sides :=
  match count with
  | some n => setBoth "data_count" (.int n) (r.named sides)
  | none => r.named sides

theorem apply_eq :
    r.apply count sides = ((r.counted count sides).1, r.flags.foldl
      (fun metadata flag => Dict.set metadata flag (.bool true)) (r.counted count sides).2) := rfl

theorem get?_named_fst :
    Dict.get? (r.named sides).1 k =
      if k = "command_name" then some ((Dict.get? sides.1 k).getD (.str r.commandName))
      else if k = "command_type" then some ((Dict.get? sides.1 k).getD (.str r.commandType))
      else Dict.get? sides.1 k := by
  rw [named, (get?_setDefault _ k _ _).1, (get?_setDefault _ k _ _).1]
  by_cases hname : k = "command_name"
  · subst hname
    simp
  · by_cases htype : k = "command_type"
    · subst htype
      simp
    · simp [hname, htype, Ne.symm hname, Ne.symm htype]

theorem get?_named_snd :
    Dict.get? (r.named sides).2 k =
      if k = "command_name" then
        if Dict.has sides.1 k = true then Dict.get? sides.2 k else some (.str r.commandName)
      else if k = "command_type" then
        if Dict.has sides.1 k = true then Dict.get? sides.2 k else some (.str r.commandType)
      else Dict.get? sides.2 k := by
  rw [named, (get?_setDefault _ k _ _).2, (get?_setDefault _ k _ _).2, Dict.has,
    (get?_setDefault _ "command_name" _ _).1]
  by_cases hname : k = "command_name"
  · subst hname
    cases hhas : Dict.get? sides.1 "command_name" <;> simp [hhas, Dict.has]
  · by_cases htype : k = "command_type"
    · subst htype
      cases Dict.has sides.1 "command_type" <;> simp
    · simp [hname, htype, Ne.symm hname, Ne.symm htype]

theorem get?_counted :
    Dict.get? (r.counted count sides).1 k =
        (if k = "data_count" then (count.map fun n : ℕ => Value.int n).or
          (Dict.get? (r.named sides).1 k) else Dict.get? (r.named sides).1 k) ∧
      Dict.get? (r.counted count sides).2 k =
        if k = "data_count" then (count.map fun n : ℕ => Value.int n).or
          (Dict.get? (r.named sides).2 k) else Dict.get? (r.named sides).2 k := by
  cases count with
  | none => simp [counted]
  | some n =>
    rw [counted.eq_def]
    dsimp only
    rw [(get?_setBoth _ k _ _).1, (get?_setBoth _ k _ _).2]
    by_cases hk : k = "data_count"
    · subst hk
      simp
    · simp [hk, Ne.symm hk]

theorem get?_apply_fst :
    Dict.get? (r.apply count sides).1 k =
      if k = "data_count" then (count.map fun n : ℕ => Value.int n).or (Dict.get? sides.1 k)
      else if k = "command_name" then some ((Dict.get? sides.1 k).getD (.str r.commandName))
      else if k = "command_type" then some ((Dict.get? sides.1 k).getD (.str r.commandType))
      else Dict.get? sides.1 k := by
  rw [apply_eq, (r.get?_counted count sides k).1, get?_named_fst]
  by_cases hk : k = "data_count"
  · subst hk
    simp
  · rw [if_neg hk, if_neg hk]

theorem get?_apply_snd :
    Dict.get? (r.apply count sides).2 k =
      if k ∈ r.flags then some (.bool true)
      else if k = "data_count" then
        (count.map fun n : ℕ => Value.int n).or (Dict.get? sides.2 k)
      else if k = "command_name" then
        if Dict.has sides.1 k = true then Dict.get? sides.2 k else some (.str r.commandName)
      else if k = "command_type" then
        if Dict.has sides.1 k = true then Dict.get? sides.2 k else some (.str r.commandType)
      else Dict.get? sides.2 k := by
  rw [apply_eq, get?_flags, (r.get?_counted count sides k).2, get?_named_snd]
  by_cases hk : k = "data_count"
  · subst hk
    simp
  · rw [if_neg hk, if_neg hk]

variable {r sides}

/-- Only the count is written over metadata that has the command and the flags. -/
theorem apply_snd_eq (htype : Dict.has sides.1 "command_type" = true)
    (hname : Dict.has sides.1 "command_name" = true)
    (hflags : ∀ flag ∈ r.flags, flag ≠ "data_count" ∧ Dict.get? sides.2 flag = some (.bool true)) :
    (r.apply count sides).2 =
      count.elim sides.2 fun n => Dict.set sides.2 "data_count" (.int n) := by
  have hnamed : r.named sides = sides := by
    rw [named, setDefault_of_has _ htype, setDefault_of_has _ hname]
  rw [apply_eq, counted.eq_def, hnamed]
  cases count with
  | none => exact flags_eq_self fun flag hflag => (hflags flag hflag).2
  | some n =>
    refine flags_eq_self fun flag hflag => ?_
    rw [(get?_setBoth _ flag _ _).2, if_neg (Ne.symm (hflags flag hflag).1)]
    exact (hflags flag hflag).2

end Response

end Fmofp.Normalizer
