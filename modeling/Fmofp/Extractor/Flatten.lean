import Fmofp.Machine.Loop
import Fmofp.Extractor.Universal

/-! What flattening a message gathers, without its conflicts: the fields in the order of the entries, an
earlier value kept against a later one.  Flattening raises exactly where two values clash. -/

namespace Fmofp.Extractor

open Python Machine

/-- A field that is found already clashes with one that comes from a flattened dictionary. -/
def clashes (key : String) (found : Option Value) (w : Value) : Bool :=
  match found with
  | none | some .none => false
  | some v => !(v.equal w ||
      (decide (key = "timestamp") && (decide (w = .none) || (v.number?.isSome && w.number?.isSome))))

/-- The value that is kept of the two: the earlier of two timestamps, and else what is found. -/
def kept (key : String) (found : Option Value) (w : Value) : Value :=
  match found with
  | none | some .none => w
  | some v =>
    if v.equal w then v
    else if key = "timestamp" then
      match v.number?, w.number? with
      | some p, some q => if q < p then w else v
      | _, _ => v
    else v

/-- A flattened field among the fields found before it. -/
def addField (result : Message) (e : String × Value) : Message :=
  Dict.set result e.1 (kept e.1 (Dict.get? result e.1) e.2)

/-- The fields of one entry, whose nested dictionaries `nested` flattens. -/
def addEntry (nested : Message → Message) (result : Message) (e : String × Value) : Message :=
  match e.2 with
  | .dict d =>
    if isFlattened e.1 then (nested d).foldl addField result
    else Dict.set result e.1 (.dict (nested d))
  | v => Dict.set result e.1 v

/-- The fields that flattening some levels gathers. -/
def flat : ℕ → Message → Message
  | 0, messageDict => [("data", .dict messageDict)]
  | levels + 1, messageDict => messageDict.foldl (addEntry (flat levels)) []

/-- A flattened field does not clash with the fields found before it. -/
def calmField (result : Message) (e : String × Value) : Bool :=
  !clashes e.1 (Dict.get? result e.1) e.2

def calmEntry (calmNested : Message → Bool) (nested : Message → Message) (result : Message)
    (e : String × Value) : Bool :=
  match e.2 with
  | .dict d => calmNested d && (!isFlattened e.1 || along calmField addField result (nested d))
  | _ => true

/-- Nowhere in a message does a flattened field clash with the fields found before it. -/
def calm : ℕ → Message → Bool
  | 0, _ => true
  | levels + 1, messageDict =>
    along (calmEntry (calm levels) (flat levels)) (addEntry (flat levels)) [] messageDict

section Raising

variable (py : Runtime)

theorem resolveFieldConflict_of_not_clashes {key : String} {v w : Value} (hv : v ≠ .none)
    (h : clashes key (some v) w = false) : resolveFieldConflict py key v w = .ok (kept key (some v) w) := by
  cases hequal : v.equal w with
  | true => simp [resolveFieldConflict, kept, hequal]
  | false =>
    simp only [clashes, hequal, Bool.false_or, Bool.not_eq_false', Bool.and_eq_true, Bool.or_eq_true,
      decide_eq_true_eq] at h
    obtain ⟨rfl, hw⟩ := h
    rw [resolveFieldConflict, kept]
    · simp only [hequal, Bool.false_eq_true, if_false, if_true]
      rcases hw with rfl | ⟨hp, hq⟩
      · have hnumber : Value.none.number? = none := rfl
        rw [hnumber]
        cases v.number? <;> simp [hv]
      · obtain ⟨p, hp⟩ := Option.isSome_iff_exists.mp hp
        obtain ⟨q, hq⟩ := Option.isSome_iff_exists.mp hq
        rw [hp, hq]
    · exact hv

theorem resolveFieldConflict_of_clashes {key : String} {v w : Value} (h : clashes key (some v) w = true) :
    ∃ text, resolveFieldConflict py key v w = .error text := by
  have hv : v ≠ .none := by
    rintro rfl
    cases h
  rw [clashes] at h
  · rw [Bool.not_eq_true', Bool.or_eq_false_iff, Bool.and_eq_false_iff] at h
    obtain ⟨hequal, hkey⟩ := h
    rw [resolveFieldConflict, hequal]
    simp only [Bool.false_eq_true, if_false]
    by_cases htime : key = "timestamp"
    · rw [if_pos htime]
      rcases hkey with hkey | hkey
      · exact absurd htime (of_decide_eq_false hkey)
      · rw [Bool.or_eq_false_iff, Bool.and_eq_false_iff] at hkey
        have hw : w ≠ .none := of_decide_eq_false hkey.1
        cases hp : v.number? with
        | none => exact ⟨_, by rw [if_neg hv, if_neg hw]⟩
        | some p =>
          cases hq : w.number? with
          | none => exact ⟨_, by rw [if_neg hv, if_neg hw]⟩
          | some q => simp [hp, hq] at hkey
    · exact ⟨_, if_neg htime⟩
  · exact hv

theorem flattenField_of_calm {result : Message} {e : String × Value} (h : calmField result e = true) :
    flattenField py result e = .ok (addField result e) := by
  rw [calmField, Bool.not_eq_true'] at h
  rw [flattenField, addField]
  cases hfound : Dict.get? result e.1 with
  | none => rfl
  | some v =>
    rw [hfound] at h
    by_cases hv : v = .none
    · subst hv
      rfl
    · cases v with
      | none => exact absurd rfl hv
      | _ =>
        dsimp only
        rw [resolveFieldConflict_of_not_clashes py hv h]
        rfl

theorem flattenField_of_not_calm {result : Message} {e : String × Value} (h : calmField result e = false) :
    ∃ text, flattenField py result e = .error text := by
  rw [calmField, Bool.not_eq_false'] at h
  rw [flattenField]
  cases hfound : Dict.get? result e.1 with
  | none =>
    rw [hfound] at h
    cases h
  | some v =>
    rw [hfound] at h
    obtain ⟨text, htext⟩ := resolveFieldConflict_of_clashes py h
    cases v with
    | none => cases h
    | _ =>
      dsimp only
      rw [htext]
      exact ⟨text, rfl⟩

/-- Flattening gathers the fields if nothing clashes, and raises if something does. -/
theorem extractFromDict_eq (levels : ℕ) (messageDict : Message) :
    (calm levels messageDict = true → extractFromDict py levels messageDict = .ok (flat levels messageDict)) ∧
      (calm levels messageDict = false → ∃ text, extractFromDict py levels messageDict = .error text) := by
  induction levels generalizing messageDict with
  | zero => exact ⟨fun _ => rfl, fun h => by cases h⟩
  | succ levels ih =>
    have hok : ∀ result e, calmEntry (calm levels) (flat levels) result e = true →
        extractEntry py (extractFromDict py levels) result e = .ok (addEntry (flat levels) result e) := by
      rintro result ⟨key, v⟩ h
      cases v with
      | dict d =>
        simp only [calmEntry, Bool.and_eq_true, Bool.or_eq_true, Bool.not_eq_true'] at h
        rw [extractEntry, addEntry]
        dsimp only
        rw [(ih d).1 h.1]
        show (if isFlattened key = true then _ else _) = _
        rcases h.2 with hkey | halong
        · rw [if_neg (by rw [hkey]; decide), if_neg (by rw [hkey]; decide)]
        · split_ifs
          · exact foldlM_of_along (fun _ _ => flattenField_of_calm py) halong
          · rfl
      | _ => rfl
    have herror : ∀ result e, calmEntry (calm levels) (flat levels) result e = false →
        ∃ text, extractEntry py (extractFromDict py levels) result e = .error text := by
      rintro result ⟨key, v⟩ h
      cases v with
      | dict d =>
        rw [extractEntry]
        dsimp only
        cases hnested : calm levels d with
        | false =>
          obtain ⟨text, htext⟩ := (ih d).2 hnested
          exact ⟨text, by rw [htext]; rfl⟩
        | true =>
          simp only [calmEntry, hnested, Bool.true_and, Bool.or_eq_false_iff, Bool.not_eq_false'] at h
          obtain ⟨text, htext⟩ := foldlM_error_of_along (fun _ _ => flattenField_of_calm py)
            (fun _ _ => flattenField_of_not_calm py) h.2
          refine ⟨text, ?_⟩
          rw [(ih d).1 hnested]
          show (if isFlattened key = true then _ else _) = _
          rw [if_pos h.1, htext]
      | _ => cases h
    exact ⟨foldlM_of_along hok, foldlM_error_of_along hok herror⟩

end Raising

end Fmofp.Extractor
