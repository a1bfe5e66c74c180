import Fmofp.FlightManagement.MessageProcessor

/-! Modes that are commanded against modes that are requested: a handler sets the mode that the shared
table assigns to what a message carries, or it answers `False` and changes nothing, except for values
that the table does not have. -/

namespace Fmofp.FlightManagement

open Python FlightControl

/-! ### What a message carries -/

/-- A field that names a mode. -/
def named : Value → Option Value
  | .str s => if s = "" then none else some (.str s)
  | _ => none

/-- Data that carries a mode: text, or an integer. -/
def worded : Value → Option Value
  | .str s => if s = "" then none else some (.str s)
  | v => if v.int?.isSome then some v else none

/-- What data carries: its text, or the first item of its list. -/
def itemOf : Value → Option Value
  | .str s => worded (.str s)
  | .list (item :: _) => worded item
  | _ => none

def dataItem (message : Message) : Option Value := (Dict.get? message "data").bind itemOf

/-- What a message carries for `_handle_fcs_mode_change`: a named mode, or else its data. -/
def carriedForFcs (message : Message) : Option Value :=
  (named (Dict.getD message "mode" .none)).or (dataItem message)

/-- The data that `_handle_mode_change` reads. -/
def binaryData (message : Message) : Option Value :=
  match Dict.getD message "data" .none with
  | .str s => if isBinary s then named (.str s) else none
  | _ => none

def parameterField (message : Message) (key : String) : Value :=
  match Dict.getD message "parameters" .none with
  | .dict parameters => Dict.getD parameters key .none
  | _ => .none

/-- What a message carries in its named fields. -/
def carriedNames (message : Message) : Option Value :=
  ((((named (Dict.getD message "mode" .none)).or (named (Dict.getD message "mode_name" .none))).or
    (named (parameterField message "mode"))).or (named (parameterField message "mode_name")))

/-- What a message carries for `_handle_mode_change`: binary data, or else a named mode. -/
def carriedForFms (message : Message) : Option Value :=
  (binaryData message).or (carriedNames message)

/-- What a message carries for `_handle_mode_change_sync`: its data, or else a named mode. -/
def carriedForSync (attributes : Message) : Option Value :=
  ((dataItem attributes).or (named (Dict.getD attributes "mode" .none))).or
    (named (metadataField attributes "mode"))

/-- The value of a binary word or of an integer. -/
def wireValue : Value → Option ℤ
  | .str s => if isBinary s && decide (s ≠ "") then some (ofBits s.toList) else none
  | v => v.int?

/-- The mode that a table assigns to a value or to a name. -/
def assigned (table : Dict ℤ String) (v : Value) : Option String :=
  match wireValue v, v with
  | some n, _ => Dict.get? table n
  | none, .str s => if s ∈ table.map Prod.snd then some s else none
  | none, _ => none

/-- The mode becomes the one that the table assigns to what is carried, or the answer is `False` and
the systems are as before. -/
def OnlyRequested {σ : Type} (table : Dict ℤ String) (carried : Option Value)
    (mode : σ → Option Value) (before : σ) (result : Bool × σ) : Prop :=
  (∃ name, carried.bind (assigned table) = some name ∧ mode result.2 = some (.str name)) ∨
    result = (false, before)

/-- The mode of the flight management system. -/
def fmsMode (fms : FlightManagementSystem) : Option Value := Dict.get? fms.tactical "mode"

def fcsModeValue (fms : FlightManagementSystem) : Option Value := fms.fcsMode.map Value.str

/-! ### When that fails -/

/-- A value of the wire that a table does not have. -/
def Unknown (table : Dict ℤ String) (v : Value) : Prop :=
  ∃ n, wireValue v = some n ∧ Dict.get? table n = none

/-- `_handle_fcs_mode_change` fails on a value that the table does not have, in text or in a list that
come without a mode, or in text that comes with an empty one. -/
def FcsGuesses (message : Message) (fms : FlightManagementSystem) : Prop :=
  fms.flightControlSystem.isSome = true ∧
    match Dict.get? message "mode", Dict.get? message "data" with
    | some mode, some (.str data) => mode.truthy = false ∧ Unknown fcsNames (.str data)
    | some _, _ => False
    | none, some data => ∃ v, itemOf data = some v ∧ Unknown fcsNames v
    | none, none => False

/-- The digits before the last group of eight or less are zeros, and the last group is a mode. -/
def SmallWord (table : Dict ℤ String) (cs : List Char) : Prop :=
  ofBits (cs.take (8 * ((cs.length - 1) / 8))) = 0 ∧
    Dict.has table (ofBits (cs.drop (8 * ((cs.length - 1) / 8)))) = true

/-- `_handle_mode_change` fails on binary data whose value is no mode, which for digits that are not
in groups of eight may be one, and on empty or missing data unless `NORMAL` is named. -/
def FmsGuesses (message : Message) (fms : FlightManagementSystem) : Prop :=
  Dict.has fms.tactical "mode" = true ∧
    (match Dict.getD message "data" (.str "") with
    | .str data => isBinary data = true ∧
        (if data = "" then (carriedNames message).bind (assigned modeMap) ≠ some "NORMAL"
        else ¬SmallWord modeMap data.toList)
    | _ => False)

/-- The mode that `_handle_mode_change_sync` finds in another place than the data. -/
def otherMode (attributes : Message) : Value :=
  orElse (Dict.getD attributes "mode" .none) (metadataField attributes "mode")

/-- `_handle_mode_change_sync` fails on a list that begins with an integer that is no mode, when a name
comes in another place. -/
def SyncGuesses (attributes : Message) : Prop :=
  (∃ item rest n, Dict.get? attributes "data" = some (.list (item :: rest)) ∧ item.int? = some n ∧
    Dict.get? modeValueToName n = none) ∧
    ∃ name ∈ allModes, otherMode attributes = .str name

/-! ### A mode that is set -/

/-- The mode that a call sets is right exactly when the mode that it is called with is assigned to what
is carried, unless the call refuses it. -/
theorem onlyRequested_iff {σ : Type} {valid : List String} {table : Dict ℤ String}
    {carried : Option Value} {mode : σ → Option Value} {before : σ} {result : Bool × σ} {v : Value}
    (h : (∃ name ∈ valid, v = .str name ∧ result.1 = true ∧ mode result.2 = some (.str name)) ∨
      (∀ name ∈ valid, v ≠ .str name) ∧ result = (false, before)) :
    OnlyRequested table carried mode before result ↔
      ∀ name ∈ valid, v = .str name → carried.bind (assigned table) = some name := by
  rcases h with ⟨name, hname, rfl, hok, hmode⟩ | ⟨hno, hresult⟩
  · constructor
    · rintro (⟨other, hassigned, hother⟩ | hfalse) name' _ heq
      · cases heq
        cases hmode.symm.trans hother
        exact hassigned
      · rw [hfalse] at hok
        cases hok
    · intro hassigned
      exact .inl ⟨name, hassigned name hname rfl, hmode⟩
  · exact iff_of_true (.inr hresult) fun name hname heq => absurd heq (hno name hname)

namespace FlightManagementSystem

theorem setMode_cases (fms : FlightManagementSystem) (mode : Value) :
    (∃ name ∈ validModes, mode = .str name ∧ (fms.setMode mode).1 = true ∧
      fmsMode (fms.setMode mode).2 = some (.str name)) ∨
    (∀ name ∈ validModes, mode ≠ .str name) ∧ fms.setMode mode = (false, fms) := by
  cases mode with
  | str name =>
    by_cases hname : name ∈ validModes
    · exact .inl ⟨name, hname, rfl, by simp [setMode, hname], by simp [setMode, hname, fmsMode]⟩
    · refine .inr ⟨fun other hother heq => ?_, by simp [setMode, hname]⟩
      cases heq
      exact hname hother
  | _ => exact .inr ⟨fun name _ => by simp, rfl⟩

end FlightManagementSystem

/-- A mode is assigned to its own name. -/
theorem assigned_fmsName {name : String} (h : name ∈ validModes) :
    assigned fmsModeValueToName (.str name) = some name := by
  simp only [validModes, List.mem_cons, List.not_mem_nil, or_false] at h
  rcases h with rfl | rfl | rfl | rfl | rfl <;> rfl

theorem assigned_fcsName {name : String} (h : name ∈ allModes) :
    assigned modeValueToName (.str name) = some name := by
  simp only [allModes, List.mem_cons, List.not_mem_nil, or_false] at h
  rcases h with rfl | rfl | rfl | rfl | rfl | rfl <;> rfl

theorem named_of_mem {valid : List String} (hvalid : "" ∉ valid) {name : String} (h : name ∈ valid) :
    named (.str name) = some (.str name) := by
  have hne : name ≠ "" := fun heq => hvalid (heq ▸ h)
  simp [named, hne]

theorem worded_str {s : String} (h : s ≠ "") : worded (.str s) = some (.str s) := by
  simp [worded, h]

theorem wireValue_binary {s : String} (h : isBinary s = true) (hne : s ≠ "") :
    wireValue (.str s) = some (ofBits s.toList : ℤ) := by
  simp [wireValue, h, hne]

theorem wireValue_text {s : String} (h : isBinary s = false ∨ s = "") :
    wireValue (.str s) = none := by
  rcases h with h | h <;> simp [wireValue, h]

theorem assigned_of_wireValue (table : Dict ℤ String) {v : Value} {n : ℤ} (h : wireValue v = some n) :
    assigned table v = Dict.get? table n := by
  simp [assigned, h]

theorem not_unknown_of_none (table : Dict ℤ String) {v : Value} (h : wireValue v = none) :
    ¬Unknown table v := by
  rintro ⟨n, hn, -⟩
  rw [h] at hn
  cases hn

theorem named_getD_of_none {d : Message} {key : String} (h : Dict.get? d key = none) :
    named (Dict.getD d key .none) = none := by
  rw [Dict.getD, h]
  rfl

/-- What is found by name in the fields is what they carry. -/
theorem carriedNames_of_namedMode {message : Message} {name : String} (hname : name ∈ validModes)
    (h : namedMode message = .str name) : carriedNames message = some (.str name) := by
  have hnamed : named (.str name) = some (.str name) := named_of_mem (by decide) hname
  unfold namedMode at h
  unfold carriedNames
  cases hmode : Dict.get? message "mode" with
  | some mode =>
    rw [hmode] at h
    cases h
    rw [Dict.getD_of_get? hmode, hnamed]
    rfl
  | none =>
    rw [named_getD_of_none hmode, Option.none_or]
    cases hmodeName : Dict.get? message "mode_name" with
    | some mode =>
      rw [hmode, hmodeName] at h
      cases h
      rw [Dict.getD_of_get? hmodeName, hnamed]
      rfl
    | none =>
      rw [named_getD_of_none hmodeName, Option.none_or]
      rw [hmode, hmodeName] at h
      unfold parameterField
      dsimp only at h
      cases hparameters : Dict.getD message "parameters" .none with
      | dict parameters =>
        rw [hparameters] at h
        dsimp only at h ⊢
        cases hfield : Dict.get? parameters "mode" with
        | some mode =>
          rw [hfield] at h
          cases h
          rw [Dict.getD_of_get? hfield, hnamed]
          rfl
        | none =>
          have hfield' : Dict.getD parameters "mode_name" .none = .str name := by
            rw [hfield] at h
            exact h
          rw [named_getD_of_none hfield, Option.none_or, hfield', hnamed]
      | _ =>
        rw [hparameters] at h
        cases h

/-! ### Groups of eight digits -/

theorem ofBits_append_list (as bs : List Char) :
    ofBits (as ++ bs) = ofBits as * 2 ^ bs.length + ofBits bs := by
  induction bs using List.reverseRecOn with
  | nil => simp [ofBits]
  | append_singleton bs c ih =>
    rw [← List.append_assoc, ofBits_append, ih, ofBits_append, List.length_append,
      List.length_singleton, pow_succ]
    ring

/-- The number of the first groups, when they are full. -/
theorem fromBytes_groups (cs : List Char) (k : ℕ) (h : 8 * k ≤ cs.length) :
    fromBytes ((List.range k).map fun i => (ofBits ((cs.drop (8 * i)).take 8) : ℤ)) =
      ofBits (cs.take (8 * k)) := by
  induction k with
  | zero => rfl
  | succ k ih =>
    have hgroup : ((cs.drop (8 * k)).take 8).length = 8 := by
      rw [List.length_take, List.length_drop]
      omega
    have hsplit : cs.take (8 * (k + 1)) = cs.take (8 * k) ++ (cs.drop (8 * k)).take 8 := by
      rw [show 8 * (k + 1) = 8 * k + 8 by omega, List.take_add]
    have hprevious := ih (by omega)
    unfold fromBytes at hprevious ⊢
    rw [List.range_succ, List.map_append, List.foldl_append, hprevious, hsplit, ofBits_append_list,
      hgroup]
    simp
    ring

/-- The digits as groups of eight, of which the last can be shorter. -/
theorem modeBytes_eq (data : String) :
    modeBytes data = .ok ((List.range ((data.toList.length + 7) / 8)).map
      fun i => (ofBits ((data.toList.drop (8 * i)).take 8) : ℤ)) := by
  have hgroup : ∀ i < (data.toList.length + 7) / 8,
      bitsNumber (slice data (8 * i) (8 * i + 8)) =
        .ok (ofBits ((data.toList.drop (8 * i)).take 8) : ℤ) := by
    intro i hi
    have hslice : slice data (8 * i) (8 * i + 8) =
        String.ofList ((data.toList.drop (8 * i)).take 8) := by
      rw [slice, Nat.add_sub_cancel_left]
    have hne : slice data (8 * i) (8 * i + 8) ≠ "" := by
      intro heq
      have hlen := congrArg (fun s : String => s.toList.length) heq
      rw [hslice] at hlen
      simp at hlen
      omega
    rw [bitsNumber, if_neg hne, hslice, String.toList_ofList]
  have hall : ∀ is : List ℕ, (∀ i ∈ is, i < (data.toList.length + 7) / 8) →
      is.mapM (fun i => bitsNumber (slice data (8 * i) (8 * i + 8))) =
        .ok (is.map fun i => (ofBits ((data.toList.drop (8 * i)).take 8) : ℤ)) := by
    intro is
    induction is with
    | nil => exact fun _ => rfl
    | cons i is ih =>
      intro hlt
      rw [List.mapM_cons, hgroup i (hlt i (by simp)), ih fun j hj => hlt j (by simp [hj])]
      rfl
  rw [modeBytes, ← String.length_toList]
  exact hall _ fun i hi => List.mem_range.mp hi

/-- The number of the groups of some digits: the last group counts for eight digits, however many it
has. -/
theorem fromBytes_all {cs : List Char} (h : cs ≠ []) :
    fromBytes ((List.range ((cs.length + 7) / 8)).map
      fun i => (ofBits ((cs.drop (8 * i)).take 8) : ℤ)) =
      256 * ofBits (cs.take (8 * ((cs.length - 1) / 8))) +
        ofBits (cs.drop (8 * ((cs.length - 1) / 8))) := by
  have hpos : 0 < cs.length := List.length_pos_iff.mpr h
  have hcount : (cs.length + 7) / 8 = (cs.length - 1) / 8 + 1 := by omega
  have hprevious := fromBytes_groups cs ((cs.length - 1) / 8) (by omega)
  have hlast : (cs.drop (8 * ((cs.length - 1) / 8))).take 8 = cs.drop (8 * ((cs.length - 1) / 8)) := by
    apply List.take_of_length_le
    rw [List.length_drop]
    omega
  unfold fromBytes at hprevious ⊢
  rw [hcount, List.range_succ, List.map_append, List.foldl_append, hprevious]
  simp [hlast]

/-- The groups of eight digits and the digits themselves write the same mode, or `NORMAL` is taken for
what is no mode. -/
theorem small_iff {cs : List Char} (h : cs ≠ []) :
    Dict.get? fmsModeValueToName (ofBits cs) = some (Dict.getD modeMap
      (256 * ofBits (cs.take (8 * ((cs.length - 1) / 8))) +
        ofBits (cs.drop (8 * ((cs.length - 1) / 8))) : ℤ) "NORMAL") ↔ SmallWord modeMap cs := by
  have hpos : 0 < cs.length := List.length_pos_iff.mpr h
  have hsplit : ofBits cs = ofBits (cs.take (8 * ((cs.length - 1) / 8))) *
      2 ^ (cs.drop (8 * ((cs.length - 1) / 8))).length +
        ofBits (cs.drop (8 * ((cs.length - 1) / 8))) := by
    rw [← ofBits_append_list, List.take_append_drop]
  have hlength : 1 ≤ (cs.drop (8 * ((cs.length - 1) / 8))).length := by
    rw [List.length_drop]
    omega
  unfold SmallWord
  generalize ofBits (cs.take (8 * ((cs.length - 1) / 8))) = full at *
  generalize ofBits (cs.drop (8 * ((cs.length - 1) / 8))) = last at *
  by_cases hfull : full = 0
  · subst hfull
    rw [zero_mul, zero_add] at hsplit
    rw [hsplit, Nat.cast_zero, mul_zero, zero_add, Dict.getD, show modeMap = fmsModeValueToName from rfl]
    cases hget : Dict.get? fmsModeValueToName (last : ℤ) with
    | none => simp [Dict.has, hget]
    | some name => simp [Dict.has, hget]
  · -- then the number of the groups is no mode, and the digits do not write 0
    refine iff_of_false ?_ fun hsmall => hfull hsmall.1
    have hnone : Dict.get? modeMap (256 * (full : ℤ) + last) = none := by
      apply Dict.get?_eq_none
      have hkeys : ∀ e ∈ modeMap, e.1 ≤ 4 := by decide
      intro e he
      have := hkeys e he
      omega
    rw [Dict.getD, hnone]
    intro hget
    have hzero : ∀ e ∈ fmsModeValueToName, e.2 = "NORMAL" → e.1 = 0 := by decide
    have hofBits := hzero _ (Dict.mem_of_get?_eq_some hget) rfl
    have hpow := Nat.pow_le_pow_right (show 0 < 2 by decide) hlength
    have hmul := Nat.mul_le_mul (Nat.one_le_iff_ne_zero.mpr hfull) hpow
    dsimp only at hofBits
    omega

/-! ### The handlers -/

/-- `NORMAL` is taken for what the table does not have. -/
theorem fcsNameOf_iff (n : ℤ) :
    (∀ name ∈ allModes, fcsNameOf n = .str name → Dict.get? modeValueToName n = some name) ↔
      Dict.get? fcsNames n ≠ none := by
  rw [show modeValueToName = fcsNames from rfl, fcsNameOf, Dict.getD]
  cases hget : Dict.get? fcsNames n with
  | none =>
    refine iff_of_false (fun h => ?_) (fun h => h rfl)
    cases h "NORMAL" (by decide) rfl
  | some name =>
    refine iff_of_true (fun other _ heq => ?_) (by simp)
    cases heq
    rfl

/-- The name of a mode is no binary text, and not empty. -/
theorem not_binary_of_mem {name : String} (h : name ∈ allModes) :
    isBinary name = false ∧ name ≠ "" := by
  simp only [allModes, List.mem_cons, List.not_mem_nil, or_false] at h
  rcases h with rfl | rfl | rfl | rfl | rfl | rfl <;> decide

/-- The handler sets the mode that it has found, if that is the name of one. -/
theorem handleFcsModeChange_cases {message : Message} {fms : FlightManagementSystem}
    {fcs : FlightControlSystem} (h : fms.flightControlSystem = some fcs) :
    (∃ name ∈ allModes, fcsRequestedMode message = .str name ∧
      (handleFcsModeChange message fms).1 = true ∧
      fcsModeValue (handleFcsModeChange message fms).2 = some (.str name)) ∨
    (∀ name ∈ allModes, fcsRequestedMode message ≠ .str name) ∧
      handleFcsModeChange message fms = (false, fms) := by
  unfold handleFcsModeChange
  rw [h]
  dsimp only
  by_cases htruthy : (fcsRequestedMode message).truthy = true
  · rw [if_pos htruthy]
    rcases fcs.setMode_cases (fcsRequestedMode message) with ⟨name, hname, heq, hok, hmode⟩ | ⟨hno, hset⟩
    · exact .inl ⟨name, hname, heq, hok, by simp [fcsModeValue, FlightManagementSystem.fcsMode, hmode]⟩
    · refine .inr ⟨hno, ?_⟩
      rw [hset, ← h]
  · rw [if_neg htruthy]
    refine .inr ⟨fun name hname heq => htruthy ?_, rfl⟩
    rw [heq]
    simpa [Value.truthy] using (not_binary_of_mem hname).2

theorem fcsNameOf_truthy (n : ℤ) : (fcsNameOf n).truthy = true := by
  have hne : Dict.getD fcsNames n "NORMAL" ≠ "" := by
    rw [Dict.getD]
    cases hget : Dict.get? fcsNames n with
    | none => decide
    | some name =>
      have hnames : ∀ e ∈ fcsNames, e.2 ≠ "" := by decide
      exact hnames _ (Dict.mem_of_get?_eq_some hget)
  simpa [fcsNameOf, Value.truthy] using hne

/-- No mode is empty. -/
theorem ne_name_of_falsy {v : Value} (h : v.truthy = false) {name : String} (hname : name ∈ allModes) :
    v ≠ .str name := by
  rintro rfl
  have hne := (not_binary_of_mem hname).2
  simp [Value.truthy, hne] at h

theorem fcsDirectMode_of_truthy {mode : Value} (h : mode.truthy = true) (data : Option Value) :
    fcsDirectMode data mode = mode := by
  unfold fcsDirectMode
  rw [if_pos h]

/-- What the handler finds in data that come without a mode. -/
inductive Found (data mode : Value) : Prop
  | value (v : Value) (n : ℤ) (item : itemOf data = some v) (number : wireValue v = some n)
      (found : mode = fcsNameOf n)
  | name (s : String) (item : itemOf data = some (.str s)) (text : wireValue (.str s) = none)
      (found : mode = .str s)
  | nothing (item : itemOf data = none) (found : mode.truthy = false)

/-- Text, alone or in a list, is a value, a name or empty. -/
theorem found_text {data empty : Value} {s : String} (hitem : itemOf data = worded (.str s))
    (hempty : s = "" → empty.truthy = false)
    (hdirect : s = "" → fcsDirectMode (some data) empty = empty) :
    Found data (fcsDirectMode (some data) (if isBinary s then match bitsNumber s with
        | .ok n => fcsNameOf n
        | .error _ => empty
      else .str s)) := by
  by_cases hne : s = ""
  · subst hne
    refine .nothing (by rw [hitem]; rfl) ?_
    show (fcsDirectMode (some data) empty).truthy = false
    rw [hdirect rfl]
    exact hempty rfl
  · rw [worded_str hne] at hitem
    by_cases hbinary : isBinary s = true
    · have hnumber : bitsNumber s = .ok (ofBits s.toList : ℤ) := if_neg hne
      rw [if_pos hbinary, hnumber]
      dsimp only
      rw [fcsDirectMode_of_truthy (fcsNameOf_truthy _)]
      exact .value _ _ hitem (wireValue_binary hbinary hne) rfl
    · rw [if_neg hbinary, fcsDirectMode_of_truthy (by simpa [Value.truthy] using hne)]
      exact .name s hitem (wireValue_text (.inl (by simpa using hbinary))) rfl

theorem found (data : Value) : Found data (fcsDirectMode (some data) (fcsDataMode data)) := by
  have hother : ∀ v : Value, (∀ s, v ≠ .str s) → fcsDirectMode (some v) .none = .none := by
    intro v hv
    cases v with
    | str s => exact absurd rfl (hv s)
    | _ => rfl
  cases data with
  | str s => exact found_text rfl (fun _ => rfl) fun h => by subst h; rfl
  | list items =>
    cases items with
    | nil => exact .nothing rfl rfl
    | cons item rest =>
      cases item with
      | str s => exact found_text rfl (fun h => by subst h; rfl) fun h => by subst h; rfl
      | int n =>
        refine .value (.int n) n rfl rfl (fcsDirectMode_of_truthy (fcsNameOf_truthy n) _)
      | bool b =>
        refine .value (.bool b) _ rfl rfl (fcsDirectMode_of_truthy (fcsNameOf_truthy _) _)
      | _ => exact .nothing rfl rfl
  | _ => exact .nothing rfl rfl

theorem Found.iff {data mode : Value} (h : Found data mode) :
    (∀ name ∈ allModes, mode = .str name →
      (itemOf data).bind (assigned modeValueToName) = some name) ↔
    ¬∃ v, itemOf data = some v ∧ Unknown fcsNames v := by
  cases h with
  | value v n hitem hnumber hfound =>
    subst hfound
    rw [hitem, Option.bind_some, assigned_of_wireValue _ hnumber, fcsNameOf_iff]
    simp [Unknown, hnumber]
  | name s hitem htext hfound =>
    subst hfound
    refine iff_of_true (fun name hname heq => ?_) ?_
    · cases heq
      rw [hitem]
      exact assigned_fcsName hname
    · rintro ⟨v, hv, hunknown⟩
      cases hitem.symm.trans hv
      exact not_unknown_of_none _ htext hunknown
  | nothing hitem hfound =>
    refine iff_of_true (fun name hname heq => absurd heq (ne_name_of_falsy hfound hname)) ?_
    rintro ⟨v, hv, -⟩
    cases hitem.symm.trans hv

/-- What the second attempt finds beside an empty mode. -/
theorem second_iff {mode : Value} (h : mode.truthy = false) (data : Option Value) :
    (∀ name ∈ allModes, fcsDirectMode data mode = .str name →
      (data.bind itemOf).bind (assigned modeValueToName) = some name) ↔
    ¬∃ s, data = some (.str s) ∧ Unknown fcsNames (.str s) := by
  have hnothing : fcsDirectMode data mode = mode →
      (∀ name ∈ allModes, fcsDirectMode data mode = .str name →
        (data.bind itemOf).bind (assigned modeValueToName) = some name) := by
    intro heq name hname hfound
    rw [heq] at hfound
    exact absurd hfound (ne_name_of_falsy h hname)
  by_cases htext : ∃ s, data = some (.str s) ∧ isBinary s = true ∧ s ≠ ""
  · obtain ⟨s, rfl, hbinary, hne⟩ := htext
    have hnumber : bitsNumber s = .ok (ofBits s.toList : ℤ) := if_neg hne
    have hdirect : fcsDirectMode (some (.str s)) mode = fcsNameOf (ofBits s.toList) := by
      simp [fcsDirectMode, h, hbinary, hnumber]
    have hitem : itemOf (.str s) = some (.str s) := worded_str hne
    have hwire := wireValue_binary hbinary hne
    rw [hdirect, Option.bind_some, hitem, Option.bind_some, assigned_of_wireValue _ hwire,
      fcsNameOf_iff]
    simp [Unknown, hwire]
  · have hdirect : fcsDirectMode data mode = mode := by
      unfold fcsDirectMode
      rw [if_neg (by simp [h])]
      split
      · next s =>
        split
        · next hbinary =>
          have hempty : s = "" := by
            by_contra hne
            exact htext ⟨s, rfl, hbinary, hne⟩
          subst hempty
          rfl
        · rfl
      · rfl
    refine iff_of_true (hnothing hdirect) ?_
    rintro ⟨s, rfl, hunknown⟩
    have hwire : wireValue (.str s) = none := by
      apply wireValue_text
      by_contra hboth
      rw [not_or] at hboth
      exact htext ⟨s, rfl, by simpa using hboth.1, hboth.2⟩
    exact not_unknown_of_none _ hwire hunknown

theorem named_of_falsy {v : Value} (h : v.truthy = false) : named v = none := by
  cases v with
  | str s =>
    have hs : s = "" := by simpa [Value.truthy] using h
    rw [hs]
    rfl
  | _ => rfl

theorem fcs_onlyRequested_iff (message : Message) (fms : FlightManagementSystem) :
    OnlyRequested modeValueToName (carriedForFcs message) fcsModeValue fms
      (handleFcsModeChange message fms) ↔ ¬FcsGuesses message fms := by
  cases hfcs : fms.flightControlSystem with
  | none =>
    have hresult : handleFcsModeChange message fms = (false, fms) := by
      rw [handleFcsModeChange, hfcs]
    refine iff_of_true (.inr hresult) ?_
    rintro ⟨hsome, -⟩
    rw [hfcs] at hsome
    cases hsome
  | some fcs =>
    rw [onlyRequested_iff (handleFcsModeChange_cases hfcs), FcsGuesses, hfcs, fcsRequestedMode,
      carriedForFcs, dataItem]
    cases hmode : Dict.get? message "mode" with
    | none =>
      rw [named_getD_of_none hmode, Option.none_or]
      cases hdata : Dict.get? message "data" with
      | none =>
        refine iff_of_true (fun name _ heq => ?_) (fun h => h.2)
        cases heq
      | some data =>
        have hiff := (found data).iff
        simpa using hiff
    | some mode =>
      rw [Dict.getD_of_get? hmode]
      have hguess : (match some mode, Dict.get? message "data" with
          | some mode, some (.str data) => mode.truthy = false ∧ Unknown fcsNames (.str data)
          | some _, _ => False
          | none, some data => ∃ v, itemOf data = some v ∧ Unknown fcsNames v
          | none, none => False) ↔ mode.truthy = false ∧
          ∃ s, Dict.get? message "data" = some (.str s) ∧ Unknown fcsNames (.str s) := by
        cases Dict.get? message "data" with
        | none => simp
        | some data => cases data <;> simp
      rw [hguess]
      cases htruthy : mode.truthy with
      | true =>
        rw [fcsDirectMode_of_truthy htruthy]
        refine iff_of_true (fun name hname heq => ?_) fun h => by cases h.2.1
        subst heq
        rw [named_of_mem (by decide) hname]
        exact assigned_fcsName hname
      | false =>
        rw [named_of_falsy htruthy, Option.none_or, second_iff htruthy]
        simp

/-- Naming a mode in a field is right. -/
theorem changeToNamed_onlyRequested {message : Message} (hdata : binaryData message = none)
    (fms : FlightManagementSystem) :
    OnlyRequested fmsModeValueToName (carriedForFms message) fmsMode fms (changeToNamed message fms) := by
  unfold changeToNamed
  split
  · rw [onlyRequested_iff (fms.setMode_cases (namedMode message)), carriedForFms, hdata,
      Option.none_or]
    intro name hname heq
    rw [carriedNames_of_namedMode hname heq]
    exact assigned_fmsName hname
  · exact .inr rfl

theorem binaryData_of_not_text {message : Message} {v : Value}
    (h : Dict.getD message "data" (.str "") = v) (hv : ∀ s, v ≠ .str s) : binaryData message = none := by
  unfold Dict.getD at h
  unfold binaryData
  cases hget : Dict.get? message "data" with
  | none =>
    rw [hget] at h
    exact absurd h.symm (hv "")
  | some w =>
    rw [hget] at h
    rw [Dict.getD_of_get? hget]
    cases w with
    | str s => exact absurd h.symm (hv s)
    | _ => rfl

/-- The number of the groups is never refused. -/
theorem groups_iff {carried : Option Value} (n : ℤ) (fms : FlightManagementSystem) :
    OnlyRequested fmsModeValueToName carried fmsMode fms
      (fms.setMode (.str (Dict.getD modeMap n "NORMAL"))) ↔
    carried.bind (assigned fmsModeValueToName) = some (Dict.getD modeMap n "NORMAL") := by
  have hmem : Dict.getD modeMap n "NORMAL" ∈ validModes := by
    rw [Dict.getD]
    cases hget : Dict.get? modeMap n with
    | none => decide
    | some name =>
      have hnames : ∀ e ∈ modeMap, e.2 ∈ validModes := by decide
      exact hnames _ (Dict.mem_of_get?_eq_some hget)
  rw [onlyRequested_iff (fms.setMode_cases _)]
  constructor
  · exact fun h => h _ hmem rfl
  · intro h name _ heq
    cases heq
    exact h

theorem fms_onlyRequested_iff (message : Message) (fms : FlightManagementSystem) :
    OnlyRequested fmsModeValueToName (carriedForFms message) fmsMode fms
      (handleModeChange message fms) ↔ ¬FmsGuesses message fms := by
  unfold handleModeChange FmsGuesses
  cases hmode : Dict.has fms.tactical "mode" with
  | false => exact iff_of_true (.inr rfl) (by simp)
  | true =>
    rw [if_pos rfl]
    cases hdata : Dict.getD message "data" (.str "") with
    | str data =>
      dsimp only
      have hnone : Dict.get? message "data" = none ∧ data = "" ∨
          Dict.get? message "data" = some (.str data) := by
        unfold Dict.getD at hdata
        cases hget : Dict.get? message "data" with
        | none =>
          rw [hget] at hdata
          cases hdata
          exact .inl ⟨rfl, rfl⟩
        | some v =>
          rw [hget] at hdata
          cases hdata
          exact .inr rfl
      cases hbinary : isBinary data with
      | false =>
        rw [if_neg Bool.false_ne_true]
        refine iff_of_true (changeToNamed_onlyRequested ?_ fms) (by simp)
        rcases hnone with ⟨-, rfl⟩ | hget
        · cases hbinary
        · simp [binaryData, Dict.getD_of_get? hget, hbinary]
      | true =>
        rw [if_pos rfl, modeBytes_eq]
        dsimp only
        rw [groups_iff]
        by_cases hempty : data = ""
        · subst hempty
          have hcarried : carriedForFms message = carriedNames message := by
            have hbinaryData : binaryData message = none := by
              rcases hnone with ⟨hget, -⟩ | hget
              · simp [binaryData, Dict.getD, hget]
              · simp [binaryData, Dict.getD_of_get? hget, hbinary, named]
            rw [carriedForFms, hbinaryData, Option.none_or]
          have hnormal : Dict.getD modeMap (fromBytes ((List.range (("".toList.length + 7) / 8)).map
              fun i => (ofBits (("".toList.drop (8 * i)).take 8) : ℤ))) "NORMAL" = "NORMAL" := rfl
          rw [hcarried, hnormal]
          simp [show modeMap = fmsModeValueToName from rfl]
        · have hcarried : carriedForFms message = some (.str data) := by
            rcases hnone with ⟨-, hfalse⟩ | hget
            · exact absurd hfalse hempty
            · simp [carriedForFms, binaryData, Dict.getD_of_get? hget, hbinary, named, hempty]
          have hlist : data.toList ≠ [] := by
            intro hnil
            exact hempty (String.toList_eq_nil_iff.mp hnil)
          rw [hcarried, Option.bind_some, assigned_of_wireValue _ (wireValue_binary hbinary hempty),
            fromBytes_all hlist, small_iff hlist]
          simp [hempty]
    | _ =>
      dsimp only
      refine iff_of_true (changeToNamed_onlyRequested ?_ fms) (by simp)
      exact binaryData_of_not_text hdata (by simp)

theorem named_otherMode {attributes : Message} {name : String} (hname : name ∈ allModes)
    (h : otherMode attributes = .str name) :
    (named (Dict.getD attributes "mode" .none)).or (named (metadataField attributes "mode")) =
      some (.str name) := by
  have hnamed : named (.str name) = some (.str name) := named_of_mem (by decide) hname
  unfold otherMode orElse at h
  split at h
  · next hnone =>
    rw [hnone, h, hnamed]
    rfl
  · rw [h, hnamed]
    rfl

theorem handleModeChangeSync_cases (attributes : Message) (fcs : FlightControlSystem) :
    (∃ name ∈ allModes, orElse (FlightControlSystem.dataMode attributes) (otherMode attributes) =
        .str name ∧ (fcs.handleModeChangeSync attributes).1 = true ∧
      some (Value.str (fcs.handleModeChangeSync attributes).2.mode) = some (.str name)) ∨
    (∀ name ∈ allModes, orElse (FlightControlSystem.dataMode attributes) (otherMode attributes) ≠
        .str name) ∧ fcs.handleModeChangeSync attributes = (false, fcs) := by
  have hassoc : ∀ u v w : Value, orElse (orElse u v) w = orElse u (orElse v w) := by
    intro u v w
    unfold orElse
    by_cases hu : u = .none
    · simp [hu]
    · simp [hu]
  unfold FlightControlSystem.handleModeChangeSync
  dsimp only
  rw [hassoc, ← otherMode]
  split
  · next hnone =>
    refine .inr ⟨fun name _ heq => ?_, rfl⟩
    rw [hnone] at heq
    cases heq
  · rcases fcs.setMode_cases (orElse (FlightControlSystem.dataMode attributes) (otherMode attributes))
      with ⟨name, hname, heq, hok, hmode⟩ | h
    · exact .inl ⟨name, hname, heq, hok, by rw [hmode]⟩
    · exact .inr h

section

variable {attributes : Message}

/-- Where the data carry nothing, another place decides. -/
theorem requested_elsewhere (hmode : FlightControlSystem.dataMode attributes = .none)
    (hitem : dataItem attributes = none) {name : String} (hname : name ∈ allModes)
    (h : orElse (FlightControlSystem.dataMode attributes) (otherMode attributes) = .str name) :
    (carriedForSync attributes).bind (assigned modeValueToName) = some name := by
  rw [hmode] at h
  rw [carriedForSync, hitem, Option.none_or, named_otherMode hname h]
  exact assigned_fcsName hname

/-- Text in the data decides by itself. -/
theorem requested_text {s : String} (hmode : FlightControlSystem.dataMode attributes = .str s)
    (hitem : dataItem attributes = worded (.str s)) {name : String} (hname : name ∈ allModes)
    (h : orElse (FlightControlSystem.dataMode attributes) (otherMode attributes) = .str name) :
    (carriedForSync attributes).bind (assigned modeValueToName) = some name := by
  rw [hmode] at h
  have heq : s = name := by simpa [orElse] using h
  subst heq
  rw [carriedForSync, hitem, worded_str (not_binary_of_mem hname).2]
  exact assigned_fcsName hname

/-- An integer in the data decides if it is a mode, and else another place does. -/
theorem requested_integer_iff {item : Value} {n : ℤ}
    (hmode : FlightControlSystem.dataMode attributes = FlightControlSystem.modeOfInteger n)
    (hitem : dataItem attributes = some item) (hnumber : wireValue item = some n) :
    (∀ name ∈ allModes, orElse (FlightControlSystem.dataMode attributes) (otherMode attributes) =
        .str name → (carriedForSync attributes).bind (assigned modeValueToName) = some name) ↔
      ¬(Dict.get? modeValueToName n = none ∧ ∃ name ∈ allModes, otherMode attributes = .str name) := by
  rw [hmode, FlightControlSystem.modeOfInteger_eq, carriedForSync, hitem, Option.some_or,
    Option.some_or, Option.bind_some, assigned_of_wireValue _ hnumber]
  cases hget : Dict.get? modeValueToName n with
  | none => simp [orElse]
  | some name =>
    refine iff_of_true (fun other _ heq => ?_) (by simp)
    simpa [orElse] using heq

theorem sync_onlyRequested_iff (attributes : Message) (fcs : FlightControlSystem) :
    OnlyRequested modeValueToName (carriedForSync attributes) (fun fcs => some (.str fcs.mode)) fcs
      (fcs.handleModeChangeSync attributes) ↔ ¬SyncGuesses attributes := by
  rw [onlyRequested_iff (handleModeChangeSync_cases attributes fcs), SyncGuesses]
  cases hdata : Dict.get? attributes "data" with
  | none =>
    have hmode : FlightControlSystem.dataMode attributes = .none := by
      simp [FlightControlSystem.dataMode, Dict.getD, hdata]
    have hitem : dataItem attributes = none := by simp [dataItem, hdata]
    exact iff_of_true (fun _ hname => requested_elsewhere hmode hitem hname) (by simp)
  | some data =>
    have hmode : FlightControlSystem.dataMode attributes =
        FlightControlSystem.dataMode [("data", data)] := by
      unfold FlightControlSystem.dataMode
      rw [Dict.getD_of_get? hdata]
      rfl
    have hitem : dataItem attributes = itemOf data := by rw [dataItem, hdata, Option.bind_some]
    cases data with
    | str s =>
      exact iff_of_true (fun _ hname => requested_text (hmode.trans rfl) hitem hname) (by simp)
    | list items =>
      cases items with
      | nil =>
        exact iff_of_true (fun _ hname => requested_elsewhere (hmode.trans rfl) hitem hname) (by simp)
      | cons item rest =>
        cases item with
        | str s =>
          exact iff_of_true (fun _ hname => requested_text (hmode.trans rfl) hitem hname)
            (by simp [Value.int?])
        | int n =>
          rw [requested_integer_iff (n := n) (hmode.trans rfl) hitem rfl]
          simp [Value.int?]
        | bool b =>
          rw [requested_integer_iff (n := if b then 1 else 0) (hmode.trans rfl) hitem rfl]
          simp [Value.int?]
        | _ =>
          exact iff_of_true (fun _ hname => requested_elsewhere (hmode.trans rfl) hitem hname)
            (by simp [Value.int?])
    | _ =>
      exact iff_of_true (fun _ hname => requested_elsewhere (hmode.trans rfl) hitem hname) (by simp)

end

/-- Each handler sets the mode that is requested or refuses, unless it comes upon what it guesses. -/
theorem modes_only_requested_iff (message : Message) (fms : FlightManagementSystem)
    (fcs : FlightControlSystem) :
    (OnlyRequested modeValueToName (carriedForFcs message) fcsModeValue fms
      (handleFcsModeChange message fms) ↔ ¬FcsGuesses message fms) ∧
    (OnlyRequested fmsModeValueToName (carriedForFms message) fmsMode fms
      (handleModeChange message fms) ↔ ¬FmsGuesses message fms) ∧
    (OnlyRequested modeValueToName (carriedForSync message) (fun fcs => some (.str fcs.mode)) fcs
      (fcs.handleModeChangeSync message) ↔ ¬SyncGuesses message) :=
  ⟨fcs_onlyRequested_iff message fms, fms_onlyRequested_iff message fms,
    sync_onlyRequested_iff message fcs⟩

/-- The word of 9 puts the flight control system into `NORMAL`. -/
theorem nine_is_normal :
    ¬OnlyRequested modeValueToName (carriedForFcs [("data", .str "0000000000001001")]) fcsModeValue
      (.initial (some { FlightControlSystem.initial with mode := "COMBAT" }) true)
      (handleFcsModeChange [("data", .str "0000000000001001")]
        (.initial (some { FlightControlSystem.initial with mode := "COMBAT" }) true)) := by
  rintro (⟨name, hassigned, -⟩ | hrefused)
  · have hnone : (carriedForFcs [("data", .str "0000000000001001")]).bind (assigned modeValueToName) =
        none := by decide +kernel
    rw [hnone] at hassigned
    cases hassigned
  · have haccepted : (handleFcsModeChange [("data", .str "0000000000001001")]
        (.initial (some { FlightControlSystem.initial with mode := "COMBAT" }) true)).1 = true := by
      decide +kernel
    rw [hrefused] at haccepted
    cases haccepted

end Fmofp.FlightManagement
