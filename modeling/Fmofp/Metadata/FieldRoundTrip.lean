import Fmofp.Metadata.Decode

/-! Putting field values into data words and reading them back.  The two are inverse for exactly the message
types whose schemas spell no range of bits as a single number. -/

namespace Fmofp.Metadata

open Python Machine

/-- At least eight words of sixteen bits. -/
structure DataWords (words : List String) : Prop where
  length : 8 ≤ words.length
  bits : ∀ word ∈ words, word.length = 16 ∧ isBinary word = true

/-- Values for some fields of the schema, each one that the bits of the field hold. -/
structure Assignment (schema : Schema) (values : Message) : Prop where
  nodup : (values.map Prod.fst).Nodup
  fits : ∀ e ∈ values, ∃ d ∈ schema.dataStructure, d.field = e.1 ∧
    ∃ n : ℕ, e.2 = .int n ∧ n < 2 ^ d.bits.size

/-- The number that a word writes. -/
def wordAt (words : List String) (i : ℕ) : ℕ := ofBits (words.getD i "").toList

/-- The bit of a word, counted from the lowest one. -/
def bitAt (words : List String) (i j : ℕ) : Bool := (wordAt words i).testBit j

/-- The bit of the word is one of the field's. -/
def FieldDef.Covers (d : FieldDef) (length i j : ℕ) : Prop :=
  actualIndex length d.wordIndex = some i ∧ d.bits.start ≤ j ∧ j < d.bits.start + d.bits.size

/-- The words after the assignment, and the fields read before and after it. -/
structure Inverse (schema : Schema) (words : List String) (values : Message) (words' : List String)
    (old fields : Message) : Prop where
  shape : DataWords words' ∧ words'.length = words.length
  complete : ∀ d ∈ schema.dataStructure, Dict.has old d.field = true
  assigned : ∀ e ∈ values, Dict.get? fields e.1 = some e.2
  others : ∀ d ∈ schema.dataStructure, Dict.has values d.field = false →
    Dict.get? fields d.field = Dict.get? old d.field
  only : ∀ k, Dict.has fields k = true → k ∈ schema.dataStructure.map FieldDef.field ∨ k = "mode"
  unchanged : ∀ i j, (∀ d ∈ schema.dataStructure, Dict.has values d.field = true → ¬d.Covers words.length i j) →
    bitAt words' i j = bitAt words i j

/-- Applying the schema and extracting its fields both succeed and are inverse. -/
def RoundTrips (py : Runtime) (messageType : String) (schema : Schema) (words : List String)
    (values : Message) : Prop :=
  ∃ words' old fields, applySchemaToDataWords py messageType words values = .ok words' ∧
    extractFieldsFromDataWords py messageType words = .ok old ∧
    extractFieldsFromDataWords py messageType words' = .ok fields ∧
    Inverse schema words values words' old fields

/-- A range of bits that is spelled as one number. -/
def BitsInfo.isSingle : BitsInfo → Bool
  | .single _ => true
  | _ => false

/-! ### The schemas -/

/-- The word of a field, among eight words. -/
def FieldDef.place (d : FieldDef) : ℤ := if 0 ≤ d.wordIndex then d.wordIndex else 8 + d.wordIndex

/-- The fields have names and words of their own, and the extracted mode has a name of its own too. -/
def Schema.isPlaced (schema : Schema) : Bool :=
  decide (schema.dataStructure.map FieldDef.field).Nodup &&
    decide (schema.dataStructure.map FieldDef.place).Nodup &&
    (schema.dataStructure.any (fun d => d.bits.isSingle) ||
      !(schema.dataStructure.map FieldDef.field).contains "mode") &&
    schema.dataStructure.all fun d =>
      decide (-2 ≤ d.wordIndex) && decide (d.wordIndex ≤ 6) && spellings.contains d.bits

theorem messageSchemas_placed : messageSchemas.all (fun e => e.2.isPlaced) = true := by
  decide +kernel

/-- A schema of the table, as the checks leave it. -/
structure Schema.Placed (schema : Schema) : Prop where
  names : (schema.dataStructure.map FieldDef.field).Nodup
  places : (schema.dataStructure.map FieldDef.place).Nodup
  mode : (∀ d ∈ schema.dataStructure, d.bits.isSingle = false) →
    "mode" ∉ schema.dataStructure.map FieldDef.field
  indices : ∀ d ∈ schema.dataStructure, -2 ≤ d.wordIndex ∧ d.wordIndex ≤ 6
  spelled : ∀ d ∈ schema.dataStructure, d.bits ∈ spellings

theorem placed_of_get? {messageType : String} {schema : Schema}
    (h : Dict.get? messageSchemas messageType = some schema) : schema.Placed := by
  have hall := List.all_eq_true.mp messageSchemas_placed _ (Dict.mem_of_get?_eq_some h)
  simp only [Schema.isPlaced, Bool.and_eq_true, decide_eq_true_eq, List.all_eq_true] at hall
  obtain ⟨⟨⟨hnames, hplaces⟩, hmode⟩, hfields⟩ := hall
  refine ⟨hnames, hplaces, fun hnone => ?_, fun d hd => (hfields d hd).1, fun d hd => ?_⟩
  · have hany : schema.dataStructure.any (fun d => d.bits.isSingle) = false := by
      rw [List.any_eq_false]
      intro d hd
      rw [hnone d hd]
      exact Bool.false_ne_true
    rw [hany, Bool.false_or, Bool.not_eq_true'] at hmode
    intro hmem
    rw [List.contains_iff_mem.mpr hmem] at hmode
    exact Bool.noConfusion hmode
  · exact List.contains_iff_mem.mp (hfields d hd).2

section Places

variable {schema : Schema} (hplaced : schema.Placed) {length : ℕ} (hlength : 8 ≤ length)
include hplaced hlength

/-- In eight words or more each field has a word. -/
theorem Schema.Placed.exists_index {d : FieldDef} (hd : d ∈ schema.dataStructure) :
    ∃ i < length, actualIndex length d.wordIndex = some i := by
  obtain ⟨hlow, hhigh⟩ := hplaced.indices d hd
  unfold actualIndex
  dsimp only
  split_ifs with hpos hin hin
  · exact ⟨_, by omega, rfl⟩
  · exact absurd ⟨hpos, by omega⟩ hin
  · exact ⟨_, by omega, rfl⟩
  · exact absurd ⟨by omega, by omega⟩ hin

/-- Two fields never share a word. -/
theorem Schema.Placed.eq_of_index {d e : FieldDef} (hd : d ∈ schema.dataStructure)
    (he : e ∈ schema.dataStructure) {i : ℕ} (hdi : actualIndex length d.wordIndex = some i)
    (hei : actualIndex length e.wordIndex = some i) : d = e := by
  obtain ⟨hdlow, hdhigh⟩ := hplaced.indices d hd
  obtain ⟨helow, hehigh⟩ := hplaced.indices e he
  have hplace : d.place = e.place := by
    unfold actualIndex at hdi hei
    unfold FieldDef.place
    dsimp only at hdi hei
    split_ifs at hdi hei ⊢ <;> simp only [Option.some.injEq] at hdi hei <;> omega
  exact List.inj_on_of_nodup_map hplaced.places hd he hplace

end Places

theorem Schema.Placed.fieldPosition {schema : Schema} (hplaced : schema.Placed) {d : FieldDef}
    (hd : d ∈ schema.dataStructure) : schema.fieldPosition d.field = some d := by
  unfold Schema.fieldPosition
  cases hfind : schema.dataStructure.find? (fun e => e.field == d.field) with
  | none =>
    have hnone := List.find?_eq_none.mp hfind d hd
    exact absurd (beq_self_eq_true d.field) hnone
  | some e =>
    have hname := List.find?_some hfind
    rw [List.inj_on_of_nodup_map hplaced.names (List.mem_of_find?_eq_some hfind) hd (eq_of_beq hname)]

/-- A spelling that is no single number is a range of a word. -/
theorem extractBitRange_of_spelled {b : BitsInfo} (hb : b ∈ spellings) (hsingle : b.isSingle = false) :
    ∃ stop, extractBitRange b = .ok (b.start, stop) ∧ stop + 1 - b.start = b.size ∧ b.start + b.size ≤ 16 := by
  simp only [spellings, List.mem_cons, List.not_mem_nil, or_false] at hb
  rcases hb with rfl | rfl | rfl | rfl | rfl
  · exact ⟨15, rfl, rfl, le_refl _⟩
  · exact ⟨2, rfl, rfl, by decide⟩
  · exact ⟨3, rfl, rfl, by decide⟩
  · exact ⟨7, rfl, rfl, by decide⟩
  · exact Bool.noConfusion hsingle

/-! ### Words -/

section Words

variable {words : List String}

theorem DataWords.intBase2 (h : DataWords words) (py : Runtime) {i : ℕ} (hi : i < words.length) :
    py.intBase2 (words.getD i "") = .ok (wordAt words i : ℕ) := by
  obtain ⟨hlength, hbinary⟩ := h.bits _ (List.getElem_mem hi)
  have hget : words.getD i "" = words[i] := List.getD_eq_getElem _ _ hi
  rw [wordAt, hget]
  apply py.intBase2_of_isBinary hbinary
  intro hempty
  rw [hempty] at hlength
  exact absurd hlength (by decide)

theorem DataWords.wordAt_lt (h : DataWords words) {i : ℕ} (hi : i < words.length) : wordAt words i < 2 ^ 16 := by
  obtain ⟨hlength, -⟩ := h.bits _ (List.getElem_mem hi)
  have hget : words.getD i "" = words[i] := List.getD_eq_getElem _ _ hi
  have hlt := ofBits_lt (words[i]).toList
  rw [String.length_toList, hlength] at hlt
  rw [wordAt, hget]
  exact hlt

variable {i n : ℕ}

/-- A number put in the place of a word. -/
theorem DataWords.set (h : DataWords words) (hn : n < 2 ^ 16) : DataWords (words.set i (formatBin 16 n)) := by
  refine ⟨by rw [List.length_set]; exact h.length, fun word hword => ?_⟩
  rcases List.mem_or_eq_of_mem_set hword with hold | rfl
  · exact h.bits word hold
  · rw [formatBin_of_lt (by norm_num) hn]
    refine ⟨?_, isBinary_ofList.mpr fun c hc => isBit_of_mem_bits hc⟩
    rw [String.length_ofList, bits_length]

theorem wordAt_set (hi : i < words.length) (hn : n < 2 ^ 16) (k : ℕ) :
    wordAt (words.set i (formatBin 16 n)) k = if k = i then n else wordAt words k := by
  unfold wordAt
  rw [List.getD_eq_getElem?_getD, List.getElem?_set, List.getD_eq_getElem?_getD]
  by_cases hk : k = i
  · rw [if_pos hk.symm, if_pos hi, if_pos hk, Option.getD_some, formatBin_of_lt (by norm_num) hn,
      String.toList_ofList, ofBits_bits_of_lt hn]
  · rw [if_neg (Ne.symm hk), if_neg hk]

end Words

/-! ### Applying an assignment -/

section Apply

variable {schema : Schema} (hplaced : schema.Placed)
  (hrange : ∀ d ∈ schema.dataStructure, d.bits.isSingle = false)

include hplaced hrange

/-- The value of one field goes into its bits. -/
theorem applyFieldToDataWords_eq (py : Runtime) {words : List String} (hwords : DataWords words) {d : FieldDef}
    (hd : d ∈ schema.dataStructure) {n : ℕ} (hn : n < 2 ^ d.bits.size) {i : ℕ}
    (hi : actualIndex words.length d.wordIndex = some i) (hlt : i < words.length) :
    applyFieldToDataWords py schema words (d.field, .int n) =
      .ok (words.set i (formatBin 16 (setRange (wordAt words i) n d.bits.start d.bits.size : ℕ))) := by
  obtain ⟨stop, hbits, hsize, -⟩ := extractBitRange_of_spelled (hplaced.spelled d hd) (hrange d hd)
  have hset := @setBits_natCast (wordAt words i) n d.bits.start stop
    (hsize.symm ▸ hn : n < 2 ^ (stop + 1 - d.bits.start))
  unfold applyFieldToDataWords
  dsimp only
  rw [hplaced.fieldPosition hd]
  dsimp only
  rw [hi]
  dsimp only
  rw [hbits, hwords.intBase2 py hlt]
  simp only [bind, Except.bind]
  rw [hset, hsize]
  rfl

/-- What an assignment does to the words: the fields hold their values and the other bits are as before. -/
structure Applied (schema : Schema) (words : List String) (values : Message) (words' : List String) : Prop where
  shape : DataWords words' ∧ words'.length = words.length
  assigned : ∀ d ∈ schema.dataStructure, ∀ v, (d.field, v) ∈ values → ∀ i,
    actualIndex words.length d.wordIndex = some i →
      v = .int (bitRange (wordAt words' i) d.bits.start d.bits.size : ℕ)
  unchanged : ∀ i j, (∀ d ∈ schema.dataStructure, d.field ∈ values.map Prod.fst → ¬d.Covers words.length i j) →
    bitAt words' i j = bitAt words i j

theorem applied_of_assignment (py : Runtime) {values : Message} (hvalues : Assignment schema values)
    {words : List String} (hwords : DataWords words) :
    ∃ words', values.foldlM (applyFieldToDataWords py schema) words = .ok words' ∧
      Applied schema words values words' := by
  induction values generalizing words with
  | nil => exact ⟨words, rfl, ⟨hwords, rfl⟩, by simp, fun _ _ _ => rfl⟩
  | cons e values ih =>
    obtain ⟨field, v⟩ := e
    obtain ⟨d, hd, rfl, n, rfl, hn⟩ := hvalues.fits _ List.mem_cons_self
    have hnodup := hvalues.nodup
    rw [List.map_cons, List.nodup_cons] at hnodup
    have hrest : Assignment schema values :=
      ⟨hnodup.2, fun e he => hvalues.fits e (List.mem_cons_of_mem _ he)⟩
    obtain ⟨i, hlt, hi⟩ := hplaced.exists_index hwords.length hd
    obtain ⟨-, -, -, hfits⟩ := extractBitRange_of_spelled (hplaced.spelled d hd) (hrange d hd)
    have hstep := applyFieldToDataWords_eq hplaced hrange py hwords hd hn hi hlt
    set m := setRange (wordAt words i) n d.bits.start d.bits.size with hm
    have hmlt : m < 2 ^ 16 := setRange_lt _ _ _ (hwords.wordAt_lt hlt) hn hfits
    obtain ⟨words', hrun, happlied⟩ := ih hrest (hwords.set (i := i) hmlt)
    have hlength : (words.set i (formatBin 16 m)).length = words.length := List.length_set
    refine ⟨words', ?_, ⟨happlied.shape.1, happlied.shape.2.trans hlength⟩, fun d' hd' v' hv' k hk => ?_,
      fun k j hfree => ?_⟩
    · rw [List.foldlM_cons, hstep]
      exact hrun
    · rcases List.mem_cons.mp hv' with heq | hlater
      · -- the rest of the assignment leaves the bits of the first field alone
        obtain ⟨hname, rfl⟩ := Prod.mk.inj heq
        have hsame := List.inj_on_of_nodup_map hplaced.names hd' hd hname
        subst hsame
        have hki : k = i := Option.some.inj (hk.symm.trans hi)
        subst hki
        have hkeep : bitRange (wordAt words' k) d'.bits.start d'.bits.size =
            bitRange (wordAt (words.set k (formatBin 16 m)) k) d'.bits.start d'.bits.size := by
          apply bitRange_congr
          intro j hjlow hjhigh
          apply happlied.unchanged k j
          intro d'' hd'' hmem hcovers
          rw [hlength] at hcovers
          have hsame := hplaced.eq_of_index hwords.length hd'' hd hcovers.1 hi
          rw [hsame] at hmem
          exact hnodup.1 hmem
        rw [hkeep, wordAt_set hlt hmlt, if_pos rfl, hm, bitRange_setRange _ _ _ hn]
      · exact happlied.assigned d' hd' v' hlater k (by rw [hlength]; exact hk)
    · have hkeep := happlied.unchanged k j fun d' hd' hmem => by
        rw [hlength]
        exact hfree d' hd' (List.mem_cons_of_mem _ hmem)
      rw [hkeep, bitAt, bitAt, wordAt_set hlt hmlt]
      split_ifs with hk
      · subst hk
        have hout : ¬(d.bits.start ≤ j ∧ j < d.bits.start + d.bits.size) := fun hin =>
          hfree d hd List.mem_cons_self ⟨hi, hin⟩
        rw [hm, testBit_setRange _ _ _ hn, if_neg hout]
      · rfl

/-- One field is read, with the name of a mode beside it. -/
theorem extractField_eq (py : Runtime) {words : List String} (hwords : DataWords words) {d : FieldDef}
    (hd : d ∈ schema.dataStructure) (fields : Message) {i : ℕ}
    (hi : actualIndex words.length d.wordIndex = some i) (hlt : i < words.length) :
    ∃ named, extractField py words fields d =
        .ok (Dict.set named d.field (.int (bitRange (wordAt words i) d.bits.start d.bits.size : ℕ))) ∧
      ∀ k ≠ "mode", Dict.get? named k = Dict.get? fields k := by
  obtain ⟨stop, hbits, hsize, -⟩ := extractBitRange_of_spelled (hplaced.spelled d hd) (hrange d hd)
  have hvalue : extractBits (wordAt words i : ℕ) d.bits.start stop =
      (bitRange (wordAt words i) d.bits.start d.bits.size : ℕ) := by
    rw [extractBits_natCast, hsize]
  unfold extractField
  rw [hi]
  dsimp only
  rw [hbits, hwords.intBase2 py hlt]
  simp only [bind, Except.bind, pure, Except.pure]
  rw [hvalue]
  refine ⟨_, rfl, fun k hk => ?_⟩
  split
  · exact Dict.get?_set_ne _ _ (Ne.symm hk)
  · rfl

/-- The fields read hold the bits of the words. -/
theorem extractFields_of_dataWords (py : Runtime) {words : List String} (hwords : DataWords words)
    {defs : List FieldDef} (hdefs : defs.Sublist schema.dataStructure) (fields : Message) :
    ∃ fields', defs.foldlM (extractField py words) fields = .ok fields' ∧
      (∀ d ∈ defs, ∀ i, actualIndex words.length d.wordIndex = some i →
        Dict.get? fields' d.field = some (.int (bitRange (wordAt words i) d.bits.start d.bits.size : ℕ))) ∧
      ∀ k ∉ defs.map FieldDef.field, k ≠ "mode" → Dict.get? fields' k = Dict.get? fields k := by
  induction defs generalizing fields with
  | nil => exact ⟨fields, rfl, by simp, fun _ _ _ => rfl⟩
  | cons d defs ih =>
    have hd : d ∈ schema.dataStructure := hdefs.subset List.mem_cons_self
    have hnames := hplaced.names.sublist (hdefs.map FieldDef.field)
    rw [List.map_cons, List.nodup_cons] at hnames
    have hmode : d.field ≠ "mode" := by
      intro heq
      exact hplaced.mode hrange (heq ▸ List.mem_map_of_mem hd)
    obtain ⟨i, hlt, hi⟩ := hplaced.exists_index hwords.length hd
    obtain ⟨named, hstep, hnamed⟩ := extractField_eq hplaced hrange py hwords hd fields hi hlt
    obtain ⟨fields', hrun, hread, hkept⟩ := ih ((List.sublist_cons_self d defs).trans hdefs) (Dict.set named d.field
      (.int (bitRange (wordAt words i) d.bits.start d.bits.size : ℕ)))
    refine ⟨fields', ?_, fun d' hd' k hk => ?_, fun k hk hkmode => ?_⟩
    · rw [List.foldlM_cons, hstep]
      exact hrun
    · rcases List.mem_cons.mp hd' with rfl | hlater
      · rw [hkept d'.field hnames.1 hmode, Dict.get?_set_self, Option.some.inj (hk.symm.trans hi)]
      · exact hread d' hlater k hk
    · rw [List.map_cons, List.mem_cons, not_or] at hk
      rw [hkept k hk.2 hkmode, Dict.get?_set_ne _ _ (Ne.symm hk.1), hnamed k hkmode]

/-- The values of an assignment are read back, and those of the other fields are the old ones. -/
theorem roundTrips_of_ranges (py : Runtime) {messageType : String}
    (hschema : Dict.get? messageSchemas messageType = some schema) {words : List String}
    (hwords : DataWords words) {values : Message} (hvalues : Assignment schema values) :
    RoundTrips py messageType schema words values := by
  obtain ⟨words', happly, happlied⟩ := applied_of_assignment hplaced hrange py hvalues hwords
  obtain ⟨hwords', hlength⟩ := happlied.shape
  obtain ⟨old, hold, holdRead, -⟩ :=
    extractFields_of_dataWords hplaced hrange py hwords (List.Sublist.refl _) []
  obtain ⟨fields, hfields, hread, hkept⟩ :=
    extractFields_of_dataWords hplaced hrange py hwords' (List.Sublist.refl _) []
  refine ⟨words', old, fields, ?_, ?_, ?_, ?_⟩
  · rw [applySchemaToDataWords, hschema]
    exact happly
  · rw [extractFieldsFromDataWords, hschema]
    exact hold
  · rw [extractFieldsFromDataWords, hschema]
    exact hfields
  refine ⟨⟨hwords', hlength⟩, fun d hd => ?_, fun e he => ?_, fun d hd hfree => ?_, fun k hk => ?_,
    fun i j hfree => ?_⟩
  · obtain ⟨i, -, hi⟩ := hplaced.exists_index hwords.length hd
    rw [Dict.has, holdRead d hd i hi]
    rfl
  · obtain ⟨d, hd, hname, -⟩ := hvalues.fits e he
    obtain ⟨i, -, hi⟩ := hplaced.exists_index hwords.length hd
    have hvalue := happlied.assigned d hd e.2 (by rw [hname]; exact he) i hi
    rw [← hname, hread d hd i (by rw [hlength]; exact hi), hvalue]
  · obtain ⟨i, -, hi⟩ := hplaced.exists_index hwords.length hd
    rw [hread d hd i (by rw [hlength]; exact hi), holdRead d hd i hi]
    congr 3
    apply bitRange_congr
    intro j hjlow hjhigh
    apply happlied.unchanged i j
    intro d' hd' hmem hcovers
    rw [hplaced.eq_of_index hwords.length hd' hd hcovers.1 hi] at hmem
    exact Dict.get?_eq_none_iff.mp (Dict.has_eq_false.mp hfree) hmem
  · by_contra hnot
    rw [not_or] at hnot
    rw [Dict.has, hkept k hnot.1 hnot.2] at hk
    exact Bool.noConfusion hk
  · apply happlied.unchanged i j
    intro d hd hmem
    apply hfree d hd
    rw [Dict.has, Option.isSome_iff_ne_none]
    exact fun hnone => Dict.get?_eq_none_iff.mp hnone hmem

end Apply

/-! ### Single numbers -/

/-- A field that raises stops the extraction. -/
theorem foldlM_ne_ok {α β ε : Type} {f : β → α → Except ε β} {l : List α} {a : α} (ha : a ∈ l)
    (hraise : ∀ b c, f b a ≠ .ok c) (b c : β) : l.foldlM f b ≠ .ok c := by
  induction l generalizing b with
  | nil => cases ha
  | cons x l ih =>
    rw [List.foldlM_cons]
    cases hx : f b x with
    | error e =>
      intro hok
      cases hok
    | ok b' =>
      rcases List.mem_cons.mp ha with rfl | hlater
      · exact absurd hx (hraise b b')
      · exact ih hlater b'

/-- The extraction raises on a range that is spelled as one number. -/
theorem not_roundTrips_of_single (py : Runtime) {messageType : String} {schema : Schema}
    (hplaced : schema.Placed) (hschema : Dict.get? messageSchemas messageType = some schema)
    {words : List String} (hwords : DataWords words) {d : FieldDef} (hd : d ∈ schema.dataStructure)
    (hsingle : d.bits.isSingle = true) (values : Message) :
    ¬RoundTrips py messageType schema words values := by
  rintro ⟨words', old, fields, -, hold, -⟩
  obtain ⟨i, -, hi⟩ := hplaced.exists_index hwords.length hd
  have hbits : extractBitRange d.bits = .error .valueError := by
    cases hspelled : d.bits with
    | single bit => rfl
    | _ =>
      rw [hspelled] at hsingle
      exact Bool.noConfusion hsingle
  rw [extractFieldsFromDataWords, hschema] at hold
  refine foldlM_ne_ok hd (fun fields c hok => ?_) [] old hold
  unfold extractField at hok
  rw [hi] at hok
  dsimp only at hok
  rw [hbits] at hok
  cases hok

/-- Applying a schema and extracting its fields are inverse exactly when the schema spells every range of bits
as a range. -/
theorem fields_round_trip_iff (py : Runtime) {messageType : String} {schema : Schema}
    (hschema : Dict.get? messageSchemas messageType = some schema) {words : List String}
    (hwords : DataWords words) {values : Message} (hvalues : Assignment schema values) :
    RoundTrips py messageType schema words values ↔
      ∀ d ∈ schema.dataStructure, d.bits.isSingle = false := by
  have hplaced := placed_of_get? hschema
  constructor
  · intro hround d hd
    apply Bool.eq_false_iff.mpr
    intro hsingle
    exact not_roundTrips_of_single py hplaced hschema hwords hd hsingle values hround
  · intro hrange
    exact roundTrips_of_ranges hplaced hrange py hschema hwords hvalues

/-- The old and the new mode of a response, in the last two of nine words. -/
theorem fields_round_trip_mode_change :
    RoundTrips .ascii "tfr_radarModeChangeResponse"
        (schema [⟨"mode_value", -1, .range 0 2⟩, ⟨"old_mode_value", -2, .range 0 2⟩]
          ["mode", "old_mode", "new_mode"])
        (List.replicate 9 "1010101010101010") [("mode_value", .int 5), ("old_mode_value", .int 3)] ↔
      ∀ d ∈ (schema [⟨"mode_value", -1, .range 0 2⟩, ⟨"old_mode_value", -2, .range 0 2⟩]
        ["mode", "old_mode", "new_mode"]).dataStructure, d.bits.isSingle = false :=
  fields_round_trip_iff .ascii (by decide +kernel) ⟨by decide, by decide⟩
    ⟨by decide, by
      intro e he
      simp only [List.mem_cons, List.not_mem_nil, or_false] at he
      rcases he with rfl | rfl
      · exact ⟨⟨"mode_value", -1, .range 0 2⟩, by decide, rfl, 5, rfl, by decide⟩
      · exact ⟨⟨"old_mode_value", -2, .range 0 2⟩, by decide, rfl, 3, rfl, by decide⟩⟩

/-- The health status of a status response is one bit, spelled `"0"`. -/
theorem health_status_not_read :
    ¬∀ messageType schema words values, Dict.get? messageSchemas messageType = some schema → DataWords words →
      Assignment schema values → RoundTrips .ascii messageType schema words values := by
  intro h
  have hschema : Dict.get? messageSchemas "tfr_radarStatusResponse" = some
      (schema [⟨"health_status", -2, .single 0⟩, ⟨"mode_value", -1, .range 0 2⟩] ["health_status", "mode"]) := by
    decide +kernel
  have hwords : DataWords (List.replicate 8 "0000000000000000") := ⟨by decide, by decide⟩
  have hround := h _ _ _ [] hschema hwords ⟨by simp, by simp⟩
  exact not_roundTrips_of_single .ascii (placed_of_get? hschema) hschema hwords
    (d := ⟨"health_status", -2, .single 0⟩) (by decide) rfl [] hround

end Fmofp.Metadata
