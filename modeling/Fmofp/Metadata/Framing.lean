import Fmofp.Metadata.Sections

/-! The framing law of the metadata: when the header names the number of words after it and all of them
have sixteen binary digits. -/

namespace Fmofp.Metadata

open Python

/-- `MetadataCodec.extract_metadata_words`. -/
def extractMetadataWords (py : Runtime) (words : List String) :
    Except Exception (List String × List String) :=
  match words with
  | [] => .ok ([], [])
  | first :: _ => do
    let n ← py.intBase2 first
    if n / 4096 % 16 ≠ metadataVersion then return ([], words)
    let total := min (1 + (n / 256 % 16).toNat) words.length
    return (words.take total, words.drop total)

/-- Text of sixteen binary digits. -/
def isDataWord (s : String) : Bool := decide (s.length = 16) && isBinary s

/-- The words are words, and before any others they are found again. -/
def FramingLaw (py : Runtime) (words : List String) : Prop :=
  (∀ w ∈ words, isDataWord w = true) ∧
  ∀ t : List String, (∀ w ∈ t, isDataWord w = true) →
    extractMetadataWords py (words ++ t) = .ok (words, t)

/-- Metadata of which every number fits the place that it is put in. -/
structure Encodable (py : Runtime) (m : Message) : Prop where
  mode : ¬NegativeMode py m
  parameter : ∀ schema, schemaOf m = .ok schema → "command_parameter" ∈ schema.metadataFields →
    ∀ v n, Dict.get? m "command_parameter" = some v → v.int? = some n → 0 ≤ n
  totals : isTransfer m = true → TotalFits m "total_messages" ∧ TotalFits m "total_frames"
  requestId : ∀ v, Dict.get? m "request_id" = some v → v.truthy = true → PairsFit (rawCodes (py.str v))
  precipitation : ∀ point ∈ precipitationPoints m,
    Exceeds py point "rate" (-2) ∧ Exceeds py point "intensity" (-1 / 63)
  vil : ∀ point ∈ vilPoints m,
    Exceeds py point "value" (-1 / 10) ∧ Exceeds py point "intensity" (-1 / 63)

/-- The number of words after the header. -/
def payloadCount (m : Message) : ℕ :=
  3 + (if isTransfer m then 1 else 0) + (if m.flag "command_name" then 6 else 0) +
    (if m.flag "request_id" then 4 else 0) + 2 * (precipitationPoints m).length +
    2 * (vilPoints m).length

variable {py : Runtime} {m : Message}

namespace Parts

theorem precipitation_spec (p : Parts py m) :
    p.precipitation.length = 2 * (precipitationPoints m).length ∧
      ((∀ w ∈ p.precipitation, IsWord w) ↔ ∀ point ∈ precipitationPoints m,
        Exceeds py point "rate" (-2) ∧ Exceeds py point "intensity" (-1 / 63)) :=
  pointWords_spec (fun _ _ h => isWord_precipitationWord h) p.precipitation_eq

theorem vil_spec (p : Parts py m) :
    p.vil.length = 2 * (vilPoints m).length ∧
      ((∀ w ∈ p.vil, IsWord w) ↔ ∀ point ∈ vilPoints m,
        Exceeds py point "value" (-1 / 10) ∧ Exceeds py point "intensity" (-1 / 63)) := by
  have hvil := p.vil_eq
  unfold vilWords at hvil
  split_ifs at hvil
  exact pointWords_spec (fun _ _ h => isWord_vilWord h) hvil

theorem transfer_length (p : Parts py m) : p.transfer.length = if isTransfer m then 1 else 0 := by
  have htransfer := p.transfer_eq
  unfold transferWords at htransfer
  split_ifs at htransfer ⊢
  · cases hword : transferWord m with
    | error e => simp [hword, Except.map] at htransfer
    | ok w =>
      rw [hword] at htransfer
      rw [← Except.ok.inj htransfer, List.length_singleton]
  · rw [← Except.ok.inj htransfer, List.length_nil]

theorem words_length (p : Parts py m) : p.words.length = payloadCount m := by
  have htype := applySchema_length p.typeWords_eq
  rw [List.length_singleton] at htype
  have hname := textWords_length py m commandNameWords_length "command_name"
  have hid := textWords_length py m requestIdWords_length "request_id"
  simp only [words, names, List.length_append, List.length_cons, List.length_nil, htype, hname, hid,
    p.transfer_length, p.precipitation_spec.1, p.vil_spec.1, payloadCount]
  omega

theorem isWord_commandName (py : Runtime) (m : Message) :
    ∀ w ∈ textWords py commandNameWords m "command_name", IsWord w := by
  intro w hw
  unfold textWords at hw
  split at hw
  · split_ifs at hw
    · exact isWord_commandNameWords _ w hw
    · cases hw
  · cases hw

theorem isWord_names (p : Parts py m) : (∀ w ∈ p.names, IsWord w) ↔
    ∀ v, Dict.get? m "request_id" = some v → v.truthy = true → PairsFit (rawCodes (py.str v)) := by
  unfold names
  rw [List.forall_mem_append, and_iff_right (isWord_commandName py m)]
  unfold textWords
  cases Dict.get? m "request_id" with
  | none => simp
  | some v => cases htruthy : v.truthy <;> simp [htruthy, isWord_requestIdWords]

theorem isWord_words (p : Parts py m) : (∀ w ∈ p.words, IsWord w) ↔ Encodable py m := by
  have hparameter : ("command_parameter" ∈ p.schema.metadataFields →
      ∀ v n, Dict.get? m "command_parameter" = some v → v.int? = some n → 0 ≤ n) ↔
      ∀ schema, schemaOf m = .ok schema → "command_parameter" ∈ schema.metadataFields →
        ∀ v n, Dict.get? m "command_parameter" = some v → v.int? = some n → 0 ≤ n := by
    simp [p.schema_eq]
  have hchecksum : IsWord (checksum py m : ℤ) := (isWord_natCast _).mpr (checksum_lt py m)
  simp only [words, List.forall_mem_append, List.forall_mem_cons, List.not_mem_nil, hchecksum,
    isWord_extended, isWord_transferWords p.transfer_eq, p.isWord_names, p.precipitation_spec.2,
    p.vil_spec.2]
  constructor
  · rintro ⟨⟨⟨⟨htype, hmode, htotals, hid⟩, hprecipitation⟩, hvil⟩, -⟩
    exact ⟨hmode, hparameter.mp ((isWord_typeWords p hmode).mp htype), htotals, hid, hprecipitation,
      hvil⟩
  · intro h
    exact ⟨⟨⟨⟨(isWord_typeWords p h.mode).mpr (hparameter.mpr h.parameter), h.mode, h.totals,
      h.requestId⟩, h.precipitation⟩, h.vil⟩, by simp⟩

end Parts

/-! ### The header -/

theorem fieldFlags_lt (schema : Schema) (m : Message) : fieldFlags schema m < 256 := by
  have hflag (b : Bool) {bit : ℕ} (hbit : bit < 2 ^ 8) : flagBit b bit < 2 ^ 8 := by
    cases b
    · exact Nat.two_pow_pos 8
    · exact hbit
  unfold fieldFlags
  refine (or_lt_iff _ _ 8).mpr ⟨(or_lt_iff _ _ 8).mpr ⟨?_, ?_⟩, ?_⟩ <;> exact hflag _ (by norm_num)

theorem header_eq {count flags : ℕ} (h : flags < 256) :
    header count flags = (16 ||| count) * 256 + flags := by
  unfold header metadataVersion
  rw [show (1 * 4096 : ℕ) = 16 <<< 8 by rfl, show (256 : ℕ) = 2 ^ 8 by norm_num, ← Nat.shiftLeft_eq,
    ← Nat.shiftLeft_or_distrib, Nat.shiftLeft_eq, or_eq_add h]

theorem header_count {count flags : ℕ} (h : flags < 256) :
    header count flags / 256 % 16 = count % 16 := by
  rw [header_eq h, show ((16 ||| count) * 256 + flags) / 256 = 16 ||| count by omega]
  have hmod : (16 ||| count) % 2 ^ 4 = 16 % 2 ^ 4 ||| count % 2 ^ 4 := Nat.or_mod_two_pow
  simpa using hmod

theorem header_of_le {count flags : ℕ} (hcount : count ≤ 15) (h : flags < 256) :
    header count flags = 4096 + count * 256 + flags := by
  have hor : 16 ||| count = 16 + count := or_eq_add (a := 1) (k := 4) (by omega)
  rw [header_eq h, hor]
  omega

/-- The words of metadata, and when they are words. -/
theorem encoded_words {ws : List String} (h : encodeMetadata py m = .ok ws) :
    ∃ (words : List ℤ) (flags : ℕ), flags < 256 ∧ words.length = payloadCount m ∧
      ((∀ w ∈ words, IsWord w) ↔ Encodable py m) ∧
      ws = ((header (payloadCount m) flags : ℤ) :: words).map (formatBin 16) := by
  unfold encodeMetadata at h
  obtain ⟨words, hwords, h⟩ := bind_eq_ok h
  obtain ⟨schema, -, h⟩ := bind_eq_ok h
  obtain ⟨p, rfl⟩ := payload_parts hwords
  cases h
  exact ⟨p.words, fieldFlags schema m, fieldFlags_lt schema m, p.words_length, p.isWord_words,
    by rw [p.words_length]⟩

theorem isDataWord_formatBin (n : ℤ) : isDataWord (formatBin 16 n) = true ↔ IsWord n := by
  rw [isDataWord, Bool.and_eq_true, decide_eq_true_eq]
  exact formatBin_wellFormed_iff (by norm_num) n

theorem extract_of_header (py : Runtime) {n : ℕ} (hn : n < 65536) (words : List String) :
    extractMetadataWords py (formatBin 16 n :: words) =
      if n / 4096 % 16 = metadataVersion then
        .ok ((formatBin 16 n :: words).take (1 + n / 256 % 16),
          (formatBin 16 n :: words).drop (1 + n / 256 % 16))
      else .ok ([], formatBin 16 n :: words) := by
  have hread : py.intBase2 (formatBin 16 n) = .ok (n : ℤ) :=
    py.intBase2_formatBin (by norm_num) (by omega)
  have hversion : ((n : ℤ) / 4096 % 16 ≠ (metadataVersion : ℤ)) ↔ ¬n / 4096 % 16 = metadataVersion := by
    rw [metadataVersion]
    omega
  have hcount : (1 + ((n : ℤ) / 256 % 16).toNat) = 1 + n / 256 % 16 := by omega
  simp only [extractMetadataWords, hread, bind, Except.bind, hversion, hcount]
  split_ifs
  · rw [← List.take_eq_take_min, ← List.drop_eq_drop_min]
    rfl
  · rfl

/-- What encoding accepts is found again among other words exactly when it has at most fifteen words
after the header and no number leaves its place. -/
theorem framing_law_iff {ws : List String} (h : encodeMetadata py m = .ok ws) :
    FramingLaw py ws ↔ payloadCount m ≤ 15 ∧ Encodable py m := by
  obtain ⟨words, flags, hflags, hlength, hfits, rfl⟩ := encoded_words h
  have hcount : header (payloadCount m) flags / 256 % 16 = payloadCount m % 16 := header_count hflags
  rw [List.map_cons]
  set head := header (payloadCount m) flags
  have hdata : (∀ w ∈ words.map (formatBin 16), isDataWord w = true) ↔ Encodable py m := by
    rw [List.forall_mem_map, ← hfits]
    exact forall₂_congr fun w _ => isDataWord_formatBin w
  constructor
  · rintro ⟨hwords, hextract⟩
    rw [List.forall_mem_cons, hdata, isDataWord_formatBin, isWord_natCast] at hwords
    refine ⟨?_, hwords.2⟩
    have hnone := hextract [] (by simp)
    rw [List.append_nil, extract_of_header py hwords.1] at hnone
    split_ifs at hnone with hversion
    · have htaken : ((formatBin 16 head :: words.map (formatBin 16)).take (1 + head / 256 % 16)).length =
          (formatBin 16 head :: words.map (formatBin 16)).length := by
        rw [(Prod.mk.inj (Except.ok.inj hnone)).1]
      rw [List.length_take, List.length_cons, List.length_map, hlength, hcount] at htaken
      omega
    · cases hnone
  · rintro ⟨hle, hencodable⟩
    have hhead : head = 4096 + payloadCount m * 256 + flags := header_of_le hle hflags
    have hword : head < 65536 := by omega
    refine ⟨?_, fun t _ => ?_⟩
    · rw [List.forall_mem_cons, hdata, isDataWord_formatBin, isWord_natCast]
      exact ⟨hword, hencodable⟩
    · have htotal : 1 + head / 256 % 16 = (formatBin 16 head :: words.map (formatBin 16)).length := by
        rw [List.length_cons, List.length_map, hlength]
        omega
      rw [List.cons_append, extract_of_header py hword, if_pos (by rw [hhead, metadataVersion]; omega),
        htotal, ← List.cons_append, List.take_left, List.drop_left]

/-- Two points of precipitation with a command name and a request id. -/
def crowded : Message :=
  [("message_type", .str "weather_radarPrecipitationResponse"),
    ("command_type", .str "precipitation_data"), ("command_name", .str "WEATHER_DATA"),
    ("request_id", .str "req-0001"),
    ("precipitation", .list [.dict [("position", .tuple [.int 1, .int 2]), ("rate", .int 10)],
      .dict [("position", .tuple [.int 3, .int 4]), ("rate", .int 20)]])]

/-- The header of seventeen words names one. -/
theorem crowded_not_framed : ∃ ws, encodeMetadata .ascii crowded = .ok ws ∧ ws.length = 18 ∧
    ¬FramingLaw .ascii ws := by
  have hws : ∃ ws, encodeMetadata .ascii crowded = .ok ws ∧ ws.length = 18 ∧
      extractMetadataWords .ascii (ws ++ []) = .ok (ws.take 2, ws.drop 2) := by
    exact ⟨_, rfl, by decide +kernel⟩
  obtain ⟨ws, hencode, hlength, hextract⟩ := hws
  refine ⟨ws, hencode, hlength, fun h => ?_⟩
  have htaken := hextract.symm.trans (h.2 [] (by simp))
  have htwo := congrArg List.length (Prod.mk.inj (Except.ok.inj htaken)).1
  rw [List.length_take] at htwo
  omega

def singlePoint : Message :=
  [("message_type", .str "weather_radarPrecipitationResponse"),
    ("command_type", .str "precipitation_data"),
    ("precipitation", .list [.dict [("position", .tuple [.int 1, .int 2]), ("rate", .int 10)]])]

theorem single_point_framed : FramingLaw .ascii
    ["0001010100000111", "0000101000001001", "0000100100000000", "0000101000010100",
      "0000000101000000", "0000000000000000"] := by
  refine (framing_law_iff (m := singlePoint) (by decide +kernel)).mpr ⟨by decide +kernel, ?_⟩
  refine ⟨?_, ?_, ?_, ?_, ?_, ?_⟩
  · rintro ⟨s, hs, -⟩
    cases hs
  · intro _ _ _ v n hv
    cases hv
  · intro htransfer
    cases htransfer
  · intro v hv
    cases hv
  · have hpoints : precipitationPoints singlePoint =
        [[("position", .tuple [.int 1, .int 2]), ("rate", .int 10)]] := by
      decide +kernel
    rw [hpoints, List.forall_mem_singleton]
    constructor <;> intro q hq <;> cases hq <;> norm_num
  · have hpoints : vilPoints singlePoint = [] := by
      decide +kernel
    rw [hpoints]
    simp

end Fmofp.Metadata
