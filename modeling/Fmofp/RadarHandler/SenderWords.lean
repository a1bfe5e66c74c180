import Fmofp.RadarHandler.PrecipitationMessage

/-! The codes that two data words hold, each in the range of its bits, and what becomes of them: the
sender writes them, and `from_data_words` and the radar handler read them. -/

namespace Fmofp.RadarHandler

open Python Precipitation

/-- The numbers in the fields of two data words. -/
structure Codes where
  x : Fin 256
  y : Fin 256
  type : Fin 4
  rate : Fin 128
  intensity : Fin 64
  showBit : Fin 2

namespace Codes

def positionWord (c : Codes) : ℕ := c.x * 256 + c.y

def dataWord (c : Codes) : ℕ := c.type * 16384 + c.rate * 128 + c.intensity * 2 + c.showBit

def words (c : Codes) : List String := [formatBin 16 c.positionWord, formatBin 16 c.dataWord]

/-- The object with these codes. -/
def object (c : Codes) (requestId : Value) (now : ℚ) : PrecipitationData where
  position := (c.x / 10, c.y / 10)
  type := Dict.getD typeMap c.type "rain"
  rate := c.rate * 2
  intensity := c.intensity / 63
  showValues := decide (c.showBit.val ≠ 0)
  requestId := requestId
  timestamp := now

theorem positionWord_lt (c : Codes) : c.positionWord < 2 ^ 16 := by
  unfold positionWord
  omega

theorem dataWord_lt (c : Codes) : c.dataWord < 2 ^ 16 := by
  unfold dataWord
  omega

theorem intBase2_positionWord (py : Runtime) (c : Codes) :
    py.intBase2 (formatBin 16 c.positionWord) = .ok (c.positionWord : ℤ) :=
  py.intBase2_formatBin (by decide) c.positionWord_lt

theorem intBase2_dataWord (py : Runtime) (c : Codes) :
    py.intBase2 (formatBin 16 c.dataWord) = .ok (c.dataWord : ℤ) :=
  py.intBase2_formatBin (by decide) c.dataWord_lt

theorem bitField_natCast (n shift width : ℕ) :
    bitField (n : ℤ) shift width = n / 2 ^ shift % 2 ^ width := by
  unfold bitField
  exact_mod_cast Int.toNat_natCast (n / 2 ^ shift % 2 ^ width)

/-! Each field is read back where it was put. -/

theorem bitField_x (c : Codes) : bitField c.positionWord 8 8 = c.x := by
  rw [bitField_natCast]
  unfold positionWord
  omega

theorem bitField_y (c : Codes) : bitField c.positionWord 0 8 = c.y := by
  rw [bitField_natCast]
  unfold positionWord
  omega

theorem bitField_type (c : Codes) : bitField c.dataWord 14 2 = c.type := by
  rw [bitField_natCast]
  unfold dataWord
  omega

theorem bitField_rate (c : Codes) : bitField c.dataWord 7 7 = c.rate := by
  rw [bitField_natCast]
  unfold dataWord
  omega

theorem bitField_intensity (c : Codes) : bitField c.dataWord 1 6 = c.intensity := by
  rw [bitField_natCast]
  unfold dataWord
  omega

theorem bitField_showBit (c : Codes) : bitField c.dataWord 0 1 = c.showBit := by
  rw [bitField_natCast]
  unfold dataWord
  omega

theorem typeMap_get (t : Fin 4) : Dict.get? typeMap (t : ℕ) = some (Dict.getD typeMap t "rain") := by
  revert t
  decide

/-- `from_data_words` makes the object of the codes. -/
theorem fromDataWords_words (py : Runtime) (freshId : String) (now : ℚ) (c : Codes) :
    PrecipitationData.fromDataWords py freshId now c.words = .ok (c.object (.str freshId) now) := by
  simp only [PrecipitationData.fromDataWords, words, intBase2_positionWord, intBase2_dataWord,
    bitField_x, bitField_y, bitField_type, bitField_rate, bitField_intensity, bitField_showBit,
    bind, Except.bind, typeMap_get]
  rfl

theorem intensity_range (c : Codes) : ¬((c.intensity : ℚ) / 63 < 0 ∨ (c.intensity : ℚ) / 63 > 1) := by
  have hlt : (c.intensity : ℚ) ≤ 63 := by exact_mod_cast Nat.le_of_lt_succ c.intensity.isLt
  have hnonneg : (0 : ℚ) ≤ (c.intensity : ℚ) := by positivity
  rintro (h | h)
  · rw [div_lt_iff₀ (by norm_num)] at h
    linarith
  · rw [gt_iff_lt, lt_div_iff₀ (by norm_num)] at h
    linarith

theorem coordinate_range (n : Fin 256) : ¬((n : ℚ) / 10 > 255) := by
  have hlt : (n : ℚ) ≤ 255 := by exact_mod_cast Nat.le_of_lt_succ n.isLt
  rw [gt_iff_lt, lt_div_iff₀ (by norm_num)]
  linarith

theorem rate_range (c : Codes) : (c.rate : ℚ) * 2 > 127 ↔ 64 ≤ c.rate.val := by
  have hcast : (c.rate : ℚ) * 2 > 127 ↔ 127 < c.rate.val * 2 := by exact_mod_cast Iff.rfl
  rw [hcast]
  omega

/-- The handler makes the same object, but only of the lower half of the rate codes. -/
theorem parseDataWords_words (py : Runtime) (requestId : Value) (now : ℚ) (c : Codes) :
    parseDataWords py requestId now (.str (formatBin 16 c.positionWord))
        (.str (formatBin 16 c.dataWord)) =
      if 64 ≤ c.rate.val then .error .valueError else .ok (c.object requestId now) := by
  simp only [parseDataWords, binaryWord, intBase2_positionWord, intBase2_dataWord, bitField_x,
    bitField_y, bitField_type, bitField_rate, bitField_intensity, bitField_showBit, bind,
    Except.bind, rate_range, if_neg c.intensity_range,
    if_neg (not_or.mpr ⟨coordinate_range c.x, coordinate_range c.y⟩)]
  rfl

end Codes

/-! ### What the sender writes -/

theorem truncate_nonneg {q : ℚ} (h : 0 ≤ q) : 0 ≤ truncate q := by
  rw [truncate, if_pos h]
  exact Int.floor_nonneg.mpr h

/-- A number that is not negative, cut off at `m`. -/
theorem exists_code {m : ℕ} {n : ℤ} (h : 0 ≤ n) : ∃ k : Fin (m + 1), min (m : ℤ) n = (k.val : ℤ) := by
  obtain ⟨n, rfl⟩ := Int.eq_ofNat_of_zero_le h
  refine ⟨⟨min m n, by omega⟩, ?_⟩
  push_cast
  rfl

theorem exists_type {t : String} (h : Dict.has typeBits t = true) :
    ∃ k : Fin 4, Dict.getD typeBits t 0 = (k.val : ℤ) ∧ Dict.getD typeMap k "rain" = t := by
  obtain ⟨n, hn⟩ := Dict.has_iff.mp h
  have hmem : (t, n) ∈ typeBits := Dict.mem_of_get?_eq_some hn
  simp only [typeBits, List.mem_cons, Prod.mk.injEq, List.not_mem_nil, or_false] at hmem
  rcases hmem with ⟨rfl, -⟩ | ⟨rfl, -⟩ | ⟨rfl, -⟩ | ⟨rfl, -⟩
  · exact ⟨0, by decide, by decide⟩
  · exact ⟨1, by decide, by decide⟩
  · exact ⟨2, by decide, by decide⟩
  · exact ⟨3, by decide, by decide⟩

theorem lor_bytes (x y : Fin 256) :
    Int.lor ((x.val : ℤ) * 256) (y.val : ℤ) = ((x.val * 256 + y.val : ℕ) : ℤ) := by
  have hword : Int.lor ((x.val * 256 : ℕ) : ℤ) (y.val : ℤ) = ((x.val * 256 + y.val : ℕ) : ℤ) := by
    have hor : (x.val * 256) ||| y.val = x.val * 256 + y.val := or_eq_add (k := 8) y.isLt
    rw [lor_natCast, hor]
  exact_mod_cast hword

theorem positionWord_eq {p : PrecipitationData} {x y : Fin 256}
    (hx : min 255 (truncate (p.position.1 * 10)) = (x.val : ℤ))
    (hy : min 255 (truncate (p.position.2 * 10)) = (y.val : ℤ)) :
    p.positionWord = ((x.val * 256 + y.val : ℕ) : ℤ) := by
  rw [PrecipitationData.positionWord, hx, hy]
  exact lor_bytes x y

theorem dataWord_eq {p : PrecipitationData} {t : Fin 4} {r : Fin 128} {i : Fin 64} {b : Fin 2}
    (ht : Dict.getD typeBits p.type 0 = (t.val : ℤ)) (hr : p.rateCode = (r.val : ℤ))
    (hi : p.intensityCode = (i.val : ℤ)) (hb : (if p.showValues then 1 else 0) = (b.val : ℤ)) :
    p.dataWord = ((t.val * 16384 + r.val * 128 + i.val * 2 + b.val : ℕ) : ℤ) := by
  have htype : (t.val * 16384) ||| (r.val * 128) = t.val * 16384 + r.val * 128 :=
    or_eq_add (k := 14) (by omega)
  have hrate : (t.val * 16384 + r.val * 128) ||| (i.val * 2) =
      t.val * 16384 + r.val * 128 + i.val * 2 := by
    have h := or_eq_add (a := t.val * 128 + r.val) (k := 7) (show i.val * 2 < 2 ^ 7 by omega)
    rwa [show (t.val * 128 + r.val) * 2 ^ 7 = t.val * 16384 + r.val * 128 by ring] at h
  have hintensity : (t.val * 16384 + r.val * 128 + i.val * 2) ||| b.val =
      t.val * 16384 + r.val * 128 + i.val * 2 + b.val := by
    have h := or_eq_add (a := t.val * 8192 + r.val * 64 + i.val) (k := 1) b.isLt
    rwa [show (t.val * 8192 + r.val * 64 + i.val) * 2 ^ 1 =
      t.val * 16384 + r.val * 128 + i.val * 2 by ring] at h
  have hword : Int.lor (Int.lor (Int.lor ((t.val * 16384 : ℕ) : ℤ) ((r.val * 128 : ℕ) : ℤ))
      ((i.val * 2 : ℕ) : ℤ)) ((b.val : ℕ) : ℤ) =
        ((t.val * 16384 + r.val * 128 + i.val * 2 + b.val : ℕ) : ℤ) := by
    rw [lor_natCast, lor_natCast, lor_natCast, htype, hrate, hintensity]
  rw [PrecipitationData.dataWord, ht, hr, hi, hb]
  exact_mod_cast hword

/-- What the sender writes of an object in range, with the rate code that the handler looks at. -/
theorem toDataWords_eq {p : PrecipitationData} (hp : p.InWireRange) :
    ∃ c : Codes, p.toDataWords = c.words ∧ (c.rate.val < 64 ↔ p.rate < 127) := by
  have hxnonneg : 0 ≤ p.position.1 * 10 := mul_nonneg hp.x_nonneg (by norm_num)
  have hynonneg : 0 ≤ p.position.2 * 10 := mul_nonneg hp.y_nonneg (by norm_num)
  have hrnonneg : 0 ≤ p.rate / 2 := div_nonneg hp.rate_nonneg (by norm_num)
  have hinonneg : 0 ≤ p.intensity * 63 := mul_nonneg hp.intensity_nonneg (by norm_num)
  obtain ⟨x, hx⟩ := exists_code (m := 255) (truncate_nonneg hxnonneg)
  obtain ⟨y, hy⟩ := exists_code (m := 255) (truncate_nonneg hynonneg)
  obtain ⟨t, ht, -⟩ := exists_type hp.known
  obtain ⟨r, hr⟩ := exists_code (m := 127) (roundHalfEven_nonneg hrnonneg)
  obtain ⟨i, hi⟩ := exists_code (m := 63) (roundHalfEven_nonneg hinonneg)
  refine ⟨⟨x, y, t, r, i, if p.showValues then 1 else 0⟩, ?_, ?_⟩
  · have hb : (if p.showValues then (1 : ℤ) else 0) =
        ((if p.showValues then 1 else 0 : Fin 2).val : ℤ) := by
      cases p.showValues <;> rfl
    have hposition := positionWord_eq hx hy
    have hdata := dataWord_eq ht hr hi hb
    rw [PrecipitationData.toDataWords, hposition, hdata]
    rfl
  · have hround := roundHalfEven_lt_iff (n := 64) rfl (p.rate / 2)
    have hcode : r.val < 64 ↔ roundHalfEven (p.rate / 2) < 64 := by
      push_cast at hr
      omega
    rw [hcode, hround]
    push_cast
    constructor <;> intro h <;> linarith

/-! ### Agreement of sender and handler -/

/-- The handler hands the service one object, and that is the one `from_data_words` makes. -/
def AgreesWithSender (registry : Registry) (py : Runtime) (fresh : Fresh) (p : PrecipitationData) :
    Prop :=
  ∃ message object decoded,
    handlePrecipitationData registry py fresh true (.list (p.toDataWords.map .str)) = some message ∧
      message.data.precipitationData = [object] ∧
      PrecipitationData.fromDataWords py fresh.responseUuid fresh.now p.toDataWords = .ok decoded ∧
      object.SameReading decoded

/-- The validation finds the command name of a precipitation response. -/
def Registry.Knows (registry : Registry) : Prop :=
  "validate_command_name" ∈ registry.commandWordMap ∧
    "WEATHER_RADAR_PRECIP_DATA" ∈ registry.commandNames

/-- The response to a data list passes exactly if its command name is found. -/
theorem respond_isSome (registry : Registry) (fresh : Fresh) (object : PrecipitationData) :
    (∃ message, respond registry fresh true (.str fresh.requestId) object = some message) ↔
      registry.Knows := by
  have hrequest : (Value.str fresh.requestId).truthy = true := by
    simpa [Value.truthy] using fresh.requestId.property
  by_cases hmap : "validate_command_name" ∈ registry.commandWordMap
  · by_cases hname : "WEATHER_RADAR_PRECIP_DATA" ∈ registry.commandNames
    · simp [respond, PrecipitationResponse.validate, BaseMessage.validate, precipitationResponse,
        hrequest, fresh.responseUuid.property, hmap, hname, Registry.Knows, bind, Except.bind,
        pure, Except.pure]
    · simp [respond, PrecipitationResponse.validate, BaseMessage.validate, precipitationResponse,
        hmap, hname, Registry.Knows, bind, Except.bind]
  · simp [respond, PrecipitationResponse.validate, BaseMessage.validate, precipitationResponse,
      hmap, Registry.Knows, bind, Except.bind]

theorem respond_data {registry : Registry} {fresh : Fresh} {service : Bool} {requestId : Value}
    {object : PrecipitationData} {message : ServiceMessage}
    (h : respond registry fresh service requestId object = some message) :
    message.data.precipitationData = [object] := by
  simp only [respond] at h
  split at h
  · cases h
  · split_ifs at h
    cases h
    rfl

/-- Whatever the registry, the handler agrees with the sender below a rate of 127, and if the
validation finds the command name. -/
theorem agreesWithSender_iff (registry : Registry) (py : Runtime) (fresh : Fresh)
    {p : PrecipitationData} (hp : p.InWireRange) :
    AgreesWithSender registry py fresh p ↔ registry.Knows ∧ p.rate < 127 := by
  obtain ⟨c, hwords, hrate⟩ := toDataWords_eq hp
  have hhandle : handlePrecipitationData registry py fresh true (.list (p.toDataWords.map .str)) =
      if 64 ≤ c.rate.val then none
      else respond registry fresh true (.str fresh.requestId)
        (c.object (.str fresh.requestId) fresh.now) := by
    have hparse := Codes.parseDataWords_words py (.str fresh.requestId) fresh.now c
    have hrequest : requestOf fresh (.list (c.words.map .str)) = some (.str fresh.requestId,
        some (.list [.str (formatBin 16 c.positionWord), .str (formatBin 16 c.dataWord)])) := rfl
    unfold handlePrecipitationData
    rw [hwords, hrequest]
    dsimp only
    rw [hparse]
    split_ifs <;> rfl
  have hobject := respond_isSome registry fresh (c.object (.str fresh.requestId) fresh.now)
  unfold AgreesWithSender
  rw [hhandle, hwords, Codes.fromDataWords_words]
  by_cases hlow : p.rate < 127
  · rw [if_neg (not_le.mpr (hrate.mpr hlow)), and_iff_left hlow]
    constructor
    · rintro ⟨message, object, decoded, hmessage, -, -, -⟩
      exact hobject.mp ⟨message, hmessage⟩
    · intro hknows
      obtain ⟨message, hmessage⟩ := hobject.mpr hknows
      exact ⟨message, _, _, hmessage, respond_data hmessage, rfl, rfl, rfl, rfl, rfl, rfl⟩
  · rw [if_pos (not_lt.mp fun h => hlow (hrate.mp h))]
    simp [hlow]

theorem sourceRegistry_not_knows : ¬sourceRegistry.Knows := by
  rintro ⟨h, -⟩
  revert h
  decide

/-- No object in range gets through: validating the response imports `validate_command_name` from
a module without it. -/
theorem sender_words_refused (py : Runtime) (fresh : Fresh) (p : PrecipitationData)
    (hp : p.InWireRange) : ¬AgreesWithSender sourceRegistry py fresh p := by
  rw [agreesWithSender_iff sourceRegistry py fresh hp]
  rintro ⟨hknows, -⟩
  exact sourceRegistry_not_knows hknows

/-- Light rain near the origin, the plainest object there is. -/
def lightRain : PrecipitationData where
  position := (5, 10)
  type := "rain"
  rate := 10
  intensity := 1
  showValues := true
  requestId := .str "a"
  timestamp := 0

def sampleFresh : Fresh := ⟨⟨"b", by decide⟩, ⟨"c", by decide⟩, 0⟩

theorem lightRain_inWireRange : lightRain.InWireRange where
  x_nonneg := by norm_num [lightRain]
  x_le := by norm_num [lightRain]
  y_nonneg := by norm_num [lightRain]
  y_le := by norm_num [lightRain]
  rate_nonneg := by norm_num [lightRain]
  rate_le := by norm_num [lightRain]
  intensity_nonneg := by norm_num [lightRain]
  intensity_le := by norm_num [lightRain]
  known := by decide

theorem sender_words_refused_sample :
    ¬AgreesWithSender sourceRegistry Runtime.ascii sampleFresh lightRain :=
  sender_words_refused _ _ _ lightRain_inWireRange

/-- Even light rain is not handed to the service. -/
theorem light_rain_refused :
    ¬∀ (py : Runtime) (fresh : Fresh) (p : PrecipitationData), p.InWireRange →
      AgreesWithSender sourceRegistry py fresh p := by
  intro h
  obtain ⟨message, object, decoded, hmessage, -⟩ :=
    h Runtime.ascii sampleFresh lightRain lightRain_inWireRange
  have hnone : handlePrecipitationData sourceRegistry Runtime.ascii sampleFresh true
      (.list (lightRain.toDataWords.map .str)) = none := by decide +kernel
  rw [hnone] at hmessage
  cases hmessage

end Fmofp.RadarHandler

/-! The two data words of a `WeatherRadarVILData` object: the position as a precipitation object has it,
and a word with seven bits of the value, four of the layers and four of the intensity. -/

namespace Fmofp.RadarHandler

open Python Precipitation

structure WeatherRadarVILData where
  position : ℚ × ℚ
  value : ℚ
  layerCount : ℤ
  intensity : ℚ
  showValues : Bool
  requestId : Value
  timestamp : ℚ
  deriving DecidableEq

namespace WeatherRadarVILData

def positionWord (v : WeatherRadarVILData) : ℤ :=
  Int.lor (min 255 (truncate (v.position.1 * 10)) * 256) (min 255 (truncate (v.position.2 * 10)))

def valueCode (v : WeatherRadarVILData) : ℤ := min 127 (roundHalfEven (v.value * 2))

def layerCode (v : WeatherRadarVILData) : ℤ := min 15 v.layerCount

def intensityCode (v : WeatherRadarVILData) : ℤ := min 15 (roundHalfEven (v.intensity * 15))

def dataWord (v : WeatherRadarVILData) : ℤ :=
  Int.lor (Int.lor (Int.lor (v.valueCode * 512) (v.layerCode * 32)) (v.intensityCode * 2))
    (if v.showValues then 1 else 0)

def toDataWords (v : WeatherRadarVILData) : List String :=
  [formatBin 16 v.positionWord, formatBin 16 v.dataWord]

/-- `from_data_words`; the identifier and the time of the new object are fresh ones. -/
def fromDataWords (py : Runtime) (freshId : String) (now : ℚ) :
    List String → Except Exception WeatherRadarVILData
  | [first, second] => do
    let word1 ← py.intBase2 first
    let word2 ← py.intBase2 second
    return {
      position := (bitField word1 8 8 / 10, bitField word1 0 8 / 10)
      value := bitField word2 9 7 / 2
      layerCount := bitField word2 5 4
      intensity := bitField word2 1 4 / 15
      showValues := decide (bitField word2 0 1 ≠ 0)
      requestId := .str freshId
      timestamp := now }
  | _ => throw .valueError

end WeatherRadarVILData

/-- The numbers in the fields of the two words. -/
structure VilCodes where
  x : Fin 256
  y : Fin 256
  value : Fin 128
  layers : Fin 16
  intensity : Fin 16
  showBit : Fin 2

namespace VilCodes

def positionWord (c : VilCodes) : ℕ := c.x * 256 + c.y

def dataWord (c : VilCodes) : ℕ := c.value * 512 + c.layers * 32 + c.intensity * 2 + c.showBit

def words (c : VilCodes) : List String := [formatBin 16 c.positionWord, formatBin 16 c.dataWord]

/-- The object with these codes. -/
def object (c : VilCodes) (requestId : Value) (now : ℚ) : WeatherRadarVILData where
  position := (c.x / 10, c.y / 10)
  value := c.value / 2
  layerCount := c.layers.val
  intensity := c.intensity / 15
  showValues := decide (c.showBit.val ≠ 0)
  requestId := requestId
  timestamp := now

variable (c : VilCodes)

/-- The position is the one of a precipitation object. -/
theorem positionWord_lt : c.positionWord < 2 ^ 16 := Codes.positionWord_lt ⟨c.x, c.y, 0, 0, 0, 0⟩

theorem bitField_x : bitField c.positionWord 8 8 = c.x := Codes.bitField_x ⟨c.x, c.y, 0, 0, 0, 0⟩

theorem bitField_y : bitField c.positionWord 0 8 = c.y := Codes.bitField_y ⟨c.x, c.y, 0, 0, 0, 0⟩

theorem dataWord_lt : c.dataWord < 2 ^ 16 := by
  rw [dataWord]
  omega

theorem bitField_value : bitField c.dataWord 9 7 = c.value := by
  rw [Codes.bitField_natCast, dataWord]
  omega

theorem bitField_layers : bitField c.dataWord 5 4 = c.layers := by
  rw [Codes.bitField_natCast, dataWord]
  omega

theorem bitField_intensity : bitField c.dataWord 1 4 = c.intensity := by
  rw [Codes.bitField_natCast, dataWord]
  omega

theorem bitField_showBit : bitField c.dataWord 0 1 = c.showBit := by
  rw [Codes.bitField_natCast, dataWord]
  omega

/-- `from_data_words` makes the object of the codes. -/
theorem fromDataWords_words (py : Runtime) (freshId : String) (now : ℚ) :
    WeatherRadarVILData.fromDataWords py freshId now c.words = .ok (c.object (.str freshId) now) := by
  have hfirst := py.intBase2_formatBin (by decide) c.positionWord_lt
  have hsecond := py.intBase2_formatBin (by decide) c.dataWord_lt
  simp only [WeatherRadarVILData.fromDataWords, words, hfirst, hsecond, bitField_x, bitField_y,
    bitField_value, bitField_layers, bitField_intensity, bitField_showBit, bind, Except.bind]
  rfl

end VilCodes

theorem vil_dataWord_eq {v : WeatherRadarVILData} {q : Fin 128} {l i : Fin 16} {b : Fin 2}
    (hq : v.valueCode = (q.val : ℤ)) (hl : v.layerCode = (l.val : ℤ))
    (hi : v.intensityCode = (i.val : ℤ)) (hb : (if v.showValues then 1 else 0) = (b.val : ℤ)) :
    v.dataWord = ((q.val * 512 + l.val * 32 + i.val * 2 + b.val : ℕ) : ℤ) := by
  have hvalue : (q.val * 512) ||| (l.val * 32) = q.val * 512 + l.val * 32 :=
    or_eq_add (k := 9) (by omega)
  have hlayers : (q.val * 512 + l.val * 32) ||| (i.val * 2) =
      q.val * 512 + l.val * 32 + i.val * 2 := by
    have h := or_eq_add (a := q.val * 16 + l.val) (k := 5) (show i.val * 2 < 2 ^ 5 by omega)
    rwa [show (q.val * 16 + l.val) * 2 ^ 5 = q.val * 512 + l.val * 32 by ring] at h
  have hintensity : (q.val * 512 + l.val * 32 + i.val * 2) ||| b.val =
      q.val * 512 + l.val * 32 + i.val * 2 + b.val := by
    have h := or_eq_add (a := q.val * 256 + l.val * 16 + i.val) (k := 1) b.isLt
    rwa [show (q.val * 256 + l.val * 16 + i.val) * 2 ^ 1 =
      q.val * 512 + l.val * 32 + i.val * 2 by ring] at h
  have hword : Int.lor (Int.lor (Int.lor ((q.val * 512 : ℕ) : ℤ) ((l.val * 32 : ℕ) : ℤ))
      ((i.val * 2 : ℕ) : ℤ)) ((b.val : ℕ) : ℤ) =
        ((q.val * 512 + l.val * 32 + i.val * 2 + b.val : ℕ) : ℤ) := by
    rw [lor_natCast, lor_natCast, lor_natCast, hvalue, hlayers, hintensity]
  rw [WeatherRadarVILData.dataWord, hq, hl, hi, hb]
  exact_mod_cast hword

end Fmofp.RadarHandler
