import Fmofp.Python.Quantum
import Fmofp.RadarHandler.SenderWords

/-! What survives the way into two data words and back.  Every field is cut off at the top of its range
but not at 0: a code below 0 is shifted and put together with the others as it is, and its sign ends up
in the text.  The other way round, any two words are read into an object that writes them again. -/

namespace Fmofp.RadarHandler

open Python Precipitation

/-- Two words of sixteen binary digits. -/
def IsWordPair (words : List String) : Prop :=
  words.length = 2 ∧ ∀ word ∈ words, word.length = 16 ∧ isBinary word = true

instance (words : List String) : Decidable (IsWordPair words) :=
  inferInstanceAs (Decidable (_ ∧ _))

theorem isWordPair_formatBin (first second : ℤ) :
    IsWordPair [formatBin 16 first, formatBin 16 second] ↔
      (0 ≤ first ∧ first < 2 ^ 16) ∧ 0 ≤ second ∧ second < 2 ^ 16 := by
  rw [IsWordPair, and_iff_right (by rfl), List.forall_mem_cons, List.forall_mem_singleton,
    formatBin_wellFormed_iff (by decide), formatBin_wellFormed_iff (by decide)]

/-- Two words are the numbers that they write. -/
theorem IsWordPair.eq_formatBin {words : List String} (h : IsWordPair words) :
    ∃ m n : ℕ, m < 2 ^ 16 ∧ n < 2 ^ 16 ∧ words = [formatBin 16 m, formatBin 16 n] := by
  have hword : ∀ word : String, word.length = 16 ∧ isBinary word = true →
      ∃ n : ℕ, n < 2 ^ 16 ∧ word = formatBin 16 n := by
    rintro word ⟨hlength, hbinary⟩
    have hlist : word.toList.length = 16 := by rwa [String.length_toList]
    have hlt : ofBits word.toList < 2 ^ 16 := hlist ▸ ofBits_lt word.toList
    refine ⟨ofBits word.toList, hlt, ?_⟩
    have hbits := bits_ofBits (List.all_eq_true.mp hbinary)
    rw [hlist] at hbits
    rw [formatBin_of_lt (by decide) hlt, hbits, String.ofList_toList]
  obtain ⟨hlength, hall⟩ := h
  obtain ⟨first, second, rfl⟩ := List.length_eq_two.mp hlength
  obtain ⟨m, hm, rfl⟩ := hword first (hall first (by simp))
  obtain ⟨n, hn, rfl⟩ := hword second (hall second (by simp))
  exact ⟨m, n, hm, hn, rfl⟩

/-! ### What a code stands for -/

/-- A coordinate in the words. -/
def wireCoordinate (q : ℚ) : ℚ := quantize truncate (1 / 10) (51 / 2) q

theorem coordinate_nonneg_iff (q : ℚ) : 0 ≤ truncate (q * 10) ↔ -(1 / 10) < q := by
  rw [truncate_nonneg_iff]
  constructor <;> intro h <;> linarith

theorem wireCoordinate_eq {q : ℚ} {code : Fin 256} (hnonneg : 0 ≤ truncate (q * 10))
    (hcode : min 255 (truncate (q * 10)) = (code.val : ℤ)) : (code.val : ℚ) / 10 = wireCoordinate q := by
  have hscale : q * 10 = q / (1 / 10) := by ring
  have htop : ((255 : ℕ) : ℚ) * (1 / 10) = 51 / 2 := by norm_num
  rw [hscale] at hnonneg hcode
  have hquanta := isRounding_truncate.min_eq_quanta (by norm_num) 255 hnonneg
  rw [htop, Nat.cast_ofNat, hcode] at hquanta
  rw [wireCoordinate, quantize, ← hquanta, Int.cast_natCast]
  ring

/-- The same of a number that is rounded to the nearest quantum. -/
theorem wireNumber_eq {quantum top q : ℚ} {n : ℕ} {code : ℕ} (hquantum : 0 < quantum)
    (htop : n * quantum = top) (hnonneg : 0 ≤ roundHalfEven (q / quantum))
    (hcode : min (n : ℤ) (roundHalfEven (q / quantum)) = (code : ℤ)) :
    (code : ℚ) * quantum = quantize roundHalfEven quantum top q := by
  have hquanta := isRounding_roundHalfEven.min_eq_quanta hquantum n hnonneg
  rw [htop, hcode] at hquanta
  rw [quantize, ← hquanta, Int.cast_natCast]

/-- The bit for `show_values`. -/
def flagBit (flag : Bool) : Fin 2 := if flag then 1 else 0

theorem flagBit_val (flag : Bool) : (if flag then (1 : ℤ) else 0) = ((flagBit flag).val : ℤ) := by
  cases flag <;> rfl

theorem flagBit_ne_zero (flag : Bool) : decide ((flagBit flag).val ≠ 0) = flag := by
  cases flag <;> rfl

/-- A number of whole quanta has its own code. -/
theorem coordinateCode_of_code (code : Fin 256) :
    min 255 (truncate ((code.val : ℚ) / 10 * 10)) = (code.val : ℤ) := by
  have hwhole := truncate_scaled_div (k := 10) (by norm_num) (code.val : ℤ)
  rw [Int.cast_natCast] at hwhole
  rw [hwhole]
  omega

theorem numberCode_of_code {n : ℕ} (code : Fin (n + 1)) {q : ℚ} (hq : q = code.val) :
    min (n : ℤ) (roundHalfEven q) = (code.val : ℤ) := by
  have hwhole := isRounding_roundHalfEven.intCast (code.val : ℤ)
  rw [Int.cast_natCast] at hwhole
  rw [hq, hwhole]
  omega

theorem typeCode_of_code : ∀ code : Fin 4,
    Dict.getD typeBits (Dict.getD typeMap code "rain") 0 = (code.val : ℤ) := by
  decide

theorem flagCode_of_code : ∀ code : Fin 2,
    (if decide (code.val ≠ 0) then (1 : ℤ) else 0) = (code.val : ℤ) := by
  decide

/-! ### Precipitation objects -/

/-- The object of some codes writes their words. -/
theorem Codes.toDataWords_object (c : Codes) (requestId : Value) (now : ℚ) :
    (c.object requestId now).toDataWords = c.words := by
  have hposition : (c.object requestId now).positionWord = (c.positionWord : ℤ) :=
    positionWord_eq (coordinateCode_of_code c.x) (coordinateCode_of_code c.y)
  have hrate : (c.object requestId now).rateCode = (c.rate.val : ℤ) :=
    numberCode_of_code (n := 127) c.rate (mul_div_cancel_right₀ _ (by norm_num))
  have hintensity : (c.object requestId now).intensityCode = (c.intensity.val : ℤ) :=
    numberCode_of_code (n := 63) c.intensity (div_mul_cancel₀ _ (by norm_num))
  have hdata : (c.object requestId now).dataWord = (c.dataWord : ℤ) :=
    dataWord_eq (typeCode_of_code c.type) hrate hintensity (flagCode_of_code c.showBit)
  rw [PrecipitationData.toDataWords, hposition, hdata]
  rfl

namespace PrecipitationData

/-- The object in its words and back: each number in the range of its field, in whole quanta, a known
type and the flag as they were. -/
structure Survives (py : Runtime) (freshId : String) (now : ℚ) (p : PrecipitationData) : Prop where
  words : IsWordPair p.toDataWords
  back : ∃ q, fromDataWords py freshId now p.toDataWords = .ok q ∧
    q.position = (wireCoordinate p.position.1, wireCoordinate p.position.2) ∧
    (Dict.has typeBits p.type = true → q.type = p.type) ∧
    q.rate = quantize roundHalfEven 2 254 p.rate ∧
    q.intensity = quantize roundHalfEven (1 / 63) 1 p.intensity ∧ q.showValues = p.showValues

/-- No number is so far below 0 that its code is. -/
structure NotBelow (p : PrecipitationData) : Prop where
  x : -(1 / 10) < p.position.1
  y : -(1 / 10) < p.position.2
  rate : -1 ≤ p.rate
  intensity : -(1 / 126) ≤ p.intensity

theorem rateCode_nonneg_iff (p : PrecipitationData) : 0 ≤ roundHalfEven (p.rate / 2) ↔ -1 ≤ p.rate := by
  rw [roundHalfEven_nonneg_iff]
  constructor <;> intro h <;> linarith

theorem intensityCode_nonneg_iff (p : PrecipitationData) :
    0 ≤ roundHalfEven (p.intensity * 63) ↔ -(1 / 126) ≤ p.intensity := by
  rw [roundHalfEven_nonneg_iff]
  constructor <;> intro h <;> linarith

/-- Words without a sign have no code below 0 in them. -/
theorem notBelow_of_words {p : PrecipitationData} (h : IsWordPair p.toDataWords) : p.NotBelow := by
  obtain ⟨⟨hposition, -⟩, ⟨hdata, -⟩⟩ := (isWordPair_formatBin _ _).mp h
  rw [positionWord, lor_nonneg_iff] at hposition
  rw [dataWord, lor_nonneg_iff, lor_nonneg_iff, lor_nonneg_iff, rateCode, intensityCode] at hdata
  obtain ⟨hx, hy⟩ := hposition
  obtain ⟨⟨⟨-, hrate⟩, hintensity⟩, -⟩ := hdata
  exact ⟨(coordinate_nonneg_iff _).mp (by omega), (coordinate_nonneg_iff _).mp (by omega),
    p.rateCode_nonneg_iff.mp (by omega), p.intensityCode_nonneg_iff.mp (by omega)⟩

/-- A type has a code, and a known one has its own. -/
theorem exists_typeCode (type : String) :
    ∃ k : Fin 4, Dict.getD typeBits type 0 = (k.val : ℤ) ∧
      (Dict.has typeBits type = true → Dict.getD typeMap k "rain" = type) := by
  by_cases hknown : Dict.has typeBits type = true
  · obtain ⟨k, hcode, hback⟩ := exists_type hknown
    exact ⟨k, hcode, fun _ => hback⟩
  · refine ⟨0, ?_, fun h => absurd h hknown⟩
    rw [Dict.getD, Dict.has_eq_false.mp (Bool.not_eq_true _ ▸ hknown)]
    rfl

theorem survives_of_notBelow (py : Runtime) (freshId : String) (now : ℚ) {p : PrecipitationData}
    (hp : p.NotBelow) : p.Survives py freshId now := by
  have hxcode := (coordinate_nonneg_iff p.position.1).mpr hp.x
  have hycode := (coordinate_nonneg_iff p.position.2).mpr hp.y
  have hratecode := p.rateCode_nonneg_iff.mpr hp.rate
  have hintensitycode := p.intensityCode_nonneg_iff.mpr hp.intensity
  obtain ⟨x, hx⟩ := exists_code (m := 255) hxcode
  obtain ⟨y, hy⟩ := exists_code (m := 255) hycode
  obtain ⟨t, ht, htype⟩ := exists_typeCode p.type
  obtain ⟨r, hr⟩ := exists_code (m := 127) hratecode
  obtain ⟨i, hi⟩ := exists_code (m := 63) hintensitycode
  let c : Codes := ⟨x, y, t, r, i, flagBit p.showValues⟩
  have hwords : p.toDataWords = c.words := by
    rw [toDataWords, positionWord_eq hx hy, dataWord_eq ht hr hi (flagBit_val p.showValues)]
    rfl
  refine ⟨?_, c.object (.str freshId) now, ?_, ?_, htype, ?_, ?_, flagBit_ne_zero p.showValues⟩
  · rw [hwords]
    have hfirst := c.positionWord_lt
    have hsecond := c.dataWord_lt
    exact (isWordPair_formatBin _ _).mpr (by omega)
  · rw [hwords]
    exact c.fromDataWords_words py freshId now
  · exact Prod.ext (wireCoordinate_eq hxcode hx) (wireCoordinate_eq hycode hy)
  · exact wireNumber_eq (by norm_num) (by norm_num) hratecode hr
  · have hscale : p.intensity * 63 = p.intensity / (1 / 63) := by ring
    rw [hscale] at hintensitycode hi
    have htop : ((63 : ℕ) : ℚ) * (1 / 63) = 1 := by norm_num
    rw [← wireNumber_eq (by norm_num) htop hintensitycode hi]
    exact div_eq_mul_one_div _ _

/-- Two words are read into an object that writes them. -/
theorem toDataWords_fromDataWords (py : Runtime) (freshId : String) (now : ℚ) {words : List String}
    (hwords : IsWordPair words) :
    ∃ q, fromDataWords py freshId now words = .ok q ∧ q.toDataWords = words := by
  obtain ⟨m, n, hm, hn, rfl⟩ := hwords.eq_formatBin
  let c : Codes := ⟨⟨m / 256, by omega⟩, ⟨m % 256, by omega⟩, ⟨n / 16384, by omega⟩,
    ⟨n / 128 % 128, by omega⟩, ⟨n / 2 % 64, by omega⟩, ⟨n % 2, by omega⟩⟩
  have hfirst : c.positionWord = m := Nat.div_add_mod' m 256
  have hsecond : c.dataWord = n := by
    show n / 16384 * 16384 + n / 128 % 128 * 128 + n / 2 % 64 * 2 + n % 2 = n
    omega
  rw [← hfirst, ← hsecond]
  refine ⟨_, c.fromDataWords_words py freshId now, c.toDataWords_object _ _⟩

end PrecipitationData

/-! ### VIL objects -/

theorem VilCodes.toDataWords_object (c : VilCodes) (requestId : Value) (now : ℚ) :
    (c.object requestId now).toDataWords = c.words := by
  have hposition : (c.object requestId now).positionWord = (c.positionWord : ℤ) := by
    rw [WeatherRadarVILData.positionWord]
    exact (congrArg₂ (fun x y => Int.lor (x * 256) y) (coordinateCode_of_code c.x)
      (coordinateCode_of_code c.y)).trans (lor_bytes c.x c.y)
  have hvalue : (c.object requestId now).valueCode = (c.value.val : ℤ) :=
    numberCode_of_code (n := 127) c.value (div_mul_cancel₀ _ (by norm_num))
  have hlayers : (c.object requestId now).layerCode = (c.layers.val : ℤ) := by
    show min 15 (c.layers.val : ℤ) = c.layers.val
    omega
  have hintensity : (c.object requestId now).intensityCode = (c.intensity.val : ℤ) :=
    numberCode_of_code (n := 15) c.intensity (div_mul_cancel₀ _ (by norm_num))
  have hdata : (c.object requestId now).dataWord = (c.dataWord : ℤ) :=
    vil_dataWord_eq hvalue hlayers hintensity (flagCode_of_code c.showBit)
  rw [WeatherRadarVILData.toDataWords, hposition, hdata]
  rfl

namespace WeatherRadarVILData

/-- The object in its words and back, as of a precipitation object. -/
structure Survives (py : Runtime) (freshId : String) (now : ℚ) (v : WeatherRadarVILData) : Prop where
  words : IsWordPair v.toDataWords
  back : ∃ q, fromDataWords py freshId now v.toDataWords = .ok q ∧
    q.position = (wireCoordinate v.position.1, wireCoordinate v.position.2) ∧
    q.value = quantize roundHalfEven (1 / 2) (127 / 2) v.value ∧
    q.layerCount = max 0 (min 15 v.layerCount) ∧
    q.intensity = quantize roundHalfEven (1 / 15) 1 v.intensity ∧ q.showValues = v.showValues

structure NotBelow (v : WeatherRadarVILData) : Prop where
  x : -(1 / 10) < v.position.1
  y : -(1 / 10) < v.position.2
  value : -(1 / 4) ≤ v.value
  layers : 0 ≤ v.layerCount
  intensity : -(1 / 30) ≤ v.intensity

theorem valueCode_nonneg_iff (v : WeatherRadarVILData) :
    0 ≤ roundHalfEven (v.value * 2) ↔ -(1 / 4) ≤ v.value := by
  rw [roundHalfEven_nonneg_iff]
  constructor <;> intro h <;> linarith

theorem intensityCode_nonneg_iff (v : WeatherRadarVILData) :
    0 ≤ roundHalfEven (v.intensity * 15) ↔ -(1 / 30) ≤ v.intensity := by
  rw [roundHalfEven_nonneg_iff]
  constructor <;> intro h <;> linarith

theorem notBelow_of_words {v : WeatherRadarVILData} (h : IsWordPair v.toDataWords) : v.NotBelow := by
  obtain ⟨⟨hposition, -⟩, ⟨hdata, -⟩⟩ := (isWordPair_formatBin _ _).mp h
  rw [positionWord, lor_nonneg_iff] at hposition
  rw [dataWord, lor_nonneg_iff, lor_nonneg_iff, lor_nonneg_iff, valueCode, layerCode,
    intensityCode] at hdata
  obtain ⟨hx, hy⟩ := hposition
  obtain ⟨⟨⟨hvalue, hlayers⟩, hintensity⟩, -⟩ := hdata
  exact ⟨(coordinate_nonneg_iff _).mp (by omega), (coordinate_nonneg_iff _).mp (by omega),
    v.valueCode_nonneg_iff.mp (by omega), by omega, v.intensityCode_nonneg_iff.mp (by omega)⟩

theorem survives_of_notBelow (py : Runtime) (freshId : String) (now : ℚ) {v : WeatherRadarVILData}
    (hv : v.NotBelow) : v.Survives py freshId now := by
  have hxcode := (coordinate_nonneg_iff v.position.1).mpr hv.x
  have hycode := (coordinate_nonneg_iff v.position.2).mpr hv.y
  have hvaluecode := v.valueCode_nonneg_iff.mpr hv.value
  have hintensitycode := v.intensityCode_nonneg_iff.mpr hv.intensity
  obtain ⟨x, hx⟩ := exists_code (m := 255) hxcode
  obtain ⟨y, hy⟩ := exists_code (m := 255) hycode
  obtain ⟨q, hq⟩ := exists_code (m := 127) hvaluecode
  obtain ⟨l, hl⟩ := exists_code (m := 15) hv.layers
  obtain ⟨i, hi⟩ := exists_code (m := 15) hintensitycode
  let c : VilCodes := ⟨x, y, q, l, i, flagBit v.showValues⟩
  have hposition : v.positionWord = (c.positionWord : ℤ) :=
    (congrArg₂ (fun x y => Int.lor (x * 256) y) hx hy).trans (lor_bytes x y)
  have hwords : v.toDataWords = c.words := by
    rw [toDataWords, hposition, vil_dataWord_eq hq hl hi (flagBit_val v.showValues)]
    rfl
  refine ⟨?_, c.object (.str freshId) now, ?_, ?_, ?_, ?_, ?_, flagBit_ne_zero v.showValues⟩
  · rw [hwords]
    have hfirst := c.positionWord_lt
    have hsecond := c.dataWord_lt
    exact (isWordPair_formatBin _ _).mpr (by omega)
  · rw [hwords]
    exact c.fromDataWords_words py freshId now
  · exact Prod.ext (wireCoordinate_eq hxcode hx) (wireCoordinate_eq hycode hy)
  · have hscale : v.value * 2 = v.value / (1 / 2) := by ring
    rw [hscale] at hvaluecode hq
    have htop : ((127 : ℕ) : ℚ) * (1 / 2) = 127 / 2 := by norm_num
    rw [← wireNumber_eq (by norm_num) htop hvaluecode hq]
    exact div_eq_mul_one_div _ _
  · have hlayers := hv.layers
    show (l.val : ℤ) = _
    rw [← hl]
    omega
  · have hscale : v.intensity * 15 = v.intensity / (1 / 15) := by ring
    rw [hscale] at hintensitycode hi
    have htop : ((15 : ℕ) : ℚ) * (1 / 15) = 1 := by norm_num
    rw [← wireNumber_eq (by norm_num) htop hintensitycode hi]
    exact div_eq_mul_one_div _ _

theorem toDataWords_fromDataWords (py : Runtime) (freshId : String) (now : ℚ) {words : List String}
    (hwords : IsWordPair words) :
    ∃ q, fromDataWords py freshId now words = .ok q ∧ q.toDataWords = words := by
  obtain ⟨m, n, hm, hn, rfl⟩ := hwords.eq_formatBin
  let c : VilCodes := ⟨⟨m / 256, by omega⟩, ⟨m % 256, by omega⟩, ⟨n / 512, by omega⟩,
    ⟨n / 32 % 16, by omega⟩, ⟨n / 2 % 16, by omega⟩, ⟨n % 2, by omega⟩⟩
  have hfirst : c.positionWord = m := Nat.div_add_mod' m 256
  have hsecond : c.dataWord = n := by
    show n / 512 * 512 + n / 32 % 16 * 32 + n / 2 % 16 * 2 + n % 2 = n
    omega
  rw [← hfirst, ← hsecond]
  exact ⟨_, c.fromDataWords_words py freshId now, c.toDataWords_object _ _⟩

end WeatherRadarVILData

/-! ### Both objects -/

/-- An object survives its words if and only if none of its numbers is so far below 0 that its code is;
the other way, every two words survive their object. -/
theorem data_words_survive_iff (py : Runtime) (freshId : String) (now : ℚ) :
    (∀ p : PrecipitationData, p.Survives py freshId now ↔ p.NotBelow) ∧
      (∀ v : WeatherRadarVILData, v.Survives py freshId now ↔ v.NotBelow) ∧
      ∀ words, IsWordPair words →
        (∃ q, PrecipitationData.fromDataWords py freshId now words = .ok q ∧ q.toDataWords = words) ∧
          ∃ q, WeatherRadarVILData.fromDataWords py freshId now words = .ok q ∧
            q.toDataWords = words := by
  refine ⟨fun p => ?_, fun v => ?_, fun words hwords => ⟨?_, ?_⟩⟩
  · exact ⟨fun h => PrecipitationData.notBelow_of_words h.words,
      PrecipitationData.survives_of_notBelow py freshId now⟩
  · exact ⟨fun h => WeatherRadarVILData.notBelow_of_words h.words,
      WeatherRadarVILData.survives_of_notBelow py freshId now⟩
  · exact PrecipitationData.toDataWords_fromDataWords py freshId now hwords
  · exact WeatherRadarVILData.toDataWords_fromDataWords py freshId now hwords

/-- Light rain survives, and so do two words. -/
theorem light_rain_survives :
    lightRain.Survives Runtime.ascii "b" 0 ∧
      ∃ q, WeatherRadarVILData.fromDataWords Runtime.ascii "b" 0
        ["0000000000000001", "1000000000000000"] = .ok q ∧
          q.toDataWords = ["0000000000000001", "1000000000000000"] :=
  ⟨((data_words_survive_iff _ _ _).1 lightRain).mpr
      ⟨by norm_num [lightRain], by norm_num [lightRain], by norm_num [lightRain],
        by norm_num [lightRain]⟩,
    ((data_words_survive_iff _ _ _).2.2 _ (by decide)).2⟩

/-- One nautical mile to the west of the radar, the first word has a sign in it. -/
theorem west_of_radar_lost :
    ¬ { lightRain with position := (-1, 0) }.Survives Runtime.ascii "b" 0 := by
  intro h
  have hwords := h.words
  revert hwords
  decide +kernel

end Fmofp.RadarHandler
