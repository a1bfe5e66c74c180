import Fmofp.Python.Text

/-! The precipitation wire encoding of `precipitation_scale.py`: the attribute word holds a type
code, a rate code and an intensity code; the position word holds two bytes with an offset. -/

namespace Fmofp.Precipitation

open Python

def rateScale : ℚ := 2
def intensityScale : ℚ := 63
def maxCode : ℕ := 63
def positionOffset : ℤ := 128
def defaultType : String := "rain"

/-- `TYPE_NAME_TO_CODE`. -/
def typeNameToCode : Dict String ℕ :=
  [("rain", 0), ("snow", 1), ("sleet", 2), ("hail", 3), ("mixed", 4)]

/-- `TYPE_CODE_TO_NAME`. -/
def typeCodeToName : Dict ℕ String := typeNameToCode.map fun e => (e.2, e.1)

/-- `max(lo, min(hi, n))` as the encoders clamp their codes. -/
def clamp (hi : ℕ) (n : ℤ) : ℕ := (max 0 (min (hi : ℤ) n)).toNat

/-- The fields of a 16-bit attribute word: type, rate and intensity codes. -/
def typeCode (word : ℤ) : ℕ := (word / 4096 % 16).toNat
def rateCode (word : ℤ) : ℕ := (word / 64 % 64).toNat
def intensityCode (word : ℤ) : ℕ := (word % 64).toNat

def typeName (code : ℕ) : String := Dict.getD typeCodeToName code defaultType

/-- `decode_attribute_word`. -/
def decodeAttributeWord (word : ℤ) : String × ℚ × ℚ :=
  (typeName (typeCode word), rateCode word / rateScale, intensityCode word / intensityScale)

/-- `encode_attribute_word`. -/
def encodeAttributeWord (precipType : String) (rate intensity : ℚ) : ℕ :=
  Dict.getD typeNameToCode precipType 0 % 16 * 4096 +
    clamp maxCode (truncate (rate * rateScale)) * 64 +
    clamp maxCode (truncate (intensity * intensityScale))

theorem rateCode_le (word : ℤ) : rateCode word ≤ maxCode := by
  unfold rateCode maxCode
  omega

theorem intensityCode_le (word : ℤ) : intensityCode word ≤ maxCode := by
  unfold intensityCode maxCode
  omega

end Fmofp.Precipitation
