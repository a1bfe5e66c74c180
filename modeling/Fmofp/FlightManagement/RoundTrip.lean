import Fmofp.FlightManagement.FlightData

/-! What is left of the flight data after encoding and decoding.  The words of a message in range are
words, and encoding what they decode to gives them again; each field comes back to less than a step,
except a yaw that the decoder takes for negative, and the north pole and the date line, which the
encoder wraps around. -/

namespace Fmofp.FlightManagement

open Python

/-- `y` is less than `quantum` away from `x`. -/
def Near (quantum x y : ℚ) : Prop := |y - x| < quantum

namespace Attitude

/-- The ranges that the flight management system keeps. -/
structure InRange (d : Attitude) : Prop where
  roll : -180 ≤ d.roll ∧ d.roll < 180
  pitch : -90 ≤ d.pitch ∧ d.pitch < 90
  yaw : 0 ≤ d.yaw ∧ d.yaw < 360
  rollRate : -327 ≤ d.rollRate ∧ d.rollRate ≤ 327
  pitchRate : -327 ≤ d.pitchRate ∧ d.pitchRate ≤ 327
  yawRate : -327 ≤ d.yawRate ∧ d.yawRate ≤ 327

structure Agrees (d d' : Attitude) : Prop where
  roll : Near (1 / 100) d.roll d'.roll
  pitch : Near (1 / 100) d.pitch d'.pitch
  yaw : Near (1 / 100) d.yaw d'.yaw
  rollRate : Near (1 / 100) d.rollRate d'.rollRate
  pitchRate : Near (1 / 100) d.pitchRate d'.pitchRate
  yawRate : Near (1 / 100) d.yawRate d'.yawRate

end Attitude

namespace Navigation

structure InRange (d : Navigation) : Prop where
  latitude : -90 ≤ d.latitude ∧ d.latitude ≤ 90
  longitude : -180 ≤ d.longitude ∧ d.longitude ≤ 180
  altitude : 0 ≤ d.altitude ∧ d.altitude ≤ 65535
  heading : 0 ≤ d.heading ∧ d.heading < 360
  track : 0 ≤ d.track ∧ d.track < 360
  activeWaypoint : 0 ≤ d.activeWaypoint ∧ d.activeWaypoint ≤ 65535

structure Agrees (d d' : Navigation) : Prop where
  latitude : Near (1 / 100) d.latitude d'.latitude
  longitude : Near (1 / 100) d.longitude d'.longitude
  altitude : Near 1 d.altitude d'.altitude
  heading : Near (1 / 100) d.heading d'.heading
  track : Near (1 / 100) d.track d'.track
  activeWaypoint : d'.activeWaypoint = d.activeWaypoint

end Navigation

namespace Velocity

structure InRange (d : Velocity) : Prop where
  airspeed : 0 ≤ d.airspeed ∧ d.airspeed ≤ 999.9
  groundSpeed : 0 ≤ d.groundSpeed ∧ d.groundSpeed ≤ 999.9
  verticalSpeed : -32768 ≤ d.verticalSpeed ∧ d.verticalSpeed ≤ 32767
  mach : 0 ≤ d.mach ∧ d.mach ≤ 5.999

structure Agrees (d d' : Velocity) : Prop where
  airspeed : Near (1 / 10) d.airspeed d'.airspeed
  groundSpeed : Near (1 / 10) d.groundSpeed d'.groundSpeed
  verticalSpeed : Near 1 d.verticalSpeed d'.verticalSpeed
  mach : Near (1 / 1000) d.mach d'.mach

end Velocity

namespace Tactical

structure InRange (d : Tactical) : Prop where
  gForce : 0 ≤ d.gForce ∧ d.gForce ≤ 9.99
  aoa : -40 ≤ d.aoa ∧ d.aoa ≤ 40
  sideslip : -20 ≤ d.sideslip ∧ d.sideslip ≤ 20
  energyState : 0 ≤ d.energyState ∧ d.energyState ≤ 100
  mode : Dict.has fmsModeNameToValue d.mode = true

structure Agrees (d d' : Tactical) : Prop where
  gForce : Near (1 / 100) d.gForce d'.gForce
  aoa : Near (1 / 100) d.aoa d'.aoa
  sideslip : Near (1 / 100) d.sideslip d'.sideslip
  energyState : Near 1 d.energyState d'.energyState
  mode : d'.mode = d.mode

end Tactical

/-- The words of the message are words, they decode to data that agree with it, and these encode to the
same words. -/
def RoundTrips {δ : Type} (encode : DataMessage δ → List ℤ)
    (decode : List ℤ → Except Exception (DataMessage δ)) (Agrees : δ → δ → Prop)
    (m : DataMessage δ) : Prop :=
  (∀ w ∈ encode m, IsWord w) ∧
    ∃ m', decode (encode m) = .ok m' ∧ Agrees m.data m'.data ∧ encode m' = encode m

section Words

theorem isWord_scaledWord (k x : ℚ) : IsWord (scaledWord k x) := isWord_word _

theorem isWord_clampedWord (high n : ℤ) : IsWord (clampedWord high n) := isWord_word _

@[simp] theorem word_scaledWord (k x : ℚ) : word (scaledWord k x) = scaledWord k x := word_word _

@[simp] theorem word_clampedWord (high n : ℤ) : word (clampedWord high n) = clampedWord high n :=
  word_word _

/-- Nothing is cut off within the bounds. -/
theorem clampedWord_of_range {high n : ℤ} (hhigh : high ≤ 65535) (h : 0 ≤ n) (hle : n ≤ high) :
    clampedWord high n = n := by
  have hclamped : min high (max 0 n) = n := by omega
  rw [clampedWord, hclamped]
  exact word_of_isWord ⟨h, by omega⟩

/-- A signed number of hundredths, as its word is read. -/
theorem signExtend_word {n : ℤ} (hlow : -32768 ≤ n) (hhigh : n ≤ 32767) :
    signExtend (word n / 100) = n / 100 := by
  unfold signExtend
  rcases le_or_gt 0 n with h | h
  · rw [word_of_isWord ⟨h, by omega⟩]
    have hle : (n : ℚ) ≤ 32767 := by exact_mod_cast hhigh
    exact if_neg (by norm_num; linarith)
  · have hword : word n = n + 65536 := by unfold word; omega
    have hge : (-32768 : ℚ) ≤ n := by exact_mod_cast hlow
    rw [hword, if_pos (by push_cast; norm_num; linarith)]
    push_cast
    ring

/-- From `0x8000` on the number is taken for negative. -/
theorem signExtend_word_high {n : ℤ} (hlow : 32768 ≤ n) (hhigh : n < 65536) :
    signExtend (word n / 100) = (n - 65536 : ℤ) / 100 := by
  have hge : (32768 : ℚ) ≤ n := by exact_mod_cast hlow
  rw [word_of_isWord ⟨by omega, hhigh⟩, signExtend, if_pos (by norm_num; linarith)]
  push_cast
  ring

/-- Encoding a whole number of hundredths. -/
theorem scaledWord_div {k : ℚ} (hk : k ≠ 0) (n : ℤ) : scaledWord k (n / k) = word n := by
  rw [scaledWord, truncate_scaled_div hk]

/-- A field of hundredths that fits into a signed word. -/
theorem signExtend_scaledWord {x : ℚ} (hlow : -32768 ≤ x * 100) (hhigh : x * 100 < 32768) :
    signExtend (scaledWord 100 x / 100) = truncate (x * 100) / 100 := by
  have hge : -32768 ≤ truncate (x * 100) := le_truncate (by exact_mod_cast hlow)
  have hlt : truncate (x * 100) < 32768 := truncate_lt (by norm_num) (by exact_mod_cast hhigh)
  exact signExtend_word hge (by omega)

theorem signExtend_scaledWord_high {x : ℚ} (hlow : 32768 ≤ x * 100) (hhigh : x * 100 < 65536) :
    signExtend (scaledWord 100 x / 100) = (truncate (x * 100) - 65536 : ℤ) / 100 := by
  have hge : 32768 ≤ truncate (x * 100) := le_truncate (by exact_mod_cast hlow)
  have hlt : truncate (x * 100) < 65536 := truncate_lt (by norm_num) (by exact_mod_cast hhigh)
  exact signExtend_word_high hge hlt

/-- The scaled word of a number that is not negative is the number of its steps. -/
theorem scaledWord_of_range {k x : ℚ} (hk : 0 < k) (h : 0 ≤ x) (hhigh : x * k < 65536) :
    scaledWord k x = truncate (x * k) := by
  have hge : 0 ≤ truncate (x * k) := le_truncate (by exact_mod_cast mul_nonneg h hk.le)
  have hlt : truncate (x * k) < 65536 := truncate_lt (by norm_num) (by exact_mod_cast hhigh)
  exact word_of_isWord ⟨hge, hlt⟩

theorem near_scaled {k : ℚ} (hk : 0 < k) (x : ℚ) : Near (1 / k) x (truncate (x * k) / k) :=
  abs_truncate_scaled_sub_lt hk x

theorem near_truncate (x : ℚ) : Near 1 x (truncate x) := abs_truncate_sub_lt x

/-- A field that is cut off at bounds it respects. -/
theorem clampedWord_scaled {high : ℤ} (hhigh : high ≤ 65535) {k x : ℚ} (hk : 0 < k) (h : 0 ≤ x)
    (hle : x * k ≤ high) : clampedWord high (truncate (x * k)) = truncate (x * k) :=
  clampedWord_of_range hhigh (le_truncate (by exact_mod_cast mul_nonneg h hk.le)) (truncate_le hle)

/-- A signed field, with the offset that makes it positive. -/
theorem clampedWord_offset {high offset : ℤ} (hhigh : high ≤ 65535) {x : ℚ} (hlow : -offset ≤ x)
    (hle : x ≤ high - offset) : clampedWord high (truncate x + offset) = truncate x + offset := by
  have hge : -offset ≤ truncate x := le_truncate (by exact_mod_cast hlow)
  have hlt : truncate x ≤ high - offset := truncate_le (by exact_mod_cast hle)
  exact clampedWord_of_range hhigh (by omega) (by omega)

/-- An angle that the encoder shifts and wraps around, as its word is read, unless it is at the end of
its range. -/
theorem scaledWord_floatMod {x m : ℚ} (h : 0 ≤ x) (hlt : x < m) (hm : m * 100 < 65536) :
    scaledWord 100 (floatMod x m) = truncate (x * 100) := by
  rw [floatMod_of_range h hlt]
  exact scaledWord_of_range (by norm_num) h (by linarith)

/-- The shift of an angle does not change how near it is. -/
theorem near_shifted (offset x : ℚ) :
    Near (1 / 100) x (truncate ((x + offset) * 100) / 100 - offset) := by
  have hnear := abs_truncate_scaled_sub_lt (show (0 : ℚ) < 100 by norm_num) (x + offset)
  have hshift : (truncate ((x + offset) * 100) : ℚ) / 100 - offset - x =
      truncate ((x + offset) * 100) / 100 - (x + offset) := by ring
  rw [Near, hshift]
  exact hnear

/-- Encoding an angle that was decoded gives its word again. -/
theorem scaledWord_floatMod_div {x m : ℚ} (n : ℤ) (hn : (n : ℚ) = m) (h : 0 ≤ x) (hlt : x < m)
    (hm : n * 100 < 65536) :
    scaledWord 100 (floatMod ((truncate (x * 100) : ℚ) / 100) m) = truncate (x * 100) := by
  subst hn
  have hge : 0 ≤ truncate (x * 100) := le_truncate (by push_cast; linarith)
  have hupper : x * 100 < (n * 100 : ℤ) := by push_cast; linarith
  have hmpos : (0 : ℚ) < n := h.trans_lt hlt
  have hbound : truncate (x * 100) < n * 100 := by
    apply truncate_lt
    · have : (0 : ℤ) < n := by exact_mod_cast hmpos
      omega
    · exact hupper
  have hrange : (truncate (x * 100) : ℚ) / 100 < n := by
    rw [div_lt_iff₀ (by norm_num)]
    exact_mod_cast hbound
  have hnonneg : (0 : ℚ) ≤ (truncate (x * 100) : ℚ) / 100 := by
    apply div_nonneg
    · exact_mod_cast hge
    · norm_num
  rw [floatMod_of_range hnonneg hrange, scaledWord_div (by norm_num)]
  exact word_of_isWord ⟨hge, by omega⟩

end Words

variable (commandWord : String → Option ℤ) (now : ℚ)

theorem Attitude.roundTrips_iff (m : DataMessage Attitude) (h : m.data.InRange) :
    RoundTrips encodeFmsAttitudeData (decodeFmsAttitudeData commandWord now) Agrees m ↔
      m.data.yaw < 327.68 := by
  have hroll := signExtend_scaledWord (x := m.data.roll) (by linarith [h.roll.1]) (by linarith [h.roll.2])
  have hpitch := signExtend_scaledWord (x := m.data.pitch) (by linarith [h.pitch.1])
    (by linarith [h.pitch.2])
  have hrollRate := signExtend_scaledWord (x := m.data.rollRate) (by linarith [h.rollRate.1])
    (by linarith [h.rollRate.2])
  have hpitchRate := signExtend_scaledWord (x := m.data.pitchRate) (by linarith [h.pitchRate.1])
    (by linarith [h.pitchRate.2])
  have hyawRate := signExtend_scaledWord (x := m.data.yawRate) (by linarith [h.yawRate.1])
    (by linarith [h.yawRate.2])
  have hnear := near_scaled (show (0 : ℚ) < 100 by norm_num)
  constructor
  · rintro ⟨-, m', hdecode, hagrees, -⟩
    by_contra hhigh
    have hhigh : (32768 : ℚ) ≤ m.data.yaw * 100 := by norm_num at hhigh; linarith
    have hyaw := signExtend_scaledWord_high hhigh (by linarith [h.yaw.2])
    cases hdecode
    have hfar := hagrees.yaw
    simp only [createFmsAttitudeDataMessage, word_scaledWord, hyaw] at hfar
    have hclose := abs_sub_lt_iff.mp (hnear m.data.yaw)
    have hcontra := abs_sub_lt_iff.mp hfar
    push_cast at hcontra
    linarith
  · intro hlow
    have hyaw := signExtend_scaledWord (x := m.data.yaw) (by linarith [h.yaw.1])
      (by norm_num at hlow; linarith)
    refine ⟨fun w hw => ?_, _, rfl, ?_, ?_⟩
    · simp only [encodeFmsAttitudeData, List.mem_cons, List.not_mem_nil, or_false] at hw
      rcases hw with rfl | rfl | rfl | rfl | rfl | rfl | rfl
      · decide
      all_goals exact isWord_scaledWord _ _
    · simp only [createFmsAttitudeDataMessage, word_scaledWord, hroll, hpitch, hyaw, hrollRate, hpitchRate,
        hyawRate]
      exact ⟨hnear _, hnear _, hnear _, hnear _, hnear _, hnear _⟩
    · simp only [encodeFmsAttitudeData, createFmsAttitudeDataMessage, word_scaledWord, hroll, hpitch, hyaw,
        hrollRate, hpitchRate, hyawRate, scaledWord_div (show (100 : ℚ) ≠ 0 by norm_num)]
      rfl

theorem Navigation.roundTrips_iff (m : DataMessage Navigation) (h : m.data.InRange) :
    RoundTrips encodeFmsNavigationData (decodeFmsNavigationData commandWord now) Agrees m ↔
      m.data.latitude ≠ 90 ∧ m.data.longitude ≠ 180 := by
  have hheading := scaledWord_floatMod h.heading.1 h.heading.2 (by norm_num)
  have htrack := scaledWord_floatMod h.track.1 h.track.2 (by norm_num)
  have haltitude : clampedWord 65535 (truncate m.data.altitude) = truncate m.data.altitude :=
    clampedWord_of_range le_rfl (le_truncate (by exact_mod_cast h.altitude.1))
      (truncate_le (by exact_mod_cast h.altitude.2))
  have hwaypoint := clampedWord_of_range le_rfl h.activeWaypoint.1 h.activeWaypoint.2
  have hzero : word (scaledWord 100 0) = 0 := by decide +kernel
  have hnear := near_scaled (show (0 : ℚ) < 100 by norm_num)
  constructor
  · -- at the end of the range the encoder wraps around to the other end
    rintro ⟨-, m', hdecode, hagrees, -⟩
    cases hdecode
    constructor
    · intro hpole
      have hwrapped : floatMod (m.data.latitude + 90) 180 = 0 := by
        rw [hpole, show (90 : ℚ) + 90 = 180 by norm_num, floatMod_self (by norm_num)]
      have hfar := hagrees.latitude
      simp only [createFmsNavigationDataMessage, hwrapped, hzero] at hfar
      rw [hpole] at hfar
      exact absurd hfar (by norm_num [Near])
    · intro hdateLine
      have hwrapped : floatMod (m.data.longitude + 180) 360 = 0 := by
        rw [hdateLine, show (180 : ℚ) + 180 = 360 by norm_num, floatMod_self (by norm_num)]
      have hfar := hagrees.longitude
      simp only [createFmsNavigationDataMessage, hwrapped, hzero] at hfar
      rw [hdateLine] at hfar
      exact absurd hfar (by norm_num [Near])
  · rintro ⟨hpole, hdateLine⟩
    have hlat : m.data.latitude + 90 < 180 := by
      have := lt_of_le_of_ne h.latitude.2 hpole
      linarith
    have hlon : m.data.longitude + 180 < 360 := by
      have := lt_of_le_of_ne h.longitude.2 hdateLine
      linarith
    have hlat0 : 0 ≤ m.data.latitude + 90 := by linarith [h.latitude.1]
    have hlon0 : 0 ≤ m.data.longitude + 180 := by linarith [h.longitude.1]
    have hlatitude := scaledWord_floatMod hlat0 hlat (by norm_num)
    have hlongitude := scaledWord_floatMod hlon0 hlon (by norm_num)
    refine ⟨fun w hw => ?_, _, rfl, ?_, ?_⟩
    · simp only [encodeFmsNavigationData, List.mem_cons, List.not_mem_nil, or_false] at hw
      rcases hw with rfl | rfl | rfl | rfl | rfl | rfl | rfl
      · decide
      · exact isWord_scaledWord _ _
      · exact isWord_scaledWord _ _
      · exact isWord_clampedWord _ _
      · exact isWord_scaledWord _ _
      · exact isWord_scaledWord _ _
      · exact isWord_clampedWord _ _
    · simp only [createFmsNavigationDataMessage, word_scaledWord, word_clampedWord]
      simp only [hlatitude, hlongitude, haltitude, hheading, htrack, hwaypoint]
      exact {
        latitude := near_shifted 90 m.data.latitude
        longitude := near_shifted 180 m.data.longitude
        altitude := near_truncate m.data.altitude
        heading := hnear m.data.heading
        track := hnear m.data.track
        activeWaypoint := rfl }
    · have hlat' := scaledWord_floatMod_div 180 (by norm_num) hlat0 hlat (by norm_num)
      have hlon' := scaledWord_floatMod_div 360 (by norm_num) hlon0 hlon (by norm_num)
      have hheading' := scaledWord_floatMod_div 360 (by norm_num) h.heading.1 h.heading.2 (by norm_num)
      have htrack' := scaledWord_floatMod_div 360 (by norm_num) h.track.1 h.track.2 (by norm_num)
      simp only [encodeFmsNavigationData, createFmsNavigationDataMessage, word_scaledWord, word_clampedWord]
      simp only [hlatitude, hlongitude, haltitude, hheading, htrack, hwaypoint, sub_add_cancel,
        truncate_intCast, hlat', hlon', hheading', htrack']

theorem Velocity.roundTrips (m : DataMessage Velocity) (h : m.data.InRange) :
    RoundTrips encodeFmsVelocityData (decodeFmsVelocityData commandWord now) Agrees m := by
  have hairspeed := @clampedWord_scaled 9999 (by norm_num) 10 _ (by norm_num) h.airspeed.1
    (by have := h.airspeed.2; norm_num at this ⊢; linarith)
  have hgroundSpeed := @clampedWord_scaled 9999 (by norm_num) 10 _ (by norm_num)
    h.groundSpeed.1 (by have := h.groundSpeed.2; norm_num at this ⊢; linarith)
  have hvertical := @clampedWord_offset 65535 32768 le_rfl m.data.verticalSpeed
    (by push_cast; linarith [h.verticalSpeed.1])
    (by push_cast; linarith [h.verticalSpeed.2])
  have hmach := @clampedWord_scaled 5999 (by norm_num) 1000 _ (by norm_num) h.mach.1
    (by have := h.mach.2; norm_num at this ⊢; linarith)
  refine ⟨fun w hw => ?_, _, rfl, ?_, ?_⟩
  · simp only [encodeFmsVelocityData, List.mem_cons, List.not_mem_nil, or_false] at hw
    rcases hw with rfl | rfl | rfl | rfl | rfl | rfl
    · decide
    · decide
    all_goals exact isWord_clampedWord _ _
  · simp only [createFmsVelocityDataMessage, word_clampedWord]
    simp only [hairspeed, hgroundSpeed, hvertical, hmach, add_sub_cancel_right]
    exact ⟨near_scaled (by norm_num) _, near_scaled (by norm_num) _, near_truncate _,
      near_scaled (by norm_num) _⟩
  · simp only [encodeFmsVelocityData, createFmsVelocityDataMessage, word_clampedWord]
    simp only [hairspeed, hgroundSpeed, hvertical, hmach, add_sub_cancel_right, truncate_intCast,
      truncate_scaled_div (show (10 : ℚ) ≠ 0 by norm_num),
      truncate_scaled_div (show (1000 : ℚ) ≠ 0 by norm_num)]

/-- The number of a mode gives the mode again. -/
theorem mode_of_value {mode : String} (h : Dict.has fmsModeNameToValue mode = true) :
    IsWord (Dict.getD fmsModeNameToValue mode 0) ∧
      Dict.getD fmsModeValueToName (Dict.getD fmsModeNameToValue mode 0) "NORMAL" = mode ∧
      mode ∈ validModes := by
  obtain ⟨value, hvalue⟩ := Dict.has_iff.mp h
  have hmem := Dict.mem_of_get?_eq_some hvalue
  simp only [fmsModeNameToValue, List.mem_cons, Prod.mk.injEq, List.not_mem_nil, or_false] at hmem
  rcases hmem with ⟨rfl, -⟩ | ⟨rfl, -⟩ | ⟨rfl, -⟩ | ⟨rfl, -⟩ | ⟨rfl, -⟩ <;> decide

theorem Tactical.roundTrips (m : DataMessage Tactical) (h : m.data.InRange) :
    RoundTrips encodeFmsTacticalData (decodeFmsTacticalData commandWord now) Agrees m := by
  have hgForce := @clampedWord_scaled 999 (by norm_num) 100 _ (by norm_num) h.gForce.1
    (by have := h.gForce.2; norm_num at this ⊢; linarith)
  have haoa := @clampedWord_offset 8000 4000 (by norm_num) (m.data.aoa * 100)
    (by push_cast; linarith [h.aoa.1]) (by push_cast; linarith [h.aoa.2])
  have hsideslip := @clampedWord_offset 4000 2000 (by norm_num) (m.data.sideslip * 100)
    (by push_cast; linarith [h.sideslip.1])
    (by push_cast; linarith [h.sideslip.2])
  have henergy : clampedWord 100 (truncate m.data.energyState) = truncate m.data.energyState :=
    clampedWord_of_range (by norm_num) (le_truncate (by exact_mod_cast h.energyState.1))
      (truncate_le (by exact_mod_cast h.energyState.2))
  obtain ⟨hword, hmode, hvalid⟩ := mode_of_value h.mode
  have hnear := near_scaled (show (0 : ℚ) < 100 by norm_num)
  refine ⟨fun w hw => ?_, _, rfl, ?_, ?_⟩
  · simp only [encodeFmsTacticalData, List.mem_cons, List.not_mem_nil, or_false] at hw
    rcases hw with rfl | rfl | rfl | rfl | rfl | rfl
    · decide
    all_goals exact isWord_word _
  · simp only [createFmsTacticalDataMessage, word_clampedWord, word_word]
    simp only [hgForce, haoa, hsideslip, henergy, add_sub_cancel_right, word_of_isWord hword, hmode,
      if_pos hvalid]
    exact ⟨hnear _, hnear _, hnear _, near_truncate _, rfl⟩
  · simp only [encodeFmsTacticalData, createFmsTacticalDataMessage, word_clampedWord, word_word]
    simp only [hgForce, haoa, hsideslip, henergy, add_sub_cancel_right, word_of_isWord hword, hmode,
      if_pos hvalid, truncate_intCast, truncate_scaled_div (show (100 : ℚ) ≠ 0 by norm_num)]

section Samples

def eastOfNorth : DataMessage Attitude :=
  createFmsAttitudeDataMessage (fun _ => none) 0 {
    roll := 0
    pitch := 0
    yaw := 350
    rollRate := 0
    pitchRate := 0
    yawRate := 0 }

theorem inRange_eastOfNorth : eastOfNorth.data.InRange where
  roll := by constructor <;> norm_num [eastOfNorth, createFmsAttitudeDataMessage]
  pitch := by constructor <;> norm_num [eastOfNorth, createFmsAttitudeDataMessage]
  yaw := by constructor <;> norm_num [eastOfNorth, createFmsAttitudeDataMessage]
  rollRate := by constructor <;> norm_num [eastOfNorth, createFmsAttitudeDataMessage]
  pitchRate := by constructor <;> norm_num [eastOfNorth, createFmsAttitudeDataMessage]
  yawRate := by constructor <;> norm_num [eastOfNorth, createFmsAttitudeDataMessage]

end Samples

end Fmofp.FlightManagement
