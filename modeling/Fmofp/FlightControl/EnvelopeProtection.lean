import Fmofp.FlightControl.ControlSurfaces

/-! Envelope protection: what it leaves of inputs and trim, and when the stored commands stay within what
the exceeded limits leave. -/

namespace Fmofp.FlightControl

open Python

/-- A value with an upper limit, and the band over it in which the protection takes a command away. -/
structure Limit where
  value : ℚ
  limit : ℚ
  band : ℚ
  deriving DecidableEq

namespace Limit

def Exceeded (l : Limit) : Prop := l.limit < l.value

instance (l : Limit) : Decidable l.Exceeded := inferInstanceAs (Decidable (l.limit < l.value))

/-- The part of the band by which the limit is exceeded. -/
def fraction (l : Limit) : ℚ := (l.value - l.limit) / l.band

theorem fraction_pos {l : Limit} (hband : 0 < l.band) (h : l.Exceeded) : 0 < l.fraction :=
  div_pos (sub_pos.mpr h) hband

theorem exceeded_of_one_le {l : Limit} (hband : 0 < l.band) (h : 1 ≤ l.fraction) : l.Exceeded := by
  by_contra hnot
  have hle : l.value - l.limit ≤ 0 := sub_nonpos.mpr (not_lt.mp hnot)
  have : l.fraction ≤ 0 := div_nonpos_of_nonpos_of_nonneg hle hband.le
  linarith

end Limit

namespace Attitude

variable (a : Attitude)

/-- The limit on an angle to both sides, for a command to one of them. -/
def sideLimits (angle limit band command : ℚ) : List Limit :=
  if 0 < command then [⟨angle, limit, band⟩]
  else if command < 0 then [⟨-angle, limit, band⟩]
  else []

/-- The limits in the direction of an aileron command. -/
def aileronLimits (command : ℚ) : List Limit := sideLimits a.roll 60 10 command

/-- The limits in the direction of a rudder command. -/
def rudderLimits (command : ℚ) : List Limit := sideLimits a.beta 10 5 command

/-- The limits in the direction of an elevator command; a negative one pulls up. -/
def elevatorLimits (command : ℚ) : List Limit :=
  if command < 0 then [⟨a.pitch, 30, 10⟩, ⟨a.alpha, 15, 5⟩, ⟨a.gForce, 9, 2⟩]
  else if 0 < command then [⟨-a.pitch, 15, 10⟩, ⟨-a.alpha, 5, 5⟩, ⟨-a.gForce, 3, 2⟩]
  else []

end Attitude

/-- A command on a surface is bound by what is wanted of the surface and by what each exceeded limit
leaves. -/
structure Binds (limits : List Limit) (wanted command : ℚ) : Prop where
  sign : 0 ≤ command * wanted
  magnitude : |command| ≤ min 1 |wanted|
  within : ∀ l ∈ limits, l.Exceeded → |command| ≤ max 0 (1 - l.fraction)

/-- No limit is exceeded, or one by its whole band, or no more than full deflection is wanted. -/
def Moderate (limits : List Limit) (wanted : ℚ) : Prop :=
  (∀ l ∈ limits, ¬ l.Exceeded) ∨ (∃ l ∈ limits, 1 ≤ l.fraction) ∨ |wanted| ≤ 1

/-- The commands that the manager stores are bound on each surface. -/
structure EnvelopeBinds (m : ControlSurfaceManager) (controlInputs aircraftState : Dict String ℚ) :
    Prop where
  leftAileron : Binds ((attitude aircraftState).aileronLimits (m.trimmed controlInputs).aileron)
    (m.trimmed controlInputs).aileron
    ((m.setControlPositions controlInputs aircraftState).actuatorState .leftAileron).command
  rightAileron : Binds ((attitude aircraftState).aileronLimits (m.trimmed controlInputs).aileron)
    (-(m.trimmed controlInputs).aileron)
    ((m.setControlPositions controlInputs aircraftState).actuatorState .rightAileron).command
  elevator : Binds ((attitude aircraftState).elevatorLimits (m.trimmed controlInputs).elevator)
    (m.trimmed controlInputs).elevator
    ((m.setControlPositions controlInputs aircraftState).actuatorState .elevator).command
  rudder : Binds ((attitude aircraftState).rudderLimits (m.trimmed controlInputs).rudder)
    (m.trimmed controlInputs).rudder
    ((m.setControlPositions controlInputs aircraftState).actuatorState .rudder).command

/-! ### What is left of a command -/

/-- The largest fraction by which a limit is exceeded. -/
def worst (limits : List Limit) : ℚ :=
  (limits.map fun l => if l.Exceeded then l.fraction else 0).foldr max 0

theorem worst_nonneg (limits : List Limit) : 0 ≤ worst limits := by
  induction limits with
  | nil => exact le_rfl
  | cons l limits ih => exact le_max_of_le_right ih

theorem fraction_le_worst {limits : List Limit} {l : Limit} (hl : l ∈ limits) (h : l.Exceeded) :
    l.fraction ≤ worst limits := by
  induction limits with
  | nil => simp at hl
  | cons l' limits ih =>
    obtain rfl | hl := List.mem_cons.mp hl
    · exact le_max_of_le_left (if_pos h).ge
    · exact le_max_of_le_right (ih hl)

theorem worst_attained (limits : List Limit) :
    worst limits = 0 ∨ ∃ l ∈ limits, l.Exceeded ∧ worst limits = l.fraction := by
  induction limits with
  | nil => exact .inl rfl
  | cons l limits ih =>
    have hcons : worst (l :: limits) = max (if l.Exceeded then l.fraction else 0) (worst limits) := rfl
    rcases max_choice (if l.Exceeded then l.fraction else 0) (worst limits) with hmax | hmax
    · by_cases h : l.Exceeded
      · exact .inr ⟨l, by simp, h, by rw [hcons, hmax, if_pos h]⟩
      · exact .inl (by rw [hcons, hmax, if_neg h])
    · rw [hcons, hmax]
      rcases ih with h | ⟨l', hl', h⟩
      · exact .inl h
      · exact .inr ⟨l', List.mem_cons_of_mem l hl', h⟩

theorem factor_zero : factor 0 = 1 := by norm_num [factor]

theorem factor_nonneg (excess : ℚ) : 0 ≤ factor excess := sub_nonneg.mpr (min_le_left 1 excess)

theorem factor_le_one {excess : ℚ} (h : 0 ≤ excess) : factor excess ≤ 1 :=
  sub_le_self 1 (le_min zero_le_one h)

theorem factor_of_le {excess : ℚ} (h : excess ≤ 1) : factor excess = 1 - excess := by
  rw [factor, min_eq_right h]

theorem factor_of_one_le {excess : ℚ} (h : 1 ≤ excess) : factor excess = 0 := by
  rw [factor, min_eq_left h, sub_self]

theorem worst_singleton {l : Limit} (hband : 0 < l.band) :
    worst [l] = if l.Exceeded then l.fraction else 0 := by
  have hworst : worst [l] = max (if l.Exceeded then l.fraction else 0) 0 := rfl
  rw [hworst]
  split_ifs with h
  · exact max_eq_left (Limit.fraction_pos hband h).le
  · exact max_self 0

/-- The protection to both sides scales a command by what its limit leaves. -/
theorem protect_eq {limit band : ℚ} (hlimit : 0 ≤ limit) (hband : 0 < band) (angle command : ℚ) :
    Attitude.protect angle limit band command =
      command * factor (worst (Attitude.sideLimits angle limit band command)) := by
  have hside : ∀ value, command * factor (worst [⟨value, limit, band⟩]) =
      if limit < value then command * factor ((value - limit) / band) else command := by
    intro value
    rw [worst_singleton hband, apply_ite factor, factor_zero, mul_ite, mul_one]
    rfl
  rcases lt_trichotomy command 0 with hneg | rfl | hpos
  · rw [Attitude.sideLimits, if_neg hneg.not_gt, if_pos hneg, hside, Attitude.protect]
    by_cases h : limit < -angle
    · have hangle : angle < 0 := by linarith
      rw [abs_of_neg hangle, if_pos ⟨h, .inr ⟨hangle, hneg⟩⟩, if_pos h]
    · rw [if_neg h, if_neg]
      rintro ⟨hover, ⟨-, hcommand⟩ | ⟨hangle, -⟩⟩
      · exact hcommand.not_gt hneg
      · exact h (abs_of_neg hangle ▸ hover)
  · simp [Attitude.protect]
  · rw [Attitude.sideLimits, if_pos hpos, hside, Attitude.protect]
    by_cases h : limit < angle
    · have hangle : 0 < angle := by linarith
      rw [abs_of_pos hangle, if_pos ⟨h, .inl ⟨hangle, hpos⟩⟩, if_pos h]
    · rw [if_neg h, if_neg]
      rintro ⟨hover, ⟨hangle, -⟩ | ⟨-, hcommand⟩⟩
      · exact h (abs_of_pos hangle ▸ hover)
      · exact hcommand.not_gt hpos

theorem above_nonneg {band : ℚ} (hband : 0 < band) (value limit : ℚ) : 0 ≤ above value limit band := by
  unfold above
  split_ifs with h
  · exact (div_pos (sub_pos.mpr h) hband).le
  · exact le_rfl

theorem below_eq_above (value limit band : ℚ) :
    below value limit band = above (-value) (-limit) band := by
  rw [below, above]
  simp only [neg_lt_neg_iff, neg_sub_neg]

theorem worst_triple (v v' v'' l l' l'' b b' : ℚ) {b'' : ℚ} (hband : 0 < b'') :
    worst [⟨v, l, b⟩, ⟨v', l', b'⟩, ⟨v'', l'', b''⟩] =
      max (max (above v l b) (above v' l' b')) (above v'' l'' b'') := by
  have hworst : worst [⟨v, l, b⟩, ⟨v', l', b'⟩, ⟨v'', l'', b''⟩] =
      max (above v l b) (max (above v' l' b') (max (above v'' l'' b'') 0)) := rfl
  rw [hworst, max_eq_left (above_nonneg hband v'' l''), max_assoc]

theorem worst_of_not_exceeded {limits : List Limit} (h : ∀ l ∈ limits, ¬ l.Exceeded) :
    worst limits = 0 := by
  rcases worst_attained limits with hzero | ⟨l, hl, hover, -⟩
  · exact hzero
  · exact absurd hover (h l hl)

namespace Attitude

variable (a : Attitude)

theorem overElevator_eq :
    a.overElevator = worst [⟨a.pitch, 30, 10⟩, ⟨a.alpha, 15, 5⟩, ⟨a.gForce, 9, 2⟩] := by
  rw [worst_triple _ _ _ _ _ _ _ _ (by norm_num), overElevator]

theorem underElevator_eq :
    a.underElevator = worst [⟨-a.pitch, 15, 10⟩, ⟨-a.alpha, 5, 5⟩, ⟨-a.gForce, 3, 2⟩] := by
  rw [worst_triple _ _ _ _ _ _ _ _ (by norm_num), underElevator]
  simp only [below_eq_above, neg_neg]

theorem factor_overElevator (h : ¬ (30 < a.pitch ∨ 15 < a.alpha ∨ 9 < a.gForce)) :
    factor a.overElevator = 1 := by
  rw [overElevator_eq, worst_of_not_exceeded, factor_zero]
  push Not at h
  simpa [Limit.Exceeded] using h

theorem factor_underElevator (h : ¬ (a.pitch < -15 ∨ a.alpha < -5 ∨ a.gForce < -3)) :
    factor a.underElevator = 1 := by
  rw [underElevator_eq, worst_of_not_exceeded, factor_zero]
  push Not at h
  simp only [List.forall_mem_cons, Limit.Exceeded, not_lt]
  exact ⟨by linarith, by linarith, by linarith, by simp⟩

/-- The protection of the elevator scales a command by what the worst limit in its direction leaves. -/
theorem protectElevator_eq (command : ℚ) :
    a.protectElevator command = command * factor (worst (a.elevatorLimits command)) := by
  rcases lt_trichotomy command 0 with hneg | rfl | hpos
  · have hpulled : (if (30 < a.pitch ∨ 15 < a.alpha ∨ 9 < a.gForce) ∧ command < 0 then
        command * factor a.overElevator else command) = command * factor a.overElevator := by
      split_ifs with h
      · rfl
      · rw [factor_overElevator a fun hover => h ⟨hover, hneg⟩, mul_one]
    have hnot : ¬ 0 < command * factor a.overElevator :=
      (mul_nonpos_of_nonpos_of_nonneg hneg.le (factor_nonneg _)).not_gt
    simp only [protectElevator]
    rw [hpulled, if_neg fun h => hnot h.2, elevatorLimits, if_pos hneg, overElevator_eq]
  · simp [protectElevator]
  · have hpulled : (if (30 < a.pitch ∨ 15 < a.alpha ∨ 9 < a.gForce) ∧ command < 0 then
        command * factor a.overElevator else command) = command := if_neg fun h => hpos.not_gt h.2
    simp only [protectElevator]
    rw [hpulled, elevatorLimits, if_neg hpos.not_gt, if_pos hpos, ← underElevator_eq]
    split_ifs with h
    · rfl
    · rw [factor_underElevator a fun hunder => h ⟨hunder, hpos⟩, mul_one]

end Attitude

/-! ### When a scaled and clamped command is bound -/

/-- A scaled and clamped command keeps its sign. -/
theorem clampUnit_scaled_mul_nonneg {left : ℚ} (hleft : 0 ≤ left) (wanted : ℚ) :
    0 ≤ clampUnit (wanted * left) * wanted := by
  rcases le_total 0 wanted with h | h
  · rw [clampUnit_nonneg (mul_nonneg h hleft)]
    exact mul_nonneg (le_min zero_le_one (mul_nonneg h hleft)) h
  · have hscaled : wanted * left ≤ 0 := mul_nonpos_of_nonpos_of_nonneg h hleft
    rw [clampUnit_nonpos hscaled]
    exact mul_nonneg_of_nonpos_of_nonpos (max_le (by norm_num) hscaled) h

theorem abs_clampUnit_scaled {left : ℚ} (hleft : 0 ≤ left) (wanted : ℚ) :
    |clampUnit (wanted * left)| = min 1 (|wanted| * left) := by
  rw [abs_clampUnit, abs_mul, abs_of_nonneg hleft]

/-- Scaling by what the worst limit leaves and clamping afterwards binds a command exactly when it is
moderate. -/
theorem binds_scaled_iff {limits : List Limit} (hband : ∀ l ∈ limits, 0 < l.band) (wanted : ℚ) :
    Binds limits wanted (clampUnit (wanted * factor (worst limits))) ↔ Moderate limits wanted := by
  have habs := abs_clampUnit_scaled (factor_nonneg (worst limits)) wanted
  constructor
  · intro hbinds
    rcases worst_attained limits with hzero | ⟨l, hl, hover, hworst⟩
    · refine .inl fun l hl hover => ?_
      have := fraction_le_worst hl hover
      exact (this.trans hzero.le).not_gt (Limit.fraction_pos (hband l hl) hover)
    · by_cases hone : 1 ≤ l.fraction
      · exact .inr (.inl ⟨l, hl, hone⟩)
      -- inside the band the clamp lets too much through exactly when more than 1 is wanted
      · have hpart : 0 < 1 - l.fraction := by linarith
        have hwithin := hbinds.within l hl hover
        rw [habs, hworst, factor_of_le (not_le.mp hone).le, max_eq_right hpart.le] at hwithin
        have hfull : 1 - l.fraction < 1 := by linarith [Limit.fraction_pos (hband l hl) hover]
        have hscaled : |wanted| * (1 - l.fraction) ≤ 1 - l.fraction := by
          rcases min_le_iff.mp hwithin with h | h
          · exact absurd h hfull.not_ge
          · exact h
        exact .inr (.inr (le_of_mul_le_mul_right (by rwa [one_mul]) hpart))
  · intro hmoderate
    refine ⟨clampUnit_scaled_mul_nonneg (factor_nonneg _) wanted, ?_, fun l hl hover => ?_⟩
    · rw [habs]
      exact min_le_min_left 1 (mul_le_of_le_one_right (abs_nonneg wanted)
        (factor_le_one (worst_nonneg limits)))
    · rw [habs]
      rcases hmoderate with hnone | ⟨l', hl', hone⟩ | hsmall
      · exact absurd hover (hnone l hl)
      · have hover' := Limit.exceeded_of_one_le (hband l' hl') hone
        rw [factor_of_one_le (hone.trans (fraction_le_worst hl' hover')), mul_zero]
        exact (min_le_right 1 0).trans (le_max_left 0 _)
      · have hfactor : factor (worst limits) ≤ max 0 (1 - l.fraction) := by
          rcases le_total 1 (worst limits) with hbig | hin
          · rw [factor_of_one_le hbig]
            exact le_max_left 0 _
          · rw [factor_of_le hin]
            exact le_max_of_le_right (by linarith [fraction_le_worst hl hover])
        calc min 1 (|wanted| * factor (worst limits)) ≤ |wanted| * factor (worst limits) :=
              min_le_right _ _
          _ ≤ factor (worst limits) := mul_le_of_le_one_left (factor_nonneg _) hsmall
          _ ≤ max 0 (1 - l.fraction) := hfactor

namespace Binds

variable {limits : List Limit} {wanted command : ℚ}

theorem neg (h : Binds limits wanted command) : Binds limits (-wanted) (-command) where
  sign := by rw [neg_mul_neg]; exact h.sign
  magnitude := by rw [abs_neg, abs_neg]; exact h.magnitude
  within l hl hover := by rw [abs_neg]; exact h.within l hl hover

/-- A surface that follows only partly is bound as well. -/
theorem part (h : Binds limits wanted command) : Binds limits wanted (command * (7 / 10)) := by
  have hless : |command * (7 / 10)| ≤ |command| := by
    rw [abs_mul, abs_of_pos (by norm_num : (0 : ℚ) < 7 / 10)]
    linarith [abs_nonneg command]
  refine ⟨?_, hless.trans h.magnitude, fun l hl hover => hless.trans (h.within l hl hover)⟩
  have := h.sign
  rw [mul_right_comm]
  linarith

end Binds

/-- Both ailerons are bound exactly when the command to them is. -/
theorem ailerons_bind_iff (differential : Bool) (limits : List Limit) (wanted command : ℚ) :
    (Binds limits wanted (ControlSurfaceManager.ailerons differential command).1 ∧
      Binds limits (-wanted) (ControlSurfaceManager.ailerons differential command).2) ↔
      Binds limits wanted command := by
  have hback : Binds limits (-wanted) (-command) → Binds limits wanted command := fun h => by
    simpa only [neg_neg] using h.neg
  rw [ControlSurfaceManager.ailerons]
  split_ifs
  · refine ⟨fun h => h.1, fun h => ⟨h, ?_⟩⟩
    exact h.neg.part
  · exact ⟨fun h => hback h.2, fun h => ⟨h.part, h.neg⟩⟩
  · exact ⟨fun h => h.1, fun h => ⟨h, h.neg⟩⟩

namespace Attitude

variable (a : Attitude)

theorem sideLimits_band {band : ℚ} (hband : 0 < band) (angle limit command : ℚ) :
    ∀ l ∈ sideLimits angle limit band command, 0 < l.band := by
  unfold sideLimits
  split_ifs <;> simp [hband]

theorem elevatorLimits_band (command : ℚ) : ∀ l ∈ a.elevatorLimits command, 0 < l.band := by
  unfold elevatorLimits
  split_ifs <;> simp

end Attitude

namespace ControlSurfaceManager

variable (m : ControlSurfaceManager) (controlInputs aircraftState : Dict String ℚ)

/-- With limits and protection each axis is scaled by its worst limit and then clamped. -/
theorem commands_eq (hlimits : m.config.enforceLimits = true)
    (hprotection : m.config.applyEnvelopeProtection = true) :
    m.commands controlInputs aircraftState =
      let c := m.trimmed controlInputs
      let a := attitude aircraftState
      ⟨clampUnit (c.aileron * factor (worst (a.aileronLimits c.aileron))),
        clampUnit (c.elevator * factor (worst (a.elevatorLimits c.elevator))),
        clampUnit (c.rudder * factor (worst (a.rudderLimits c.rudder)))⟩ := by
  simp only [commands, hlimits, hprotection, if_true, applyEnvelopeProtection]
  rw [protect_eq (by norm_num) (by norm_num), protect_eq (by norm_num) (by norm_num),
    Attitude.protectElevator_eq, Attitude.aileronLimits, Attitude.rudderLimits]

/-- With limits and protection, every stored command is bound exactly when each axis is moderate. -/
theorem envelopeBinds_iff (hlimits : m.config.enforceLimits = true)
    (hprotection : m.config.applyEnvelopeProtection = true) :
    EnvelopeBinds m controlInputs aircraftState ↔
      let c := m.trimmed controlInputs
      let a := attitude aircraftState
      Moderate (a.aileronLimits c.aileron) c.aileron ∧
        Moderate (a.elevatorLimits c.elevator) c.elevator ∧
        Moderate (a.rudderLimits c.rudder) c.rudder := by
  have hcommands := commands_eq m controlInputs aircraftState hlimits hprotection
  have hstored : EnvelopeBinds m controlInputs aircraftState ↔
      let c := m.trimmed controlInputs
      let a := attitude aircraftState
      let stored := m.commands controlInputs aircraftState
      Binds (a.aileronLimits c.aileron) c.aileron stored.aileron ∧
        Binds (a.elevatorLimits c.elevator) c.elevator stored.elevator ∧
        Binds (a.rudderLimits c.rudder) c.rudder stored.rudder := by
    dsimp only
    rw [← ailerons_bind_iff m.config.differentialAileron]
    exact ⟨fun h => ⟨⟨h.leftAileron, h.rightAileron⟩, h.elevator, h.rudder⟩,
      fun h => ⟨h.1.1, h.1.2, h.2.1, h.2.2⟩⟩
  rw [hstored, hcommands]
  exact and_congr (binds_scaled_iff (Attitude.sideLimits_band (by norm_num) _ _ _) _)
    (and_congr (binds_scaled_iff (Attitude.elevatorLimits_band _ _) _)
      (binds_scaled_iff (Attitude.sideLimits_band (by norm_num) _ _ _) _))

/-- Full aileron to the right against a roll in the middle of the band. -/
theorem rolledInput_bound :
    EnvelopeBinds (ControlSurfaceManager.new .default fun _ => 0) [("aileron", 1)] [("roll", 65)] := by
  refine (envelopeBinds_iff _ _ _ rfl rfl).mpr ⟨.inr (.inr ?_), .inr (.inr ?_), .inr (.inr ?_)⟩
  · rw [show (trimmed _ _).aileron = 1 from by decide +kernel, abs_one]
  · rw [show (trimmed _ _).elevator = 0 from by decide +kernel, abs_zero]; exact zero_le_one
  · rw [show (trimmed _ _).rudder = 0 from by decide +kernel, abs_zero]; exact zero_le_one

/-- With full trim to the right the same input is stored in full, in the middle of the band. -/
theorem trimmedInput_unbound :
    let m := ((ControlSurfaceManager.new .default fun _ => 0).setTrim "aileron_trim" 1).2
    ((m.setControlPositions [("aileron", 1)] [("roll", 65)]).actuatorState .leftAileron).command = 1 ∧
      ¬ EnvelopeBinds m [("aileron", 1)] [("roll", 65)] := by
  have hstored : (((((ControlSurfaceManager.new .default fun _ => 0).setTrim "aileron_trim" 1).2
      ).setControlPositions [("aileron", 1)] [("roll", 65)]).actuatorState .leftAileron).command = 1 := by
    decide +kernel
  refine ⟨hstored, fun h => ?_⟩
  have := h.leftAileron.within ⟨65, 60, 10⟩ (by decide +kernel) (by decide +kernel)
  rw [hstored, Limit.fraction] at this
  norm_num at this

end ControlSurfaceManager

end Fmofp.FlightControl
