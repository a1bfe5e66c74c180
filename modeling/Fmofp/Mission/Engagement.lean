import Fmofp.Machine.Run
import Fmofp.Mission.Targeting

/-! The engaged table of `Targeting` against the status and the weapon of the targets, over whole runs.
`assess_damage` leaves the table behind: a target that it has judged stays in it. -/

namespace Fmofp.Mission

open Python

variable {κ ω : Type}

/-- The statuses of a target that a weapon is on. -/
def TargetStatus.Engaging (status : TargetStatus) : Prop := status = .engaged ∨ status = .bdaPending

instance (status : TargetStatus) : Decidable status.Engaging :=
  inferInstanceAs (Decidable (_ ∨ _))

namespace Targeting

/-- What is stored of an id: the target, and the entry of the engaged table. -/
structure Stored (ω : Type) where
  target : Option (Target ω)
  weapon : Option (Option ω)

namespace Stored

/-- Target and table tell the same. -/
structure Consistent (e : Stored ω) : Prop where
  engaged_iff : e.weapon.isSome ↔ ∃ t, e.target = some t ∧ t.status.Engaging
  recorded : ∀ t, e.target = some t → t.status.Engaging → e.weapon = some t.weaponSystem
  unarmed : ∀ t, e.target = some t → ¬ t.status.Engaging → t.weaponSystem = none

def InRange (e : Stored ω) : Prop :=
  ∀ t, e.target = some t → 0 ≤ t.trackQuality ∧ t.trackQuality ≤ 1

def Destroyed (e : Stored ω) : Prop := ∃ t, e.target = some t ∧ t.status = .destroyed

end Stored

/-- What a call can make of what is stored of an id. -/
inductive Change (id : κ) : Call κ ω → Stored ω → Stored ω → Prop
  | unchanged (call : Call κ ω) (e : Stored ω) : Change id call e e
  | added (position : ℚ × ℚ × ℚ) (now : ℚ) (e : Stored ω) :
    Change id (.addTarget id position now) e ⟨some (.new position now), e.weapon⟩
  | removed (e : Stored ω) : Change id (.removeTarget id) e ⟨none, none⟩
  | acquired (now : ℚ) {t : Target ω} (w : Option (Option ω)) (h : t.status = .designated) :
    Change id (.acquire id now) ⟨some t, w⟩
      ⟨some { t with status := .acquired, trackQuality := 1 / 2, lastUpdated := now }, w⟩
  | engaged (weapon : Option ω) {t : Target ω} (w : Option (Option ω))
    (h : t.status = .acquired ∨ t.status = .tracking) :
    Change id (.engageTarget id weapon) ⟨some t, w⟩
      ⟨some { t with status := .engaged, weaponSystem := weapon }, some weapon⟩
  | disengaged (t : Target ω) (w : Option ω) :
    Change id (.disengageTarget id) ⟨some t, some w⟩
      ⟨some { t with status := .tracking, weaponSystem := none }, none⟩
  | pending {t : Target ω} (w : Option (Option ω)) (h : t.status = .engaged) :
    Change id (.markBdaPending id) ⟨some t, w⟩ ⟨some { t with status := .bdaPending }, w⟩
  | assessed (destroyed : Bool) {t : Target ω} (w : Option (Option ω)) (h : t.status = .bdaPending) :
    Change id (.assessDamage id destroyed) ⟨some t, w⟩
      ⟨some { t with status := if destroyed then .destroyed else .acquired }, w⟩
  | updated (update : RadarUpdate) (now : ℚ) (t : Target ω) (w : Option (Option ω)) :
    Change id (.updateFromRadar id update now) ⟨some t, w⟩
      ⟨some (Targeting.updated update now t), w⟩
  | decayed (now : ℚ) (t : Target ω) (w : Option (Option ω)) :
    Change id (.simulateTick now) ⟨some t, w⟩ ⟨some (Targeting.decayed now t), w⟩

section Step

variable [DecidableEq κ] (s : Targeting κ ω)

def stored (targetId : κ) : Stored ω :=
  ⟨Dict.get? s.targets targetId, Dict.get? s.engagedTargets targetId⟩

theorem stored_store (targetId j : κ) (t : Target ω) :
    (s.store targetId t).stored j =
      if targetId = j then ⟨some t, Dict.get? s.engagedTargets targetId⟩ else s.stored j := by
  simp only [stored, store, Dict.get?_set]
  split_ifs with h
  · rw [h]
  · rfl

theorem stored_set (targetId j : κ) (t : Target ω) (weapon : Option ω) :
    stored ⟨Dict.set s.targets targetId t, Dict.set s.engagedTargets targetId weapon⟩ j =
      if targetId = j then ⟨some t, some weapon⟩ else s.stored j := by
  simp only [stored, Dict.get?_set]
  split_ifs <;> rfl

theorem stored_erase (targetId j : κ) (t : Target ω) :
    stored ⟨Dict.set s.targets targetId t, Dict.erase s.engagedTargets targetId⟩ j =
      if targetId = j then ⟨some t, none⟩ else s.stored j := by
  simp only [stored, Dict.get?_set, Dict.get?_erase]
  split_ifs <;> rfl

theorem stored_removed (targetId j : κ) :
    stored ⟨Dict.erase s.targets targetId, Dict.erase s.engagedTargets targetId⟩ j =
      if targetId = j then ⟨none, none⟩ else s.stored j := by
  simp only [stored, Dict.get?_erase]
  split_ifs <;> rfl

variable {s}

theorem stored_of_get? {targetId : κ} {t : Target ω} (h : Dict.get? s.targets targetId = some t) :
    s.stored targetId = ⟨some t, Dict.get? s.engagedTargets targetId⟩ := by
  rw [stored, h]

/-- A change of one id, when nothing happens to the others. -/
theorem change_at {call : Call κ ω} {targetId j : κ} {e : Stored ω}
    (h : Change targetId call (s.stored targetId) e) :
    Change j call (s.stored j) (if targetId = j then e else s.stored j) := by
  split_ifs with hj
  · exact hj ▸ h
  · exact .unchanged _ _

variable (s) in
/-- Whatever is called, one of the changes is what it makes of an id. -/
theorem step_change (call : Call κ ω) (j : κ) :
    Change j call (s.stored j) ((step s call).2.stored j) := by
  cases call with
  | addTarget id position now =>
    rw [step, addTarget, stored_store]
    exact change_at (.added position now _)
  | removeTarget id =>
    rw [step, removeTarget]
    split_ifs
    · rw [stored_removed]
      exact change_at (.removed _)
    · exact .unchanged _ _
  | acquire id now =>
    rw [step, acquire]
    split
    · rename_i t ht
      split_ifs with hstatus
      · rw [stored_store]
        exact change_at (stored_of_get? ht ▸ .acquired now _ hstatus)
      · exact .unchanged _ _
    · exact .unchanged _ _
  | engageTarget id weaponSystem =>
    rw [step, engageTarget]
    split
    · rename_i t ht
      split_ifs with hstatus
      · rw [stored_set]
        exact change_at (stored_of_get? ht ▸ .engaged weaponSystem _ hstatus)
      · exact .unchanged _ _
    · exact .unchanged _ _
  | disengageTarget id =>
    rw [step, disengageTarget]
    split
    · rename_i t ht
      split_ifs with hengaged
      · obtain ⟨w, hw⟩ := Dict.has_iff.mp hengaged
        have hstored : s.stored id = ⟨some t, some w⟩ := by rw [stored_of_get? ht, hw]
        rw [stored_erase]
        exact change_at (hstored ▸ .disengaged t w)
      · exact .unchanged _ _
    · exact .unchanged _ _
  | markBdaPending id =>
    rw [step, markBdaPending]
    split
    · rename_i t ht
      split_ifs with hstatus
      · rw [stored_store]
        exact change_at (stored_of_get? ht ▸ .pending _ hstatus)
      · exact .unchanged _ _
    · exact .unchanged _ _
  | assessDamage id destroyed =>
    rw [step, assessDamage]
    split
    · rename_i t ht
      by_cases hstatus : t.status = .bdaPending
      · rw [if_pos hstatus, stored_store]
        exact change_at (stored_of_get? ht ▸ .assessed destroyed _ hstatus)
      · rw [if_neg hstatus]
        exact .unchanged _ _
    · exact .unchanged _ _
  | updateFromRadar id update now =>
    rw [step, updateFromRadar]
    split
    · exact .unchanged _ _
    · rename_i t ht
      rw [stored_store]
      exact change_at (stored_of_get? ht ▸ .updated update now t _)
  | simulateTick now =>
    have htick : (step s (.simulateTick now)).2.stored j =
        ⟨(Dict.get? s.targets j).map (Targeting.decayed now), Dict.get? s.engagedTargets j⟩ := by
      rw [step, simulateTick, stored, Dict.get?_map_value]
    rw [htick, stored]
    cases Dict.get? s.targets j with
    | none => exact .unchanged _ _
    | some t => exact .decayed now t _

/-! ### What a change keeps -/

end Step

namespace Call

/-- A call is careful with an id: it does not judge a target that waits for it, and adds no target under
an id that is engaged. -/
def CarefulAt (id : κ) (e : Stored ω) : Call κ ω → Prop
  | .addTarget id' _ _ => id' = id → e.weapon = none
  | .assessDamage id' _ => id' = id → ∀ t, e.target = some t → t.status ≠ .bdaPending
  | _ => True

/-- A call brings a destroyed target back: it disengages one that is still in the table. -/
def RevivesAt (id : κ) (e : Stored ω) : Call κ ω → Prop
  | .disengageTarget id' => id' = id ∧ e.Destroyed ∧ e.weapon.isSome
  | _ => False

/-- A call removes an id or adds it anew. -/
def RenewsAt (id : κ) : Call κ ω → Prop
  | .addTarget id' _ _ | .removeTarget id' => id' = id
  | _ => False

/-- The quality that a radar update gives is in range. -/
def QualityInRange : Call κ ω → Prop
  | .updateFromRadar _ update _ => 0 ≤ update.trackQuality ∧ update.trackQuality ≤ 1
  | _ => True

end Call

namespace Stored

@[simp] theorem consistent_none_iff {w : Option (Option ω)} :
    Consistent ⟨none, w⟩ ↔ w = none := by
  constructor
  · intro h
    by_contra hw
    obtain ⟨t, ht, -⟩ := h.engaged_iff.mp (Option.isSome_iff_ne_none.mpr hw)
    cases ht
  · rintro rfl
    exact ⟨by simp, by simp, by simp⟩

theorem consistent_of_engaging {t : Target ω} {w : Option (Option ω)} (h : t.status.Engaging) :
    Consistent ⟨some t, w⟩ ↔ w = some t.weaponSystem := by
  constructor
  · intro hcons
    exact hcons.recorded t rfl h
  · rintro rfl
    exact ⟨by simp [h], by simp, by simp [h]⟩

theorem consistent_of_free {t : Target ω} {w : Option (Option ω)} (h : ¬ t.status.Engaging) :
    Consistent ⟨some t, w⟩ ↔ w = none ∧ t.weaponSystem = none := by
  constructor
  · intro hcons
    refine ⟨?_, hcons.unarmed t rfl h⟩
    by_contra hw
    obtain ⟨t', ⟨⟩, hengaging⟩ := hcons.engaged_iff.mp (Option.isSome_iff_ne_none.mpr hw)
    exact h hengaging
  · rintro ⟨rfl, hweapon⟩
    exact ⟨by simp [h], by simp [h], by simp [hweapon]⟩

end Stored

namespace Change

variable {id : κ} {call : Call κ ω} {e e' : Stored ω}

theorem updated_engaging (update : RadarUpdate) (now : ℚ) (t : Target ω) :
    (Targeting.updated update now t).status.Engaging ↔ t.status.Engaging := by
  simp only [Targeting.updated, TargetStatus.Engaging]
  cases t.status <;> simp

theorem decayed_engaging (now : ℚ) (t : Target ω) :
    (Targeting.decayed now t).status.Engaging ↔ t.status.Engaging := by
  simp only [Targeting.decayed, TargetStatus.Engaging]
  split_ifs with hstale hlost
  · simp [hlost.2]
  · rfl
  · rfl

theorem decayed_weaponSystem (now : ℚ) (t : Target ω) :
    (Targeting.decayed now t).weaponSystem = t.weaponSystem := by
  simp only [Targeting.decayed]
  split_ifs <;> rfl

theorem consistent (h : Change id call e e') (he : e.Consistent) (hcareful : call.CarefulAt id e) :
    e'.Consistent := by
  cases h with
  | unchanged => exact he
  | added position now =>
    rw [hcareful rfl, Stored.consistent_of_free (by simp [Target.new, TargetStatus.Engaging])]
    exact ⟨rfl, rfl⟩
  | removed => exact Stored.consistent_none_iff.mpr rfl
  | acquired now w hstatus =>
    rw [Stored.consistent_of_free (by simp [hstatus, TargetStatus.Engaging])] at he
    rw [Stored.consistent_of_free (by simp [TargetStatus.Engaging])]
    exact he
  | engaged weapon w hstatus =>
    rw [Stored.consistent_of_engaging (.inl rfl)]
  | disengaged t w =>
    rw [Stored.consistent_of_free (by simp [TargetStatus.Engaging])]
    exact ⟨rfl, rfl⟩
  | pending w hstatus =>
    rw [Stored.consistent_of_engaging (.inl hstatus)] at he
    rw [Stored.consistent_of_engaging (.inr rfl)]
    exact he
  | assessed destroyed w hstatus => exact absurd hstatus (hcareful rfl _ rfl)
  | updated update now t w =>
    by_cases hstatus : t.status.Engaging
    · rw [Stored.consistent_of_engaging hstatus] at he
      rw [Stored.consistent_of_engaging ((updated_engaging update now t).mpr hstatus)]
      exact he
    · rw [Stored.consistent_of_free hstatus] at he
      rw [Stored.consistent_of_free (mt (updated_engaging update now t).mp hstatus)]
      exact he
  | decayed now t w =>
    by_cases hstatus : t.status.Engaging
    · rw [Stored.consistent_of_engaging hstatus] at he
      rw [Stored.consistent_of_engaging ((decayed_engaging now t).mpr hstatus), decayed_weaponSystem]
      exact he
    · rw [Stored.consistent_of_free hstatus] at he
      rw [Stored.consistent_of_free (mt (decayed_engaging now t).mp hstatus), decayed_weaponSystem]
      exact he

theorem inRange (h : Change id call e e') (he : e.InRange) (hquality : call.QualityInRange) :
    e'.InRange := by
  cases h with
  | unchanged => exact he
  | added position now =>
    rintro t ⟨⟩
    exact ⟨le_rfl, zero_le_one⟩
  | removed => exact nofun
  | acquired now w hstatus =>
    rintro t ⟨⟩
    norm_num
  | @engaged weapon t w hstatus =>
    rintro t' ⟨⟩
    exact he t rfl
  | disengaged t w =>
    rintro t' ⟨⟩
    exact he t rfl
  | @pending t w hstatus =>
    rintro t' ⟨⟩
    exact he t rfl
  | @assessed destroyed t w hstatus =>
    rintro t' ⟨⟩
    exact he t rfl
  | updated update now t w =>
    rintro t ⟨⟩
    exact ⟨le_min zero_le_one hquality.1, min_le_left _ _⟩
  | decayed now t w =>
    rintro t' ⟨⟩
    obtain ⟨hlow, hhigh⟩ := he t rfl
    by_cases hstale : 0 < now - t.lastUpdated
    · simp only [Targeting.decayed, if_pos hstale]
      have hloss : 0 ≤ (now - t.lastUpdated) / trackDecay * (1 / 20) := by
        unfold trackDecay
        positivity
      exact ⟨le_max_left _ _, max_le zero_le_one (by linarith)⟩
    · simp only [Targeting.decayed, if_neg hstale]
      exact ⟨hlow, hhigh⟩

theorem destroyed (h : Change id call e e') (he : e.Destroyed) (hrenews : ¬ call.RenewsAt id)
    (hrevives : ¬ call.RevivesAt id e) : e'.Destroyed := by
  obtain ⟨t₀, htarget, hdestroyed⟩ := he
  cases h with
  | unchanged => exact ⟨t₀, htarget, hdestroyed⟩
  | added position now => exact absurd rfl hrenews
  | removed => exact absurd rfl hrenews
  | acquired now w hstatus =>
    cases htarget
    rw [hdestroyed] at hstatus
    cases hstatus
  | engaged weapon w hstatus =>
    cases htarget
    rw [hdestroyed] at hstatus
    rcases hstatus with h | h <;> cases h
  | disengaged t w => exact absurd ⟨rfl, ⟨t₀, htarget, hdestroyed⟩, rfl⟩ hrevives
  | pending w hstatus =>
    cases htarget
    rw [hdestroyed] at hstatus
    cases hstatus
  | assessed destroyed w hstatus =>
    cases htarget
    rw [hdestroyed] at hstatus
    cases hstatus
  | updated update now t w =>
    cases htarget
    refine ⟨_, rfl, ?_⟩
    simp only [Targeting.updated, hdestroyed]
    decide
  | decayed now t w =>
    cases htarget
    refine ⟨_, rfl, ?_⟩
    simp only [Targeting.decayed, hdestroyed]
    split_ifs <;> first | rfl | simp_all

end Change

/-! ### Whole runs -/

section Runs

variable [DecidableEq κ]

def Consistent (s : Targeting κ ω) : Prop := ∀ id, (s.stored id).Consistent

def InRange (s : Targeting κ ω) : Prop := ∀ id, (s.stored id).InRange

def Careful (s : Targeting κ ω) (call : Call κ ω) : Prop := ∀ id, call.CarefulAt id (s.stored id)

def Revives (s : Targeting κ ω) (call : Call κ ω) : Prop := ∃ id, call.RevivesAt id (s.stored id)

/-- A target that is destroyed stays so, unless its id is removed or added anew. -/
def KeepsDestroyed (s : Targeting κ ω) (call : Call κ ω) : Prop :=
  ∀ id, (s.stored id).Destroyed → ¬ call.RenewsAt id → ((step s call).2.stored id).Destroyed

variable {s : Targeting κ ω}

theorem consistent_new : Consistent (new : Targeting κ ω) :=
  fun _ => Stored.consistent_none_iff.mpr rfl

theorem consistent_step {call : Call κ ω} (h : Consistent s) (hcareful : Careful s call) :
    Consistent (step s call).2 :=
  fun id => (step_change s call id).consistent (h id) (hcareful id)

/-- A call that is not careful always breaks the bookkeeping. -/
theorem not_consistent_step {call : Call κ ω} (h : Consistent s) (hcareless : ¬ Careful s call) :
    ¬ Consistent (step s call).2 := by
  intro hafter
  obtain ⟨id, hid⟩ := not_forall.mp hcareless
  have hentry := hafter id
  cases call with
  | addTarget id' position now =>
    obtain ⟨rfl, hweapon⟩ := Classical.not_imp.mp hid
    rw [step, addTarget, stored_store, if_pos rfl,
      Stored.consistent_of_free (by simp [Target.new, TargetStatus.Engaging])] at hentry
    exact hweapon hentry.1
  | assessDamage id' destroyed =>
    obtain ⟨rfl, hwaits⟩ := Classical.not_imp.mp hid
    push Not at hwaits
    obtain ⟨t, htarget, hstatus⟩ := hwaits
    have hbefore := h id'
    rw [stored_of_get? htarget, Stored.consistent_of_engaging (.inr hstatus)] at hbefore
    simp only [step, assessDamage] at hentry
    rw [show Dict.get? s.targets id' = some t from htarget] at hentry
    simp only [hstatus, if_true] at hentry
    rw [stored_store, if_pos rfl, hbefore, Stored.consistent_of_free] at hentry
    · cases hentry.1
    · cases destroyed <;> simp [TargetStatus.Engaging]
  | _ => exact hid trivial

theorem keepsDestroyed_iff (s : Targeting κ ω) (call : Call κ ω) :
    KeepsDestroyed s call ↔ ¬ Revives s call := by
  constructor
  · rintro hkeeps ⟨id, hrevives⟩
    cases call with
    | disengageTarget id' =>
      obtain ⟨rfl, ⟨t, htarget, hdestroyed⟩, hweapon⟩ := hrevives
      obtain ⟨t', htarget', hdestroyed'⟩ := hkeeps id' ⟨t, htarget, hdestroyed⟩ not_false
      have hhas : Dict.has s.engagedTargets id' = true := hweapon
      simp only [step, disengageTarget] at htarget'
      rw [show Dict.get? s.targets id' = some t from htarget] at htarget'
      simp only [hhas, if_true] at htarget'
      rw [stored_erase, if_pos rfl] at htarget'
      cases htarget'
      cases hdestroyed'
    | _ => exact hrevives
  · intro hnever id hdestroyed hrenews
    exact (step_change s call id).destroyed hdestroyed hrenews fun hrevives => hnever ⟨id, hrevives⟩

/-- While the bookkeeping is consistent no destroyed target is in the table. -/
theorem not_revives (h : Consistent s) (call : Call κ ω) : ¬ Revives s call := by
  rintro ⟨id, hrevives⟩
  cases call with
  | disengageTarget id' =>
    obtain ⟨rfl, ⟨t, htarget, hdestroyed⟩, hweapon⟩ := hrevives
    have hentry := h id'
    rw [stored_of_get? htarget,
      Stored.consistent_of_free (by simp [hdestroyed, TargetStatus.Engaging])] at hentry
    have hsome : (Dict.get? s.engagedTargets id').isSome = true := hweapon
    rw [hentry.1] at hsome
    cases hsome
  | _ => exact hrevives

/-- What is expected of a run: consistent bookkeeping and qualities in range in every state, and
destroyed targets that stay destroyed. -/
structure Kept (calls : List (Call κ ω)) : Prop where
  consistent : ∀ before, before <+: calls → Consistent (Machine.final step new before)
  inRange : ∀ before, before <+: calls → InRange (Machine.final step new before)
  destroyed : Machine.Along step KeepsDestroyed new calls

theorem inRange_final {calls : List (Call κ ω)} (hquality : ∀ call ∈ calls, call.QualityInRange)
    {before : List (Call κ ω)} (hbefore : before <+: calls) :
    InRange (Machine.final step new before) := by
  obtain ⟨rest, rfl⟩ := hbefore
  have hcalls : Machine.Along step (fun _ call => Call.QualityInRange call) new (before ++ rest) :=
    Machine.along_iff.mpr fun front call back hsplit => hquality call (by rw [hsplit]; simp)
  have hempty : InRange (new : Targeting κ ω) := by
    rintro id t ⟨⟩
  exact Machine.invariant_along
    (fun s call h hcall id => (step_change s call id).inRange (h id) hcall) hempty hcalls

/-- Runs keep all that is expected exactly when every call is careful; without care destroyed targets
still stay so exactly when none is disengaged, and qualities stay in range. -/
theorem kept_iff {calls : List (Call κ ω)} (hquality : ∀ call ∈ calls, call.QualityInRange) :
    (Kept calls ↔ Machine.Along step Careful new calls) ∧
      (Machine.Along step KeepsDestroyed new calls ↔
        Machine.Along step (fun s call => ¬ Revives s call) new calls) ∧
      ∀ before, before <+: calls → InRange (Machine.final step new before) := by
  have hconsistent : Machine.Along step Careful new calls ↔
      ∀ before, before <+: calls → Consistent (Machine.final step new before) :=
    Machine.along_iff_of_exact (fun s call => consistent_step) (fun s h => h)
      (fun s call => not_consistent_step) consistent_new calls
  have hdestroyed : Machine.Along step KeepsDestroyed new calls ↔
      Machine.Along step (fun s call => ¬ Revives s call) new calls :=
    @Machine.along_congr _ _ _ step (fun _ => True) _ _ (fun _ _ _ => trivial)
      (fun s call _ => keepsDestroyed_iff s call) _ trivial calls
  refine ⟨⟨fun h => hconsistent.mpr h.consistent, fun h => ?_⟩, hdestroyed,
    fun before => inRange_final hquality⟩
  refine ⟨hconsistent.mp h, fun before => inRange_final hquality, ?_⟩
  refine hdestroyed.mpr (Machine.along_iff.mpr fun before call after hsplit => ?_)
  exact not_revives (hconsistent.mp h before ⟨call :: after, hsplit.symm⟩) call

end Runs

/-- A target is tracked, engaged and waits for its judgement. -/
def strike : List (Call String String) :=
  [.addTarget "T0001" (34, -118, 0) 0, .updateFromRadar "T0001" ⟨34, -118, 0, 0, 0, 4 / 5⟩ 1,
    .engageTarget "T0001" (some "AIM-120"), .markBdaPending "T0001"]

theorem strike_kept : Kept strike := by
  have hquality : ∀ call ∈ strike, call.QualityInRange := by
    simp only [strike, List.forall_mem_cons, Call.QualityInRange]
    norm_num
  refine (kept_iff hquality).1.mpr ⟨fun id _ => rfl, fun id => trivial, fun id => trivial,
    fun id => trivial, trivial⟩

/-- The judged target is destroyed and still engaged, and disengaging it makes it a track again. -/
theorem judgedTarget_engaged :
    ¬ Kept (strike ++ [.assessDamage "T0001" true]) ∧
      ¬ Kept (strike ++ [.assessDamage "T0001" true, .disengageTarget "T0001"]) ∧
      ((Machine.final step new (strike ++ [.assessDamage "T0001" true,
        .disengageTarget "T0001"])).stored "T0001").target.map Target.status = some .tracking := by
  have hjudged : ∀ calls, strike ++ [.assessDamage "T0001" true] <+: calls → ¬ Kept calls := by
    intro calls hbefore h
    have hstored := (h.consistent _ hbefore "T0001").engaged_iff.mp (by decide +kernel)
    obtain ⟨t, htarget, hengaging⟩ := hstored
    have hstatus : ((Machine.final step new (strike ++ [.assessDamage "T0001" true])).stored
        "T0001").target.map Target.status = some .destroyed := by decide +kernel
    rw [htarget, Option.map_some, Option.some.injEq] at hstatus
    rw [hstatus] at hengaging
    exact absurd hengaging (by decide)
  exact ⟨hjudged _ List.prefix_rfl, hjudged _ ⟨[.disengageTarget "T0001"], rfl⟩, by decide +kernel⟩

end Targeting

end Fmofp.Mission
