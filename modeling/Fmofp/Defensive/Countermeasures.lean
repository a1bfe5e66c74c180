import Fmofp.Python.Dict
import Fmofp.Machine.Run

/-! The countermeasures of `DefensiveService`.  The automatic and the manual releases share the flares and their
cooldown, and check them differently. -/

namespace Fmofp.Defensive

open Python Machine

/-- Of a contact what the automatic release reads. -/
structure RWRContact where
  priority : ℤ
  hostile : Bool

structure DefensiveService where
  chaff : ℤ
  flares : ℤ
  lastDispense : ℚ

namespace DefensiveService

def chaffMax : ℤ := 60

def flareMax : ℤ := 30

def salvoSize : ℤ := 2

def cooldownS : ℚ := 3

/-- `__init__`. -/
def initial : DefensiveService := ⟨chaffMax, flareMax, 0⟩

variable (s : DefensiveService)

/-- `_auto_dispense`, with the time that it has read before it takes the lock: what it logs as released. -/
def autoDispense (contacts : Dict String RWRContact) (now : ℚ) : ℤ × DefensiveService :=
  let highPri := contacts.filter fun e => decide (e.2.priority = 1) && e.2.hostile
  if highPri ≠ [] ∧ cooldownS < now - s.lastDispense then
    let released := min salvoSize s.flares
    if 0 < released then (released, { s with flares := s.flares - released, lastDispense := now })
    else (0, s)
  else (0, s)

/-- `dispense_chaff`. -/
def dispenseChaff (count : ℤ) : ℤ × DefensiveService :=
  let released := min count s.chaff
  (released, { s with chaff := s.chaff - released })

/-- `dispense_flares`. -/
def dispenseFlares (count : ℤ) (now : ℚ) : ℤ × DefensiveService :=
  if now - s.lastDispense < cooldownS then (0, s)
  else
    let released := min count s.flares
    (released, { s with flares := s.flares - released, lastDispense := now })

/-- The calls, in the order in which they take the lock, with what each has read of the clock. -/
inductive Call where
  | autoDispense (contacts : Dict String RWRContact) (now : ℚ)
  | dispenseChaff (count : ℤ)
  | dispenseFlares (count : ℤ) (now : ℚ)

def Call.requested : Call → ℤ
  | autoDispense _ _ => salvoSize
  | dispenseChaff count | dispenseFlares count _ => count

def step : Call → ℤ × DefensiveService
  | .autoDispense contacts now => s.autoDispense contacts now
  | .dispenseChaff count => s.dispenseChaff count
  | .dispenseFlares count now => s.dispenseFlares count now

end DefensiveService

open DefensiveService (Call chaffMax flareMax salvoSize cooldownS)

/-- What a call has released. -/
structure Release where
  call : Call
  released : ℤ

namespace Release

variable (r : Release)

def chaff : ℤ := match r.call with
  | .dispenseChaff _ => r.released
  | _ => 0

def flares : ℤ := match r.call with
  | .dispenseChaff _ => 0
  | _ => r.released

/-- When at least one flare was released, if so. -/
def flareTime : Option ℚ := match r.call with
  | .autoDispense _ now | .dispenseFlares _ now => if 1 ≤ r.released then some now else none
  | .dispenseChaff _ => none

end Release

/-- The service, with the releases up to now. -/
structure History where
  service : DefensiveService
  releases : List Release

namespace History

def initial : History := ⟨.initial, []⟩

def step (h : History) (c : Call) : Unit × History :=
  ((), ⟨(h.service.step c).2, h.releases ++ [⟨c, (h.service.step c).1⟩]⟩)

def flareTimes (h : History) : List ℚ := h.releases.filterMap Release.flareTime

/-- The stocks are within their bounds, and the releases account for them and for the cooldown. -/
structure Accounted (h : History) : Prop where
  chaff : 0 ≤ h.service.chaff ∧ h.service.chaff ≤ chaffMax
  flares : 0 ≤ h.service.flares ∧ h.service.flares ≤ flareMax
  released : ∀ r ∈ h.releases, 0 ≤ r.released ∧ r.released ≤ max 0 r.call.requested
  chaffReleased : chaffMax - h.service.chaff = (h.releases.map Release.chaff).sum
  flaresReleased : flareMax - h.service.flares = (h.releases.map Release.flares).sum
  spaced : h.flareTimes.Pairwise fun earlier later => earlier + cooldownS ≤ later
  cooldown : h.service.lastDispense = (h.flareTimes.getLast?).getD 0

/-- No negative number of chaff is asked for, and flares only while they cool down or for at least one of those
that are left. -/
def Sensible (h : History) : Call → Prop
  | .autoDispense _ _ => True
  | .dispenseChaff count => 0 ≤ count
  | .dispenseFlares count now =>
    now - h.service.lastDispense < cooldownS ∨ 1 ≤ count ∧ 1 ≤ h.service.flares

/-! ### A step -/

variable {h : History}

theorem step_releases (c : Call) :
    (h.step c).2.releases = h.releases ++ [⟨c, (h.service.step c).1⟩] := rfl

theorem step_flareTimes (c : Call) :
    (h.step c).2.flareTimes = h.flareTimes ++ (Release.flareTime ⟨c, (h.service.step c).1⟩).toList := by
  rw [flareTimes, step_releases, List.filterMap_append, flareTimes]
  cases hnew : Release.flareTime ⟨c, (h.service.step c).1⟩ <;> simp [hnew]

/-- A call that leaves the service as it is releases nothing. -/
theorem Accounted.idle (hs : h.Accounted) {c : Call} (hstep : h.service.step c = (0, h.service)) :
    (h.step c).2.Accounted := by
  have hservice : (h.step c).2.service = h.service := congrArg Prod.snd hstep
  have hreleases : (h.step c).2.releases = h.releases ++ [⟨c, 0⟩] := by rw [step_releases, hstep]
  have htimes : (h.step c).2.flareTimes = h.flareTimes := by
    rw [step_flareTimes, hstep]
    cases c <;> simp [Release.flareTime]
  have hnothing : (Release.mk c 0).chaff = 0 ∧ (Release.mk c 0).flares = 0 := by cases c <;> exact ⟨rfl, rfl⟩
  constructor
  · rw [hservice]
    exact hs.chaff
  · rw [hservice]
    exact hs.flares
  · intro r hr
    rw [hreleases] at hr
    rcases List.mem_append.mp hr with hr | hr
    · exact hs.released r hr
    · rw [List.mem_singleton.mp hr]
      exact ⟨le_refl 0, le_max_left 0 _⟩
  · rw [hservice, hreleases, List.map_append, List.sum_append, ← hs.chaffReleased]
    simp [hnothing.1]
  · rw [hservice, hreleases, List.map_append, List.sum_append, ← hs.flaresReleased]
    simp [hnothing.2]
  · rw [htimes]
    exact hs.spaced
  · rw [hservice, htimes]
    exact hs.cooldown

/-- A call that releases some flares, after the cooldown. -/
theorem Accounted.release (hs : h.Accounted) {c : Call} {n : ℤ} {now : ℚ}
    (hstep : h.service.step c =
      (n, { h.service with flares := h.service.flares - n, lastDispense := now }))
    (hc : (Release.mk c n).flareTime = some now) (hchaff : (Release.mk c n).chaff = 0)
    (hflares : (Release.mk c n).flares = n) (hn : 1 ≤ n ∧ n ≤ h.service.flares ∧ n ≤ c.requested)
    (hcool : cooldownS ≤ now - h.service.lastDispense) : (h.step c).2.Accounted := by
  have hservice : (h.step c).2.service = { h.service with flares := h.service.flares - n, lastDispense := now } :=
    congrArg Prod.snd hstep
  have hreleases : (h.step c).2.releases = h.releases ++ [⟨c, n⟩] := by rw [step_releases, hstep]
  have htimes : (h.step c).2.flareTimes = h.flareTimes ++ [now] := by
    rw [step_flareTimes, hstep, hc]
    rfl
  constructor
  · rw [hservice]
    exact hs.chaff
  · rw [hservice]
    have hmax := hs.flares
    dsimp only
    omega
  · intro r hr
    rw [hreleases] at hr
    rcases List.mem_append.mp hr with hr | hr
    · exact hs.released r hr
    · rw [List.mem_singleton.mp hr]
      dsimp only
      omega
  · rw [hservice, hreleases, List.map_append, List.sum_append, ← hs.chaffReleased]
    simp [hchaff]
  · rw [hservice, hreleases, List.map_append, List.sum_append, ← hs.flaresReleased, List.map_singleton,
      List.sum_singleton, hflares]
    dsimp only
    omega
  · rw [htimes, List.pairwise_append]
    refine ⟨hs.spaced, List.pairwise_singleton _ _, fun earlier hearlier later hlater => ?_⟩
    rw [List.mem_singleton.mp hlater]
    -- the last release is the latest one, and the cooldown runs from it
    have hlast : earlier ≤ h.service.lastDispense := by
      rw [hs.cooldown]
      obtain ⟨front, last, hsplit⟩ :=
        (List.eq_nil_or_concat' h.flareTimes).resolve_left (List.ne_nil_of_mem hearlier)
      rw [hsplit, List.getLast?_concat, Option.getD_some]
      have hspaced := hs.spaced
      rw [hsplit] at hspaced hearlier
      rcases List.mem_append.mp hearlier with hfront | hlast
      · have hle := (List.pairwise_append.mp hspaced).2.2 earlier hfront last List.mem_cons_self
        exact (le_add_of_nonneg_right (by decide : (0 : ℚ) ≤ cooldownS)).trans hle
      · exact (List.mem_singleton.mp hlast).le
    linarith
  · rw [hservice, htimes, List.getLast?_concat]
    rfl

theorem Accounted.autoDispense (hs : h.Accounted) (contacts : Dict String RWRContact) (now : ℚ) :
    (h.step (.autoDispense contacts now)).2.Accounted := by
  have hauto : h.service.step (.autoDispense contacts now) = h.service.autoDispense contacts now := rfl
  rw [DefensiveService.autoDispense] at hauto
  dsimp only at hauto
  split_ifs at hauto with hthreat hsome
  · refine hs.release hauto ?_ rfl rfl ⟨hsome, min_le_right _ _, min_le_left _ _⟩ hthreat.2.le
    exact if_pos hsome
  · exact hs.idle hauto
  · exact hs.idle hauto

theorem Accounted.dispenseChaff (hs : h.Accounted) {count : ℤ} (hcount : 0 ≤ count) :
    (h.step (.dispenseChaff count)).2.Accounted := by
  have hbounds := hs.chaff
  have htimes : (h.step (.dispenseChaff count)).2.flareTimes = h.flareTimes := by
    rw [step_flareTimes]
    exact List.append_nil _
  constructor
  · show 0 ≤ h.service.chaff - min count h.service.chaff ∧ h.service.chaff - min count h.service.chaff ≤ chaffMax
    omega
  · exact hs.flares
  · intro r hr
    rw [step_releases] at hr
    rcases List.mem_append.mp hr with hr | hr
    · exact hs.released r hr
    · rw [List.mem_singleton.mp hr]
      show 0 ≤ min count h.service.chaff ∧ min count h.service.chaff ≤ max 0 count
      omega
  · rw [step_releases, List.map_append, List.sum_append, ← hs.chaffReleased]
    show chaffMax - (h.service.chaff - min count h.service.chaff) =
      chaffMax - h.service.chaff + (min count h.service.chaff + 0)
    omega
  · rw [step_releases, List.map_append, List.sum_append, ← hs.flaresReleased]
    exact (add_zero _).symm
  · rw [htimes]
    exact hs.spaced
  · rw [htimes]
    exact hs.cooldown

theorem Accounted.dispenseFlares (hs : h.Accounted) {count : ℤ} {now : ℚ}
    (hsensible : h.Sensible (.dispenseFlares count now)) :
    (h.step (.dispenseFlares count now)).2.Accounted := by
  have hmanual : h.service.step (.dispenseFlares count now) = h.service.dispenseFlares count now := rfl
  rw [DefensiveService.dispenseFlares] at hmanual
  dsimp only at hmanual
  split_ifs at hmanual with hcool
  · exact hs.idle hmanual
  · obtain ⟨hcount, hleft⟩ := hsensible.resolve_left hcool
    have hsome : 1 ≤ min count h.service.flares := le_min hcount hleft
    refine hs.release hmanual (if_pos hsome) rfl rfl ⟨hsome, min_le_right _ _, min_le_left _ _⟩ ?_
    exact not_lt.mp hcool

theorem Accounted.step (hs : h.Accounted) {c : Call} (hsensible : h.Sensible c) : (h.step c).2.Accounted := by
  cases c with
  | autoDispense contacts now => exact hs.autoDispense contacts now
  | dispenseChaff count => exact hs.dispenseChaff hsensible
  | dispenseFlares count now => exact hs.dispenseFlares hsensible

/-- A manual release of a negative number adds to the stock, and one of nothing starts the cooldown. -/
theorem Accounted.not_step (hs : h.Accounted) {c : Call} (hbad : ¬h.Sensible c) : ¬(h.step c).2.Accounted := by
  intro hafter
  have hmem : (Release.mk c (h.service.step c).1) ∈ (h.step c).2.releases := List.mem_append_right _ List.mem_cons_self
  have hreleased := (hafter.released _ hmem).1
  cases c with
  | autoDispense contacts now => exact hbad trivial
  | dispenseChaff count =>
    have hreleased' : 0 ≤ min count h.service.chaff := hreleased
    exact hbad (hreleased'.trans (min_le_left _ _))
  | dispenseFlares count now =>
    rw [Sensible, not_or, not_lt] at hbad
    obtain ⟨hcool, hnone⟩ := hbad
    have hmanual : h.service.step (.dispenseFlares count now) = (min count h.service.flares,
        { h.service with flares := h.service.flares - min count h.service.flares, lastDispense := now }) :=
      if_neg (not_lt.mpr hcool)
    rw [hmanual] at hreleased
    have hzero : ¬1 ≤ min count h.service.flares := fun hone => hnone (le_min_iff.mp hone)
    have htimes : (h.step (.dispenseFlares count now)).2.flareTimes = h.flareTimes := by
      rw [step_flareTimes, hmanual, Release.flareTime]
      dsimp only
      rw [if_neg hzero]
      exact List.append_nil _
    have hstamp : (h.step (.dispenseFlares count now)).2.service.lastDispense = now := by
      show (h.service.step (.dispenseFlares count now)).2.lastDispense = now
      rw [hmanual]
    have hsame := hafter.cooldown
    rw [htimes, hstamp, ← hs.cooldown] at hsame
    rw [hsame, sub_self] at hcool
    exact absurd hcool (by decide)

theorem accounted_initial : initial.Accounted where
  chaff := by decide
  flares := by decide
  released := fun _ hr => absurd hr List.not_mem_nil
  chaffReleased := rfl
  flaresReleased := rfl
  spaced := .nil
  cooldown := rfl

/-- The releases account for the stocks and for the cooldown throughout a run exactly if all its manual releases are
sensible. -/
theorem accounted_iff (calls : List Call) :
    (∀ before, before <+: calls → (final step initial before).Accounted) ↔ Along step Sensible initial calls := by
  have hstep : ∀ s call, Accounted s → Sensible s call → Accounted (step s call).2 :=
    fun _ _ hs hsensible => hs.step hsensible
  have hexact : ∀ s call, Accounted s → ¬Sensible s call → ¬Accounted (step s call).2 :=
    fun _ _ hs hbad => hs.not_step hbad
  exact (along_iff_of_exact hstep (fun _ hs => hs) hexact accounted_initial calls).symm

/-- Releasing minus five of chaff leaves more than there ever can be, and releasing no flare starts the cooldown. -/
theorem senseless_not_accounted :
    (final step initial [.dispenseChaff (-5)]).service.chaff = 65 ∧
      ¬(final step initial [.dispenseChaff (-5)]).Accounted ∧
      (final step initial [.dispenseFlares 0 1000]).service.lastDispense = 1000 ∧
      ¬(final step initial [.dispenseFlares 0 1000]).Accounted := by
  have hstarts : (final step initial [.dispenseFlares 0 1000]).service.lastDispense = 1000 := by decide +kernel
  refine ⟨rfl, fun haccounted => ?_, hstarts, fun haccounted => ?_⟩
  · exact absurd haccounted.chaff.2 (by decide)
  · have hnone : (final step initial [.dispenseFlares 0 1000]).flareTimes = [] := by decide +kernel
    have hcooldown := haccounted.cooldown
    rw [hstarts, hnone] at hcooldown
    exact absurd hcooldown (by decide)

end History

end Fmofp.Defensive
