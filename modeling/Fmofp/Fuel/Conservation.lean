import Fmofp.Fuel.FuelSystem
import Fmofp.Machine.Run

/-! Runs of the fuel system: when every level stays between 0 and the capacity and fuel leaves the tanks
through the engines only.  A transfer takes the fuel out of its source before it looks at the
destination, so it has to fit there. -/

namespace Fmofp.Fuel

open Python Machine

/-- How a fuel system is built: capacities are not negative. -/
inductive Build
  | addTank (name : String) (capacity : { c : ℚ // 0 ≤ c })
  | addEngine (name : String) (maxThrust : ℚ)
  | connectTankToEngine (tankName engineName : String) (transferRate : ℚ)

def FuelSystem.build (fs : FuelSystem) : Build → FuelSystem
  | .addTank name capacity => fs.addTank name capacity
  | .addEngine name maxThrust => fs.addEngine name maxThrust
  | .connectTankToEngine tankName engineName transferRate =>
    fs.connectTankToEngine tankName engineName transferRate

def built (builds : List Build) : FuelSystem := builds.foldl FuelSystem.build {}

/-- `setup_aircraft`. -/
def setupAircraft : List Build :=
  [.addTank "Main Left" ⟨10000, by norm_num⟩, .addTank "Main Right" ⟨10000, by norm_num⟩,
    .addTank "Center" ⟨20000, by norm_num⟩, .addEngine "Engine 1" 50000,
    .addEngine "Engine 2" 50000, .connectTankToEngine "Main Left" "Engine 1" 100,
    .connectTankToEngine "Main Right" "Engine 2" 100, .connectTankToEngine "Center" "Engine 1" 50,
    .connectTankToEngine "Center" "Engine 2" 50]

/-- A call, with the number of writes to the database that go through before one raises. -/
inductive Action
  | transferFuel (sourceTank destinationTank : String) (amount : ℚ) (writes : ℕ)
  | receiveMessage (data : FuelData) (writes : ℕ)
  | setEngineThrust (call : ThrustCall)
  | update (deltaTime : { dt : ℚ // 0 ≤ dt }) (between : List (List ThrustCall)) (writes : ℕ)
  | performFuelTransfer (writes : ℕ)

def step (fs : FuelSystem) : Action → Report × FuelSystem
  | .transferFuel sourceTank destinationTank amount writes =>
    fs.transferFuel sourceTank destinationTank amount writes
  | .receiveMessage data writes => fs.receiveMessage data writes
  | .setEngineThrust call => ({}, { fs with engines := setThrusts fs.engines [call] })
  | .update deltaTime between writes => fs.update deltaTime between writes
  | .performFuelTransfer writes => fs.performFuelTransfer writes

/-! ### What fuel conservation says -/

def FuelTank.InBounds (tank : FuelTank) : Prop :=
  0 ≤ tank.currentLevel ∧ tank.currentLevel ≤ tank.capacity

instance (tank : FuelTank) : Decidable tank.InBounds := inferInstanceAs (Decidable (_ ∧ _))

def FuelSystem.WithinBounds (fs : FuelSystem) : Prop := ∀ e ∈ fs.tanks, e.2.InBounds

instance (fs : FuelSystem) : Decidable fs.WithinBounds := List.decidableBAll _ _

/-- After the call every level is between 0 and the capacity, and the sum of the levels is lower by
what the engines consumed and by nothing else. -/
def Conserves (fs : FuelSystem) (action : Action) : Prop :=
  (step fs action).2.WithinBounds ∧
    (step fs action).2.total + sumOf (step fs action).1.burned = fs.total

instance (fs : FuelSystem) (action : Action) : Decidable (Conserves fs action) :=
  inferInstanceAs (Decidable (_ ∧ _))

/-! ### When a call conserves -/

/-- The amount that leaves the source fits where it goes: an unknown destination takes nothing, and a
negative amount flows the other way. -/
def FuelSystem.Fits (fs : FuelSystem) (sourceTank destinationTank : String) (amount : ℚ) : Prop :=
  match Dict.get? fs.tanks sourceTank, Dict.get? fs.tanks destinationTank with
  | none, _ => True
  | some source, none => min amount source.currentLevel = 0
  | some source, some destination => sourceTank = destinationTank ∨
    min amount source.currentLevel ≤ destination.spaceAvailable ∧
      -min amount source.currentLevel ≤ destination.currentLevel ∧
      -min amount source.currentLevel ≤ source.spaceAvailable

instance (fs : FuelSystem) (sourceTank destinationTank : String) (amount : ℚ) :
    Decidable (fs.Fits sourceTank destinationTank amount) := by
  unfold FuelSystem.Fits
  split <;> infer_instance

/-- No engine has a negative rate, nor gets one from the thrust calls made during the pass. -/
def Steady (engines : Dict String Engine) (calls : List ThrustCall) : Prop :=
  (∀ e ∈ engines, 0 ≤ e.2.fuelConsumptionRate) ∧
    ∀ call ∈ calls, ∀ e ∈ engines, e.1 = call.engineName → 0 ≤ e.2.maxThrust

instance (engines : Dict String Engine) (calls : List ThrustCall) :
    Decidable (Steady engines calls) :=
  inferInstanceAs (Decidable (_ ∧ _))

/-- The main tank has room for a top-up when it gets one. -/
def FuelSystem.TopsUp (fs : FuelSystem) (tankName : String) : Prop :=
  match Dict.get? fs.tanks "Center", Dict.get? fs.tanks tankName with
  | some center, some tank => center.currentLevel > 5000 → tank.currentLevel < 5000 →
    tank.currentLevel + 1000 ≤ tank.capacity
  | _, _ => True

instance (fs : FuelSystem) (tankName : String) : Decidable (fs.TopsUp tankName) := by
  unfold FuelSystem.TopsUp
  split <;> infer_instance

def Permits (fs : FuelSystem) : Action → Prop
  | .transferFuel sourceTank destinationTank amount _ => fs.Fits sourceTank destinationTank amount
  | .receiveMessage ⟨none, _, true, some sourceTank, some destinationTank, some amount⟩ _ =>
    fs.Fits sourceTank destinationTank amount
  | .receiveMessage _ _ | .setEngineThrust _ => True
  | .update _ between _ => Steady fs.engines between.flatten
  | .performFuelTransfer _ => fs.TopsUp "Main Left" ∧ fs.TopsUp "Main Right"

instance (fs : FuelSystem) (action : Action) : Decidable (Permits fs action) := by
  unfold Permits
  split <;> infer_instance

/-! ### Systems that are sound -/

/-- Tanks are stored once each, under their own names, and within their bounds. -/
structure FuelSystem.Sound (fs : FuelSystem) : Prop where
  keys : (fs.tanks.map Prod.fst).Nodup
  named : ∀ e ∈ fs.tanks, e.2.name = e.1
  bounds : fs.WithinBounds

theorem FuelSystem.Sound.get? {fs : FuelSystem} (hfs : fs.Sound) {tankName : String} {tank : FuelTank}
    (hget : Dict.get? fs.tanks tankName = some tank) : tank.InBounds :=
  hfs.bounds _ (Dict.mem_of_get?_eq_some hget)

theorem build_sound {fs : FuelSystem} (hfs : fs.Sound) (b : Build) : (fs.build b).Sound := by
  cases b with
  | addTank name capacity =>
    refine ⟨Dict.nodup_keys_set hfs.keys _ _, fun e he => ?_, fun e he => ?_⟩
    · rcases Dict.mem_set he with rfl | he
      · rfl
      · exact hfs.named e he
    · rcases Dict.mem_set he with rfl | he
      · exact ⟨capacity.2, le_refl _⟩
      · exact hfs.bounds e he
  | addEngine name maxThrust => exact { hfs with }
  | connectTankToEngine tankName engineName transferRate => exact { hfs with }

theorem built_sound (builds : List Build) : (built builds).Sound := by
  have hfold : ∀ (builds : List Build) {fs : FuelSystem}, fs.Sound →
      (builds.foldl FuelSystem.build fs).Sound := by
    intro builds
    induction builds with
    | nil => exact fun hfs => hfs
    | cons b rest ih => exact fun hfs => ih (build_sound hfs b)
  exact hfold builds ⟨List.nodup_nil, by simp, by intro e he; cases he⟩

/-- What an operation accounts for stays sound if it stays within the bounds. -/
theorem FuelSystem.Sound.of_accounts {fs fs' : FuelSystem} {log : List (String × ℚ)} (hfs : fs.Sound)
    (haccounts : Accounts fs.tanks log fs'.tanks) (hbounds : fs'.WithinBounds) : fs'.Sound :=
  ⟨haccounts.keys ▸ hfs.keys, haccounts.named hfs.named, hbounds⟩

/-- Tanks that have their own names are in the status under them. -/
theorem getFuelStatus_eq {fs : FuelSystem} (hkeys : (fs.tanks.map Prod.fst).Nodup)
    (hnamed : ∀ e ∈ fs.tanks, e.2.name = e.1) : fs.getFuelStatus = fs.tanks.map fun e => (e.1, e.2.currentLevel) := by
  have hnames : (fs.tanks.map fun e => (e.2.name, e.2.currentLevel)) =
      fs.tanks.map fun e => (e.1, e.2.currentLevel) :=
    List.map_congr_left fun e he => by rw [hnamed e he]
  have hnodup : ((fs.tanks.map fun e => (e.1, e.2.currentLevel)).map Prod.fst).Nodup := by
    rw [List.map_map]
    exact hkeys
  rw [FuelSystem.getFuelStatus, hnames, Dict.update_nil hnodup]

theorem FuelSystem.Sound.status {fs : FuelSystem} (hfs : fs.Sound) (tankName : String) :
    Dict.get? fs.getFuelStatus tankName =
      (Dict.get? fs.tanks tankName).map FuelTank.currentLevel := by
  rw [getFuelStatus_eq hfs.keys hfs.named, Dict.get?_map_value]

/-! ### Transfers -/

theorem withinBounds_set {tanks : Dict String FuelTank} (htanks : ∀ e ∈ tanks, e.2.InBounds)
    (tankName : String) (tank : FuelTank) :
    (∀ e ∈ Dict.set tanks tankName tank, e.2.InBounds) ↔ tank.InBounds := by
  constructor
  · intro h
    exact h _ (Dict.mem_of_get?_eq_some (Dict.get?_set_self tanks tankName tank))
  · intro h e he
    rcases Dict.mem_set he with rfl | he
    · exact h
    · exact htanks e he

theorem withinBounds_set_set {tanks : Dict String FuelTank} (htanks : ∀ e ∈ tanks, e.2.InBounds)
    {a b : String} (hne : a ≠ b) (tank tank' : FuelTank) :
    (∀ e ∈ Dict.set (Dict.set tanks a tank) b tank', e.2.InBounds) ↔
      tank.InBounds ∧ tank'.InBounds := by
  constructor
  · intro h
    have ha : Dict.get? (Dict.set (Dict.set tanks a tank) b tank') a = some tank := by
      rw [Dict.get?_set_ne _ _ (Ne.symm hne), Dict.get?_set_self]
    exact ⟨h _ (Dict.mem_of_get?_eq_some ha),
      h _ (Dict.mem_of_get?_eq_some (Dict.get?_set_self _ b tank'))⟩
  · rintro ⟨h, h'⟩
    exact (withinBounds_set ((withinBounds_set htanks a tank).mpr h) b tank').mpr h'

/-- Consuming never goes below 0; it exceeds the capacity only by a negative amount. -/
theorem consume_inBounds (tank : FuelTank) (amount : ℚ) :
    (tank.consume amount).2.InBounds ↔ -min amount tank.currentLevel ≤ tank.spaceAvailable := by
  have hmin := min_le_right amount tank.currentLevel
  have hlevel := tank.consume_level amount
  rw [tank.consume_fst] at hlevel
  rw [FuelTank.InBounds, hlevel, FuelTank.consume_capacity, FuelTank.spaceAvailable]
  constructor
  · intro h
    linarith [h.2]
  · intro h
    exact ⟨by linarith, by linarith⟩

theorem refill_inBounds {tank : FuelTank} {amount : ℚ} (hfits : amount ≤ tank.spaceAvailable) :
    (tank.refill amount).2.InBounds ↔ -amount ≤ tank.currentLevel := by
  have hlevel := tank.refill_level amount
  rw [tank.refill_fst, min_eq_left hfits] at hlevel
  rw [FuelTank.InBounds, hlevel, FuelTank.refill_capacity]
  rw [FuelTank.spaceAvailable] at hfits
  constructor
  · intro h
    linarith [h.1]
  · intro h
    exact ⟨by linarith, by linarith⟩

/-- What is taken out of a tank and filled back into it finds room. -/
theorem refill_consume {tank : FuelTank} (htank : tank.InBounds) (amount : ℚ) :
    (((tank.consume amount).2.refill (tank.consume amount).1).1 = (tank.consume amount).1) ∧
      ((tank.consume amount).2.refill (tank.consume amount).1).2.InBounds := by
  have hroom : (tank.consume amount).1 ≤ (tank.consume amount).2.spaceAvailable := by
    rw [FuelTank.spaceAvailable, FuelTank.consume_capacity, FuelTank.consume_level]
    linarith [htank.2]
  refine ⟨by rw [FuelTank.refill_fst, min_eq_left hroom], (refill_inBounds hroom).mpr ?_⟩
  rw [FuelTank.consume_level]
  linarith [htank.1]

/-- A transfer conserves fuel exactly when what it takes out fits. -/
theorem transferFuel_conserves_iff {fs : FuelSystem} (hfs : fs.WithinBounds)
    (sourceTank destinationTank : String) (amount : ℚ) (writes : ℕ) :
    (fs.transferFuel sourceTank destinationTank amount writes).2.WithinBounds ∧
      (fs.transferFuel sourceTank destinationTank amount writes).2.total = fs.total ↔
    fs.Fits sourceTank destinationTank amount := by
  have htotal := (transferFuel_accounts fs sourceTank destinationTank amount writes).total
  revert htotal
  unfold FuelSystem.transferFuel FuelSystem.Fits
  cases hsource : Dict.get? fs.tanks sourceTank with
  | none => exact fun _ => iff_of_true ⟨hfs, rfl⟩ trivial
  | some source =>
    have hin : source.InBounds := hfs _ (Dict.mem_of_get?_eq_some hsource)
    dsimp only
    by_cases hsame : sourceTank = destinationTank
    · subst hsame
      obtain ⟨hback, hbounds⟩ := refill_consume hin amount
      rw [Dict.get?_set_self, hsource]
      dsimp only
      rw [sumOf_cons, sumOf_cons, sumOf_nil, hback, add_zero, add_neg_cancel, add_zero,
        Dict.set_set_self]
      exact fun htotal => iff_of_true ⟨(withinBounds_set hfs _ _).mpr hbounds, htotal⟩ (.inl rfl)
    · rw [Dict.get?_set_ne _ _ hsame]
      cases hdestination : Dict.get? fs.tanks destinationTank with
      | none =>
        dsimp only
        rw [sumOf_cons, sumOf_nil, add_zero, FuelTank.consume_fst]
        intro htotal
        constructor
        · intro h
          linarith [show Dict.tally _ _ = Dict.tally _ _ from h.2]
        · intro hzero
          rw [hzero, add_zero] at htotal
          refine ⟨(withinBounds_set hfs _ _).mpr ((consume_inBounds source amount).mpr ?_), htotal⟩
          rw [hzero, FuelTank.spaceAvailable]
          linarith [hin.2]
      | some destination =>
        have hto : destination.InBounds := hfs _ (Dict.mem_of_get?_eq_some hdestination)
        dsimp only
        rw [sumOf_cons, sumOf_cons, sumOf_nil, add_zero, FuelTank.refill_fst, FuelTank.consume_fst]
        intro htotal
        rw [or_iff_right hsame]
        constructor
        · rintro ⟨hbounds, hsum⟩
          have hfits : min amount source.currentLevel ≤ destination.spaceAvailable := by
            rw [← min_eq_left_iff]
            linarith [show Dict.tally _ _ = Dict.tally _ _ from hsum]
          obtain ⟨hleft, hright⟩ := (withinBounds_set_set hfs hsame _ _).mp hbounds
          exact ⟨hfits, (refill_inBounds hfits).mp hright, (consume_inBounds source amount).mp hleft⟩
        · rintro ⟨hfits, hlevel, hspace⟩
          rw [min_eq_left hfits, add_neg_cancel, add_zero] at htotal
          exact ⟨(withinBounds_set_set hfs hsame _ _).mpr
            ⟨(consume_inBounds source amount).mpr hspace, (refill_inBounds hfits).mpr hlevel⟩, htotal⟩

/-- A transfer that fits keeps the system sound and moves nothing out of it. -/
theorem transferFuel_sound {fs : FuelSystem} (hfs : fs.Sound) {sourceTank destinationTank : String}
    {amount : ℚ} (hfits : fs.Fits sourceTank destinationTank amount) (writes : ℕ) :
    (fs.transferFuel sourceTank destinationTank amount writes).2.Sound ∧
      (fs.transferFuel sourceTank destinationTank amount writes).2.total = fs.total := by
  obtain ⟨hbounds, htotal⟩ :=
    (transferFuel_conserves_iff hfs.bounds sourceTank destinationTank amount writes).mpr hfits
  exact ⟨hfs.of_accounts (transferFuel_accounts fs _ _ _ _) hbounds, htotal⟩

theorem topUp_sound {fs : FuelSystem} (hfs : fs.Sound) {status : Dict String ℚ} {tankName : String}
    (hstatus : Dict.get? status tankName =
      (Dict.get? fs.tanks tankName).map FuelTank.currentLevel)
    (hcenter : ∀ center, Dict.get? fs.tanks "Center" = some center → 1000 ≤ center.currentLevel)
    (hroom : ∀ tank, Dict.get? fs.tanks tankName = some tank → tank.currentLevel < 5000 →
      tank.currentLevel + 1000 ≤ tank.capacity) (writes : ℕ) :
    (fs.topUp status tankName writes).2.Sound ∧
      (fs.topUp status tankName writes).2.total = fs.total := by
  unfold FuelSystem.topUp
  rw [hstatus]
  cases htank : Dict.get? fs.tanks tankName with
  | none => exact ⟨hfs, rfl⟩
  | some tank =>
    dsimp only [Option.map_some]
    split_ifs with hlow
    · apply transferFuel_sound hfs
      unfold FuelSystem.Fits
      cases hsource : Dict.get? fs.tanks "Center" with
      | none => trivial
      | some center =>
        rw [htank]
        have hlevel := (hfs.get? htank).1
        have hspace := (hfs.get? hsource).2
        have hfull := hroom tank htank hlow
        right
        rw [min_eq_left (hcenter center hsource), FuelTank.spaceAvailable, FuelTank.spaceAvailable]
        exact ⟨by linarith, by linarith, by linarith⟩
    · exact ⟨hfs, rfl⟩

theorem performFuelTransfer_sound {fs : FuelSystem} (hfs : fs.Sound) (hleft : fs.TopsUp "Main Left")
    (hright : fs.TopsUp "Main Right") (writes : ℕ) :
    (fs.performFuelTransfer writes).2.Sound ∧
      (fs.performFuelTransfer writes).2.total = fs.total := by
  unfold FuelSystem.performFuelTransfer
  dsimp only
  rw [hfs.status]
  cases hsource : Dict.get? fs.tanks "Center" with
  | none => exact ⟨hfs, rfl⟩
  | some center =>
    dsimp only [Option.map_some]
    split_ifs with hmore
    · have hroom : ∀ {tankName}, fs.TopsUp tankName → ∀ tank,
          Dict.get? fs.tanks tankName = some tank → tank.currentLevel < 5000 →
            tank.currentLevel + 1000 ≤ tank.capacity := by
        intro tankName htops tank htank
        rw [FuelSystem.TopsUp, hsource, htank] at htops
        exact htops hmore
      obtain ⟨hsound, htotal⟩ := topUp_sound hfs (hfs.status "Main Left")
        (by rw [hsource]; rintro _ ⟨⟩; linarith) (hroom hleft) writes
      have haccounts := topUp_accounts fs fs.getFuelStatus "Main Left" writes
      obtain ⟨hcenter, hothers⟩ :=
        topUp_moved fs fs.getFuelStatus "Main Left" writes (by decide)
      -- the first transfer leaves the other main tank as it is
      have hsame : ∀ tank, Dict.get? (fs.topUp fs.getFuelStatus "Main Left" writes).2.tanks
          "Main Right" = some tank →
          ∃ tank', Dict.get? fs.tanks "Main Right" = some tank' ∧ Less 0 tank' tank := by
        intro tank htank
        have hbefore := haccounts.before htank
        rwa [hothers "Main Right" (by decide) (by decide)] at hbefore
      split
      · exact ⟨hsound, htotal⟩
      · refine (topUp_sound hsound ?_ ?_ ?_ _).imp_right fun h => h.trans htotal
        · rw [hfs.status]
          cases hget : Dict.get? fs.tanks "Main Right" with
          | none =>
            rw [Dict.get?_eq_none_iff, ← haccounts.keys, ← Dict.get?_eq_none_iff] at hget
            rw [hget]
          | some tank =>
            obtain ⟨tank', hget', hless⟩ := haccounts.known "Main Right" tank hget
            rw [hothers "Main Right" (by decide) (by decide)] at hless
            rw [hget', Option.map_some, Option.map_some, hless.level, sub_zero]
        · intro tank htank
          obtain ⟨tank', htank', hless⟩ := haccounts.before htank
          rw [hsource, Option.some.injEq] at htank'
          rw [hless.level, ← htank']
          linarith
        · intro tank htank hlow
          obtain ⟨tank', htank', hless⟩ := hsame tank htank
          rw [hless.level, sub_zero] at hlow ⊢
          rw [hless.capacity]
          exact hroom hright tank' htank' hlow
    · exact ⟨hfs, rfl⟩

/-! ### Consumption -/

theorem setThrust_steady {engines : Dict String Engine} {call : ThrustCall} {calls : List ThrustCall}
    (h : Steady engines (call :: calls)) :
    Steady (setEngineThrust engines call.engineName call.thrustPercentage) calls := by
  unfold setEngineThrust
  split
  · rename_i engine hengine
    have hmem := Dict.mem_of_get?_eq_some hengine
    have hmax : 0 ≤ engine.maxThrust := h.2 call List.mem_cons_self _ hmem rfl
    refine ⟨fun e he => ?_, fun other hother e he hname => ?_⟩
    · rcases Dict.mem_set he with rfl | he
      · have hpercentage := call.thrustPercentage.2.1
        show 0 ≤ engine.maxThrust * (call.thrustPercentage.1 / 100) * (1 / 10)
        positivity
      · exact h.1 e he
    · rcases Dict.mem_set he with rfl | he
      · exact hmax
      · exact h.2 other (List.mem_cons_of_mem _ hother) e he hname
  · exact ⟨h.1, fun other hother => h.2 other (List.mem_cons_of_mem _ hother)⟩

theorem setThrusts_steady {engines : Dict String Engine} {now later : List ThrustCall}
    (h : Steady engines (now ++ later)) : Steady (setThrusts engines now) later := by
  induction now generalizing engines with
  | nil => exact h
  | cons call rest ih => exact ih (setThrust_steady h)

theorem steady_next {engines : Dict String Engine} {between : List (List ThrustCall)}
    (h : Steady engines between.flatten) :
    Steady (setThrusts engines (between.headD [])) between.tail.flatten := by
  cases between with
  | nil => exact h
  | cons now later =>
    rw [List.flatten_cons] at h
    exact setThrusts_steady h

/-- A tank that only consumes what is not negative stays within its bounds. -/
theorem consume_inBounds_of_nonneg {tank : FuelTank} (htank : tank.InBounds) {amount : ℚ}
    (hamount : 0 ≤ amount) : (tank.consume amount).2.InBounds := by
  apply (consume_inBounds tank amount).mpr
  have hmin : 0 ≤ min amount tank.currentLevel := le_min hamount htank.1
  rw [FuelTank.spaceAvailable]
  linarith [htank.2]

theorem feed_inBounds {deltaTime : ℚ} (hdelta : 0 ≤ deltaTime) (engineNames : List String)
    {tank : FuelTank} (htank : tank.InBounds) {engines : Dict String Engine}
    {between : List (List ThrustCall)} (hsteady : Steady engines between.flatten) (writes : ℕ) :
    (feed deltaTime engineNames tank engines between writes).tank.InBounds ∧
      Steady (feed deltaTime engineNames tank engines between writes).engines
        (feed deltaTime engineNames tank engines between writes).between.flatten := by
  induction engineNames generalizing tank engines between writes with
  | nil => exact ⟨htank, hsteady⟩
  | cons engineName rest ih =>
    have hnext := steady_next hsteady
    rw [feed]
    dsimp only
    split
    · exact ⟨htank, hnext⟩
    · rename_i engine hengine
      have hrate := hnext.1 _ (Dict.mem_of_get?_eq_some hengine)
      have hconsumed := consume_inBounds_of_nonneg htank (mul_nonneg hrate hdelta)
      cases writes with
      | zero => exact ⟨hconsumed, hnext⟩
      | succ writes => exact ih hconsumed hnext writes

theorem feedTanks_inBounds (lines : String → List String) {deltaTime : ℚ} (hdelta : 0 ≤ deltaTime)
    {tanks : Dict String FuelTank} (htanks : ∀ e ∈ tanks, e.2.InBounds)
    {engines : Dict String Engine} {between : List (List ThrustCall)}
    (hsteady : Steady engines between.flatten) (writes : ℕ) :
    ∀ e ∈ (feedTanks lines deltaTime tanks engines between writes).tanks, e.2.InBounds := by
  induction tanks generalizing engines between writes with
  | nil => intro e he; cases he
  | cons entry rest ih =>
    obtain ⟨tankName, tank⟩ := entry
    obtain ⟨hfirst, hrest⟩ := feed_inBounds hdelta (lines tankName) (htanks _ List.mem_cons_self)
      hsteady writes
    have hlater : ∀ e ∈ rest, e.2.InBounds := fun e he => htanks e (List.mem_cons_of_mem _ he)
    rw [feedTanks]
    dsimp only
    split
    · intro e he
      rcases List.mem_cons.mp he with rfl | he
      · exact hfirst
      · exact hlater e he
    · intro e he
      rcases List.mem_cons.mp he with rfl | he
      · exact hfirst
      · exact ih hlater hrest _ e he

/-! ### Runs -/

theorem topUp_burned (fs : FuelSystem) (status : Dict String ℚ) (tankName : String) (writes : ℕ) :
    (fs.topUp status tankName writes).1.burned = [] := by
  unfold FuelSystem.topUp
  split
  · rfl
  · split_ifs
    · exact transferFuel_burned fs "Center" tankName 1000 writes
    · rfl

theorem performFuelTransfer_burned (fs : FuelSystem) (writes : ℕ) :
    (fs.performFuelTransfer writes).1.burned = [] := by
  unfold FuelSystem.performFuelTransfer
  dsimp only
  split
  · rfl
  · split_ifs
    · split
      · exact topUp_burned fs _ _ _
      · exact topUp_burned _ _ _ _
    · rfl

/-- A message leaves the tanks alone or is a transfer. -/
theorem receiveMessage_cases (fs : FuelSystem) (data : FuelData) (writes : ℕ) :
    ((fs.receiveMessage data writes).2.tanks = fs.tanks ∧
      (fs.receiveMessage data writes).1.burned = []) ∨
    ∃ engineName sourceTank destinationTank amount,
      data = { engineName, fuelTransfer := true, sourceTank := some sourceTank,
               destinationTank := some destinationTank, amount := some amount } ∧
      fs.receiveMessage data writes = fs.transferFuel sourceTank destinationTank amount writes := by
  obtain ⟨engineThrust, engineName, fuelTransfer, sourceTank, destinationTank, amount⟩ := data
  unfold FuelSystem.receiveMessage
  dsimp only
  cases engineThrust with
  | some thrustPercentage => cases engineName <;> exact .inl ⟨rfl, rfl⟩
  | none =>
    cases fuelTransfer with
    | false => exact .inl ⟨rfl, rfl⟩
    | true =>
      rcases sourceTank with _ | sourceTank
      · exact .inl ⟨rfl, rfl⟩
      · rcases destinationTank with _ | destinationTank
        · exact .inl ⟨rfl, rfl⟩
        · rcases amount with _ | amount
          · exact .inl ⟨rfl, rfl⟩
          · exact .inr ⟨engineName, sourceTank, destinationTank, amount, rfl, rfl⟩

/-- A permitted call keeps the system sound, and fuel leaves it through the engines only. -/
theorem step_sound {fs : FuelSystem} (hfs : fs.Sound) {action : Action}
    (hpermits : Permits fs action) :
    (step fs action).2.Sound ∧
      (step fs action).2.total + sumOf (step fs action).1.burned = fs.total := by
  cases action with
  | transferFuel sourceTank destinationTank amount writes =>
    obtain ⟨hsound, htotal⟩ := transferFuel_sound hfs hpermits writes
    refine ⟨hsound, ?_⟩
    rw [step, transferFuel_burned, sumOf_nil, add_zero, htotal]
  | receiveMessage data writes =>
    rcases receiveMessage_cases fs data writes with ⟨htanks, hburned⟩ | ⟨_, a, b, amount, rfl, heq⟩
    · refine ⟨⟨htanks ▸ hfs.keys, htanks ▸ hfs.named, ?_⟩, ?_⟩
      · rw [FuelSystem.WithinBounds, step, htanks]
        exact hfs.bounds
      · rw [step, FuelSystem.total, htanks, hburned, sumOf_nil, add_zero, FuelSystem.total]
    · obtain ⟨hsound, htotal⟩ := transferFuel_sound hfs (by exact hpermits) writes
      rw [step, heq]
      refine ⟨hsound, ?_⟩
      rw [transferFuel_burned, sumOf_nil, add_zero, htotal]
  | setEngineThrust call => exact ⟨{ hfs with }, add_zero _⟩
  | update deltaTime between writes =>
    have haccounts := update_accounts hfs.keys deltaTime.1 between writes
    exact ⟨hfs.of_accounts haccounts (feedTanks_inBounds fs.lines deltaTime.2 hfs.bounds hpermits
      writes), haccounts.total⟩
  | performFuelTransfer writes =>
    obtain ⟨hsound, htotal⟩ := performFuelTransfer_sound hfs hpermits.1 hpermits.2 writes
    refine ⟨hsound, ?_⟩
    rw [step, performFuelTransfer_burned, sumOf_nil, add_zero, htotal]

/-- In a run whose calls are all permitted every call conserves fuel, and in every state reached a
transfer conserves it exactly when its amount fits. -/
theorem along_conserves_of_permits (builds : List Build) (actions : List Action)
    (hpermits : Along step Permits (built builds) actions) :
    (built builds).WithinBounds ∧ Along step Conserves (built builds) actions ∧
      ∀ before, before <+: actions → ∀ sourceTank destinationTank amount writes,
        (Conserves (final step (built builds) before)
          (.transferFuel sourceTank destinationTank amount writes) ↔
        (final step (built builds) before).Fits sourceTank destinationTank amount) := by
  have hsound := built_sound builds
  refine ⟨hsound.bounds, ?_, ?_⟩
  · rw [along_iff]
    rintro before action after rfl
    have hreached : (final step (built builds) before).Sound :=
      @invariant_along _ _ _ step FuelSystem.Sound Permits (fun fs action hfs h => (step_sound hfs h).1)
        (built builds) hsound _ _ hpermits
    obtain ⟨hnext, htotal⟩ := step_sound hreached (along_iff.mp hpermits before action after rfl)
    exact ⟨hnext.bounds, htotal⟩
  · rintro before ⟨after, rfl⟩ sourceTank destinationTank amount writes
    have hreached : (final step (built builds) before).Sound :=
      @invariant_along _ _ _ step FuelSystem.Sound Permits (fun fs action hfs h => (step_sound hfs h).1)
        (built builds) hsound _ _ hpermits
    rw [Conserves, step, transferFuel_burned, sumOf_nil, add_zero]
    exact transferFuel_conserves_iff hreached.bounds sourceTank destinationTank amount writes

/-- The aircraft, while it burns fuel, is hit by a message and tops up its main tanks. -/
theorem along_conserves_of_permits_aircraft :
    Along step Conserves (built setupAircraft)
      [.setEngineThrust ⟨"Engine 1", 50, by norm_num⟩,
        .update ⟨1, by norm_num⟩ [[⟨"Engine 2", 100, by norm_num⟩]] 10,
        .receiveMessage { fuelTransfer := true, sourceTank := some "Main Right",
                          destinationTank := some "Main Left", amount := some 500 } 2,
        .performFuelTransfer 4] :=
  (along_conserves_of_permits setupAircraft _ (by decide +kernel)).2.1

/-- A transfer to a tank that nobody knows loses what it took out of the center tank. -/
theorem not_conserves_unknown_destination :
    ¬ ∀ builds actions, Along step Conserves (built builds) actions := by
  intro h
  have hlost := h setupAircraft [.transferFuel "Center" "Reserve" 1000 2]
  revert hlost
  decide +kernel

end Fmofp.Fuel
