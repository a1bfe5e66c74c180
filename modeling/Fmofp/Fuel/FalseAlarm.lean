import Fmofp.Fuel.FuelMonitor

/-! When the monitor raises a false alarm.  Nothing leaks in a run of the worker loop: what a tank has
lost since the last poll is what engines burned and transfers took out of it.  An alarm is then raised
for a tank exactly when this exceeds what the engines consume at the rates of the poll by over 2% of the
capacity. -/

namespace Fmofp.Fuel

open Python Machine

/-- What a tank has lost since the last poll and neither engines nor transfers account for. -/
def Worker.unaccounted (w : Worker) (tankName : String) : ℚ :=
  match Dict.get? w.monitor.lastLevels tankName, Dict.get? w.fs.tanks tankName with
  | some last, some tank => last - tank.currentLevel - taken (w.burned ++ w.moved) tankName
  | _, _ => 0

/-- Every leak that the step reports is one. -/
def Honest (w : Worker) (action : LoopAction) : Prop :=
  ∀ alert ∈ (loopStep w action).1, alert.isLeak = true → 0 < w.unaccounted alert.tank

instance (w : Worker) (action : LoopAction) : Decidable (Honest w action) :=
  inferInstanceAs (Decidable (∀ alert ∈ _, _))

/-- What engines burned and transfers took out of each of the tanks is at most what its engines consume
in one interval at the rates that the poll reads, and 2% of the capacity. -/
def Explains (fs : FuelSystem) (lastLevels : Dict String ℚ) (log : List (String × ℚ)) (dtSeconds : ℚ) :
    List String → Dict String Engine → List (List ThrustCall) → Prop
  | [], _, _ => True
  | tankName :: rest, engines, between =>
    if Dict.has lastLevels tankName then
      let expected := expectedConsumption dtSeconds (fs.lines tankName) engines between
      (∀ capacity ∈ (Dict.get? fs.tanks tankName).map FuelTank.capacity, capacity ≠ 0 →
        taken log tankName ≤ expected.drop + capacity * leakUnexplainedDropFraction) ∧
      Explains fs lastLevels log dtSeconds rest expected.engines expected.between
    else Explains fs lastLevels log dtSeconds rest engines between

/-- A poll finds every tank's loss explained. -/
def Explained (w : Worker) : LoopAction → Prop
  | .work between _ => w.phase = .poll →
    Explains w.fs w.monitor.lastLevels (w.burned ++ w.moved) updateInterval
      (w.fs.tanks.map Prod.fst) w.fs.engines between
  | _ => True

/-! ### The account between two polls -/

/-- Tanks are stored once each and under their names, and the levels are those of the last poll less
what engines burned and transfers took. -/
structure Balanced (w : Worker) : Prop where
  keys : (w.fs.tanks.map Prod.fst).Nodup
  named : ∀ e ∈ w.fs.tanks, e.2.name = e.1
  level : ∀ tankName last tank, Dict.get? w.monitor.lastLevels tankName = some last →
    Dict.get? w.fs.tanks tankName = some tank →
      last - tank.currentLevel = taken (w.burned ++ w.moved) tankName

theorem Balanced.unaccounted {w : Worker} (h : Balanced w) (tankName : String) :
    w.unaccounted tankName = 0 := by
  unfold Worker.unaccounted
  cases hlast : Dict.get? w.monitor.lastLevels tankName with
  | none => rfl
  | some last =>
    cases htank : Dict.get? w.fs.tanks tankName with
    | none => rfl
    | some tank => exact sub_eq_zero.mpr (h.level tankName last tank hlast htank)

/-- An operation that accounts for what it does keeps the balance when its log is kept. -/
theorem Balanced.of_accounts {w w' : Worker} (h : Balanced w) (log : List (String × ℚ))
    (haccounts : Accounts w.fs.tanks log w'.fs.tanks)
    (hlast : w'.monitor.lastLevels = w.monitor.lastLevels)
    (hlog : ∀ tankName, taken (w'.burned ++ w'.moved) tankName =
      taken (w.burned ++ w.moved) tankName + taken log tankName) : Balanced w' := by
  refine ⟨haccounts.keys ▸ h.keys, haccounts.named h.named, fun tankName last tank hget htank => ?_⟩
  obtain ⟨before, hbefore, hless⟩ := haccounts.before htank
  rw [hlast] at hget
  have hlevel := h.level tankName last before hget hbefore
  rw [hlog, hless.level, ← hlevel]
  ring

theorem feedByRule_accounts (rule : TransferRule) (dtSeconds : ℚ) (feedTanks : List String)
    (fs : FuelSystem) (writes : ℕ) :
    Accounts fs.tanks (feedByRule rule dtSeconds feedTanks fs writes).1.moved
      (feedByRule rule dtSeconds feedTanks fs writes).2.1.tanks := by
  induction feedTanks generalizing fs writes with
  | nil => exact .refl _
  | cons feedTank rest ih =>
    rw [feedByRule]
    split_ifs
    · have hfirst := transferFuel_accounts fs rule.sourceTank feedTank (rule.rateKgPerS * dtSeconds)
        writes
      dsimp only
      split
      · exact hfirst
      · exact hfirst.trans (ih _ _)
    · exact ih fs writes

theorem applyRules_accounts (dtSeconds : ℚ) (rules : List TransferRule) (fs : FuelSystem)
    (writes : ℕ) :
    Accounts fs.tanks (applyRules dtSeconds rules fs writes).1.moved
      (applyRules dtSeconds rules fs writes).2.tanks := by
  induction rules generalizing fs writes with
  | nil => exact .refl _
  | cons rule rest ih =>
    rw [applyRules]
    split_ifs
    · have hfirst := feedByRule_accounts rule dtSeconds rule.feedTanks fs writes
      dsimp only
      split
      · exact hfirst
      · exact hfirst.trans (ih _ _)
    · exact ih fs writes

theorem managerUpdate_accounts (rules : List TransferRule) (fs : FuelSystem) (dtSeconds : ℚ)
    (writes : ℕ) :
    Accounts fs.tanks (managerUpdate rules fs dtSeconds writes).1.moved
      (managerUpdate rules fs dtSeconds writes).2.tanks := by
  unfold managerUpdate
  split_ifs
  · exact .refl _
  · exact applyRules_accounts dtSeconds rules fs writes

/-! ### One poll -/

theorem pollTanks_lastLevels (fs : FuelSystem) (dtSeconds : ℚ) (status : Dict String ℚ)
    (monitor : FuelMonitor) (engines : Dict String Engine) (between : List (List ThrustCall)) :
    (pollTanks fs dtSeconds status monitor engines between).monitor.lastLevels =
      Dict.update monitor.lastLevels status := by
  induction status generalizing monitor engines between with
  | nil => rfl
  | cons e rest ih =>
    obtain ⟨tankName, level⟩ := e
    rw [pollTanks]
    dsimp only
    split
    · exact ih _ _ _
    · exact ih _ _ _

theorem levelAlerts_isLeak {capacity : Option ℚ} {tankName : String} {level : ℚ} {alert : Alert}
    (h : alert ∈ levelAlerts capacity tankName level) : alert.isLeak = false := by
  unfold levelAlerts at h
  cases capacity with
  | none => cases h
  | some capacity =>
    dsimp only at h
    split_ifs at h
    · cases h
    · rw [List.mem_singleton.mp h]
      rfl
    · rw [List.mem_singleton.mp h]
      rfl
    · cases h

theorem leakAlerts_silent_iff (capacity : Option ℚ) (tankName : String) (drop expectedDrop : ℚ) :
    (∀ alert ∈ leakAlerts capacity tankName drop expectedDrop, alert.isLeak = false) ↔
      ∀ c ∈ capacity, c ≠ 0 → drop ≤ expectedDrop + c * leakUnexplainedDropFraction := by
  cases capacity with
  | none => exact iff_of_true (fun _ h => by cases h) (fun _ h => by cases h)
  | some capacity =>
    rw [leakAlerts]
    split_ifs with hleak
    · refine iff_of_false (fun h => ?_) fun h => ?_
      · have hfalse := h _ (List.mem_singleton_self _)
        cases hfalse
      · exact absurd hleak.2 (not_lt.mpr (h capacity rfl hleak.1))
    · refine iff_of_true (fun _ h => by cases h) fun c hc hzero => ?_
      rw [Option.mem_some_iff] at hc
      subst hc
      exact not_lt.mp fun hmore => hleak ⟨hzero, hmore⟩

/-- A poll reports no leak exactly when it finds every loss explained. -/
theorem pollTanks_silent_iff (fs : FuelSystem) (dtSeconds : ℚ) {lastLevels : Dict String ℚ}
    {log : List (String × ℚ)} {status : Dict String ℚ} (hkeys : (status.map Prod.fst).Nodup)
    (hlevel : ∀ e ∈ status, ∀ last, Dict.get? lastLevels e.1 = some last →
      last - e.2 = taken log e.1) {monitor : FuelMonitor}
    (hlast : ∀ e ∈ status, Dict.get? monitor.lastLevels e.1 = Dict.get? lastLevels e.1)
    (engines : Dict String Engine) (between : List (List ThrustCall)) :
    (∀ alert ∈ (pollTanks fs dtSeconds status monitor engines between).raised,
      alert.isLeak = false) ↔
    Explains fs lastLevels log dtSeconds (status.map Prod.fst) engines between := by
  induction status generalizing monitor engines between with
  | nil => exact iff_of_true (fun _ h => by cases h) trivial
  | cons e rest ih =>
    obtain ⟨tankName, level⟩ := e
    rw [List.map_cons, List.nodup_cons] at hkeys
    have hlater : ∀ e ∈ rest, ∀ levels : Dict String ℚ,
        (∀ e ∈ rest, Dict.get? levels e.1 = Dict.get? lastLevels e.1) →
        Dict.get? (Dict.set levels tankName level) e.1 = Dict.get? lastLevels e.1 := by
      intro e he levels hlevels
      have hne : tankName ≠ e.1 := fun h => hkeys.1 (List.mem_map.mpr ⟨e, he, h.symm⟩)
      rw [Dict.get?_set_ne _ _ hne, hlevels e he]
    have hrest : ∀ e ∈ rest, Dict.get? monitor.lastLevels e.1 = Dict.get? lastLevels e.1 :=
      fun e he => hlast e (List.mem_cons_of_mem _ he)
    have hbelow : ∀ e ∈ rest, ∀ last, Dict.get? lastLevels e.1 = some last →
        last - e.2 = taken log e.1 := fun e he => hlevel e (List.mem_cons_of_mem _ he)
    rw [pollTanks, List.map_cons, Explains, Dict.has, ← hlast _ List.mem_cons_self]
    cases hget : Dict.get? monitor.lastLevels tankName with
    | none =>
      dsimp only
      rw [List.forall_mem_append, if_neg (by decide), and_iff_right fun _ => levelAlerts_isLeak]
      exact ih hkeys.2 hbelow (fun e he => hlater e he _ hrest) _ _
    | some last =>
      have hdrop : last - level = taken log tankName :=
        hlevel _ List.mem_cons_self last (hlast _ List.mem_cons_self ▸ hget)
      dsimp only
      rw [List.forall_mem_append, List.forall_mem_append, if_pos Option.isSome_some,
        and_iff_left (fun _ => levelAlerts_isLeak), leakAlerts_silent_iff, hdrop]
      exact and_congr_right fun _ => ih hkeys.2 hbelow (fun e he => hlater e he _ hrest) _ _

theorem Balanced.status {w : Worker} (h : Balanced w) :
    w.fs.getFuelStatus = w.fs.tanks.map fun e => (e.1, e.2.currentLevel) := getFuelStatus_eq h.keys h.named

theorem poll_silent_iff {w : Worker} (h : Balanced w) (between : List (List ThrustCall)) :
    (∀ alert ∈ (w.monitor.poll w.fs updateInterval between).raised, alert.isLeak = false) ↔
      Explains w.fs w.monitor.lastLevels (w.burned ++ w.moved) updateInterval
        (w.fs.tanks.map Prod.fst) w.fs.engines between := by
  rw [FuelMonitor.poll, if_neg (by decide +kernel), h.status]
  have hkeys : (w.fs.tanks.map fun e => (e.1, e.2.currentLevel)).map Prod.fst =
      w.fs.tanks.map Prod.fst := List.map_map
  rw [← hkeys]
  refine pollTanks_silent_iff w.fs updateInterval (hkeys ▸ h.keys) ?_ (fun _ _ => rfl) _ _
  intro e he last hlast
  obtain ⟨⟨tankName, tank⟩, htank, rfl⟩ := List.mem_map.mp he
  exact h.level tankName last tank hlast (Dict.get?_of_mem h.keys htank)

theorem poll_lastLevels {w : Worker} (h : Balanced w) (between : List (List ThrustCall))
    {tankName : String} {tank : FuelTank} (htank : Dict.get? w.fs.tanks tankName = some tank) :
    Dict.get? (w.monitor.poll w.fs updateInterval between).monitor.lastLevels tankName =
      some tank.currentLevel := by
  rw [FuelMonitor.poll, if_neg (by decide +kernel), pollTanks_lastLevels, h.status,
    Dict.get?_update]
  have hkeys : ((w.fs.tanks.map fun e => (e.1, e.2.currentLevel)).map Prod.fst).Nodup := by
    rw [List.map_map]
    exact h.keys
  rw [Dict.get?_perm (List.reverse_perm _) (by rw [List.map_reverse, List.nodup_reverse]; exact hkeys),
    Dict.get?_map_value, htank]
  rfl

/-! ### Runs -/

theorem loopStep_balanced (w : Worker) (action : LoopAction) (h : Balanced w) :
    Balanced (loopStep w action).2 := by
  cases action with
  | setEngineThrust call => exact ⟨h.keys, h.named, h.level⟩
  | addRule rule => exact ⟨h.keys, h.named, h.level⟩
  | work between writes =>
    rw [loopStep]
    cases w.phase with
    | update =>
      refine h.of_accounts (w.fs.update updateInterval between writes).1.burned ?_ ?_ ?_
      · exact update_accounts h.keys updateInterval between writes
      · rfl
      · intro tankName
        simp only [taken_append]
        ring
    | transfer =>
      refine h.of_accounts (w.fs.performFuelTransfer writes).1.moved ?_ ?_ ?_
      · exact performFuelTransfer_accounts w.fs writes
      · rfl
      · intro tankName
        simp only [taken_append]
        ring
    | rules =>
      refine h.of_accounts (managerUpdate w.rules w.fs updateInterval writes).1.moved ?_ ?_ ?_
      · exact managerUpdate_accounts w.rules w.fs updateInterval writes
      · rfl
      · intro tankName
        simp only [taken_append]
        ring
    | poll =>
      refine ⟨h.keys, h.named, fun tankName last tank hlast htank => ?_⟩
      rw [poll_lastLevels h between htank, Option.some.injEq] at hlast
      rw [← hlast]
      exact sub_self _

theorem honest_step_iff {w : Worker} (h : Balanced w) (action : LoopAction) :
    Honest w action ↔ Explained w action := by
  have hsilent : Honest w action ↔ ∀ alert ∈ (loopStep w action).1, alert.isLeak = false := by
    refine forall₂_congr fun alert _ => ?_
    rw [h.unaccounted, Bool.eq_false_iff]
    exact ⟨fun hhonest hleak => lt_irrefl _ (hhonest hleak), fun hno hleak => absurd hleak hno⟩
  rw [hsilent]
  cases action with
  | setEngineThrust call => exact iff_of_true (fun _ h => by cases h) trivial
  | addRule rule => exact iff_of_true (fun _ h => by cases h) trivial
  | work between writes =>
    rw [loopStep, Explained]
    cases hphase : w.phase with
    | poll =>
      rw [forall_prop_of_true rfl]
      exact poll_silent_iff h between
    | update => exact iff_of_true (fun _ h => by cases h) (fun h => by cases h)
    | transfer => exact iff_of_true (fun _ h => by cases h) (fun h => by cases h)
    | rules => exact iff_of_true (fun _ h => by cases h) (fun h => by cases h)

theorem aircraft_balanced : Balanced aircraft :=
  ⟨(built_sound setupAircraft).keys, (built_sound setupAircraft).named,
    fun _ _ _ hlast => by cases hlast⟩

/-- In a run of the worker loop over the aircraft every leak that is reported is one if and only if
every poll finds the losses of the tanks explained. -/
theorem along_honest_iff (actions : List LoopAction) :
    Along loopStep Honest aircraft actions ↔ Along loopStep Explained aircraft actions :=
  along_congr loopStep_balanced (fun _ action h => honest_step_iff h action) aircraft_balanced actions

/-- One pass of the worker. -/
def pass : List LoopAction := List.replicate 4 (.work [] 20)

/-- With both engines at full thrust the main tanks need fuel from the center tank in the eleventh
pass, and the monitor takes the transfer for a leak. -/
theorem not_along_honest_transfer :
    ¬ ∀ actions, Along loopStep Honest aircraft actions := by
  intro h
  have hpasses := h (.setEngineThrust ⟨"Engine 1", 100, by norm_num⟩ ::
    .setEngineThrust ⟨"Engine 2", 100, by norm_num⟩ :: (List.replicate 11 pass).flatten)
  revert hpasses
  decide +kernel

end Fmofp.Fuel
