import Fmofp.Fuel.FuelMonitor

/-! The log of the transfers that the rules trigger.  A rule tests its source once and then takes a fixed
amount out of it for every feed tank, whatever the source still holds above its minimum and whatever
finds room in the feed tank. -/

namespace Fmofp.Fuel

open Python

/-- An entry of `_transfer_log`, with the keys `from`, `to` and `amount_kg`. -/
structure TransferLogEntry where
  fromTank : String
  toTank : String
  amountKg : ℚ
  deriving Repr, DecidableEq

structure FuelTransferManager where
  rules : List TransferRule := []
  transferLog : List TransferLogEntry := []
  deriving Repr, DecidableEq

/-- A call of `transfer_fuel`, with the system and the writes that it comes to: a record that the
program does not keep. -/
structure RuleTransfer where
  rule : TransferRule
  feedTank : String
  before : FuelSystem
  writes : ℕ
  deriving DecidableEq

namespace RuleTransfer

variable (t : RuleTransfer) (dtSeconds : ℚ)

def amount : ℚ := t.rule.rateKgPerS * dtSeconds

def outcome : Report × FuelSystem :=
  t.before.transferFuel t.rule.sourceTank t.feedTank (t.amount dtSeconds) t.writes

def entry : TransferLogEntry := ⟨t.rule.sourceTank, t.feedTank, t.amount dtSeconds⟩

end RuleTransfer

/-- A pass over some of the feed tanks, or over some of the rules. -/
structure RulesPass where
  raised : Option Raised := none
  fs : FuelSystem
  writes : ℕ
  log : List TransferLogEntry := []
  transfers : List RuleTransfer := []

/-- The inner loop of `FuelTransferManager.update`.  The entry is written after the transfer: one that
raises is not logged. -/
def feedPass (rule : TransferRule) (dtSeconds : ℚ) : List String → FuelSystem → ℕ → RulesPass
  | [], fs, writes => { fs, writes }
  | feedTank :: rest, fs, writes =>
    if (pctFull fs feedTank).any fun pct => pct < rule.feedBelowPct then
      let t : RuleTransfer := ⟨rule, feedTank, fs, writes⟩
      match (t.outcome dtSeconds).1.raised with
      | some raised =>
        { raised := some raised, fs := (t.outcome dtSeconds).2, writes, transfers := [t] }
      | none =>
        let pass := feedPass rule dtSeconds rest (t.outcome dtSeconds).2 (writes - 2)
        { pass with log := t.entry dtSeconds :: pass.log, transfers := t :: pass.transfers }
    else feedPass rule dtSeconds rest fs writes

/-- The outer loop. -/
def rulesPass (dtSeconds : ℚ) : List TransferRule → FuelSystem → ℕ → RulesPass
  | [], fs, writes => { fs, writes }
  | rule :: rest, fs, writes =>
    if (pctFull fs rule.sourceTank).any fun pct => rule.minSourcePct ≤ pct then
      let fed := feedPass rule dtSeconds rule.feedTanks fs writes
      match fed.raised with
      | some _ => fed
      | none =>
        let pass := rulesPass dtSeconds rest fed.fs fed.writes
        { pass with log := fed.log ++ pass.log, transfers := fed.transfers ++ pass.transfers }
    else rulesPass dtSeconds rest fs writes

namespace FuelTransferManager

/-- The transfers that an update makes, and what it does besides. -/
def pass (manager : FuelTransferManager) (fs : FuelSystem) (dtSeconds : ℚ) (writes : ℕ) : RulesPass :=
  if dtSeconds ≤ 0 then { fs, writes } else rulesPass dtSeconds manager.rules fs writes

/-- `FuelTransferManager.update`. -/
def update (manager : FuelTransferManager) (fs : FuelSystem) (dtSeconds : ℚ) (writes : ℕ) :
    FuelTransferManager × FuelSystem :=
  let pass := manager.pass fs dtSeconds writes
  ({ manager with transferLog := manager.transferLog ++ pass.log }, pass.fs)

end FuelTransferManager

/-! ### The update with its log is the one without -/

/-- What the transfers moved, one after the other. -/
def movedBy (dtSeconds : ℚ) (transfers : List RuleTransfer) : List (String × ℚ) :=
  transfers.flatMap fun t => (t.outcome dtSeconds).1.moved

/-- The report of a pass. -/
def RulesPass.report (pass : RulesPass) (dtSeconds : ℚ) : Report :=
  { raised := pass.raised, moved := movedBy dtSeconds pass.transfers }

/-- A report that burned nothing is what it raised and what it moved. -/
theorem Report.eq_of_burned {report : Report} (h : report.burned = []) :
    report = { raised := report.raised, moved := report.moved } := by
  cases report
  subst h
  rfl

theorem feedPass_report (rule : TransferRule) (dtSeconds : ℚ) (feedTanks : List String)
    (fs : FuelSystem) (writes : ℕ) :
    feedByRule rule dtSeconds feedTanks fs writes =
      ((feedPass rule dtSeconds feedTanks fs writes).report dtSeconds,
        (feedPass rule dtSeconds feedTanks fs writes).fs,
        (feedPass rule dtSeconds feedTanks fs writes).writes) := by
  induction feedTanks generalizing fs writes with
  | nil => rfl
  | cons feedTank rest ih =>
    rw [feedByRule, feedPass]
    by_cases hbelow : ((pctFull fs feedTank).any fun pct => pct < rule.feedBelowPct) = true
    · rw [if_pos hbelow, if_pos hbelow]
      have hburned := transferFuel_burned fs rule.sourceTank feedTank (rule.rateKgPerS * dtSeconds) writes
      simp only [RuleTransfer.outcome, RuleTransfer.amount]
      cases hraised : (fs.transferFuel rule.sourceTank feedTank (rule.rateKgPerS * dtSeconds)
          writes).1.raised with
      | some raised =>
        simp only [RulesPass.report, movedBy, List.flatMap_cons, List.flatMap_nil, List.append_nil,
          RuleTransfer.outcome, RuleTransfer.amount]
        rw [← hraised, ← Report.eq_of_burned hburned]
      | none =>
        simp only [ih, RulesPass.report, movedBy, List.flatMap_cons, RuleTransfer.outcome,
          RuleTransfer.amount]
    · rw [if_neg hbelow, if_neg hbelow]
      exact ih fs writes

theorem rulesPass_report (dtSeconds : ℚ) (rules : List TransferRule) (fs : FuelSystem) (writes : ℕ) :
    applyRules dtSeconds rules fs writes =
      ((rulesPass dtSeconds rules fs writes).report dtSeconds,
        (rulesPass dtSeconds rules fs writes).fs) := by
  induction rules generalizing fs writes with
  | nil => rfl
  | cons rule rest ih =>
    rw [applyRules, rulesPass]
    by_cases habove : ((pctFull fs rule.sourceTank).any fun pct => rule.minSourcePct ≤ pct) = true
    · rw [if_pos habove, if_pos habove]
      simp only [feedPass_report]
      cases hraised : (feedPass rule dtSeconds rule.feedTanks fs writes).raised with
      | some raised => simp only [RulesPass.report, hraised]
      | none =>
        simp only [RulesPass.report, hraised, ih, movedBy, List.flatMap_append]
    · rw [if_neg habove, if_neg habove]
      exact ih fs writes

/-- Whoever does not look at the log sees the update that the worker makes. -/
theorem update_refines (manager : FuelTransferManager) (fs : FuelSystem) (dtSeconds : ℚ) (writes : ℕ) :
    managerUpdate manager.rules fs dtSeconds writes =
      ((manager.pass fs dtSeconds writes).report dtSeconds, (manager.update fs dtSeconds writes).2) := by
  rw [managerUpdate, FuelTransferManager.update, FuelTransferManager.pass]
  split_ifs
  · rfl
  · exact rulesPass_report dtSeconds manager.rules fs writes

/-! ### What the rules promise -/

namespace RuleTransfer

variable (t : RuleTransfer) (dtSeconds : ℚ)

/-- The transfer does not take its source from at or above the minimum of its rule to below it. -/
def KeepsMinimum : Prop :=
  ((pctFull t.before t.rule.sourceTank).any fun pct => t.rule.minSourcePct ≤ pct) = true →
    ((pctFull (t.outcome dtSeconds).2 t.rule.sourceTank).any fun pct =>
      t.rule.minSourcePct ≤ pct) = true

instance : Decidable (t.KeepsMinimum dtSeconds) := inferInstanceAs (Decidable (_ → _))

/-- What left the source and what arrived in the feed tank are both the amount of the entry. -/
def LoggedAs (entry : TransferLogEntry) : Prop :=
  entry.fromTank = t.rule.sourceTank ∧ entry.toTank = t.feedTank ∧
    (t.outcome dtSeconds).1.moved =
      [(entry.fromTank, entry.amountKg), (entry.toTank, -entry.amountKg)]

instance (entry : TransferLogEntry) : Decidable (t.LoggedAs dtSeconds entry) :=
  inferInstanceAs (Decidable (_ ∧ _))

/-- The source holds the amount above the minimum of the rule, and the feed tank has room for it; a tank
that feeds itself only has to hold it.  Both writes of the transfer go through. -/
def Affordable : Prop :=
  2 ≤ t.writes ∧
    ∀ source, Dict.get? t.before.tanks t.rule.sourceTank = some source →
      ∀ feedTank, Dict.get? t.before.tanks t.feedTank = some feedTank →
        if t.rule.sourceTank = t.feedTank then t.amount dtSeconds ≤ source.currentLevel
        else
          t.amount dtSeconds ≤
              source.currentLevel - t.rule.minSourcePct / 100 * source.capacity ∧
            t.amount dtSeconds ≤ feedTank.spaceAvailable

end RuleTransfer

/-- The update respects its rules: no transfer takes its source below the minimum of its rule, each
has its entry in the log, with the amount that went over, and the sum of the levels is what it was. -/
structure RespectsRules (manager : FuelTransferManager) (fs : FuelSystem) (dtSeconds : ℚ)
    (writes : ℕ) : Prop where
  minimum : ∀ t ∈ (manager.pass fs dtSeconds writes).transfers, t.KeepsMinimum dtSeconds
  logged : ∃ entries,
    (manager.update fs dtSeconds writes).1.transferLog = manager.transferLog ++ entries ∧
      List.Forall₂ (fun t entry => t.LoggedAs dtSeconds entry)
        (manager.pass fs dtSeconds writes).transfers entries
  total : (manager.update fs dtSeconds writes).2.total = fs.total

/-! ### One transfer -/

/-- Levels are within their bounds and capacities are positive. -/
structure FuelSystem.Filled (fs : FuelSystem) : Prop where
  bounds : fs.WithinBounds
  capacity : ∀ e ∈ fs.tanks, 0 < e.2.capacity

/-- The tank is there and holds at least the percentage. -/
def FuelSystem.Holds (fs : FuelSystem) (tankName : String) (pct : ℚ) : Prop :=
  ∃ tank, Dict.get? fs.tanks tankName = some tank ∧ pct / 100 * tank.capacity ≤ tank.currentLevel

theorem FuelSystem.Filled.get? {fs : FuelSystem} (hfs : fs.Filled) {tankName : String}
    {tank : FuelTank} (hget : Dict.get? fs.tanks tankName = some tank) :
    tank.InBounds ∧ 0 < tank.capacity :=
  ⟨hfs.bounds _ (Dict.mem_of_get?_eq_some hget), hfs.capacity _ (Dict.mem_of_get?_eq_some hget)⟩

/-- A tank with the capacity that it had stays one with a positive capacity. -/
theorem capacity_set {tanks : Dict String FuelTank} (htanks : ∀ e ∈ tanks, 0 < e.2.capacity)
    {tankName : String} {tank tank' : FuelTank} (hget : Dict.get? tanks tankName = some tank)
    (hcapacity : tank'.capacity = tank.capacity) :
    ∀ e ∈ Dict.set tanks tankName tank', 0 < e.2.capacity := by
  intro e he
  rcases Dict.mem_set he with rfl | he
  · rw [hcapacity]
    exact htanks _ (Dict.mem_of_get?_eq_some hget)
  · exact htanks e he

theorem transferFuel_capacity {fs : FuelSystem} (hfs : ∀ e ∈ fs.tanks, 0 < e.2.capacity)
    (sourceTank destinationTank : String) (amount : ℚ) (writes : ℕ) :
    ∀ e ∈ (fs.transferFuel sourceTank destinationTank amount writes).2.tanks, 0 < e.2.capacity := by
  unfold FuelSystem.transferFuel
  split
  · exact hfs
  · rename_i source hsource
    have hconsumed := capacity_set hfs hsource (source.consume_capacity amount)
    dsimp only
    split
    · exact hconsumed
    · rename_i destination hdestination
      exact capacity_set hconsumed hdestination (destination.refill_capacity _)

theorem pct_le_iff {tank : FuelTank} (hcapacity : 0 < tank.capacity) (pct : ℚ) :
    pct ≤ tank.currentLevel / tank.capacity * 100 ↔
      pct / 100 * tank.capacity ≤ tank.currentLevel := by
  rw [← div_le_iff₀ (by norm_num), le_div_iff₀ hcapacity]

theorem pctFull_any_iff {fs : FuelSystem} (hfs : fs.Filled) (tankName : String) (pct : ℚ) :
    ((pctFull fs tankName).any fun full => pct ≤ full) = true ↔ fs.Holds tankName pct := by
  rw [pctFull, FuelSystem.Holds]
  cases hget : Dict.get? fs.tanks tankName with
  | none => simp
  | some tank =>
    have hcapacity := (hfs.get? hget).2
    simp only [if_neg (not_le.mpr hcapacity), Option.any_some, decide_eq_true_eq,
      Option.some.injEq, exists_eq_left', pct_le_iff hcapacity]

theorem get?_of_pctFull {fs : FuelSystem} {tankName : String} {p : ℚ → Bool}
    (h : ((pctFull fs tankName).any p) = true) :
    ∃ tank, Dict.get? fs.tanks tankName = some tank := by
  rw [pctFull] at h
  cases hget : Dict.get? fs.tanks tankName with
  | none =>
    rw [hget] at h
    cases h
  | some tank => exact ⟨tank, rfl⟩

section

variable {t : RuleTransfer} {dtSeconds : ℚ} {source feedTank : FuelTank}
  (hsource : Dict.get? t.before.tanks t.rule.sourceTank = some source)
  (hfeed : Dict.get? t.before.tanks t.feedTank = some feedTank)

include hsource

variable (dtSeconds) in
/-- A tank that feeds itself is filled with what was just taken out of it. -/
theorem outcome_self (hsame : t.rule.sourceTank = t.feedTank) :
    (t.outcome dtSeconds).1.raised = (if t.writes < 2 then some .database else none) ∧
      (t.outcome dtSeconds).1.moved =
        [(t.rule.sourceTank, (source.consume (t.amount dtSeconds)).1),
          (t.feedTank, -((source.consume (t.amount dtSeconds)).2.refill
            (source.consume (t.amount dtSeconds)).1).1)] ∧
      Dict.get? (t.outcome dtSeconds).2.tanks t.rule.sourceTank =
        some ((source.consume (t.amount dtSeconds)).2.refill
          (source.consume (t.amount dtSeconds)).1).2 := by
  rw [RuleTransfer.outcome, FuelSystem.transferFuel, hsource, ← hsame]
  dsimp only
  rw [Dict.get?_set_self]
  exact ⟨rfl, rfl, Dict.get?_set_self _ _ _⟩

include hfeed

variable (dtSeconds) in
theorem outcome_other (hne : t.rule.sourceTank ≠ t.feedTank) :
    (t.outcome dtSeconds).1.raised = (if t.writes < 2 then some .database else none) ∧
      (t.outcome dtSeconds).1.moved =
        [(t.rule.sourceTank, (source.consume (t.amount dtSeconds)).1),
          (t.feedTank, -(feedTank.refill (source.consume (t.amount dtSeconds)).1).1)] ∧
      Dict.get? (t.outcome dtSeconds).2.tanks t.rule.sourceTank =
        some (source.consume (t.amount dtSeconds)).2 := by
  rw [RuleTransfer.outcome, FuelSystem.transferFuel, hsource]
  dsimp only
  rw [Dict.get?_set_ne _ _ hne, hfeed]
  refine ⟨rfl, rfl, ?_⟩
  rw [Dict.get?_set_ne _ _ (Ne.symm hne), Dict.get?_set_self]

theorem affordable_iff_of_get :
    t.Affordable dtSeconds ↔ 2 ≤ t.writes ∧
      if t.rule.sourceTank = t.feedTank then t.amount dtSeconds ≤ source.currentLevel
      else
        t.amount dtSeconds ≤ source.currentLevel - t.rule.minSourcePct / 100 * source.capacity ∧
          t.amount dtSeconds ≤ feedTank.spaceAvailable := by
  rw [RuleTransfer.Affordable, hsource, hfeed]
  simp only [Option.some.injEq, forall_eq']

variable (dtSeconds) in
/-- The amount went over whole if and only if the source held it and the feed tank had room. -/
theorem loggedAs_entry_iff (hfs : t.before.Filled) :
    t.LoggedAs dtSeconds (t.entry dtSeconds) ↔
      t.amount dtSeconds ≤ source.currentLevel ∧
        (t.rule.sourceTank = t.feedTank ∨ t.amount dtSeconds ≤ feedTank.spaceAvailable) := by
  rw [RuleTransfer.LoggedAs, RuleTransfer.entry]
  dsimp only
  rw [and_iff_right rfl, and_iff_right rfl]
  by_cases hsame : t.rule.sourceTank = t.feedTank
  · obtain ⟨-, hmoved, -⟩ := outcome_self dtSeconds hsource hsame
    rw [hmoved, (refill_consume (hfs.get? hsource).1 (t.amount dtSeconds)).1, FuelTank.consume_fst]
    simp [hsame]
  · obtain ⟨-, hmoved, -⟩ := outcome_other dtSeconds hsource hfeed hsame
    rw [hmoved, FuelTank.refill_fst, FuelTank.consume_fst, or_iff_right hsame]
    simp only [List.cons.injEq, Prod.mk.injEq, true_and, and_true, neg_inj, min_eq_left_iff]
    constructor
    · rintro ⟨hlevel, hroom⟩
      rw [min_eq_left hlevel, min_eq_left_iff] at hroom
      exact ⟨hlevel, hroom⟩
    · rintro ⟨hlevel, hroom⟩
      rw [min_eq_left hlevel, min_eq_left_iff]
      exact ⟨hlevel, hroom⟩

/-- What finds room conserves the fuel and keeps the levels within their bounds. -/
theorem outcome_filled (hfs : t.before.Filled) (hamount : 0 ≤ t.amount dtSeconds)
    (hlogged : t.LoggedAs dtSeconds (t.entry dtSeconds)) :
    (t.outcome dtSeconds).2.Filled ∧ (t.outcome dtSeconds).2.total = t.before.total := by
  obtain ⟨hlevel, hroom⟩ := (loggedAs_entry_iff _ hsource hfeed hfs).mp hlogged
  have hfits : t.before.Fits t.rule.sourceTank t.feedTank (t.amount dtSeconds) := by
    rw [FuelSystem.Fits, hsource, hfeed]
    dsimp only
    rw [min_eq_left hlevel]
    refine hroom.imp_right fun hroom => ⟨hroom, ?_, ?_⟩
    · exact (neg_nonpos.mpr hamount).trans (hfs.get? hfeed).1.1
    · exact (neg_nonpos.mpr hamount).trans (sub_nonneg.mpr (hfs.get? hsource).1.2)
  obtain ⟨hbounds, htotal⟩ :=
    (transferFuel_conserves_iff hfs.bounds _ _ _ t.writes).mpr hfits
  exact ⟨⟨hbounds, transferFuel_capacity hfs.capacity _ _ _ _⟩, htotal⟩

/-- A transfer out of a source at its minimum goes as the rules promise if and only if it is
affordable. -/
theorem affordable_iff (hfs : t.before.Filled) (hamount : 0 ≤ t.amount dtSeconds)
    (hminimum : 0 ≤ t.rule.minSourcePct)
    (hholds : t.before.Holds t.rule.sourceTank t.rule.minSourcePct) :
    t.Affordable dtSeconds ↔ (t.outcome dtSeconds).1.raised = none ∧ t.KeepsMinimum dtSeconds ∧
      t.LoggedAs dtSeconds (t.entry dtSeconds) := by
  have hsourceIn := hfs.get? hsource
  have hlowest : 0 ≤ t.rule.minSourcePct / 100 * source.capacity := by
    have := hsourceIn.2
    positivity
  have hat : t.rule.minSourcePct / 100 * source.capacity ≤ source.currentLevel := by
    obtain ⟨tank, htank, hat⟩ := hholds
    rw [hsource, Option.some.injEq] at htank
    rwa [htank]
  rw [affordable_iff_of_get hsource hfeed]
  have hkeeps : t.LoggedAs dtSeconds (t.entry dtSeconds) → (t.KeepsMinimum dtSeconds ↔
      (t.outcome dtSeconds).2.Holds t.rule.sourceTank t.rule.minSourcePct) := by
    intro hlogged
    rw [RuleTransfer.KeepsMinimum, pctFull_any_iff hfs,
      pctFull_any_iff (outcome_filled hsource hfeed hfs hamount hlogged).1]
    exact forall_prop_of_true hholds
  have hlogged := loggedAs_entry_iff dtSeconds hsource hfeed hfs
  by_cases hsame : t.rule.sourceTank = t.feedTank
  · obtain ⟨hraised, -, hafter⟩ := outcome_self dtSeconds hsource hsame
    rw [or_iff_left_of_imp fun _ => hsame, and_iff_left hsame] at hlogged
    rw [if_pos hsame, hraised, hlogged]
    constructor
    · rintro ⟨hwrites, hlevel⟩
      refine ⟨if_neg (by omega), (hkeeps (hlogged.mpr hlevel)).mpr ⟨_, hafter, ?_⟩, hlevel⟩
      rw [FuelTank.refill_capacity, FuelTank.consume_capacity, FuelTank.refill_level,
        (refill_consume hsourceIn.1 _).1, FuelTank.consume_level, sub_add_cancel]
      exact hat
    · rintro ⟨hwrites, -, hlevel⟩
      refine ⟨?_, hlevel⟩
      by_contra hfew
      rw [if_pos (by omega)] at hwrites
      cases hwrites
  · obtain ⟨hraised, -, hafter⟩ := outcome_other dtSeconds hsource hfeed hsame
    rw [or_iff_right hsame] at hlogged
    have hlevelAfter : t.amount dtSeconds ≤ source.currentLevel →
        ((t.outcome dtSeconds).2.Holds t.rule.sourceTank t.rule.minSourcePct ↔
          t.amount dtSeconds ≤
            source.currentLevel - t.rule.minSourcePct / 100 * source.capacity) := by
      intro hlevel
      rw [FuelSystem.Holds, hafter]
      simp only [Option.some.injEq, exists_eq_left', FuelTank.consume_capacity,
        FuelTank.consume_level, FuelTank.consume_fst, min_eq_left hlevel]
      exact le_sub_comm
    rw [if_neg hsame, hraised]
    constructor
    · rintro ⟨hwrites, hspare, hroom⟩
      have hlevel : t.amount dtSeconds ≤ source.currentLevel :=
        hspare.trans (sub_le_self _ hlowest)
      have hentry := hlogged.mpr ⟨hlevel, hroom⟩
      exact ⟨if_neg (by omega), (hkeeps hentry).mpr ((hlevelAfter hlevel).mpr hspare), hentry⟩
    · rintro ⟨hwrites, hminimum, hentry⟩
      obtain ⟨hlevel, hroom⟩ := hlogged.mp hentry
      refine ⟨?_, (hlevelAfter hlevel).mp ((hkeeps hentry).mp hminimum), hroom⟩
      by_contra hfew
      rw [if_pos (by omega)] at hwrites
      cases hwrites

end

/-! ### The two loops -/

/-- What the transfers of the pass have to do, one by one. -/
def RulesPass.Respects (pass : RulesPass) (dtSeconds : ℚ) : Prop :=
  (∀ t ∈ pass.transfers, t.KeepsMinimum dtSeconds) ∧
    List.Forall₂ (fun t entry => t.LoggedAs dtSeconds entry) pass.transfers pass.log

/-- A pass from `fs` goes as the rules promise if and only if its transfers are affordable, and one that
does leaves the sum of the levels as it was. -/
structure RulesPass.Exact (pass : RulesPass) (fs : FuelSystem) (dtSeconds : ℚ) : Prop where
  iff : pass.Respects dtSeconds ↔ ∀ t ∈ pass.transfers, t.Affordable dtSeconds
  after : (∀ t ∈ pass.transfers, t.Affordable dtSeconds) →
    pass.raised = none ∧ pass.fs.Filled ∧ pass.fs.total = fs.total

theorem RulesPass.exact_nil {fs : FuelSystem} (hfs : fs.Filled) (dtSeconds : ℚ) (writes : ℕ) :
    RulesPass.Exact { fs, writes } fs dtSeconds := by
  refine ⟨?_, fun _ => ⟨rfl, hfs, rfl⟩⟩
  simp [RulesPass.Respects]

/-- As long as nothing raises, each transfer has its entry. -/
theorem feedPass_length (rule : TransferRule) (dtSeconds : ℚ) (feedTanks : List String)
    (fs : FuelSystem) (writes : ℕ) (h : (feedPass rule dtSeconds feedTanks fs writes).raised = none) :
    (feedPass rule dtSeconds feedTanks fs writes).transfers.length =
      (feedPass rule dtSeconds feedTanks fs writes).log.length := by
  induction feedTanks generalizing fs writes with
  | nil => rfl
  | cons feedTank rest ih =>
    rw [feedPass] at h ⊢
    split at h
    · rename_i hbelow
      rw [if_pos hbelow]
      dsimp only at h ⊢
      split at h
      · cases h
      · exact congrArg (· + 1) (ih _ _ h)
    · rename_i hnot
      rw [if_neg hnot]
      exact ih _ _ h

/-- One pass after another. -/
theorem RulesPass.Exact.append {fed pass : RulesPass} {fs : FuelSystem} {dtSeconds : ℚ}
    (hfed : fed.Exact fs dtSeconds) (hlength : fed.transfers.length = fed.log.length)
    (hpass : (∀ t ∈ fed.transfers, t.Affordable dtSeconds) → pass.Exact fed.fs dtSeconds) :
    RulesPass.Exact
      { pass with log := fed.log ++ pass.log, transfers := fed.transfers ++ pass.transfers }
      fs dtSeconds := by
  by_cases hall : ∀ t ∈ fed.transfers, t.Affordable dtSeconds
  · obtain ⟨-, -, htotal⟩ := hfed.after hall
    obtain ⟨hminimum, hlogged⟩ := hfed.iff.mpr hall
    have hlater := hpass hall
    refine ⟨?_, fun h => ?_⟩
    · rw [List.forall_mem_append, ← hlater.iff, and_iff_right hall]
      simp only [RulesPass.Respects, List.forall_mem_append, and_iff_right hminimum]
      refine and_congr_right fun _ => ⟨fun h => ?_, fun h => List.rel_append hlogged h⟩
      have hdrop := List.forall₂_drop_append _ _ _ h
      rwa [← hlength, List.drop_left] at hdrop
    · obtain ⟨hnone, hfilled, htotal'⟩ :=
        hlater.after fun t ht => h t (List.mem_append_right _ ht)
      exact ⟨hnone, hfilled, htotal'.trans htotal⟩
  · refine ⟨iff_of_false (fun h => hall (hfed.iff.mp ⟨fun t ht => ?_, ?_⟩)) fun h => hall ?_,
      fun h => absurd ?_ hall⟩
    · exact h.1 t (List.mem_append_left _ ht)
    · have htake := List.forall₂_take_append _ _ _ h.2
      rwa [← hlength, List.take_left] at htake
    · exact fun t ht => h t (List.mem_append_left _ ht)
    · exact fun t ht => h t (List.mem_append_left _ ht)

/-- The parameters of a rule: the rate is not negative and the percentages are between 0 and 100. -/
structure TransferRule.Sensible (rule : TransferRule) : Prop where
  rate : 0 ≤ rule.rateKgPerS
  feedBelow : 0 ≤ rule.feedBelowPct ∧ rule.feedBelowPct ≤ 100
  minSource : 0 ≤ rule.minSourcePct ∧ rule.minSourcePct ≤ 100

/-- The induction is on the feed tanks: an affordable transfer leaves the source at or above the
minimum, which is all that the next one needs. -/
theorem feedPass_exact {rule : TransferRule} (hrule : rule.Sensible) {dtSeconds : ℚ}
    (hdt : 0 < dtSeconds) (feedTanks : List String) {fs : FuelSystem} (hfs : fs.Filled)
    (hholds : fs.Holds rule.sourceTank rule.minSourcePct) (writes : ℕ) :
    (feedPass rule dtSeconds feedTanks fs writes).Exact fs dtSeconds := by
  induction feedTanks generalizing fs writes with
  | nil => exact RulesPass.exact_nil hfs dtSeconds writes
  | cons feedTank rest ih =>
    rw [feedPass]
    by_cases hbelow : ((pctFull fs feedTank).any fun pct => pct < rule.feedBelowPct) = true
    · rw [if_pos hbelow]
      obtain ⟨tank, htank⟩ := get?_of_pctFull hbelow
      obtain ⟨source, hsource, -⟩ := id hholds
      set t : RuleTransfer := ⟨rule, feedTank, fs, writes⟩ with ht
      have hamount : 0 ≤ t.amount dtSeconds := mul_nonneg hrule.rate hdt.le
      have haffordable := affordable_iff (t := t) hsource htank hfs hamount hrule.minSource.1 hholds
      dsimp only
      cases hraised : (t.outcome dtSeconds).1.raised with
      | some raised =>
        have hnot : ¬ t.Affordable dtSeconds := by
          rw [haffordable, hraised]
          exact fun h => nomatch h.1
        refine ⟨iff_of_false (fun h => nomatch h.2) fun h => ?_, fun h => ?_⟩
        · exact hnot (h t (List.mem_singleton_self t))
        · exact absurd (h t (List.mem_singleton_self t)) hnot
      | none =>
        rw [hraised, and_iff_right rfl] at haffordable
        by_cases hthis : t.Affordable dtSeconds
        · obtain ⟨hminimum, hlogged⟩ := haffordable.mp hthis
          obtain ⟨hfilled, htotal⟩ := outcome_filled hsource htank hfs hamount hlogged
          have hstill : (t.outcome dtSeconds).2.Holds rule.sourceTank rule.minSourcePct :=
            (pctFull_any_iff hfilled _ _).mp (hminimum ((pctFull_any_iff hfs _ _).mpr hholds))
          have hrest := ih hfilled hstill (writes - 2)
          refine ⟨?_, fun h => ?_⟩
          · rw [List.forall_mem_cons, ← hrest.iff, and_iff_right hthis]
            simp only [RulesPass.Respects, List.forall_mem_cons, List.forall₂_cons,
              and_iff_right hminimum, and_iff_right hlogged]
          · obtain ⟨hnone, hfilled', htotal'⟩ := hrest.after fun t' ht' => h t' (by simp [ht'])
            exact ⟨hnone, hfilled', htotal'.trans htotal⟩
        · refine ⟨iff_of_false (fun h => hthis ?_) fun h => ?_, fun h => ?_⟩
          · exact haffordable.mpr ⟨h.1 t (by simp), (List.forall₂_cons.mp h.2).1⟩
          · exact hthis (h t (by simp))
          · exact absurd (h t (by simp)) hthis
    · rw [if_neg hbelow]
      exact ih hfs hholds writes

theorem rulesPass_exact {dtSeconds : ℚ} (hdt : 0 < dtSeconds) {rules : List TransferRule}
    (hrules : ∀ rule ∈ rules, rule.Sensible) {fs : FuelSystem} (hfs : fs.Filled) (writes : ℕ) :
    (rulesPass dtSeconds rules fs writes).Exact fs dtSeconds := by
  induction rules generalizing fs writes with
  | nil => exact RulesPass.exact_nil hfs dtSeconds writes
  | cons rule rest ih =>
    have hrest : ∀ {fs : FuelSystem}, fs.Filled → ∀ writes,
        (rulesPass dtSeconds rest fs writes).Exact fs dtSeconds :=
      ih fun rule' hrule' => hrules rule' (List.mem_cons_of_mem rule hrule')
    rw [rulesPass]
    by_cases habove : ((pctFull fs rule.sourceTank).any fun pct => rule.minSourcePct ≤ pct) = true
    · rw [if_pos habove]
      have hfed := feedPass_exact (hrules rule (by simp)) hdt rule.feedTanks hfs
        ((pctFull_any_iff hfs _ _).mp habove) writes
      dsimp only
      split
      · exact hfed
      · rename_i hraised
        exact hfed.append (feedPass_length rule dtSeconds rule.feedTanks fs writes hraised)
          fun hall => hrest (hfed.after hall).2.1 _
    · rw [if_neg habove]
      exact hrest hfs writes

/-- An update respects its rules if and only if each transfer that it makes is affordable when it comes
to it: the source holds the amount above the minimum of the rule, the feed tank has room for it, and
both writes to the database go through. -/
theorem respects_rules_iff {manager : FuelTransferManager} {fs : FuelSystem} {dtSeconds : ℚ}
    (hrules : ∀ rule ∈ manager.rules, rule.Sensible) (hfs : fs.Filled) (hdt : 0 < dtSeconds)
    (writes : ℕ) :
    RespectsRules manager fs dtSeconds writes ↔
      ∀ t ∈ (manager.pass fs dtSeconds writes).transfers, t.Affordable dtSeconds := by
  have hpass : manager.pass fs dtSeconds writes = rulesPass dtSeconds manager.rules fs writes :=
    if_neg (not_le.mpr hdt)
  have hexact := rulesPass_exact hdt hrules hfs writes
  rw [← hpass] at hexact
  rw [← hexact.iff]
  constructor
  · rintro ⟨hminimum, ⟨entries, hentries, hlogged⟩, -⟩
    have heq : (manager.pass fs dtSeconds writes).log = entries := List.append_cancel_left hentries
    exact ⟨hminimum, heq ▸ hlogged⟩
  · intro h
    exact ⟨h.1, ⟨_, rfl, h.2⟩, (hexact.after (hexact.iff.mp h)).2.2⟩

/-- A rule that feeds the left main tank from the center tank. -/
def fromCenter : TransferRule := { sourceTank := "Center", feedTanks := ["Main Left"] }

/-- Two tanks of the same size. -/
def twoTanks (center mainLeft : ℚ) : FuelSystem :=
  { tanks := [("Center", ⟨"Center", 100, center⟩), ("Main Left", ⟨"Main Left", 100, mainLeft⟩)] }

theorem from_center_respects : RespectsRules { rules := [fromCenter] } (twoTanks 50 10) 1 2 := by
  refine (respects_rules_iff ?_ ⟨by decide +kernel, by decide +kernel⟩ (by norm_num) 2).mpr ?_
  · simpa using ⟨by decide +kernel, by decide +kernel, by decide +kernel⟩
  · have htransfers : (FuelTransferManager.pass { rules := [fromCenter] } (twoTanks 50 10) 1
        2).transfers = [⟨fromCenter, "Main Left", twoTanks 50 10, 2⟩] := by
      decide +kernel
    rw [htransfers, List.forall_mem_singleton]
    exact (affordable_iff_of_get rfl rfl).mpr (by decide +kernel)

/-- A center tank that is just at the minimum of 20% goes below it. -/
theorem center_below_minimum :
    ¬ RespectsRules { rules := [fromCenter] } (twoTanks 20 10) 1 2 := by
  intro h
  have hminimum := h.minimum ⟨fromCenter, "Main Left", twoTanks 20 10, 2⟩ (by decide +kernel)
  revert hminimum
  decide +kernel

end Fmofp.Fuel
