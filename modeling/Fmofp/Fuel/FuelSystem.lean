import Fmofp.Python.Dict

/-! The fuel system of the engine management: tanks, engines and the lines between them, with the
amounts that each operation takes out of the tanks.  Another thread may set the thrust of an engine
while a pass is under way, and every write to the database may raise. -/

namespace Fmofp.Fuel

open Python

structure FuelTank where
  name : String
  capacity : ℚ
  currentLevel : ℚ
  deriving Repr, DecidableEq

/-- `FuelTank(name, capacity)`: a full tank. -/
def FuelTank.new (name : String) (capacity : ℚ) : FuelTank := ⟨name, capacity, capacity⟩

/-- What is consumed, and the tank after it. -/
def FuelTank.consume (tank : FuelTank) (amount : ℚ) : ℚ × FuelTank :=
  if amount > tank.currentLevel then (tank.currentLevel, { tank with currentLevel := 0 })
  else (amount, { tank with currentLevel := tank.currentLevel - amount })

def FuelTank.spaceAvailable (tank : FuelTank) : ℚ := tank.capacity - tank.currentLevel

/-- What is filled in, and the tank after it. -/
def FuelTank.refill (tank : FuelTank) (amount : ℚ) : ℚ × FuelTank :=
  if amount > tank.spaceAvailable then
    (tank.spaceAvailable, { tank with currentLevel := tank.capacity })
  else (amount, { tank with currentLevel := tank.currentLevel + amount })

structure Engine where
  name : String
  maxThrust : ℚ
  currentThrust : ℚ := 0
  fuelConsumptionRate : ℚ := 0
  deriving Repr, DecidableEq

def Engine.setThrust (engine : Engine) (thrustPercentage : ℚ) : Engine :=
  let currentThrust := engine.maxThrust * (thrustPercentage / 100)
  { engine with currentThrust, fuelConsumptionRate := currentThrust * (1 / 10) }

structure FuelSystem where
  tanks : Dict String FuelTank := []
  engines : Dict String Engine := []
  fuelLines : Dict String (List String) := []
  transferRates : Dict (String × String) ℚ := []
  deriving Repr, DecidableEq

inductive Raised
  | keyError (key : String)
  | database
  deriving Repr, DecidableEq

/-- What a call leaves behind besides the state: what it raised, what the engines burned out of each
tank, and what transfers took out of each tank (a refill counts as a negative amount). -/
structure Report where
  raised : Option Raised := none
  burned : List (String × ℚ) := []
  moved : List (String × ℚ) := []
  deriving Repr, DecidableEq

/-- A percentage that `set_engine_thrust` is called with. -/
abbrev Percentage := { p : ℚ // 0 ≤ p ∧ p ≤ 100 }

structure ThrustCall where
  engineName : String
  thrustPercentage : Percentage

namespace FuelSystem

def addTank (fs : FuelSystem) (name : String) (capacity : ℚ) : FuelSystem :=
  { fs with tanks := Dict.set fs.tanks name (.new name capacity) }

def addEngine (fs : FuelSystem) (name : String) (maxThrust : ℚ) : FuelSystem :=
  { fs with engines := Dict.set fs.engines name { name, maxThrust } }

def connectTankToEngine (fs : FuelSystem) (tankName engineName : String) (transferRate : ℚ) :
    FuelSystem :=
  { fs with
    fuelLines := Dict.set fs.fuelLines tankName (Dict.getD fs.fuelLines tankName [] ++ [engineName])
    transferRates := Dict.set fs.transferRates (tankName, engineName) transferRate }

/-- `fuel_lines[tank_name]`; the empty entry that a `defaultdict` makes for a missing key reads the
same as the missing one. -/
def lines (fs : FuelSystem) (tankName : String) : List String := Dict.getD fs.fuelLines tankName []

/-- `get_fuel_status`. -/
def getFuelStatus (fs : FuelSystem) : Dict String ℚ :=
  Dict.update [] (fs.tanks.map fun e => (e.2.name, e.2.currentLevel))

end FuelSystem

/-- `set_engine_thrust`: an unknown engine is passed over.  The write comes after the change. -/
def setEngineThrust (engines : Dict String Engine) (engineName : String) (thrustPercentage : ℚ) :
    Dict String Engine :=
  match Dict.get? engines engineName with
  | some engine => Dict.set engines engineName (engine.setThrust thrustPercentage)
  | none => engines

/-- The thrust calls of another thread, one after the other. -/
def setThrusts (engines : Dict String Engine) (calls : List ThrustCall) : Dict String Engine :=
  calls.foldl (fun engines call =>
    setEngineThrust engines call.engineName call.thrustPercentage) engines

/-- `transfer_fuel`.  Two writes follow the two changes. -/
def FuelSystem.transferFuel (fs : FuelSystem) (sourceTank destinationTank : String) (amount : ℚ)
    (writes : ℕ) : Report × FuelSystem :=
  match Dict.get? fs.tanks sourceTank with
  | none => ({ raised := some (.keyError sourceTank) }, fs)
  | some source =>
    let (transferred, source) := source.consume amount
    let tanks := Dict.set fs.tanks sourceTank source
    match Dict.get? tanks destinationTank with
    | none => ({ raised := some (.keyError destinationTank), moved := [(sourceTank, transferred)] },
        { fs with tanks })
    | some destination =>
      -- nobody looks at how much of it found room
      let (filled, destination) := destination.refill transferred
      ({ raised := if writes < 2 then some .database else none
         moved := [(sourceTank, transferred), (destinationTank, -filled)] },
        { fs with tanks := Dict.set tanks destinationTank destination })

/-- A pass of `update` over some of the lines: the engines may change on the way. -/
structure Feed where
  tank : FuelTank
  engines : Dict String Engine
  burned : List ℚ
  raised : Option Raised
  between : List (List ThrustCall)
  writes : ℕ

/-- The lines of one tank.  `between` holds the thrust calls of other threads before each reading of an
engine, and `writes` the writes that go through before one raises. -/
def feed (deltaTime : ℚ) :
    List String → FuelTank → Dict String Engine → List (List ThrustCall) → ℕ → Feed
  | [], tank, engines, between, writes => ⟨tank, engines, [], none, between, writes⟩
  | engineName :: rest, tank, engines, between, writes =>
    let engines := setThrusts engines (between.headD [])
    match Dict.get? engines engineName with
    | none => ⟨tank, engines, [], some (.keyError engineName), between.tail, writes⟩
    | some engine =>
      let fuelRequired := engine.fuelConsumptionRate * deltaTime
      let (fuelConsumed, tank) := tank.consume fuelRequired
      match writes with
      | 0 => ⟨tank, engines, [fuelConsumed], some .database, between.tail, 0⟩
      | writes + 1 =>
        let pass := feed deltaTime rest tank engines between.tail writes
        { pass with burned := fuelConsumed :: pass.burned }

/-- A pass of `update` over some of the tanks. -/
structure TanksFed where
  tanks : Dict String FuelTank
  engines : Dict String Engine
  burned : List (String × ℚ)
  raised : Option Raised

def feedTanks (lines : String → List String) (deltaTime : ℚ) :
    Dict String FuelTank → Dict String Engine → List (List ThrustCall) → ℕ → TanksFed
  | [], engines, _, _ => ⟨[], engines, [], none⟩
  | (tankName, tank) :: rest, engines, between, writes =>
    let pass := feed deltaTime (lines tankName) tank engines between writes
    let burned := pass.burned.map fun amount => (tankName, amount)
    match pass.raised with
    | some raised => ⟨(tankName, pass.tank) :: rest, pass.engines, burned, some raised⟩
    | none =>
      let fed := feedTanks lines deltaTime rest pass.engines pass.between pass.writes
      ⟨(tankName, pass.tank) :: fed.tanks, fed.engines, burned ++ fed.burned, fed.raised⟩

/-- `update`. -/
def FuelSystem.update (fs : FuelSystem) (deltaTime : ℚ) (between : List (List ThrustCall))
    (writes : ℕ) : Report × FuelSystem :=
  let fed := feedTanks fs.lines deltaTime fs.tanks fs.engines between writes
  ({ raised := fed.raised, burned := fed.burned },
    { fs with tanks := fed.tanks, engines := fed.engines })

/-- The data of a message: names and amounts that nobody checks, `none` where the key is missing. -/
structure FuelData where
  engineThrust : Option ℚ := none
  engineName : Option String := none
  fuelTransfer : Bool := false
  sourceTank : Option String := none
  destinationTank : Option String := none
  amount : Option ℚ := none
  deriving Repr, DecidableEq

/-- `receive_message`. -/
def FuelSystem.receiveMessage (fs : FuelSystem) (data : FuelData) (writes : ℕ) :
    Report × FuelSystem :=
  match data.engineThrust with
  | some thrustPercentage =>
    match data.engineName with
    | none => ({ raised := some (.keyError "engine_name") }, fs)
    | some engineName =>
      let known := Dict.has fs.engines engineName
      ({ raised := if known ∧ writes = 0 then some .database else none },
        { fs with engines := setEngineThrust fs.engines engineName thrustPercentage })
  | none =>
    if data.fuelTransfer then
      match data.sourceTank, data.destinationTank, data.amount with
      | none, _, _ => ({ raised := some (.keyError "source_tank") }, fs)
      | _, none, _ => ({ raised := some (.keyError "destination_tank") }, fs)
      | _, _, none => ({ raised := some (.keyError "amount") }, fs)
      | some sourceTank, some destinationTank, some amount =>
        fs.transferFuel sourceTank destinationTank amount writes
    else ({}, fs)

/-- What `perform_fuel_transfer` does for one main tank, from the levels that it read at its
beginning. -/
def FuelSystem.topUp (fs : FuelSystem) (status : Dict String ℚ) (tankName : String) (writes : ℕ) :
    Report × FuelSystem :=
  match Dict.get? status tankName with
  | none => ({ raised := some (.keyError tankName) }, fs)
  | some level => if level < 5000 then fs.transferFuel "Center" tankName 1000 writes else ({}, fs)

/-- `FuelManagementSystem.perform_fuel_transfer`. -/
def FuelSystem.performFuelTransfer (fs : FuelSystem) (writes : ℕ) : Report × FuelSystem :=
  let status := fs.getFuelStatus
  match Dict.get? status "Center" with
  | none => ({ raised := some (.keyError "Center") }, fs)
  | some center =>
    if center > 5000 then
      let left := fs.topUp status "Main Left" writes
      match left.1.raised with
      | some _ => left
      | none =>
        -- a transfer that went through took two of the writes
        let right := left.2.topUp status "Main Right" (writes - left.1.moved.length)
        ({ right.1 with moved := left.1.moved ++ right.1.moved }, right.2)
    else ({}, fs)

end Fmofp.Fuel

/-! Every operation of the fuel system accounts for the fuel: what a tank has less after it is what its
report says that engines burned out of the tank and transfers took out of it. -/

namespace Fmofp.Fuel

open Python

/-! ### One tank -/

namespace FuelTank

variable (tank : FuelTank) (amount : ℚ)

@[simp] theorem consume_name : (tank.consume amount).2.name = tank.name := by
  unfold consume
  split_ifs <;> rfl

@[simp] theorem consume_capacity : (tank.consume amount).2.capacity = tank.capacity := by
  unfold consume
  split_ifs <;> rfl

@[simp] theorem refill_name : (tank.refill amount).2.name = tank.name := by
  unfold refill
  split_ifs <;> rfl

@[simp] theorem refill_capacity : (tank.refill amount).2.capacity = tank.capacity := by
  unfold refill
  split_ifs <;> rfl

theorem consume_fst : (tank.consume amount).1 = min amount tank.currentLevel := by
  unfold consume
  split_ifs with h
  · exact (min_eq_right (le_of_lt h)).symm
  · exact (min_eq_left (not_lt.mp h)).symm

theorem consume_level :
    (tank.consume amount).2.currentLevel = tank.currentLevel - (tank.consume amount).1 := by
  unfold consume
  split_ifs
  · exact (sub_self _).symm
  · rfl

theorem refill_fst : (tank.refill amount).1 = min amount tank.spaceAvailable := by
  unfold refill
  split_ifs with h
  · exact (min_eq_right (le_of_lt h)).symm
  · exact (min_eq_left (not_lt.mp h)).symm

theorem refill_level :
    (tank.refill amount).2.currentLevel = tank.currentLevel + (tank.refill amount).1 := by
  unfold refill spaceAvailable
  split_ifs
  · exact (add_sub_cancel _ _).symm
  · rfl

end FuelTank

/-! ### What a log says about one tank -/

/-- What the entries of `tankName` add up to. -/
def taken (log : List (String × ℚ)) (tankName : String) : ℚ :=
  (log.map fun entry => if entry.1 = tankName then entry.2 else 0).sum

/-- What all entries add up to. -/
def sumOf (log : List (String × ℚ)) : ℚ := (log.map fun entry => entry.2).sum

@[simp] theorem taken_nil (tankName : String) : taken [] tankName = 0 := rfl

@[simp] theorem sumOf_nil : sumOf [] = 0 := rfl

theorem taken_cons (entry : String × ℚ) (log : List (String × ℚ)) (tankName : String) :
    taken (entry :: log) tankName = (if entry.1 = tankName then entry.2 else 0) + taken log tankName :=
  rfl

theorem sumOf_cons (entry : String × ℚ) (log : List (String × ℚ)) :
    sumOf (entry :: log) = entry.2 + sumOf log := rfl

theorem taken_append (log log' : List (String × ℚ)) (tankName : String) :
    taken (log ++ log') tankName = taken log tankName + taken log' tankName := by
  rw [taken, List.map_append, List.sum_append]
  rfl

theorem sumOf_append (log log' : List (String × ℚ)) : sumOf (log ++ log') = sumOf log + sumOf log' := by
  rw [sumOf, List.map_append, List.sum_append]
  rfl

/-- The entries of one tank say nothing about another one. -/
theorem taken_tag_ne {tankName other : String} (h : other ≠ tankName) (amounts : List ℚ) :
    taken (amounts.map fun amount => (other, amount)) tankName = 0 := by
  induction amounts with
  | nil => rfl
  | cons amount rest ih => rw [List.map_cons, taken_cons, if_neg h, ih, add_zero]

theorem taken_tag (tankName : String) (amounts : List ℚ) :
    taken (amounts.map fun amount => (tankName, amount)) tankName = amounts.sum := by
  induction amounts with
  | nil => rfl
  | cons amount rest ih => rw [List.map_cons, taken_cons, if_pos rfl, ih, List.sum_cons]

theorem sumOf_tag (tankName : String) (amounts : List ℚ) :
    sumOf (amounts.map fun amount => (tankName, amount)) = amounts.sum := by
  induction amounts with
  | nil => rfl
  | cons amount rest ih => rw [List.map_cons, sumOf_cons, ih, List.sum_cons]

/-! ### The account of one operation -/

/-- The sum of all levels. -/
def FuelSystem.total (fs : FuelSystem) : ℚ := Dict.tally FuelTank.currentLevel fs.tanks

/-- `tank'` is `tank` with `amount` less in it. -/
structure Less (amount : ℚ) (tank tank' : FuelTank) : Prop where
  name : tank'.name = tank.name
  capacity : tank'.capacity = tank.capacity
  level : tank'.currentLevel = tank.currentLevel - amount

theorem Less.refl (tank : FuelTank) : Less 0 tank tank := ⟨rfl, rfl, (sub_zero _).symm⟩

theorem Less.trans {a b : ℚ} {tank tank' tank'' : FuelTank} (h : Less a tank tank')
    (h' : Less b tank' tank'') : Less (a + b) tank tank'' :=
  ⟨h'.name.trans h.name, h'.capacity.trans h.capacity, by rw [h'.level, h.level, sub_sub]⟩

theorem FuelTank.less_consume (tank : FuelTank) (amount : ℚ) :
    Less (tank.consume amount).1 tank (tank.consume amount).2 :=
  ⟨tank.consume_name amount, tank.consume_capacity amount, tank.consume_level amount⟩

theorem FuelTank.less_refill (tank : FuelTank) (amount : ℚ) :
    Less (-(tank.refill amount).1) tank (tank.refill amount).2 :=
  ⟨tank.refill_name amount, tank.refill_capacity amount,
    by rw [tank.refill_level amount, sub_neg_eq_add]⟩

/-- The report of an operation accounts for what it changes in the tanks: tank by tank, and in sum. -/
structure Accounts (tanks : Dict String FuelTank) (log : List (String × ℚ))
    (tanks' : Dict String FuelTank) : Prop where
  keys : tanks'.map Prod.fst = tanks.map Prod.fst
  named : (∀ e ∈ tanks, e.2.name = e.1) → ∀ e ∈ tanks', e.2.name = e.1
  known : ∀ tankName tank, Dict.get? tanks tankName = some tank →
    ∃ tank', Dict.get? tanks' tankName = some tank' ∧ Less (taken log tankName) tank tank'
  total : Dict.tally FuelTank.currentLevel tanks' + sumOf log = Dict.tally FuelTank.currentLevel tanks

theorem Accounts.refl (tanks : Dict String FuelTank) : Accounts tanks [] tanks :=
  ⟨rfl, id, fun _ tank h => ⟨tank, h, .refl tank⟩, add_zero _⟩

theorem Accounts.trans {tanks tanks' tanks'' : Dict String FuelTank} {log log' : List (String × ℚ)}
    (h : Accounts tanks log tanks') (h' : Accounts tanks' log' tanks'') :
    Accounts tanks (log ++ log') tanks'' := by
  refine ⟨h'.keys.trans h.keys, h'.named ∘ h.named, fun tankName tank hget => ?_, ?_⟩
  · obtain ⟨tank', hget', hless⟩ := h.known tankName tank hget
    obtain ⟨tank'', hget'', hless'⟩ := h'.known tankName tank' hget'
    rw [taken_append]
    exact ⟨tank'', hget'', hless.trans hless'⟩
  · rw [sumOf_append, add_comm (sumOf log), ← add_assoc, h'.total, h.total]

/-- A tank that is there after the operation was there before it. -/
theorem Accounts.before {tanks tanks' : Dict String FuelTank} {log : List (String × ℚ)}
    (h : Accounts tanks log tanks') {tankName : String} {tank' : FuelTank}
    (hget' : Dict.get? tanks' tankName = some tank') :
    ∃ tank, Dict.get? tanks tankName = some tank ∧ Less (taken log tankName) tank tank' := by
  cases hget : Dict.get? tanks tankName with
  | none =>
    rw [Dict.get?_eq_none_iff, ← h.keys, ← Dict.get?_eq_none_iff, hget'] at hget
    cases hget
  | some tank =>
    obtain ⟨tank'', hget'', hless⟩ := h.known tankName tank hget
    rw [hget', Option.some.injEq] at hget''
    exact ⟨tank, rfl, hget'' ▸ hless⟩

/-- A change of one tank. -/
theorem accounts_set {tanks : Dict String FuelTank} {tankName : String} {amount : ℚ}
    {tank tank' : FuelTank} (hget : Dict.get? tanks tankName = some tank)
    (hless : Less amount tank tank') :
    Accounts tanks [(tankName, amount)] (Dict.set tanks tankName tank') := by
  refine ⟨Dict.keys_set_of_get? hget tank', fun hnamed e he => ?_, fun other t hother => ?_, ?_⟩
  · rcases Dict.mem_set he with rfl | he
    · exact hless.name.trans (hnamed _ (Dict.mem_of_get?_eq_some hget))
    · exact hnamed e he
  · rw [taken_cons, taken_nil, add_zero, Dict.get?_set]
    by_cases hname : tankName = other
    · subst hname
      rw [if_pos rfl, if_pos rfl]
      rw [hget, Option.some.injEq] at hother
      exact ⟨tank', rfl, hother ▸ hless⟩
    · rw [if_neg hname, if_neg hname]
      exact ⟨t, hother, .refl t⟩
  · have hzero : FuelTank.currentLevel ⟨"", 0, 0⟩ = 0 := rfl
    have htally := Dict.tally_set hzero tanks tankName tank'
    rw [Dict.getD, hget, Option.getD_some] at htally
    rw [sumOf_cons, sumOf_nil, add_zero]
    linarith [hless.level]

/-! ### The operations -/

theorem transferFuel_accounts (fs : FuelSystem) (sourceTank destinationTank : String) (amount : ℚ)
    (writes : ℕ) :
    Accounts fs.tanks (fs.transferFuel sourceTank destinationTank amount writes).1.moved
      (fs.transferFuel sourceTank destinationTank amount writes).2.tanks := by
  unfold FuelSystem.transferFuel
  split
  · exact .refl _
  · rename_i source hsource
    have hconsumed := accounts_set hsource (source.less_consume amount)
    dsimp only
    split
    · exact hconsumed
    · rename_i destination hdestination
      exact hconsumed.trans (accounts_set hdestination (destination.less_refill _))

theorem transferFuel_burned (fs : FuelSystem) (sourceTank destinationTank : String) (amount : ℚ)
    (writes : ℕ) : (fs.transferFuel sourceTank destinationTank amount writes).1.burned = [] := by
  unfold FuelSystem.transferFuel
  split
  · rfl
  · dsimp only
    split <;> rfl

theorem feed_less (deltaTime : ℚ) (engineNames : List String) (tank : FuelTank)
    (engines : Dict String Engine) (between : List (List ThrustCall)) (writes : ℕ) :
    Less (feed deltaTime engineNames tank engines between writes).burned.sum tank
      (feed deltaTime engineNames tank engines between writes).tank := by
  induction engineNames generalizing tank engines between writes with
  | nil => exact .refl tank
  | cons engineName rest ih =>
    rw [feed]
    dsimp only
    split
    · exact .refl tank
    · rename_i engine hengine
      have hconsumed := tank.less_consume (engine.fuelConsumptionRate * deltaTime)
      cases writes with
      | zero =>
        dsimp only
        rw [List.sum_singleton]
        exact hconsumed
      | succ writes =>
        dsimp only
        rw [List.sum_cons]
        exact hconsumed.trans (ih _ _ _ _)

/-- The first tank of a dictionary with a change in it, and the others with theirs. -/
theorem Accounts.cons {tankName : String} {tank tank' : FuelTank} {rest rest' : Dict String FuelTank}
    {amounts : List ℚ} {log : List (String × ℚ)} (hnew : tankName ∉ rest.map Prod.fst)
    (hless : Less amounts.sum tank tank') (hrest : Accounts rest log rest')
    (hlog : ∀ entry ∈ log, entry.1 ∈ rest.map Prod.fst) :
    Accounts ((tankName, tank) :: rest) ((amounts.map fun amount => (tankName, amount)) ++ log)
      ((tankName, tank') :: rest') := by
  refine ⟨by rw [List.map_cons, List.map_cons, hrest.keys], fun hnamed e he => ?_,
    fun other t hget => ?_, ?_⟩
  · rcases List.mem_cons.mp he with rfl | he
    · exact hless.name.trans (hnamed _ List.mem_cons_self)
    · exact hrest.named (fun e he => hnamed e (List.mem_cons_of_mem _ he)) e he
  · rw [taken_append]
    by_cases hname : tankName = other
    · subst hname
      have hlater : taken log tankName = 0 := by
        apply List.sum_eq_zero
        intro x hx
        obtain ⟨entry, hentry, rfl⟩ := List.mem_map.mp hx
        exact if_neg fun h : entry.1 = tankName => hnew (h ▸ hlog entry hentry)
      rw [Dict.get?_cons, if_pos rfl, Option.some.injEq] at hget
      rw [taken_tag, hlater, add_zero, Dict.get?_cons, if_pos rfl, ← hget]
      exact ⟨tank', rfl, hless⟩
    · rw [Dict.get?_cons, if_neg hname] at hget
      rw [taken_tag_ne hname, zero_add, Dict.get?_cons, if_neg hname]
      exact hrest.known other t hget
  · rw [sumOf_append, sumOf_tag, Dict.tally_cons, Dict.tally_cons, hless.level, ← hrest.total]
    ring

theorem feedTanks_burned_keys (lines : String → List String) (deltaTime : ℚ)
    (tanks : Dict String FuelTank) (engines : Dict String Engine) (between : List (List ThrustCall))
    (writes : ℕ) :
    ∀ entry ∈ (feedTanks lines deltaTime tanks engines between writes).burned,
      entry.1 ∈ tanks.map Prod.fst := by
  induction tanks generalizing engines between writes with
  | nil => intro entry hentry; cases hentry
  | cons e rest ih =>
    obtain ⟨tankName, tank⟩ := e
    rw [feedTanks]
    dsimp only
    intro entry hentry
    split at hentry
    · obtain ⟨amount, -, rfl⟩ := List.mem_map.mp hentry
      exact List.mem_cons_self
    · rcases List.mem_append.mp hentry with hentry | hentry
      · obtain ⟨amount, -, rfl⟩ := List.mem_map.mp hentry
        exact List.mem_cons_self
      · exact List.mem_cons_of_mem _ (ih _ _ _ entry hentry)

theorem feedTanks_accounts (lines : String → List String) (deltaTime : ℚ)
    {tanks : Dict String FuelTank} (hkeys : (tanks.map Prod.fst).Nodup)
    (engines : Dict String Engine) (between : List (List ThrustCall)) (writes : ℕ) :
    Accounts tanks (feedTanks lines deltaTime tanks engines between writes).burned
      (feedTanks lines deltaTime tanks engines between writes).tanks := by
  induction tanks generalizing engines between writes with
  | nil => exact .refl []
  | cons e rest ih =>
    obtain ⟨tankName, tank⟩ := e
    rw [List.map_cons, List.nodup_cons] at hkeys
    have hfirst := feed_less deltaTime (lines tankName) tank engines between writes
    rw [feedTanks]
    dsimp only
    split
    · rw [← List.append_nil (List.map _ _)]
      exact .cons hkeys.1 hfirst (.refl rest) (by simp)
    · exact .cons hkeys.1 hfirst (ih hkeys.2 _ _ _) (feedTanks_burned_keys lines deltaTime rest _ _ _)

theorem update_accounts {fs : FuelSystem} (hkeys : (fs.tanks.map Prod.fst).Nodup) (deltaTime : ℚ)
    (between : List (List ThrustCall)) (writes : ℕ) :
    Accounts fs.tanks (fs.update deltaTime between writes).1.burned
      (fs.update deltaTime between writes).2.tanks :=
  feedTanks_accounts fs.lines deltaTime hkeys fs.engines between writes

theorem topUp_accounts (fs : FuelSystem) (status : Dict String ℚ) (tankName : String) (writes : ℕ) :
    Accounts fs.tanks (fs.topUp status tankName writes).1.moved
      (fs.topUp status tankName writes).2.tanks := by
  unfold FuelSystem.topUp
  split
  · exact .refl _
  · split_ifs
    · exact transferFuel_accounts fs "Center" tankName 1000 writes
    · exact .refl _

/-- A top-up moves nothing but what it takes out of the center tank, and that is 1000 at most. -/
theorem topUp_moved (fs : FuelSystem) (status : Dict String ℚ) (tankName : String) (writes : ℕ)
    (hne : tankName ≠ "Center") :
    taken (fs.topUp status tankName writes).1.moved "Center" ≤ 1000 ∧
      ∀ other, other ≠ "Center" → other ≠ tankName →
        taken (fs.topUp status tankName writes).1.moved other = 0 := by
  unfold FuelSystem.topUp
  split
  · exact ⟨by norm_num, fun _ _ _ => rfl⟩
  · split_ifs
    · unfold FuelSystem.transferFuel
      split
      · exact ⟨by norm_num, fun _ _ _ => rfl⟩
      · rename_i source hsource
        have hmost : (source.consume 1000).1 ≤ 1000 := by
          rw [FuelTank.consume_fst]
          exact min_le_left _ _
        dsimp only
        split
        · refine ⟨?_, fun other hcenter _ => ?_⟩
          · rw [taken_cons, taken_nil, if_pos rfl, add_zero]
            exact hmost
          · rw [taken_cons, taken_nil, if_neg (Ne.symm hcenter), add_zero]
        · refine ⟨?_, fun other hcenter hother => ?_⟩
          · rw [taken_cons, taken_cons, taken_nil, if_pos rfl, if_neg hne, add_zero, add_zero]
            exact hmost
          · rw [taken_cons, taken_cons, taken_nil, if_neg (Ne.symm hcenter),
              if_neg (Ne.symm hother), add_zero, add_zero]
    · exact ⟨by norm_num, fun _ _ _ => rfl⟩

theorem performFuelTransfer_accounts (fs : FuelSystem) (writes : ℕ) :
    Accounts fs.tanks (fs.performFuelTransfer writes).1.moved
      (fs.performFuelTransfer writes).2.tanks := by
  unfold FuelSystem.performFuelTransfer
  dsimp only
  split
  · exact .refl _
  · split_ifs
    · split
      · exact topUp_accounts fs _ "Main Left" writes
      · exact (topUp_accounts fs _ "Main Left" writes).trans (topUp_accounts _ _ "Main Right" _)
    · exact .refl _

end Fmofp.Fuel
