import Fmofp.Python.Text

/-! `RadarDisplayDataCoordinator`: the radar data that the display shows, in a current and a backup list
for each type, and the times by which they expire.  Items are dictionaries or objects with text for an
id; arrays of numbers are not among their fields. -/

namespace Fmofp.Display

open Python

/-- A data item as it is handed over: a dictionary or an object, with its id if it has one. -/
structure RawItem where
  isDict : Bool
  id : Option String
  fields : Message
  deriving DecidableEq

/-- An item as it is stored. -/
structure Item where
  id : String
  fields : Message
  deriving DecidableEq

structure Store where
  current : List Item
  backup : List Item
  ttl : ℚ
  backupTimestamps : Dict String ℚ

structure Coordinator where
  stores : Dict String Store
  timestamps : Dict String ℚ
  lastCleanup : ℚ

def cleanupInterval : ℚ := 5

def emptyStore (ttl : ℚ) : Store where
  current := []
  backup := []
  ttl := ttl
  backupTimestamps := []

/-- The coordinator after `__init__`. -/
def Coordinator.initial (now : ℚ) : Coordinator where
  stores := [("precipitation", emptyStore 5), ("vil", emptyStore 5), ("cells", emptyStore 5)]
  timestamps := []
  lastCleanup := now

/-! ### The items of a call -/

/-- An id is added where a dictionary has no such key, or an object has none that is not empty. -/
def RawItem.withId (requestId : String) (i : ℕ) (item : RawItem) : RawItem :=
  let added := some (requestId ++ "_" ++ toString i)
  match item.id with
  | none => { item with id := added }
  | some s => if !item.isDict && s = "" then { item with id := added } else item

def RawItem.hasValidId (item : RawItem) : Bool :=
  match item.id with
  | some s => decide (s ≠ "") && decide (s ≠ "unknown")
  | none => false

/-- `get_message_type`. -/
def messageType (fields : Message) : Value :=
  match Dict.get? fields "message_type" with
  | some t => t
  | none =>
    let nested := fun key => match Dict.getD fields key .none with
      | .dict inner => Dict.getD inner "message_type" .none
      | _ => .none
    if (nested "metadata").truthy then nested "metadata"
    else if (nested "additional_info").truthy then nested "additional_info"
    else .none

/-- The type of a message contains a word or is one of three names, in any case. -/
def hasType (py : Runtime) (word : String) (names : List String) (fields : Message) :
    Except Exception Bool :=
  if (messageType fields).truthy then
    match messageType fields with
    | .str s => .ok (contains (py.lower s) word || names.any fun name => py.lower s = py.lower name)
    | _ => .error .attributeError
  else .ok false

def isVilMessage (py : Runtime) : Message → Except Exception Bool :=
  hasType py "vil" ["weather_radarVILResponse", "weather_radarVILRequest", "display_vil_data"]

def isPrecipitationMessage (py : Runtime) : Message → Except Exception Bool :=
  hasType py "precipitation" ["weather_radarPrecipitationResponse",
    "weather_radarPrecipitationRequest", "display_precipitation_data"]

/-- The position of an item, or its coordinates. -/
def givenPosition (fields : Message) : Value :=
  match Dict.get? fields "position", Dict.get? fields "x", Dict.get? fields "y" with
  | some position, _, _ => position
  | none, some x, some y => .tuple [x, y]
  | none, _, _ => .none

/-- A sequence of two items at least is made a tuple, and all else the origin. -/
def fixedPosition : Value → Value
  | .list items => if 2 ≤ items.length then .tuple items else .tuple [.float 0, .float 0]
  | .tuple items => if 2 ≤ items.length then .tuple items else .tuple [.float 0, .float 0]
  | _ => .tuple [.float 0, .float 0]

/-- Both spellings of the type of precipitation get the value of the first that is there. -/
def synchronizeType (fields : Message) : Message :=
  let found := match Dict.get? fields "precip_type" with
    | some t => t
    | none => Dict.getD fields "type" .none
  if found = .none then fields else Dict.set (Dict.set fields "type" found) "precip_type" found

/-- The fields of an item before the last check of its position. -/
def processFields (py : Runtime) (dataType : String) (item : RawItem) : Except Exception Message := do
  let positioned := Dict.set item.fields "position" (fixedPosition (givenPosition item.fields))
  let shown := Dict.set positioned "show_values"
    (if item.isDict then .bool true
    else .bool ((Dict.getD item.fields "show_values" (.bool true)).truthy))
  let vil ← if dataType = "vil" then pure true else isVilMessage py shown
  if vil then return shown
  let precipitation ←
    if dataType = "precipitation" then pure true else isPrecipitationMessage py shown
  return if precipitation then synchronizeType shown else shown

/-- The last check: a position is unpacked into two numbers, not both of them zero. -/
def survives (fields : Message) : Bool :=
  match Dict.getD fields "position" .none with
  | .tuple [x, y] => !(decide (x.number? = some 0) && decide (y.number? = some 0))
  | _ => false

/-- `_process_items`, for items with their ids. -/
def processItems (py : Runtime) (dataType : String) (items : List RawItem) :
    Except Exception (List Item) := do
  let processed ← items.mapM fun item => do
    let fields ← processFields py dataType item
    return { id := item.id.getD "", fields := fields : Item }
  return processed.filter fun item => survives item.fields

/-- The items that `store_data` comes to store, unless it raises. -/
def acceptedItems (py : Runtime) (dataType requestId : String) (items : List RawItem) :
    Except Exception (List Item) :=
  if requestId = "" ∨ items = [] then .error .valueError
  else
    let named := items.mapIdx (RawItem.withId requestId)
    if named.all RawItem.hasValidId then processItems py dataType named else .error .valueError

/-! ### Cleaning up -/

/-- An item is taken out when its id was stamped its time to live ago, or before. -/
def expired (now ttl : ℚ) (timestamps : Dict String ℚ) (id : String) : Bool :=
  match Dict.get? timestamps id with
  | some stamp => decide (¬now - stamp < ttl)
  | none => false

/-- An expired stamp is deleted, and an id without a stamp gets one. -/
def restamp (now ttl : ℚ) (timestamps : Dict String ℚ) (id : String) : Dict String ℚ :=
  match Dict.get? timestamps id with
  | some stamp => if now - stamp < ttl then timestamps else Dict.erase timestamps id
  | none => Dict.set timestamps id now

/-- The items of a type that stay. -/
def sweepItems (now ttl : ℚ) : List Item → Dict String ℚ → List Item × Dict String ℚ
  | [], timestamps => ([], timestamps)
  | item :: items, timestamps =>
    let rest := sweepItems now ttl items (restamp now ttl timestamps item.id)
    (if expired now ttl timestamps item.id then rest.1 else item :: rest.1, rest.2)

def sweepStores (now : ℚ) : Dict String Store → Dict String ℚ → Dict String Store × Dict String ℚ
  | [], timestamps => ([], timestamps)
  | (dataType, store) :: stores, timestamps =>
    let swept := sweepItems now store.ttl store.current timestamps
    let rest := sweepStores now stores swept.2
    ((dataType, { store with current := swept.1 }) :: rest.1, rest.2)

namespace Coordinator

variable (c : Coordinator)

/-- `cleanup_expired`.  Only items with valid ids are stored, so none is without one here. -/
def cleanupExpired (now : ℚ) : Coordinator :=
  if c.stores.any fun e => !e.2.current.isEmpty then
    { c with
      stores := (sweepStores now c.stores c.timestamps).1
      timestamps := (sweepStores now c.stores c.timestamps).2 }
  else c

/-! ### Storing, reading and resetting -/

/-- A type that is new gets empty lists and a time to live of 30 seconds. -/
def ensure (dataType : String) : Coordinator :=
  if Dict.has c.stores dataType then c
  else { c with stores := Dict.set c.stores dataType (emptyStore 30) }

/-- The stamps of the items that have one. -/
def stampsOf (items : List Item) : Dict String ℚ :=
  items.foldl (fun stamps item => match Dict.get? c.timestamps item.id with
    | some stamp => Dict.set stamps item.id stamp
    | none => stamps) []

/-- The processed items become the current and the backup list. -/
def keep (dataType : String) (items : List Item) : Coordinator :=
  { c with stores := Dict.modify c.stores dataType fun store =>
    { store with current := items, backup := items, backupTimestamps := c.stampsOf items } }

/-- `store_data`, with the clock as it reads for the check whether a cleanup is due, and in it. -/
def storeData (py : Runtime) (dataType requestId : String) (items : List RawItem)
    (check clean : ℚ) : Except Exception ℕ × Coordinator :=
  match acceptedItems py dataType requestId items with
  | .error e => (.error e, if requestId = "" ∨ items = [] then c else c.ensure dataType)
  | .ok processed =>
    let kept := (c.ensure dataType).keep dataType processed
    (.ok processed.length, if check - kept.lastCleanup > cleanupInterval then
      { kept.cleanupExpired clean with lastCleanup := check }
    else kept)

/-- Whether an item of the backup is used, by its stamp there or by the present one. -/
def usesBackup (now : ℚ) (store : Store) (id : String) : Bool :=
  match Dict.get? store.backupTimestamps id with
  | some stamp => decide (now - stamp < store.ttl)
  | none => match Dict.get? c.timestamps id with
    | some stamp => decide (now - stamp < store.ttl)
    | none => true

/-- The items of the backup that are used; those without a stamp get one. -/
def freshBackup (now : ℚ) (store : Store) : List Item → Dict String ℚ → List Item × Dict String ℚ
  | [], timestamps => ([], timestamps)
  | item :: items, timestamps =>
    let used := usesBackup { c with timestamps := timestamps } now store item.id
    let stamped := match Dict.get? store.backupTimestamps item.id, Dict.get? timestamps item.id with
      | none, none => Dict.set timestamps item.id now
      | _, _ => timestamps
    let rest := freshBackup now store items stamped
    (if used then item :: rest.1 else rest.1, rest.2)

/-- `get_data`. -/
def getData (dataType : String) (useBackup : Bool) (now : ℚ) : List Item × Coordinator :=
  match Dict.get? c.stores dataType with
  | none => ([], c)
  | some store =>
    if store.current.isEmpty && useBackup then
      let fresh := c.freshBackup now store store.backup c.timestamps
      if fresh.1.isEmpty then ([], { c with timestamps := fresh.2 })
      else (fresh.1, { c with
        stores := Dict.set c.stores dataType { store with current := fresh.1 }
        timestamps := fresh.2 })
    else (store.current, c)

/-- The lists of a type without their items. -/
def cleared (store : Store) : Store := { store with current := [], backup := [] }

/-- `reset_data`. -/
def resetData : Option String → Coordinator
  | none => { c with stores := c.stores.map fun e => (e.1, cleared e.2), timestamps := [] }
  | some dataType =>
    if Dict.has c.stores dataType then
      { c with
        stores := Dict.modify c.stores dataType cleared
        timestamps := c.timestamps.filter fun e => !startsWith e.1 (dataType ++ "_") }
    else c

end Coordinator

/-! ### One type -/

/-- The current list of a type. -/
def Coordinator.current (c : Coordinator) (dataType : String) : List Item :=
  match Dict.get? c.stores dataType with
  | some store => store.current
  | none => []

/-- The time to live of a type, or what it would be. -/
def Coordinator.ttl (c : Coordinator) (dataType : String) : ℚ :=
  match Dict.get? c.stores dataType with
  | some store => store.ttl
  | none => 30

/-- The coordinator with the items of a call, before the cleanup that may follow. -/
def Coordinator.kept (c : Coordinator) (dataType : String) (items : List Item) : Coordinator :=
  (c.ensure dataType).keep dataType items

theorem get?_kept (c : Coordinator) (dataType : String) (items : List Item) :
    ∃ store, store.current = items ∧ store.backup = items ∧ store.ttl = c.ttl dataType ∧
      ∀ t, Dict.get? (c.kept dataType items).stores t =
        if t = dataType then some store else Dict.get? c.stores t := by
  have hpresent : ∃ old, Dict.get? (c.ensure dataType).stores dataType = some old ∧
      old.ttl = c.ttl dataType := by
    unfold Coordinator.ensure Coordinator.ttl
    cases hget : Dict.get? c.stores dataType with
    | some old =>
      rw [if_pos (Dict.has_iff.mpr ⟨old, hget⟩)]
      exact ⟨old, hget, rfl⟩
    | none =>
      rw [if_neg (by simp [Dict.has, hget])]
      exact ⟨emptyStore 30, Dict.get?_set_self _ _ _, rfl⟩
  have hother : ∀ t, t ≠ dataType →
      Dict.get? (c.ensure dataType).stores t = Dict.get? c.stores t := by
    intro t ht
    unfold Coordinator.ensure
    split_ifs
    · rfl
    · exact Dict.get?_set_ne _ _ (Ne.symm ht)
  obtain ⟨old, hold, httl⟩ := hpresent
  refine ⟨{ old with
    current := items
    backup := items
    backupTimestamps := (c.ensure dataType).stampsOf items }, rfl, rfl, httl, fun t => ?_⟩
  rw [Coordinator.kept, Coordinator.keep, Dict.get?_modify]
  by_cases ht : t = dataType
  · rw [if_pos ht.symm, if_pos ht, ht, hold]
    rfl
  · rw [if_neg (Ne.symm ht), if_neg ht, hother t ht]

end Fmofp.Display
