import Fmofp.Machine.History
import Fmofp.Machine.Packing
import Fmofp.Python.Text
import Fmofp.Python.Quantum

/-! `SensorDataFusion`: what the sensors detect becomes contacts.  A detection whose bearing lies within five
degrees of that of a contact goes to the first such contact, any other becomes a contact of its own, and
contacts that were not seen for eight seconds are dropped.  The lock is taken for each detection and for the
dropping, so these are the steps. -/

namespace Fmofp.SensorFusion

open Python Machine

inductive SensorSource where
  | radar
  | lidar
  | ir
  | esm
  | fused
  deriving DecidableEq

def SensorSource.value : SensorSource → String
  | .radar => "RADAR"
  | .lidar => "LIDAR"
  | .ir => "IR"
  | .esm => "ESM"
  | .fused => "FUSED"

inductive ContactClass where
  | air
  | ground
  | surface
  | emitter
  | unknown
  deriving DecidableEq

/-- What is not known is `none`. -/
structure SensorContact where
  contactId : String
  source : SensorSource
  contactClass : ContactClass := .unknown
  rangeM : Option ℚ := none
  bearingDeg : Option ℚ := none
  elevationDeg : Option ℚ := none
  speedMs : Option ℚ := none
  frequencyHz : Option ℚ := none
  signalDbm : Option ℚ := none
  band : Option String := none
  confidence : ℚ := 1
  firstSeen : ℚ
  lastSeen : ℚ
  corroboratedBy : List String := []
  deriving DecidableEq

/-- `_BAND_MAP`. -/
def bandMap : List (ℚ × ℚ × String) :=
  [(500000000, 2000000000, "L"), (2000000000, 4000000000, "S"), (4000000000, 8000000000, "C"),
    (8000000000, 12000000000, "X"), (12000000000, 18000000000, "Ku"), (18000000000, 27000000000, "K"),
    (27000000000, 40000000000, "Ka")]

def classifyBand (freqHz : ℚ) : String :=
  match bandMap.find? fun b => decide (b.1 ≤ freqHz ∧ freqHz < b.2.1) with
  | some b => b.2.2
  | none => "?"

def gateDeg : ℚ := 5

def bearingDelta : Option ℚ → Option ℚ → ℚ
  | some a, some b =>
    let delta := floatMod |a - b| 360
    min delta (360 - delta)
  | _, _ => 360

def contactTtlS : ℚ := 8

/-- `_contacts` and `_seq`. -/
structure SensorDataFusion where
  contacts : Dict String SensorContact
  seq : ℕ

def SensorDataFusion.initial : SensorDataFusion := ⟨[], 0⟩

/-! ### Detections -/

/-- What a sensor reports of one thing that it detects. -/
abbrev Detection := Dict String ℚ

/-- The sensor that a detection comes from: an active one with its name and accuracy, or a passive one. -/
inductive Origin where
  | active (sensorName : String) (accuracy : ℚ)
  | passive

def activeSource (sensorName : String) : SensorSource :=
  if contains sensorName "radar" then .radar else .lidar

def classifyElevation : Option ℚ → ContactClass
  | some elev => if 2 < elev then .air else .ground
  | none => .unknown

/-- The contact that `_ingest_active` or `_ingest_passive` makes of a detection, with the number `seq`. -/
def toContact (origin : Origin) (det : Detection) (seq : ℕ) (now : ℚ) : SensorContact :=
  match origin with
  | .active sensorName accuracy => {
      contactId := numbered (slice (activeSource sensorName).value 0 3) 4 seq
      source := activeSource sensorName
      contactClass := classifyElevation (Dict.get? det "elevation")
      rangeM := Dict.get? det "distance"
      bearingDeg := Dict.get? det "angle"
      elevationDeg := Dict.get? det "elevation"
      speedMs := some (Dict.getD det "speed" 0)
      confidence := accuracy
      firstSeen := now
      lastSeen := now }
  | .passive => match Dict.get? det "frequency" with
    | some freq => {
        contactId := numbered "ESM" 4 seq
        source := .esm
        contactClass := .emitter
        bearingDeg := Dict.get? det "bearing"
        frequencyHz := some freq
        signalDbm := Dict.get? det "signal_strength"
        band := some (classifyBand freq)
        confidence := 7 / 10
        firstSeen := now
        lastSeen := now }
    | none => {
        contactId := numbered "IR" 4 seq
        source := .ir
        contactClass := .air
        rangeM := Dict.get? det "distance"
        bearingDeg := Dict.get? det "angle"
        confidence := 6 / 10
        firstSeen := now
        lastSeen := now }

/-! ### Merging -/

/-- What a further detection of the same thing does to a contact. -/
def SensorContact.corroborate (existing new : SensorContact) (now : ℚ) : SensorContact :=
  let names := if new.source.value ∈ existing.corroboratedBy then existing.corroboratedBy
    else existing.corroboratedBy ++ [new.source.value]
  { existing with
    lastSeen := now
    confidence := min 1 (existing.confidence + 1 / 10)
    corroboratedBy := names
    source := if 2 ≤ names.length then .fused else existing.source
    rangeM := existing.rangeM.or new.rangeM
    speedMs := existing.speedMs.or new.speedMs
    frequencyHz := existing.frequencyHz.or new.frequencyHz
    signalDbm := if existing.frequencyHz = none ∧ new.frequencyHz ≠ none then new.signalDbm
      else existing.signalDbm
    band := if existing.frequencyHz = none ∧ new.frequencyHz ≠ none then new.band else existing.band }

/-- The first contact that a detection lies within the gate of. -/
def matchOf (contacts : Dict String SensorContact) (new : SensorContact) : Option (String × SensorContact) :=
  contacts.find? fun e => decide (bearingDelta e.2.bearingDeg new.bearingDeg < gateDeg)

/-- `_merge_or_add`: the contact that takes the detection, and the contacts after it. -/
def mergeOrAdd (now : ℚ) (new : SensorContact) (contacts : Dict String SensorContact) :
    String × Dict String SensorContact :=
  match matchOf contacts new with
  | some (k, existing) => (k, Dict.set contacts k (existing.corroborate new now))
  | none => (new.contactId, Dict.set contacts new.contactId new)

/-- `_expire_stale`. -/
def expireStale (now : ℚ) (contacts : Dict String SensorContact) : Dict String SensorContact :=
  contacts.filter fun e => !decide (contactTtlS < now - e.2.lastSeen)

/-- One thing that is done under the lock. -/
inductive Action where
  | detect (origin : Origin) (det : Detection) (now : ℚ)
  | expire (now : ℚ)

def Action.clock : Action → ℚ
  | .detect _ _ now => now
  | .expire now => now

/-- A detection as a contact, the contact that it went to, and when. -/
structure Sighting where
  contactId : String
  detected : SensorContact
  time : ℚ

/-- A detection uses up a number, whether or not it becomes a contact. -/
def step (s : SensorDataFusion) : Action → List Sighting × SensorDataFusion
  | .detect origin det now =>
    let new := toContact origin det (s.seq + 1) now
    let merged := mergeOrAdd now new s.contacts
    ([⟨merged.1, new, now⟩], ⟨merged.2, s.seq + 1⟩)
  | .expire now => ([], { s with contacts := expireStale now s.contacts })

/-- What a sensor reads in one update: nothing if it is off, fails or has nothing to report. -/
structure Reading where
  origin : Origin
  isActive : Bool
  raw : Option (List (Detection × ℚ))

/-- The readings of an update, those of the active sensors first, and when the stale contacts are dropped. -/
structure Update where
  active : List Reading
  passive : List Reading
  now : ℚ

def Reading.actions (r : Reading) : List Action :=
  if r.isActive then (r.raw.getD []).map fun d => .detect r.origin d.1 d.2 else []

def Update.actions (u : Update) : List Action :=
  (u.active ++ u.passive).flatMap Reading.actions ++ [.expire u.now]

/-- `update`. -/
def update (s : SensorDataFusion) (u : Update) : SensorDataFusion := final step s u.actions

end Fmofp.SensorFusion
