import Fmofp.Bus.WordCodec
import Fmofp.Machine.Run

/-! `BlockTransferManager`: the slots of a transfer, what a block fills, and the data that the slots
are assembled to. -/

namespace Fmofp.BlockTransfer

open Python

inductive DataKind where
  | precipitation
  | vil
  deriving DecidableEq

/-- The record of a transfer: one slot for each block. -/
structure Transfer where
  blocks : List (Option (List Value))
  totalSequences : ℕ
  receivedCount : ℕ
  timestamp : ℚ
  complete : Bool
  dataType : Option DataKind
  messageType : Option String
  isZeroBased : Bool

/-- `pending_transfers`: request ids are text. -/
abbrev State := Dict String Transfer

/-- The slot that `blocks[i]` addresses: a negative index counts from the end. -/
def position (len : ℕ) (i : ℤ) : Option ℕ :=
  if 0 ≤ i ∧ i < len then some i.toNat
  else if i < 0 ∧ 0 ≤ i + len then some (i + len).toNat
  else none

def startTransfer (now : ℚ) (sequence total : ℕ) : Transfer where
  blocks := List.replicate total none
  totalSequences := total
  receivedCount := 0
  timestamp := now
  complete := false
  dataType := none
  messageType := none
  isZeroBased := sequence == 0

def Transfer.adjustedSequence (t : Transfer) (sequence : ℕ) : ℤ :=
  if t.isZeroBased then sequence else sequence - 1

/-- The kind of data that a type names. -/
def namedKind (py : Runtime) : Value → Option DataKind
  | .str s =>
    if contains (py.lower s) "precip" || contains (py.lower s) "precipitation" then
      some .precipitation
    else if contains (py.lower s) "vil" then some .vil
    else none
  | _ => none

def textOf? : Value → Option String
  | .str s => some s
  | _ => none

/-- The kind that the metadata of a dictionary item names, with the message type if that names it. -/
def detectItem (py : Runtime) (item : Value) : Option (DataKind × Option String) :=
  match item.dict?.bind fun d => (Dict.getD d "metadata" (.dict [])).dict? with
  | none => none
  | some metadata =>
    let messageType := Dict.getD metadata "message_type" (.str "")
    match namedKind py messageType with
    | some kind => some (kind, textOf? messageType)
    | none => (namedKind py (Dict.getD metadata "command_type" (.str ""))).map fun kind => (kind, none)

/-- The first two words are taken for sequence metadata. -/
def stripHeader (data : List Value) : List Value := if 2 < data.length then data.drop 2 else data

/-- A first word that may be a count of objects. -/
def startsWithCount (data : List Value) : Bool :=
  match data.head?.bind Value.int? with
  | some n => decide (0 < n ∧ n < 100)
  | none => false

/-- The record once the data of a block is examined, and what of the data its slot keeps. -/
def Transfer.examine (t : Transfer) (py : Runtime) (sequence : ℕ) (data : List Value) :
    Transfer × List Value :=
  let kept := if t.dataType.isSome then data else stripHeader data
  match data.findSome? (detectItem py) with
  | some (kind, messageType) =>
    if t.dataType.isSome then (t, kept)
    else ({ t with dataType := some kind, messageType := messageType.or t.messageType }, kept)
  | none =>
    if data ≠ [] ∧ sequence = 1 then
      if startsWithCount data then ({ t with dataType := some .precipitation }, data)
      else (t, stripHeader data)
    else (t, kept)

/-- The record once a slot is filled. -/
def Transfer.fill (t : Transfer) (slot : ℕ) (data : List Value) : Transfer :=
  { t with
    blocks := t.blocks.set slot (some data)
    receivedCount := t.receivedCount + 1
    complete := t.receivedCount + 1 == t.totalSequences }

/-- The arguments of `register_block` when they pass the checks. -/
def validArguments (requestId sequence total data : Value) : Option (String × ℕ × ℕ × List Value) :=
  match requestId, sequence.int?, total.int?, data.list? with
  | .str id, some s, some n, some items =>
    if id ≠ "" ∧ 0 ≤ s ∧ 1 ≤ n then some (id, s.toNat, n.toNat, items) else none
  | _, _, _, _ => none

/-- The pending transfers with a record for `id`. -/
def State.opened (a : State) (now : ℚ) (id : String) (sequence total : ℕ) : State :=
  if Dict.has a id then a else Dict.set a id (startTransfer now sequence total)

abbrev Outcome := Except Exception Value × State

/-- A block for the record `t`, which is pending under `id`. -/
def registerIn (py : Runtime) (id : String) (sequence : ℕ) (data : List Value) (t : Transfer)
    (a : State) : Outcome :=
  let adjusted := t.adjustedSequence sequence
  if t.totalSequences ≤ adjusted then (.ok (.bool false), a)
  else match position t.blocks.length adjusted with
    | none => (.error .indexError, a)
    | some slot => match t.blocks[slot]? with
      | none => (.error .indexError, a)
      | some (some _) => (.ok (.bool t.complete), a)
      | some none =>
        let (examined, kept) := t.examine py sequence data
        let t := examined.fill slot kept
        (.ok (.bool t.complete), Dict.set a id t)

/-- `register_block`; `is_final` is only logged. -/
def registerBlock (py : Runtime) (now : ℚ) (requestId sequence total _isFinal data : Value)
    (a : State) : Outcome :=
  match validArguments requestId sequence total data with
  | none => (.ok (.bool false), a)
  | some (id, sequence, total, items) =>
    registerIn py id sequence items ((Dict.get? a id).getD (startTransfer now sequence total))
      (a.opened now id sequence total)

/-- `_validate_1553b_frames`: what is not text is kept. -/
def validate1553bFrames (frames : List Value) : List Value :=
  frames.filterMap fun f => if f.isText then Bus.validateFrame f else some f

/-- `_validate_parity`. -/
def validateParity (frame : List Char) : Bool :=
  decide (frame.length = 20) && frame[19]? == some (Bus.calculateParity (frame.take 19))

/-- The valid words in a string of bits, searched for from each place on. -/
def scanFrames : ℕ → List Char → List Value
  | 0, _ => []
  | fuel + 1, bits =>
    if bits.length < 20 then []
    else if (Bus.commandSync.isPrefixOf bits || Bus.dataSync.isPrefixOf bits) &&
        validateParity (bits.take 20) then
      .str (String.ofList (bits.take 20)) :: scanFrames fuel (bits.drop 20)
    else scanFrames fuel bits.tail

def isSyncText : Value → Bool
  | .str s => decide (s.length = 20) && (startsWith s "100" || startsWith s "001")
  | _ => false

/-- The frames of a dictionary in JSON text; `frames` that cannot be iterated raises. -/
def framesOfJson (py : Runtime) (s : String) : Except Exception (List Value) :=
  if startsWith s "\x7b" && s.toList.getLast? == some '\x7d' then
    match (py.jsonLoads s).bind fun v => v.dict?.bind fun d => Dict.get? d "frames" with
    | none => .ok []
    | some frames => frames.iterate.map fun items => items.filter isSyncText
  else .ok []

/-- `_split_oversized_frames` on text. -/
def splitOversizedFrames (py : Runtime) (s : String) : Except Exception (List Value) :=
  (framesOfJson py s).map fun found =>
    if !found.isEmpty then found
    else if !isBinary s || decide (s.length ≤ 20) then [.str s]
    else scanFrames s.length s.toList

/-- What an item of the assembled data becomes. -/
def processItem (py : Runtime) (item : Value) : Except Exception (List Value) :=
  match item with
  | .dict d => match (Dict.get? d "frames").bind Value.list? with
    | some frames => .ok (validate1553bFrames frames)
    | none => .ok [item]
  | .str s =>
    if decide (20 < s.length) then
      (splitOversizedFrames py s).map fun frames =>
        if frames.isEmpty then [item] else validate1553bFrames frames
    else .ok [item]
  | _ => .ok [item]

/-- The record that a request id finds; looking up what has no hash raises. -/
def State.find (a : State) (requestId : Value) : Except Exception (Option (String × Transfer)) :=
  match requestId with
  | .str id => .ok ((Dict.get? a id).map fun t => (id, t))
  | v => match v.key? with
    | some _ => .ok none
    | none => .error .typeError

/-- `get_assembled_data`. -/
def getAssembledData (py : Runtime) (requestId : Value) (a : State) : Outcome :=
  match a.find requestId with
  | .error e => (.error e, a)
  | .ok none => (.ok .none, a)
  | .ok (some (id, t)) =>
    if t.complete then
      match (t.blocks.flatMap fun b => b.getD []).mapM (processItem py) with
      | .error e => (.error e, a)
      | .ok items => (.ok (.list items.flatten), Dict.erase a id)
    else (.ok .none, a)

/-- `clear_transfer`. -/
def clearTransfer (requestId : Value) (a : State) : Outcome :=
  match a.find requestId with
  | .error e => (.error e, a)
  | .ok none => (.ok (.bool false), a)
  | .ok (some (id, _)) => (.ok (.bool true), Dict.erase a id)

/-- `cleanup_stale_transfers`. -/
def cleanupStaleTransfers (now maxAge : ℚ) (a : State) : Outcome :=
  let stale (e : String × Transfer) : Bool := decide (maxAge < now - e.2.timestamp)
  (.ok (.int (a.filter stale).length), a.filter fun e => !stale e)

/-- A call of the manager. -/
inductive Operation where
  | registerBlock (now : ℚ) (requestId sequence total isFinal data : Value)
  | getAssembledData (requestId : Value)
  | clearTransfer (requestId : Value)
  | cleanupStaleTransfers (now maxAge : ℚ)

def step (py : Runtime) (a : State) : Operation → Outcome
  | .registerBlock now requestId sequence total isFinal data =>
    registerBlock py now requestId sequence total isFinal data a
  | .getAssembledData requestId => getAssembledData py requestId a
  | .clearTransfer requestId => clearTransfer requestId a
  | .cleanupStaleTransfers now maxAge => cleanupStaleTransfers now maxAge a

end Fmofp.BlockTransfer
