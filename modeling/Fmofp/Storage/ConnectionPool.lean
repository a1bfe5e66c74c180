import Fmofp.Machine.Run
import Fmofp.Python.Dict

/-! `ConnectionPool`: its callers take connections from the queue, create them and return them.  Each
part under `lock`, each operation of the queue and each call that SQLite answers is one step. -/

namespace Fmofp.Storage

open Python Machine

/-- A connection, by its `id`. -/
abbrev Connection := ℕ

structure Limits where
  minConnections : ℤ
  maxConnections : ℤ

/-- Where a caller is. -/
inductive Phase where
  | idle
  /-- In `get_connection`, before `get_nowait`. -/
  | getting (forTransaction : Bool)
  /-- Before the lock of `_grow_locked`, for the first or for the last attempt. -/
  | growing (forTransaction last : Bool)
  | creating (forTransaction : Bool)
  /-- The creation has failed, and the slot is still reserved. -/
  | failed
  | waiting (forTransaction : Bool)
  /-- The connection is checked out, and no call is in progress. -/
  | held (conn : Connection)
  | returning (conn : Connection)
  | validating (conn : Connection)
  | closing (conn : Connection)
  | dropping
  | refilling
  | refillFailed
  /-- In the outer `except` of `return_connection`. -/
  | abandoning (conn : Connection)
  deriving DecidableEq

structure State where
  pool : List Connection
  connectionCount : ℤ
  transactionStates : Dict Connection Bool
  calls : Dict ℕ Phase

/-- How `rollback` ends. -/
inductive Rollback where
  | ok
  | operationalError
  /-- Another `sqlite3.Error`. -/
  | otherError
  deriving DecidableEq

inductive Action where
  | get (caller : ℕ) (forTransaction : Bool)
  | take (caller : ℕ)
  | grow (caller : ℕ)
  /-- `create_connection` returns a connection or raises. -/
  | create (caller : ℕ) (conn : Option Connection)
  | release (caller : ℕ)
  | receive (caller : ℕ)
  | timeOut (caller : ℕ)
  | giveBack (caller : ℕ)
  | rollback (caller : ℕ) (outcome : Rollback)
  | validate (caller : ℕ) (valid : Bool)
  | close (caller : ℕ)
  | drop (caller : ℕ)
  | abandon (caller : ℕ)

/-- The connections of a caller. -/
def Phase.connections : Phase → Multiset Connection
  | held c | returning c | validating c | closing c => {c}
  | _ => 0

namespace State

variable (s : State)

def phase (caller : ℕ) : Phase := Dict.getD s.calls caller .idle

def goTo (caller : ℕ) (p : Phase) : State := { s with calls := Dict.set s.calls caller p }

/-- The connections that are in the queue or in the hands of a caller. -/
def connections : Multiset Connection :=
  (s.pool : Multiset Connection) + Dict.tally Phase.connections s.calls

/-- A caller has got a connection, which it marks for a transaction if it asked for one. -/
def checkOut (caller : ℕ) (conn : Connection) (forTransaction : Bool) : State :=
  { s.goTo caller (.held conn) with
    transactionStates :=
      if forTransaction then Dict.set s.transactionStates conn true else s.transactionStates }

/-- The head of the queue goes to the caller. -/
def takeFromPool (caller : ℕ) (forTransaction : Bool) (orElse : State) : State :=
  match s.pool with
  | conn :: rest => { s with pool := rest }.checkOut caller conn forTransaction
  | [] => orElse

/-- The locked part of `_grow_locked`. -/
def grow (limits : Limits) (caller : ℕ) (forTransaction last : Bool) : State :=
  if limits.maxConnections ≤ s.connectionCount then
    s.goTo caller (if last then .idle else .waiting forTransaction)
  else
    { s.goTo caller (.creating forTransaction) with connectionCount := s.connectionCount + 1 }

/-- The end of a creation; a new connection is none that is in use. -/
def create (caller : ℕ) : Option Connection → State
  | some conn =>
    if conn ∈ s.connections then s
    else match s.phase caller with
      | .creating forTransaction => s.checkOut caller conn forTransaction
      | .refilling => { s.goTo caller .idle with pool := s.pool ++ [conn] }
      | _ => s
  | none => match s.phase caller with
    | .creating _ => s.goTo caller .failed
    | .refilling => s.goTo caller .refillFailed
    | _ => s

/-- The slot of a failed creation is released. -/
def release (caller : ℕ) : State :=
  { s.goTo caller .idle with connectionCount := s.connectionCount - 1 }

/-- The start of `return_connection`: a rollback of a transaction. -/
def rollback (caller : ℕ) (conn : Connection) (outcome : Rollback) : State :=
  if Dict.getD s.transactionStates conn false then
    if outcome = .otherError then s.goTo caller (.abandoning conn)
    else { s.goTo caller (.validating conn) with
      transactionStates := Dict.erase s.transactionStates conn }
  else s.goTo caller (.validating conn)

/-- The locked part of `return_connection`. -/
def drop (limits : Limits) (caller : ℕ) : State :=
  if s.connectionCount - 1 < limits.minConnections then s.goTo caller .refilling
  else { s.goTo caller .idle with connectionCount := s.connectionCount - 1 }

end State

/-- One step of a caller; what its phase does not allow changes nothing. -/
def next (limits : Limits) (s : State) : Action → State
  | .get caller forTransaction => match s.phase caller with
    | .idle => s.goTo caller (.getting forTransaction)
    | _ => s
  | .take caller => match s.phase caller with
    | .getting forTransaction =>
      s.takeFromPool caller forTransaction (s.goTo caller (.growing forTransaction false))
    | _ => s
  | .grow caller => match s.phase caller with
    | .growing forTransaction last => s.grow limits caller forTransaction last
    | _ => s
  | .create caller conn => s.create caller conn
  | .release caller => match s.phase caller with
    | .failed | .refillFailed => s.release caller
    | _ => s
  | .receive caller => match s.phase caller with
    | .waiting forTransaction => s.takeFromPool caller forTransaction s
    | _ => s
  | .timeOut caller => match s.phase caller with
    | .waiting forTransaction =>
      if s.pool = [] then s.goTo caller (.growing forTransaction true) else s
    | _ => s
  | .giveBack caller => match s.phase caller with
    | .held conn => s.goTo caller (.returning conn)
    | _ => s
  | .rollback caller outcome => match s.phase caller with
    | .returning conn => s.rollback caller conn outcome
    | _ => s
  | .validate caller valid => match s.phase caller with
    | .validating conn =>
      if valid then { s.goTo caller .idle with pool := s.pool ++ [conn] }
      else s.goTo caller (.closing conn)
    | _ => s
  | .close caller => match s.phase caller with
    -- `close_connection` catches what `close` raises.
    | .closing _ => s.goTo caller .dropping
    | _ => s
  | .drop caller => match s.phase caller with
    | .dropping => s.drop limits caller
    | _ => s
  | .abandon caller => match s.phase caller with
    | .abandoning conn =>
      { s.goTo caller .idle with transactionStates := Dict.erase s.transactionStates conn }
    | _ => s

def step (limits : Limits) (s : State) (a : Action) : Unit × State := ((), next limits s a)

/-- `initialize`, where every creation succeeds. -/
def start (limits : Limits) : State :=
  (List.range limits.minConnections.toNat).foldl
    (fun s conn => { s with pool := s.pool ++ [conn], connectionCount := s.connectionCount + 1 })
    ⟨[], 0, [], []⟩

end Fmofp.Storage
