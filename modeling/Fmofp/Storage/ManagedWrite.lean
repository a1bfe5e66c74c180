import Fmofp.Storage.ConnectionPool

/-! `execute_query` with a write in a transaction of its own: each attempt takes a connection, begins, executes and
commits, and rolls back what has failed.  The database has the effect of the statement once if the call returns, and
not at all if it raises. -/

namespace Fmofp.Storage

variable {δ : Type}

/-- What a statement does to the contents of the database, and how many rows it changes. -/
structure Statement (δ : Type) where
  effect : δ → δ
  rows : δ → ℕ

/-- The committed contents, what the open transaction of each connection would commit, its `changes()`, the connections
that are marked for a transaction, and the idle ones. -/
structure Store (δ : Type) where
  committed : δ
  opened : Connection → Option δ
  changes : Connection → ℕ
  marked : Connection → Bool
  idle : List Connection
  /-- The connections that the call has taken out. -/
  taken : List Connection

/-- How a step ends: the database is locked so many times, which is waited for, and then it works or an
`sqlite3.Error` is raised. -/
structure Tries where
  waits : ℕ
  ok : Bool

/-- What meets one attempt; a pool without idle connections hands one over that it creates or that another caller
returns. -/
structure Schedule where
  handed : Connection
  begin : Tries
  execute : Tries
  commit : Bool

namespace Store

variable (s : Store δ) (conn : Connection)

/-- `BEGIN IMMEDIATE`, which fails inside of a transaction. -/
def beginImmediate : Option (Store δ) :=
  match s.opened conn with
  | some _ => none
  | none => some { s with opened := Function.update s.opened conn (some s.committed) }

/-- A statement outside of a transaction is committed at once. -/
def execute (statement : Statement δ) : Store δ :=
  match s.opened conn with
  | some working => { s with
    opened := Function.update s.opened conn (some (statement.effect working))
    changes := Function.update s.changes conn (statement.rows working) }
  | none => { s with
    committed := statement.effect s.committed
    changes := Function.update s.changes conn (statement.rows s.committed) }

def commit : Store δ :=
  match s.opened conn with
  | some working => { s with committed := working, opened := Function.update s.opened conn none }
  | none => s

def rollback : Store δ := { s with opened := Function.update s.opened conn none }

def getConnection (forTransaction : Bool) (handed : Connection) : Connection × Store δ :=
  let (conn, rest) := match s.idle with
    | conn :: rest => (conn, rest)
    | [] => (handed, [])
  (conn, { s with
    idle := rest
    taken := conn :: s.taken
    marked := if forTransaction then Function.update s.marked conn true else s.marked })

/-- `return_connection`, of a valid connection. -/
def returnConnection : Store δ :=
  let s := if s.marked conn then { s.rollback conn with marked := Function.update s.marked conn false } else s
  { s with idle := s.idle ++ [conn] }

end Store

/-- The loop around a step that the database may be locked for. -/
def untilUnlocked (step : Option (Store δ)) (ok : Bool) : ℕ → Option (Store δ)
  | 0 => if ok then step else none
  | waits + 1 => untilUnlocked step ok waits

/-- A step that ends as it is said to. -/
def Tries.run (tries : Tries) (step : Option (Store δ)) : Option (Store δ) := untilUnlocked step tries.ok tries.waits

/-- The body of the `with` statement: whether it comes to its end, and what it leaves. -/
def writeOnce (statement : Statement δ) (a : Schedule) (conn : Connection) (s : Store δ) : Bool × Store δ :=
  match a.begin.run (s.beginImmediate conn) with
  | none => (false, s.rollback conn)
  | some begun => match a.execute.run (some (begun.execute conn statement)) with
    | none => (false, begun.rollback conn)
    | some executed => if a.commit then (true, executed.commit conn) else (false, executed.rollback conn)

/-- An attempt of `execute_query`. -/
def attempt (statement : Statement δ) (a : Schedule) (s : Store δ) : Bool × Store δ :=
  let (conn, s) := s.getConnection true a.handed
  let (ok, s) := writeOnce statement a conn s
  (ok, s.returnConnection conn)

inductive Ending where
  | returned
  | raised
  deriving DecidableEq

/-- The loop over `range(retry_attempts)`, with the attempts that remain; an error of the last one is raised. -/
def attempts (statement : Statement δ) (schedule : ℕ → Schedule) (retryAttempts : ℕ) :
    ℕ → Store δ → Ending × Store δ
  | 0, s => (.returned, s)
  | remaining + 1, s =>
    let number := retryAttempts - (remaining + 1)
    let (ok, s) := attempt statement (schedule number) s
    if ok then (.returned, s)
    else if number = retryAttempts - 1 then (.raised, s)
    else attempts statement schedule retryAttempts remaining s

/-- `execute_query` of a write, with a transaction of its own. -/
def executeQuery (statement : Statement δ) (schedule : ℕ → Schedule) (retryAttempts : ℕ) (s : Store δ) :
    Ending × Store δ :=
  attempts statement schedule retryAttempts retryAttempts { s with taken := [] }

/-- What an ending says about the committed contents. -/
def Ending.contents (statement : Statement δ) (committed : δ) : Ending → δ
  | returned => statement.effect committed
  | raised => committed

/-- The connections that the call has taken out are back in the pool, without an open transaction. -/
def Store.Settled (s : Store δ) : Prop := ∀ c ∈ s.taken, c ∈ s.idle ∧ s.opened c = none

/-- Nothing goes wrong in an attempt on a connection. -/
structure Schedule.Works (a : Schedule) (opened : Option δ) : Prop where
  begin : a.begin.ok = true
  opened : opened = none
  execute : a.execute.ok = true
  commit : a.commit = true

/-- The connection that is taken out next, and the idle ones that are left. -/
def Store.next (s : Store δ) (handed : Connection) : Connection × List Connection :=
  (s.idle.headD handed, s.idle.tail)

/-- What the use of a connection leaves behind. -/
def Store.used (s : Store δ) (handed : Connection) (contents : δ) (changes : Connection → ℕ) : Store δ where
  committed := contents
  opened := Function.update s.opened (s.next handed).1 none
  changes := changes
  marked := Function.update s.marked (s.next handed).1 false
  idle := (s.next handed).2 ++ [(s.next handed).1]
  taken := (s.next handed).1 :: s.taken

/-! ### An attempt -/

section Attempt

variable {statement : Statement δ} {s : Store δ} {conn : Connection}

theorem run_eq (tries : Tries) (step : Option (Store δ)) : tries.run step = if tries.ok then step else none := by
  obtain ⟨waits, ok⟩ := tries
  unfold Tries.run
  induction waits with
  | zero => rfl
  | succ waits ih => exact ih

theorem beginImmediate_eq (h : s.opened conn = none) :
    s.beginImmediate conn = some { s with opened := Function.update s.opened conn (some s.committed) } := by
  unfold Store.beginImmediate
  rw [h]

theorem beginImmediate_eq_none {working : δ} (h : s.opened conn = some working) : s.beginImmediate conn = none := by
  unfold Store.beginImmediate
  rw [h]

theorem execute_opened (conn : Connection) (working : δ) :
    Store.execute { s with opened := Function.update s.opened conn (some working) } conn statement =
      { s with
        opened := Function.update s.opened conn (some (statement.effect working))
        changes := Function.update s.changes conn (statement.rows working) } := by
  unfold Store.execute
  dsimp only
  rw [Function.update_self]
  dsimp only
  rw [Function.update_idem]

theorem commit_opened (conn : Connection) (working : δ) :
    Store.commit { s with opened := Function.update s.opened conn (some working) } conn =
      { s with committed := working, opened := Function.update s.opened conn none } := by
  unfold Store.commit
  dsimp only
  rw [Function.update_self]
  dsimp only
  rw [Function.update_idem]

theorem rollback_opened (conn : Connection) (working : Option δ) :
    Store.rollback { s with opened := Function.update s.opened conn working } conn = s.rollback conn := by
  unfold Store.rollback
  dsimp only
  rw [Function.update_idem]

/-- The body commits the effect if it comes to its end, and nothing otherwise; no transaction stays open. -/
theorem writeOnce_eq (statement : Statement δ) (a : Schedule) (conn : Connection) (s : Store δ) :
    (¬ a.Works (s.opened conn) ∧
      ∃ changes, writeOnce statement a conn s = (false, { s.rollback conn with changes := changes })) ∨
    (a.Works (s.opened conn) ∧ writeOnce statement a conn s = (true, { s.rollback conn with
        committed := statement.effect s.committed
        changes := Function.update s.changes conn (statement.rows s.committed) })) := by
  unfold writeOnce
  rw [run_eq]
  cases hbegin : a.begin.ok with
  | false => exact .inl ⟨fun h => Bool.false_ne_true (hbegin.symm.trans h.begin), s.changes, rfl⟩
  | true =>
    rw [if_pos rfl]
    cases hopened : s.opened conn with
    | some working =>
      rw [beginImmediate_eq_none hopened]
      exact .inl ⟨fun h => Option.some_ne_none _ h.opened, s.changes, rfl⟩
    | none =>
      rw [beginImmediate_eq hopened]
      dsimp only
      rw [run_eq, execute_opened]
      cases hexecute : a.execute.ok with
      | false =>
        exact .inl ⟨fun h => Bool.false_ne_true (hexecute.symm.trans h.execute), s.changes,
          congrArg (Prod.mk false) (rollback_opened conn _)⟩
      | true =>
        rw [if_pos rfl]
        dsimp only
        cases hcommit : a.commit with
        | false =>
          exact .inl ⟨fun h => Bool.false_ne_true (hcommit.symm.trans h.commit),
            Function.update s.changes conn (statement.rows s.committed),
            congrArg (Prod.mk false) (rollback_opened (s := { s with
              changes := Function.update s.changes conn (statement.rows s.committed) }) conn _)⟩
        | true =>
          rw [if_pos rfl]
          exact .inr ⟨⟨hbegin, rfl, hexecute, hcommit⟩, congrArg (Prod.mk true) (commit_opened (s := { s with
            changes := Function.update s.changes conn (statement.rows s.committed) }) conn _)⟩

theorem getConnection_eq (forTransaction : Bool) (handed : Connection) (s : Store δ) :
    s.getConnection forTransaction handed = ((s.next handed).1, { s with
      idle := (s.next handed).2
      taken := (s.next handed).1 :: s.taken
      marked := if forTransaction then Function.update s.marked (s.next handed).1 true else s.marked }) := by
  unfold Store.getConnection Store.next
  cases s.idle with
  | nil => rfl
  | cons conn rest => rfl

theorem returnConnection_eq (h : s.marked conn = true) :
    s.returnConnection conn =
      { s.rollback conn with marked := Function.update s.marked conn false, idle := s.idle ++ [conn] } := by
  unfold Store.returnConnection
  dsimp only
  rw [h]
  rfl

/-- The connection of an attempt has been used, and comes back. -/
theorem returnConnection_used (handed : Connection) (contents : δ) (changes : Connection → ℕ) :
    Store.returnConnection
      { committed := contents, opened := Function.update s.opened (s.next handed).1 none, changes := changes
        marked := Function.update s.marked (s.next handed).1 true, idle := (s.next handed).2
        taken := (s.next handed).1 :: s.taken } (s.next handed).1 =
      s.used handed contents changes := by
  rw [returnConnection_eq (Function.update_self _ _ _)]
  unfold Store.rollback Store.used
  dsimp only
  rw [Function.update_idem, Function.update_idem]

/-- An attempt uses one connection, and ends with the contents that its result says. -/
theorem attempt_eq (statement : Statement δ) (a : Schedule) (s : Store δ) :
    (¬ a.Works (s.opened (s.next a.handed).1) ∧
      ∃ changes, attempt statement a s = (false, s.used a.handed s.committed changes)) ∨
    (a.Works (s.opened (s.next a.handed).1) ∧
      attempt statement a s = (true, s.used a.handed (statement.effect s.committed)
        (Function.update s.changes (s.next a.handed).1 (statement.rows s.committed)))) := by
  unfold attempt
  rw [getConnection_eq, if_pos rfl]
  dsimp only
  rcases writeOnce_eq statement a (s.next a.handed).1 { s with
    idle := (s.next a.handed).2
    taken := (s.next a.handed).1 :: s.taken
    marked := Function.update s.marked (s.next a.handed).1 true } with ⟨hworks, changes, h⟩ | ⟨hworks, h⟩
  · rw [h]
    exact .inl ⟨hworks, changes, congrArg (Prod.mk false) (returnConnection_used a.handed s.committed changes)⟩
  · rw [h]
    exact .inr ⟨hworks, congrArg (Prod.mk true) (returnConnection_used a.handed _ _)⟩

theorem mem_of_mem_idle (handed : Connection) {c : Connection} (h : c ∈ s.idle) :
    c ∈ (s.next handed).2 ++ [(s.next handed).1] := by
  unfold Store.next
  cases hidle : s.idle with
  | nil => rw [hidle] at h; cases h
  | cons conn rest =>
    rw [hidle] at h
    rw [List.mem_append, List.mem_singleton]
    exact (List.mem_cons.mp h).symm

theorem settled_used (handed : Connection) (contents : δ) (changes : Connection → ℕ) (h : s.Settled) :
    (s.used handed contents changes).Settled := by
  intro c hc
  rcases List.mem_cons.mp hc with rfl | htaken
  · exact ⟨List.mem_append_right _ (List.mem_singleton_self _), Function.update_self _ _ _⟩
  · obtain ⟨hmem, hopened⟩ := h c htaken
    refine ⟨mem_of_mem_idle handed hmem, ?_⟩
    change Function.update s.opened (s.next handed).1 none c = none
    rw [Function.update_apply, hopened, ite_self]

end Attempt

/-! ### The call -/

variable {statement : Statement δ} {schedule : ℕ → Schedule} {retryAttempts : ℕ}

/-- What a call has done when it ends as it does. -/
structure Wrote (statement : Statement δ) (committed : δ) (outcome : Ending × Store δ) : Prop where
  contents : outcome.2.committed = outcome.1.contents statement committed
  used : outcome.2.taken ≠ []
  settled : outcome.2.Settled

section Attempts

variable {remaining : ℕ} {s s' : Store δ}

theorem attempts_of_ok (h : attempt statement (schedule (retryAttempts - (remaining + 1))) s = (true, s')) :
    attempts statement schedule retryAttempts (remaining + 1) s = (.returned, s') := by
  rw [attempts]
  dsimp only
  rw [h]
  rfl

theorem attempts_of_error (h : attempt statement (schedule (retryAttempts - (remaining + 1))) s = (false, s')) :
    attempts statement schedule retryAttempts (remaining + 1) s =
      if retryAttempts - (remaining + 1) = retryAttempts - 1 then (.raised, s')
      else attempts statement schedule retryAttempts remaining s' := by
  rw [attempts]
  dsimp only
  rw [h]
  rfl

theorem wrote_attempts (statement : Statement δ) (schedule : ℕ → Schedule)
    (hremaining : remaining + 1 ≤ retryAttempts) (h : s.Settled) :
    Wrote statement s.committed (attempts statement schedule retryAttempts (remaining + 1) s) := by
  induction remaining generalizing s with
  | zero =>
    rcases attempt_eq statement (schedule (retryAttempts - (0 + 1))) s with
      ⟨_, changes, hattempt⟩ | ⟨_, hattempt⟩
    · rw [attempts_of_error hattempt, if_pos (by omega)]
      exact ⟨rfl, List.cons_ne_nil _ _, settled_used _ _ _ h⟩
    · rw [attempts_of_ok hattempt]
      exact ⟨rfl, List.cons_ne_nil _ _, settled_used _ _ _ h⟩
  | succ remaining ih =>
    rcases attempt_eq statement (schedule (retryAttempts - (remaining + 1 + 1))) s with
      ⟨_, changes, hattempt⟩ | ⟨_, hattempt⟩
    · -- the failed attempt has left the contents as they were
      rw [attempts_of_error hattempt, if_neg (by omega)]
      exact ih (by omega) (settled_used _ s.committed changes h)
    · rw [attempts_of_ok hattempt]
      exact ⟨rfl, List.cons_ne_nil _ _, settled_used _ _ _ h⟩

/-- Attempts that cannot work end with the error of the last one. -/
theorem raised_attempts (statement : Statement δ) (hremaining : remaining + 1 ≤ retryAttempts)
    (h : ∀ number (opened : Option δ), ¬ (schedule number).Works opened) :
    (attempts statement schedule retryAttempts (remaining + 1) s).1 = .raised := by
  induction remaining generalizing s with
  | zero =>
    rcases attempt_eq statement (schedule (retryAttempts - (0 + 1))) s with
      ⟨_, changes, hattempt⟩ | ⟨hworks, _⟩
    · rw [attempts_of_error hattempt, if_pos (by omega)]
    · exact absurd hworks (h _ _)
  | succ remaining ih =>
    rcases attempt_eq statement (schedule (retryAttempts - (remaining + 1 + 1))) s with
      ⟨_, changes, hattempt⟩ | ⟨hworks, _⟩
    · rw [attempts_of_error hattempt, if_neg (by omega)]
      exact ih (by omega)
    · exact absurd hworks (h _ _)

end Attempts

/-- A call that returns has committed the effect of its statement once, one that raises has committed nothing, and the
connections that it has used are in the pool without an open transaction. -/
theorem executeQuery_exactly_once (statement : Statement δ) (schedule : ℕ → Schedule) (s : Store δ)
    (h : 1 ≤ retryAttempts) : Wrote statement s.committed (executeQuery statement schedule retryAttempts s) := by
  obtain ⟨remaining, rfl⟩ := Nat.exists_eq_add_of_le' h
  exact wrote_attempts statement schedule le_rfl (s := { s with taken := [] }) (List.forall_mem_nil _)

/-- A pool of two connections that has nothing open. -/
def quiet : Store ℕ where
  committed := 0
  opened := fun _ => none
  changes := fun _ => 0
  marked := fun _ => false
  idle := [4, 7]
  taken := []

/-- Adds one row. -/
def addRow : Statement ℕ := ⟨Nat.succ, fun _ => 1⟩

/-- The first attempt finds the database locked twice and fails at its commit; the others work. -/
def commitFailsOnce : ℕ → Schedule
  | 0 => { handed := 0, begin := ⟨2, true⟩, execute := ⟨0, true⟩, commit := false }
  | _ => { handed := 0, begin := ⟨0, true⟩, execute := ⟨1, true⟩, commit := true }

theorem executeQuery_exactly_once_retried :
    Wrote addRow 0 (executeQuery addRow commitFailsOnce 3 quiet) ∧
      (executeQuery addRow commitFailsOnce 3 quiet).1 = .returned ∧
      (executeQuery addRow commitFailsOnce 3 quiet).2.committed = 1 ∧
      (executeQuery addRow commitFailsOnce 3 quiet).2.taken = [7, 4] ∧
      1 ≤ 3 :=
  ⟨executeQuery_exactly_once addRow commitFailsOnce quiet (by decide), by decide, by decide, by decide, by decide⟩

end Fmofp.Storage
