import Fmofp.Python.Value
import Fmofp.Storage.ManagedWrite

/-! `delete_from_table`: the `DELETE` runs on the first idle connection, which goes to the end of the queue, and
`changes()` is asked of the connection that comes next. -/

namespace Fmofp.Storage

open Python

variable {ρ : Type}

/-- The clauses of one entry of the condition, with their parameters; a dictionary holds operators. -/
def clauses (key : String) : Value → List (String × Value)
  | .dict operators => operators.map fun e => ("\"" ++ key ++ "\" " ++ e.1 ++ " ?", e.2)
  | v => [("\"" ++ key ++ "\" = ?", v)]

/-- The text of the `DELETE` and its parameters. -/
def deleteStatement (table : String) (condition : Dict String Value) : String × List Value :=
  let built := condition.flatMap fun e => clauses e.1 e.2
  ("DELETE FROM \"" ++ table ++ "\" WHERE " ++ String.intercalate " AND " (built.map Prod.fst), built.map Prod.snd)

/-- SQLite: the rows that a `DELETE` with its parameters removes from a table, or nothing where it raises an error. -/
abbrev Engine (ρ : Type) := String → List Value → List ρ → Option (ρ → Bool)

/-- A table and a pool that nobody else uses, in which each connection remembers how many rows it has changed last. -/
structure Resting (ρ : Type) where
  rows : List ρ
  idle : List Connection
  nodup : idle.Nodup
  changes : Connection → ℕ

/-- A connection that is created has changed nothing. -/
def Resting.store (pool : Resting ρ) : Store (List ρ) where
  committed := pool.rows
  opened := fun _ => none
  changes := fun c => if c ∈ pool.idle then pool.changes c else 0
  marked := fun _ => false
  idle := pool.idle
  taken := []

def removal (doomed : ρ → Bool) : Statement (List ρ) where
  effect := List.filter fun row => !doomed row
  rows := List.countP doomed

/-- An attempt that only the statement itself can fail. -/
def undisturbed (handed : Connection) (accepted : Bool) : Schedule where
  handed := handed
  begin := ⟨0, true⟩
  execute := ⟨0, accepted⟩
  commit := true

/-- What `delete_from_table` returns, and what it leaves.  Without an idle connection the pool creates one, unless it
is at its limit. -/
def deleteFromTable (sqlite : Engine ρ) (retryAttempts : ℕ) (created : Option Connection) (table : String)
    (condition : Dict String Value) (pool : Resting ρ) : ℕ × Store (List ρ) :=
  match pool.idle.head?.or created with
  | none => (0, pool.store)
  | some handed =>
    let (text, params) := deleteStatement table condition
    let doomed := sqlite text params pool.rows
    let (ending, s) := executeQuery (removal (doomed.getD fun _ => false))
      (fun _ => undisturbed handed doomed.isSome) retryAttempts pool.store
    match ending with
    | .raised => (0, s)
    | .returned =>
      let (conn, s) := s.getConnection false handed
      (s.changes conn, s.returnConnection conn)

/-- The rows that are gone after a call. -/
def removed (pool : Resting ρ) (outcome : ℕ × Store (List ρ)) : ℕ :=
  pool.rows.length - outcome.2.committed.length

/-- Where SQLite takes the `DELETE`, there is no second idle connection, or it has last changed as many rows as the
`DELETE` removes.  Without attempts it is the first one that is asked, and nothing is removed. -/
def AskedRemembers (sqlite : Engine ρ) (retryAttempts : ℕ) (table : String) (condition : Dict String Value)
    (pool : Resting ρ) : Prop :=
  if retryAttempts = 0 then ∀ first ∈ pool.idle.head?, pool.changes first = 0
  else ∀ doomed ∈ sqlite (deleteStatement table condition).1 (deleteStatement table condition).2 pool.rows,
    ∀ second ∈ pool.idle.tail.head?, pool.changes second = pool.rows.countP doomed

section Delete

variable {pool : Resting ρ} {handed : Connection} {retryAttempts : ℕ}

theorem length_sub_length_filter (rows : List ρ) (doomed : ρ → Bool) :
    rows.length - (rows.filter fun row => !doomed row).length = rows.countP doomed := by
  have hlength : rows.length = rows.countP doomed + rows.countP fun row => !doomed row := by
    rw [List.length_eq_countP_add_countP doomed]
    simp only [Bool.not_eq_true, Bool.decide_eq_false]
  rw [← List.countP_eq_length_filter]
  omega

theorem works_undisturbed (handed : Connection) : (undisturbed handed true).Works (none : Option (List ρ)) :=
  ⟨rfl, rfl, rfl, rfl⟩

theorem not_works_undisturbed (handed : Connection) (opened : Option (List ρ)) :
    ¬ (undisturbed handed false).Works opened := fun h => Bool.false_ne_true h.execute

/-- The `DELETE` that SQLite takes runs in the first attempt. -/
theorem executeQuery_undisturbed (pool : Resting ρ) (handed : Connection) (statement : Statement (List ρ))
    (h : 1 ≤ retryAttempts) :
    executeQuery statement (fun _ => undisturbed handed true) retryAttempts pool.store =
      (.returned, pool.store.used handed (statement.effect pool.rows)
        (Function.update pool.store.changes (pool.idle.headD handed) (statement.rows pool.rows))) := by
  obtain ⟨remaining, rfl⟩ := Nat.exists_eq_add_of_le' h
  rcases attempt_eq statement (undisturbed handed true) pool.store with ⟨hworks, _⟩ | ⟨_, hattempt⟩
  · exact absurd (works_undisturbed handed) hworks
  · unfold executeQuery
    exact attempts_of_ok hattempt

/-- One that it does not take is given up, and leaves the table as it was. -/
theorem executeQuery_rejected (pool : Resting ρ) (handed : Connection) (statement : Statement (List ρ))
    (h : 1 ≤ retryAttempts) :
    let outcome := executeQuery statement (fun _ => undisturbed handed false) retryAttempts pool.store
    outcome.1 = .raised ∧ outcome.2.committed = pool.rows := by
  obtain ⟨remaining, rfl⟩ := Nat.exists_eq_add_of_le' h
  have hraised := raised_attempts statement (s := pool.store) (le_refl (remaining + 1))
    fun _ => not_works_undisturbed handed
  refine ⟨hraised, ?_⟩
  have hcontents := (wrote_attempts statement (s := pool.store) (fun _ => undisturbed handed false)
    (le_refl (remaining + 1)) (List.forall_mem_nil _)).contents
  rw [hraised] at hcontents
  exact hcontents

/-- What the second connection remembers, once the first one is at the end of the queue. -/
theorem changes_next_used (contents : List ρ) (count : ℕ) :
    let s := pool.store.used handed contents (Function.update pool.store.changes (pool.idle.headD handed) count)
    s.changes (s.next handed).1 = (pool.idle.tail.head?.map pool.changes).getD count := by
  obtain ⟨rows, idle, hnodup, changes⟩ := pool
  unfold Store.used Store.next Resting.store
  dsimp only
  cases idle with
  | nil => simp
  | cons first rest =>
    cases rest with
    | nil => simp
    | cons second rest =>
      have hne : second ≠ first := fun h => (List.nodup_cons.mp hnodup).1 (h ▸ List.mem_cons_self)
      simp [hne]

theorem returnConnection_committed {δ : Type} (s : Store δ) (conn : Connection) :
    (s.returnConnection conn).committed = s.committed := by
  unfold Store.returnConnection
  dsimp only
  cases s.marked conn with
  | false => rfl
  | true => rfl

/-! ### The four ways of a call -/

section Ways

variable {sqlite : Engine ρ} {created : Option Connection} {table : String} {condition : Dict String Value}

theorem deleteFromTable_unconnected (h : pool.idle.head?.or created = none) :
    deleteFromTable sqlite retryAttempts created table condition pool = (0, pool.store) := by
  unfold deleteFromTable
  rw [h]

theorem deleteFromTable_without_attempts (sqlite : Engine ρ) (table : String) (condition : Dict String Value)
    (h : pool.idle.head?.or created = some handed) :
    (deleteFromTable sqlite 0 created table condition pool).1 = (pool.idle.head?.map pool.changes).getD 0 ∧
      (deleteFromTable sqlite 0 created table condition pool).2.committed = pool.rows := by
  unfold deleteFromTable
  rw [h]
  dsimp only [executeQuery, attempts]
  rw [getConnection_eq, returnConnection_committed]
  refine ⟨?_, rfl⟩
  obtain ⟨rows, idle, hnodup, changes⟩ := pool
  cases idle with
  | nil => rfl
  | cons first rest => exact if_pos List.mem_cons_self

theorem deleteFromTable_rejected (h : pool.idle.head?.or created = some handed) (hattempts : 1 ≤ retryAttempts)
    (hsqlite : sqlite (deleteStatement table condition).1 (deleteStatement table condition).2 pool.rows = none) :
    (deleteFromTable sqlite retryAttempts created table condition pool).1 = 0 ∧
      (deleteFromTable sqlite retryAttempts created table condition pool).2.committed = pool.rows := by
  obtain ⟨hraised, hcommitted⟩ := executeQuery_rejected pool handed (removal fun _ => false) hattempts
  unfold deleteFromTable
  rw [h]
  dsimp only
  rw [hsqlite]
  dsimp only [Option.getD_none, Option.isSome_none]
  rw [hraised]
  exact ⟨rfl, hcommitted⟩

theorem deleteFromTable_accepted {doomed : ρ → Bool} (h : pool.idle.head?.or created = some handed)
    (hattempts : 1 ≤ retryAttempts)
    (hsqlite : sqlite (deleteStatement table condition).1 (deleteStatement table condition).2 pool.rows = some doomed) :
    (deleteFromTable sqlite retryAttempts created table condition pool).1 =
        (pool.idle.tail.head?.map pool.changes).getD (pool.rows.countP doomed) ∧
      (deleteFromTable sqlite retryAttempts created table condition pool).2.committed =
        pool.rows.filter fun row => !doomed row := by
  have hexecute := executeQuery_undisturbed pool handed (removal doomed) hattempts
  unfold deleteFromTable
  rw [h]
  dsimp only
  rw [hsqlite]
  dsimp only [Option.getD_some, Option.isSome_some]
  rw [hexecute]
  dsimp only
  rw [getConnection_eq, returnConnection_committed]
  exact ⟨changes_next_used _ _, rfl⟩

end Ways

/-- A call reports the number of rows that it has removed if and only if the connection that it asks remembers it. -/
theorem deleteFromTable_iff (sqlite : Engine ρ) (retryAttempts : ℕ) (created : Option Connection) (table : String)
    (condition : Dict String Value) (pool : Resting ρ) :
    (deleteFromTable sqlite retryAttempts created table condition pool).1 =
        removed pool (deleteFromTable sqlite retryAttempts created table condition pool) ↔
      AskedRemembers sqlite retryAttempts table condition pool := by
  unfold AskedRemembers removed
  cases hhanded : pool.idle.head?.or created with
  | none =>
    rw [deleteFromTable_unconnected hhanded]
    have hidle : pool.idle = [] := List.head?_eq_none_iff.mp (Option.or_eq_none_iff.mp hhanded).1
    rw [hidle]
    simp [Resting.store]
  | some handed =>
    by_cases hattempts : retryAttempts = 0
    · subst hattempts
      obtain ⟨hreported, hleft⟩ := deleteFromTable_without_attempts sqlite table condition hhanded
      rw [hreported, hleft, if_pos rfl, Nat.sub_self]
      cases pool.idle.head? with
      | none => simp
      | some first => simp
    · rw [if_neg hattempts]
      cases hsqlite : sqlite (deleteStatement table condition).1 (deleteStatement table condition).2 pool.rows with
      | none =>
        obtain ⟨hreported, hleft⟩ := deleteFromTable_rejected hhanded (Nat.pos_of_ne_zero hattempts) hsqlite
        rw [hreported, hleft]
        simp
      | some doomed =>
        obtain ⟨hreported, hleft⟩ := deleteFromTable_accepted hhanded (Nat.pos_of_ne_zero hattempts) hsqlite
        rw [hreported, hleft, length_sub_length_filter]
        cases pool.idle.tail.head? with
        | none => simp
        | some second => simp

end Delete

/-! ### Three idle connections -/

/-- Of a table of numbers SQLite removes those below the parameter; it knows no other statement. -/
def numbers : Engine ℤ := fun text params _ =>
  match text, params with
  | "DELETE FROM \"vil_data\" WHERE \"time\" < ?", [.int limit] => some fun time => decide (time < limit)
  | _, _ => none

/-- The connection `2`, which is the second one, has inserted one row last. -/
def threeIdle : Resting ℤ where
  rows := [10, 20, 30]
  idle := [1, 2, 3]
  nodup := by decide
  changes := fun c => if c = 2 then 1 else 0

/-- Two of the three rows are removed, and one is reported. -/
theorem deleteFromTable_asks_another :
    (deleteFromTable numbers 3 none "vil_data" [("time", .dict [("<", .int 25)])] threeIdle).1 = 1 ∧
      removed threeIdle
        (deleteFromTable numbers 3 none "vil_data" [("time", .dict [("<", .int 25)])] threeIdle) = 2 := by
  decide +kernel

end Fmofp.Storage
