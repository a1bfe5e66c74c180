import Fmofp.Listener.Listening
import Fmofp.Python.Quantum

/-! The lines that a listener logs about its failures.  `should_log` starts the count of suppressed failures again
before `describe` reads it, so that a line never tells of them. -/

namespace Fmofp.Listener

open Machine Python

/-- `f"{x:.1f}"`. -/
def oneDecimal (x : ℚ) : String :=
  let tenths := (roundHalfEven (x * 10)).natAbs
  (if x < 0 then "-" else "") ++ toString (tenths / 10) ++ "." ++ toString (tenths % 10)

namespace BackoffPolicy

/-- `failing_for`. -/
def failingFor (p : BackoffPolicy) (now : ℚ) : ℚ := (p.firstFailureAt.map fun first => now - first).getD 0

/-- The parts of a line after its first one. -/
def detailParts (p : BackoffPolicy) (now : ℚ) (detail : String) : List String :=
  (if p.firstFailureAt.isSome then ["failing for " ++ oneDecimal (p.failingFor now) ++ "s"] else []) ++
    (if p.suppressed ≠ 0 then [toString p.suppressed ++ " similar suppressed"] else []) ++
    (if detail ≠ "" then [detail] else [])

/-- `" — ".join`. -/
def joinParts (first : String) (parts : List String) : String := parts.foldl (fun line part => line ++ " — " ++ part) first

/-- `describe`, for the policy of a name. -/
def describe (name : String) (p : BackoffPolicy) (now : ℚ) (detail : String) : String :=
  joinParts (name ++ ": attempt " ++ toString p.attempts) (p.detailParts now detail)

end BackoffPolicy

/-- What happens to the listener, with what the policy reads of the clock. -/
inductive Attempt where
  | failure (failedAt loggedAt describedAt : ℚ) (detail : String)
  | success

inductive Outcome where
  | logged (line : String)
  | unlogged
  | success

/-- `record_failure`, `should_log` and, if it says so, `describe`; or `record_success`. -/
def report (name : String) (p : BackoffPolicy) : Attempt → Outcome × BackoffPolicy
  | .failure failedAt loggedAt describedAt detail =>
    let (log, q) := (p.recordFailure failedAt).2.shouldLog loggedAt
    (if log then .logged (q.describe name describedAt detail) else .unlogged, q)
  | .success => (.success, p.recordSuccess)

/-- The failures that were not logged since the last line of the same failure run. -/
def tally (count : ℕ) : Outcome → ℕ
  | .unlogged => count + 1
  | .logged _ => 0
  | .success => 0

/-- A policy that has not recorded anything. -/
def Fresh (p : BackoffPolicy) : Prop :=
  p.attempts = 0 ∧ p.firstFailureAt = none ∧ p.lastLoggedAt = none ∧ p.suppressed = 0

/-- The line with the count that it is to tell of. -/
def rightLine (name : String) (q : BackoffPolicy) (count : ℕ) (now : ℚ) (detail : String) : String :=
  { q with suppressed := count }.describe name now detail

/-! ### Counts -/

theorem shouldLog_cases (p : BackoffPolicy) (now : ℚ) :
    p.shouldLog now = (true, { p with lastLoggedAt := some now, suppressed := 0 }) ∨
      p.shouldLog now = (false, { p with suppressed := p.suppressed + 1 }) := by
  unfold BackoffPolicy.shouldLog
  split_ifs
  · exact .inl rfl
  · exact .inr rfl

/-- The policy counts the failures that were not logged. -/
theorem suppressed_report (name : String) (p : BackoffPolicy) (attempt : Attempt) :
    (report name p attempt).2.suppressed = tally p.suppressed (report name p attempt).1 := by
  cases attempt with
  | failure failedAt loggedAt describedAt detail =>
    unfold report
    dsimp only
    rcases shouldLog_cases (p.recordFailure failedAt).2 loggedAt with hlog | hlog
    · rw [hlog]
      rfl
    · rw [hlog]
      rfl
  | success => rfl

theorem suppressed_final (name : String) (p : BackoffPolicy) (attempts : List Attempt) :
    (final (report name) p attempts).suppressed = (outputs (report name) p attempts).foldl tally p.suppressed := by
  induction attempts generalizing p with
  | nil => rfl
  | cons attempt attempts ih =>
    rw [final_cons, outputs_cons, List.foldl_cons, ih, suppressed_report]

/-! ### Lines -/

theorem length_joinParts (first : String) (parts : List String) :
    (BackoffPolicy.joinParts first parts).length = first.length + (parts.map fun part => 3 + part.length).sum := by
  induction parts generalizing first with
  | nil => rfl
  | cons part parts ih =>
    have hseparator : " — ".length = 3 := by decide
    rw [BackoffPolicy.joinParts, List.foldl_cons, ← BackoffPolicy.joinParts, ih, List.map_cons, List.sum_cons,
      String.length_append, String.length_append, hseparator]
    omega

/-- A line that tells of suppressed failures is longer. -/
theorem length_describe (name : String) (q : BackoffPolicy) {count : ℕ} (hcount : count ≠ 0) (now : ℚ) (detail : String) :
    (rightLine name q 0 now detail).length < (rightLine name q count now detail).length := by
  unfold rightLine BackoffPolicy.describe
  rw [length_joinParts, length_joinParts]
  apply Nat.add_lt_add_left
  unfold BackoffPolicy.detailParts
  dsimp only [BackoffPolicy.failingFor]
  rw [if_neg (not_not.mpr rfl), if_pos hcount, List.map_append, List.map_append, List.map_append, List.map_append,
    List.sum_append, List.sum_append, List.sum_append, List.sum_append]
  simp only [List.map_cons, List.map_nil, List.sum_cons, List.sum_nil]
  omega

theorem rightLine_inj {name : String} {q : BackoffPolicy} {count : ℕ} {now : ℚ} {detail : String} :
    rightLine name q 0 now detail = rightLine name q count now detail ↔ count = 0 := by
  constructor
  · intro heq
    by_contra hcount
    have hlt := length_describe name q hcount now detail
    rw [heq] at hlt
    exact lt_irrefl _ hlt
  · rintro rfl
    rfl

/-- A logged line starts the count again. -/
theorem eq_of_logged {name : String} {p : BackoffPolicy} {failedAt loggedAt describedAt : ℚ} {detail line : String}
    (h : (report name p (.failure failedAt loggedAt describedAt detail)).1 = .logged line) :
    line = rightLine name (report name p (.failure failedAt loggedAt describedAt detail)).2 0 describedAt detail := by
  unfold report at h ⊢
  dsimp only at h ⊢
  rcases shouldLog_cases (p.recordFailure failedAt).2 loggedAt with hlog | hlog
  · rw [hlog] at h ⊢
    exact (Outcome.logged.inj h).symm
  · rw [hlog] at h
    cases h

theorem logged_of_shouldLog {name : String} {p : BackoffPolicy} {failedAt loggedAt : ℚ}
    (h : ((p.recordFailure failedAt).2.shouldLog loggedAt).1 = true) (describedAt : ℚ) (detail : String) :
    (report name p (.failure failedAt loggedAt describedAt detail)).1 =
      .logged (((p.recordFailure failedAt).2.shouldLog loggedAt).2.describe name describedAt detail) := by
  unfold report
  dsimp only
  rw [h]
  rfl

/-- A line tells of the failures that were not logged before it if and only if there are none. -/
theorem line_right_iff {name : String} {p : BackoffPolicy} (hfresh : Fresh p) (attempts : List Attempt)
    {failedAt loggedAt describedAt : ℚ} {detail line : String}
    (hlogged : (report name (final (report name) p attempts) (.failure failedAt loggedAt describedAt detail)).1 =
      .logged line) :
    line = rightLine name
        (report name (final (report name) p attempts) (.failure failedAt loggedAt describedAt detail)).2
        ((outputs (report name) p attempts).foldl tally 0) describedAt detail ↔
      (final (report name) p attempts).suppressed = 0 := by
  obtain ⟨-, -, -, hzero⟩ := hfresh
  rw [eq_of_logged hlogged, rightLine_inj, suppressed_final, hzero]

theorem first_line_right :
    BackoffPolicy.describe "BC_Listener socket" ((BackoffPolicy.default.recordFailure 0).2.shouldLog 0).2 0 "refused" =
        rightLine "BC_Listener socket"
          (report "BC_Listener socket" (final (report "BC_Listener socket") BackoffPolicy.default [])
            (.failure 0 0 0 "refused")).2
          ((outputs (report "BC_Listener socket") BackoffPolicy.default []).foldl tally 0) 0 "refused" ↔
      (final (report "BC_Listener socket") BackoffPolicy.default []).suppressed = 0 :=
  line_right_iff ⟨rfl, rfl, rfl, rfl⟩ [] rfl

def fourFailures : List Attempt := [.failure 0 0 0 "", .failure 1 1 1 "", .failure 2 2 2 "", .failure 3 3 3 ""]

/-- The fourth failure is not logged, and the line half a minute later does not tell of it. -/
theorem line_without_count :
    ¬∀ (name : String) (p : BackoffPolicy), Fresh p → ∀ (attempts : List Attempt) (failedAt loggedAt describedAt : ℚ)
      (detail line : String),
      (report name (final (report name) p attempts) (.failure failedAt loggedAt describedAt detail)).1 = .logged line →
        line = rightLine name
          (report name (final (report name) p attempts) (.failure failedAt loggedAt describedAt detail)).2
          ((outputs (report name) p attempts).foldl tally 0) describedAt detail := by
  intro h
  have hlog : (((final (report "socket") BackoffPolicy.default fourFailures).recordFailure 40).2.shouldLog 40).1 = true := by
    decide +kernel
  have hcount : (outputs (report "socket") BackoffPolicy.default fourFailures).foldl tally 0 = 1 := by decide +kernel
  have hlogged := @logged_of_shouldLog "socket" _ _ _ hlog 40 ""
  have hline := h "socket" BackoffPolicy.default ⟨rfl, rfl, rfl, rfl⟩ fourFailures 40 40 40 "" _ hlogged
  rw [eq_of_logged hlogged, rightLine_inj, hcount] at hline
  cases hline

end Fmofp.Listener
