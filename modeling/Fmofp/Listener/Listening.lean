import Fmofp.Machine.Run

/-! `BackoffPolicy`: how long to wait after a failure, and when to give up.  What a run of failures
waits for in total bounds their number. -/

namespace Fmofp.Listener

structure BackoffPolicy where
  initial : ℚ
  maximum : ℚ
  factor : ℚ
  giveUpAfter : Option ℚ
  maxAttempts : Option ℕ
  logFirst : ℕ
  logInterval : ℚ
  attempts : ℕ
  firstFailureAt : Option ℚ
  lastLoggedAt : Option ℚ
  suppressed : ℕ

namespace BackoffPolicy

/-- The defaults of `__init__`. -/
def default : BackoffPolicy where
  initial := 1 / 2
  maximum := 30
  factor := 2
  giveUpAfter := some 120
  maxAttempts := none
  logFirst := 3
  logInterval := 30
  attempts := 0
  firstFailureAt := none
  lastLoggedAt := none
  suppressed := 0

/-- `exhausted`, with the clock at `now`. -/
def exhausted (p : BackoffPolicy) (now : ℚ) : Bool :=
  if p.attempts = 0 then false
  else if p.maxAttempts.any fun limit => decide (limit ≤ p.attempts) then true
  else match p.giveUpAfter, p.firstFailureAt with
    | some limit, some first => decide (limit ≤ now - first)
    | _, _ => false

/-- The wait after failure number `k + 1` of a run. -/
def delay (p : BackoffPolicy) (k : ℕ) : ℚ := min (p.initial * p.factor ^ k) p.maximum

/-- `record_failure`, with the delay that it returns. -/
def recordFailure (p : BackoffPolicy) (now : ℚ) : ℚ × BackoffPolicy :=
  (p.delay p.attempts,
    { p with firstFailureAt := some (p.firstFailureAt.getD now), attempts := p.attempts + 1 })

/-- `record_success`. -/
def recordSuccess (p : BackoffPolicy) : BackoffPolicy :=
  { p with attempts := 0, firstFailureAt := none, lastLoggedAt := none, suppressed := 0 }

/-- `should_log`. -/
def shouldLog (p : BackoffPolicy) (now : ℚ) : Bool × BackoffPolicy :=
  if p.attempts ≤ p.logFirst || p.lastLoggedAt.all fun at_ => decide (p.logInterval ≤ now - at_) then
    (true, { p with lastLoggedAt := some now, suppressed := 0 })
  else (false, { p with suppressed := p.suppressed + 1 })

/-- What a run of `n` failures waits for in total. -/
def waited (p : BackoffPolicy) (n : ℕ) : ℚ := ∑ k ∈ Finset.range n, p.delay k

/-- The parameters of a policy, without its record of failures. -/
def SameParameters (p q : BackoffPolicy) : Prop :=
  p.initial = q.initial ∧ p.maximum = q.maximum ∧ p.factor = q.factor ∧
    p.giveUpAfter = q.giveUpAfter ∧ p.maxAttempts = q.maxAttempts

theorem SameParameters.delay {p q : BackoffPolicy} (h : p.SameParameters q) (k : ℕ) :
    p.delay k = q.delay k := by
  obtain ⟨hi, hm, hf, -, -⟩ := h
  simp only [BackoffPolicy.delay, hi, hm, hf]

theorem SameParameters.waited {p q : BackoffPolicy} (h : p.SameParameters q) (n : ℕ) :
    p.waited n = q.waited n :=
  Finset.sum_congr rfl fun k _ => h.delay k

theorem sameParameters_recordFailure {p q : BackoffPolicy} (h : p.SameParameters q) (now : ℚ) :
    (p.recordFailure now).2.SameParameters q := h

theorem sameParameters_recordSuccess {p q : BackoffPolicy} (h : p.SameParameters q) :
    p.recordSuccess.SameParameters q := h

theorem sameParameters_shouldLog {p q : BackoffPolicy} (h : p.SameParameters q) (now : ℚ) :
    (p.shouldLog now).2.SameParameters q := by
  unfold shouldLog
  split <;> exact h

@[simp] theorem shouldLog_attempts (p : BackoffPolicy) (now : ℚ) :
    (p.shouldLog now).2.attempts = p.attempts := by
  unfold shouldLog
  split <;> rfl

@[simp] theorem shouldLog_firstFailureAt (p : BackoffPolicy) (now : ℚ) :
    (p.shouldLog now).2.firstFailureAt = p.firstFailureAt := by
  unfold shouldLog
  split <;> rfl

theorem waited_succ (p : BackoffPolicy) (n : ℕ) : p.waited (n + 1) = p.waited n + p.delay n :=
  Finset.sum_range_succ _ n

theorem waited_default : default.waited 9 = 243 / 2 := by
  simp only [waited, delay, default, Finset.sum_range_succ, Finset.sum_range_zero]
  norm_num

end BackoffPolicy

end Fmofp.Listener

/-! `BC_Listener.start_listening`: the accept loop under its backoff policy, turn by turn, and the
runs of failures after which it gives up. -/

namespace Fmofp.Listener

open Machine

/-- What `select` and `accept` do on the bound socket. -/
inductive Select where
  | connection
  | timeout
  | failure
  deriving DecidableEq

/-- What one turn of the loop meets: whether `stop_listener` cleared `running`, whether a socket that
was bound still is, whether `setup_socket` binds one, what `accept` does, and the clock as
`record_failure`, `should_log` and `exhausted` read it. -/
structure Turn where
  stopped : Bool
  stillBound : Bool
  binds : Bool
  select : Select
  failedAt : ℚ
  loggedAt : ℚ
  checkedAt : ℚ

inductive Phase where
  | listening
  | stopped
  | gaveUp
  deriving DecidableEq

/-- The listener at the head of its loop; `bound` says that it holds a socket bound to its port. -/
structure BCListener where
  phase : Phase
  bound : Bool
  retryExhausted : Bool
  policy : BackoffPolicy

/-- `start_listening` up to its loop. -/
def startListening (bound : Bool) : BCListener where
  phase := .listening
  bound := bound
  retryExhausted := false
  policy := .default

/-- A failure: the socket is dropped, and the loop sleeps for the delay or gives up. -/
def BCListener.fail (s : BCListener) (t : Turn) : Option ℚ × BCListener :=
  let (delay, policy) := s.policy.recordFailure t.failedAt
  let (_, policy) := policy.shouldLog t.loggedAt
  if policy.exhausted t.checkedAt then
    (none, { s with phase := .gaveUp, bound := false, retryExhausted := true, policy := policy })
  else (some delay, { s with bound := false, policy := policy })

/-- `select` and `accept` on the bound socket. -/
def BCListener.accept (s : BCListener) (t : Turn) : Option ℚ × BCListener :=
  match t.select with
  | .connection | .timeout => (none, s)
  | .failure => s.fail t

/-- A turn of the loop, with the delay that it sleeps. -/
def turn (s : BCListener) (t : Turn) : Option ℚ × BCListener :=
  match s.phase with
  | .stopped | .gaveUp => (none, s)
  | .listening =>
    if t.stopped then (none, { s with phase := .stopped, bound := false })
    else if s.bound && t.stillBound then s.accept t
    else if t.binds then { s with bound := true, policy := s.policy.recordSuccess }.accept t
    else s.fail t

/-- The turn fails, while binding or while accepting on the bound socket. -/
def Fails (s : BCListener) (t : Turn) : Prop :=
  t.stopped = false ∧
    if s.bound && t.stillBound then t.select = .failure
    else t.binds = true → t.select = .failure

instance (s : BCListener) (t : Turn) : Decidable (Fails s t) :=
  inferInstanceAs (Decidable (_ ∧ ite _ _ _))

/-- While the loop runs the clock does not go back, and it advances by at least each delay before the
next turn fails. -/
def Advances : BCListener → List Turn → Prop
  | _, [] => True
  | s, t :: ts =>
    (s.phase = .listening → t.failedAt ≤ t.checkedAt ∧
      ∀ t' ∈ ts.head?, ∀ delay ∈ (turn s t).1, t.checkedAt + delay ≤ t'.failedAt) ∧
    Advances (turn s t).2 ts

/-- No bind succeeds on these turns until 120 s have passed since `first`. -/
def Persists (first : ℚ) : List Turn → Prop
  | [] => False
  | t :: ts => t.binds = false ∧ (120 ≤ t.checkedAt - first ∨ Persists first ts)

/-- After one of these failures no bind succeeds until 120 s have passed. -/
def Outlasts : List Turn → Prop
  | [] => False
  | t :: ts => 120 ≤ t.checkedAt - t.failedAt ∨ Persists t.failedAt ts ∨ Outlasts ts

/-- The loop runs, `n` failures after the one at `first`. -/
structure Running (s : BCListener) (first : Option ℚ) (n : ℕ) : Prop where
  phase : s.phase = .listening
  parameters : s.policy.SameParameters .default
  first : s.policy.firstFailureAt = first
  attempts : s.policy.attempts = n

/-- The turn binds a new socket. -/
def BCListener.rebinds (s : BCListener) (t : Turn) : Bool := !(s.bound && t.stillBound) && t.binds

theorem turn_of_fails {s : BCListener} {t : Turn} (hphase : s.phase = .listening) (h : Fails s t) :
    turn s t = { s with policy := if s.rebinds t then s.policy.recordSuccess else s.policy }.fail t := by
  obtain ⟨hstopped, hfail⟩ := h
  unfold turn
  simp only [hphase, hstopped, Bool.false_eq_true, if_false]
  cases hbound : s.bound && t.stillBound
  · rw [hbound] at hfail
    cases hbinds : t.binds
    · rw [← hphase]
      simp [BCListener.rebinds, hbinds]
    · have hselect : t.select = .failure := by simpa [hbinds] using hfail
      simp [BCListener.rebinds, hbound, hbinds, BCListener.accept, hselect, BCListener.fail]
  · rw [hbound] at hfail
    have hselect : t.select = .failure := by simpa using hfail
    rw [← hphase]
    simp [BCListener.rebinds, hbound, BCListener.accept, hselect]

/-- A failing turn gives up when 120 s have passed since the first failure after the last successful
bind, and otherwise sleeps for the next delay. -/
theorem turn_running {s : BCListener} {t : Turn} {first : Option ℚ} {n : ℕ} (h : Running s first n)
    (hfails : Fails s t) :
    let since := (if s.rebinds t then none else first).getD t.failedAt
    let count := if s.rebinds t then 0 else n
    if 120 ≤ t.checkedAt - since then (turn s t).2.phase = .gaveUp
    else Running (turn s t).2 (some since) (count + 1) ∧ (turn s t).2.bound = false ∧
      (turn s t).1 = some (BackoffPolicy.default.delay count) := by
  intro since count
  have hturn := turn_of_fails h.phase hfails
  set policy := if s.rebinds t then s.policy.recordSuccess else s.policy with hpolicy
  have hparams : policy.SameParameters .default := by
    rw [hpolicy]
    split
    · exact BackoffPolicy.sameParameters_recordSuccess h.parameters
    · exact h.parameters
  have hsince : policy.firstFailureAt.getD t.failedAt = since := by
    rw [hpolicy]
    show _ = (if s.rebinds t then none else first).getD t.failedAt
    split
    · rfl
    · rw [h.first]
  have hcount : policy.attempts = count := by
    rw [hpolicy]
    show _ = if s.rebinds t then 0 else n
    split
    · rfl
    · rw [h.attempts]
  set logged := ((policy.recordFailure t.failedAt).2.shouldLog t.loggedAt).2 with hlogged
  have hparams' : logged.SameParameters .default :=
    BackoffPolicy.sameParameters_shouldLog
      (BackoffPolicy.sameParameters_recordFailure hparams t.failedAt) t.loggedAt
  have hfirst' : logged.firstFailureAt = some since := by
    rw [hlogged, BackoffPolicy.shouldLog_firstFailureAt, ← hsince]
    rfl
  have hattempts' : logged.attempts = count + 1 := by
    rw [hlogged, BackoffPolicy.shouldLog_attempts, ← hcount]
    rfl
  have hexhausted : logged.exhausted t.checkedAt = decide (120 ≤ t.checkedAt - since) := by
    obtain ⟨-, -, -, hgive, hmax⟩ := hparams'
    rw [BackoffPolicy.exhausted, if_neg (by omega), hmax, hgive, hfirst']
    rfl
  have hdelay : policy.delay policy.attempts = BackoffPolicy.default.delay count := by
    rw [hcount, hparams.delay]
  have hresult : turn s t = if 120 ≤ t.checkedAt - since then
      (none, { s with
        phase := .gaveUp, bound := false, retryExhausted := true, policy := logged })
      else (some (policy.delay policy.attempts), { s with bound := false, policy := logged }) := by
    rw [hturn]
    show (if logged.exhausted t.checkedAt then _ else _) = _
    simp only [hexhausted, decide_eq_true_eq]
    rfl
  rw [hresult]
  split
  · rfl
  · exact ⟨⟨h.phase, hparams', hfirst', hattempts'⟩, rfl, congrArg some hdelay⟩

/-- A listener that gave up takes no further turn. -/
theorem final_gaveUp {s : BCListener} (h : s.phase = .gaveUp) (ts : List Turn) :
    (final turn s ts).phase = .gaveUp := by
  induction ts generalizing s with
  | nil => exact h
  | cons t ts ih =>
    refine ih ?_
    rw [turn, h]
    exact h

end Fmofp.Listener
