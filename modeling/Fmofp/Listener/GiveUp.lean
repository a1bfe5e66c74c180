import Fmofp.Listener.Listening

/-! When the accept loop gives up: a successful bind clears the record of failures, so a socket that
binds every time and fails to accept every time is retried for ever. -/

namespace Fmofp.Listener

open Machine

/-- A turn that the running loop takes fails. -/
def FailsWhile (s : BCListener) (t : Turn) : Prop := s.phase = .listening → Fails s t

instance (s : BCListener) (t : Turn) : Decidable (FailsWhile s t) :=
  inferInstanceAs (Decidable (_ → _))

instance decidableAdvances : ∀ s ts, Decidable (Advances s ts)
  | _, [] => .isTrue trivial
  | s, t :: ts => have := decidableAdvances (turn s t).2 ts
    inferInstanceAs (Decidable ((_ → _) ∧ _))

theorem delay_mono {m n : ℕ} (h : m ≤ n) :
    BackoffPolicy.default.delay m ≤ BackoffPolicy.default.delay n := by
  simp only [BackoffPolicy.delay, BackoffPolicy.default]
  have hpow : (2 : ℚ) ^ m ≤ 2 ^ n := pow_le_pow_right₀ (by norm_num) h
  exact min_le_min (by linarith) le_rfl

theorem delay_nonneg (n : ℕ) : 0 ≤ BackoffPolicy.default.delay n := by
  simp only [BackoffPolicy.delay, BackoffPolicy.default]
  positivity

theorem Persists.mono {first first' : ℚ} (h : first ≤ first') {ts : List Turn}
    (hp : Persists first' ts) : Persists first ts := by
  induction ts with
  | nil => exact hp
  | cons t ts ih =>
    refine ⟨hp.1, hp.2.imp (fun hlong => ?_) ih⟩
    linarith

/-- From a state between two turns, the listener gives up exactly when the failures go on for 120 s
without a bind. -/
theorem gaveUp_iff {s : BCListener} {first : ℚ} {n : ℕ} (h : Running s (some first) n)
    (hbound : s.bound = false) {ts : List Turn} (hfails : Along turn FailsWhile s ts)
    (hadvances : Advances s ts) (hhead : ∀ t ∈ ts.head?, first ≤ t.failedAt) :
    (final turn s ts).phase = .gaveUp ↔ Persists first ts ∨ Outlasts ts := by
  induction ts generalizing s first n with
  | nil =>
    rw [final_nil, h.phase]
    simp [Persists, Outlasts]
  | cons t ts ih =>
    obtain ⟨hfail, hfails⟩ := hfails
    obtain ⟨hclock, hadvances⟩ := hadvances
    obtain ⟨hchecked, hnext⟩ := hclock h.phase
    have hfirst : first ≤ t.failedAt := hhead t rfl
    have hstep := turn_running h (hfail h.phase)
    have hrebinds : s.rebinds t = t.binds := by simp [BCListener.rebinds, hbound]
    simp only [hrebinds] at hstep
    have hlater : ∀ delay ∈ (turn s t).1, 0 ≤ delay → ∀ t' ∈ ts.head?, t.failedAt ≤ t'.failedAt := by
      intro delay hdelay hpos t' ht'
      linarith [hnext t' ht' delay hdelay]
    rw [final_cons]
    cases hbinds : t.binds
    · simp only [hbinds, Bool.false_eq_true, if_false, Option.getD_some] at hstep
      by_cases hlong : 120 ≤ t.checkedAt - first
      · rw [if_pos hlong] at hstep
        exact iff_of_true (final_gaveUp hstep ts) (.inl ⟨hbinds, .inl hlong⟩)
      · rw [if_neg hlong] at hstep
        obtain ⟨hrun, hfree, hdelay⟩ := hstep
        have hmono := hlater _ hdelay (delay_nonneg n)
        rw [ih hrun hfree hfails hadvances fun t' ht' => hfirst.trans (hmono t' ht')]
        constructor
        · rintro (hp | ho)
          · exact .inl ⟨hbinds, .inr hp⟩
          · exact .inr (.inr (.inr ho))
        · rintro (⟨-, hnow | hp⟩ | hnow | hp | ho)
          · exact absurd hnow hlong
          · exact .inl hp
          · exact absurd (show 120 ≤ t.checkedAt - first by linarith) hlong
          · exact .inl (hp.mono hfirst)
          · exact .inr ho
    · simp only [hbinds, if_true, Option.getD_none] at hstep
      by_cases hlong : 120 ≤ t.checkedAt - t.failedAt
      · rw [if_pos hlong] at hstep
        exact iff_of_true (final_gaveUp hstep ts) (.inr (.inl hlong))
      · rw [if_neg hlong] at hstep
        obtain ⟨hrun, hfree, hdelay⟩ := hstep
        rw [ih hrun hfree hfails hadvances (hlater _ hdelay (delay_nonneg 0))]
        constructor
        · rintro (hp | ho)
          · exact .inr (.inr (.inl hp))
          · exact .inr (.inr (.inr ho))
        · rintro (⟨hno, -⟩ | hnow | hp | ho)
          · rw [hbinds] at hno
            cases hno
          · exact absurd hnow hlong
          · exact .inl hp
          · exact .inr ho

theorem running_startListening (bound : Bool) : Running (startListening bound) none 0 :=
  ⟨rfl, ⟨rfl, rfl, rfl, rfl, rfl⟩, rfl, rfl⟩

theorem gaveUp_start_iff (bound : Bool) {ts : List Turn}
    (hfails : Along turn FailsWhile (startListening bound) ts)
    (hadvances : Advances (startListening bound) ts) :
    (final turn (startListening bound) ts).phase = .gaveUp ↔ Outlasts ts := by
  cases ts with
  | nil => simp [startListening, Outlasts]
  | cons t ts =>
    obtain ⟨hfail, hfails⟩ := hfails
    obtain ⟨hclock, hadvances⟩ := hadvances
    obtain ⟨hchecked, hnext⟩ := hclock rfl
    have hstep := turn_running (running_startListening bound) (hfail rfl)
    simp only [ite_self, Option.getD_none] at hstep
    rw [final_cons]
    by_cases hlong : 120 ≤ t.checkedAt - t.failedAt
    · rw [if_pos hlong] at hstep
      exact iff_of_true (final_gaveUp hstep ts) (.inl hlong)
    · rw [if_neg hlong] at hstep
      obtain ⟨hrun, hfree, hdelay⟩ := hstep
      rw [gaveUp_iff hrun hfree hfails hadvances]
      · simp only [Outlasts, hlong, false_or]
      · intro t' ht'
        linarith [hnext t' ht' _ hdelay, delay_nonneg 0]

/-- While no bind succeeds the delays add up, and ten failures outlast the give-up time. -/
theorem gaveUp_of_running {s : BCListener} {first since : ℚ} {n m : ℕ}
    (h : Running s (some first) n) {ts : List Turn}
    (hfails : Along turn FailsWhile s ts) (hadvances : Advances s ts)
    (hbinds : ∀ t ∈ ts, t.binds = false) (hsince : first ≤ since) (hm : m ≤ n)
    (hm9 : m ≤ 9) (hwaited : ∀ t ∈ ts.head?, since + BackoffPolicy.default.waited m ≤ t.failedAt)
    (hlen : 10 ≤ m + ts.length) : (final turn s ts).phase = .gaveUp := by
  induction ts generalizing s n m with
  | nil =>
    simp only [List.length_nil] at hlen
    omega
  | cons t ts ih =>
    obtain ⟨hfail, hfails⟩ := hfails
    obtain ⟨hclock, hadvances⟩ := hadvances
    obtain ⟨hchecked, hnext⟩ := hclock h.phase
    have hstep := turn_running h (hfail h.phase)
    have hrebinds : s.rebinds t = false := by
      rw [BCListener.rebinds, hbinds t List.mem_cons_self, Bool.and_false]
    simp only [hrebinds, Bool.false_eq_true, if_false, Option.getD_some] at hstep
    have hnow : since + BackoffPolicy.default.waited m ≤ t.failedAt := hwaited t rfl
    rw [final_cons]
    by_cases hlong : 120 ≤ t.checkedAt - first
    · rw [if_pos hlong] at hstep
      exact final_gaveUp hstep ts
    · rw [if_neg hlong] at hstep
      obtain ⟨hrun, hfree, hdelay⟩ := hstep
      have hm8 : m ≠ 9 := by
        rintro rfl
        rw [BackoffPolicy.waited_default] at hnow
        exact hlong (by linarith)
      rw [List.length_cons] at hlen
      refine ih hrun hfails hadvances (fun t' ht' => hbinds t' (by simp [ht']))
        (show m + 1 ≤ n + 1 by omega) (by omega) (fun t' ht' => ?_) (by omega)
      have hslept := hnext t' ht' _ hdelay
      rw [BackoffPolicy.waited_succ]
      linarith [delay_mono hm]

theorem advances_append {s : BCListener} {before after : List Turn}
    (h : Advances s (before ++ after)) : Advances (final turn s before) after := by
  induction before generalizing s with
  | nil => exact h
  | cons t before ih => exact ih h.2

theorem along_append {s : BCListener} {before after : List Turn}
    (h : Along turn FailsWhile s (before ++ after)) :
    Along turn FailsWhile (final turn s before) after := by
  induction before generalizing s with
  | nil => exact h
  | cons t before ih => exact ih h.2

/-- The listener before the turns `ts`: it gave up, or its first failure was before them. -/
def Ready (s : BCListener) (ts : List Turn) : Prop :=
  s.phase = .gaveUp ∨
    ∃ first n, Running s first n ∧ ∀ f ∈ first, ∀ t ∈ ts.head?, f ≤ t.failedAt

/-- What a failing turn leaves: the listener gave up, or it runs with a first failure no later than
the turn, and sleeps. -/
theorem turn_ready {s : BCListener} {t : Turn} {first : Option ℚ} {n : ℕ}
    (hrun : Running s first n) (hfirst : ∀ f ∈ first, f ≤ t.failedAt) (hfail : Fails s t) :
    (turn s t).2.phase = .gaveUp ∨ ∃ since count, Running (turn s t).2 (some since) (count + 1) ∧
      since ≤ t.failedAt ∧ (turn s t).1 = some (BackoffPolicy.default.delay count) := by
  have hstep := turn_running hrun hfail
  have hsince : (if s.rebinds t then none else first).getD t.failedAt ≤ t.failedAt := by
    cases first with
    | none => simp
    | some f =>
      split
      · exact le_rfl
      · exact hfirst f rfl
  generalize (if s.rebinds t then none else first).getD t.failedAt = since at hstep hsince
  by_cases hlong : 120 ≤ t.checkedAt - since
  · rw [if_pos hlong] at hstep
    exact .inl hstep
  · rw [if_neg hlong] at hstep
    exact .inr ⟨_, _, hstep.1, hsince, hstep.2.2⟩

theorem ready_final {s : BCListener} {before after : List Turn} (h : Ready s (before ++ after))
    (hfails : Along turn FailsWhile s (before ++ after)) (hadvances : Advances s (before ++ after)) :
    Ready (final turn s before) after := by
  induction before generalizing s with
  | nil => exact h
  | cons t before ih =>
    refine ih ?_ hfails.2 hadvances.2
    rcases h with hgave | ⟨first, n, hrun, hfirst⟩
    · exact .inl (final_gaveUp (s := s) hgave [t])
    · obtain ⟨hchecked, hnext⟩ := hadvances.1 hrun.phase
      rcases turn_ready hrun (fun f hf => hfirst f hf t rfl)
        (hfails.1 hrun.phase) with hgave | ⟨since, count, hrun', hsince, hdelay⟩
      · exact .inl hgave
      · refine .inr ⟨some since, _, hrun', fun f hf t' ht' => ?_⟩
        cases hf
        linarith [hnext t' ht' _ hdelay, delay_nonneg count]

/-- Ten failures after the last successful bind exhaust the policy. -/
theorem gaveUp_of_ready {s : BCListener} {ts : List Turn} (h : Ready s ts)
    (hfails : Along turn FailsWhile s ts) (hadvances : Advances s ts)
    (hbinds : ∀ t ∈ ts.tail, t.binds = false) (hlen : 10 ≤ ts.length) :
    (final turn s ts).phase = .gaveUp := by
  rcases h with hgave | ⟨first, n, hrun, hfirst⟩
  · exact final_gaveUp hgave ts
  cases ts with
  | nil => simp at hlen
  | cons t ts =>
    obtain ⟨hfail, hfails⟩ := hfails
    obtain ⟨hclock, hadvances⟩ := hadvances
    obtain ⟨hchecked, hnext⟩ := hclock hrun.phase
    rw [List.length_cons] at hlen
    rcases turn_ready hrun (fun f hf => hfirst f hf t rfl) (hfail hrun.phase) with
      hgave | ⟨since, count, hrun', hsince, hdelay⟩
    · exact final_gaveUp hgave ts
    · refine gaveUp_of_running hrun' hfails hadvances hbinds hsince (show 1 ≤ count + 1 by omega)
        (by omega) (fun t' ht' => ?_) (by omega)
      have hslept := hnext t' ht' _ hdelay
      rw [BackoffPolicy.waited, Finset.sum_range_one]
      linarith [delay_mono (Nat.zero_le count)]

/-- The listener gives up exactly when, after one of its failures, no bind succeeds until 120 s have
passed; ten failures in a row without a successful bind are enough. -/
theorem gives_up_iff (bound : Bool) (ts : List Turn)
    (hfails : Along turn FailsWhile (startListening bound) ts)
    (hadvances : Advances (startListening bound) ts) :
    ((final turn (startListening bound) ts).phase = .gaveUp ↔ Outlasts ts) ∧
    ∀ before stretch, ts = before ++ stretch → 10 ≤ stretch.length →
      (∀ t ∈ stretch.tail, t.binds = false) →
      (final turn (startListening bound) ts).phase = .gaveUp := by
  refine ⟨gaveUp_start_iff bound hfails hadvances, ?_⟩
  rintro before stretch rfl hlen hbinds
  have hready : Ready (startListening bound) (before ++ stretch) :=
    .inr ⟨none, 0, running_startListening bound, fun f hf => by cases hf⟩
  rw [final_append]
  exact gaveUp_of_ready (ready_final hready hfails hadvances) (along_append hfails)
    (advances_append hadvances) hbinds hlen

/-- A turn that fails to bind, half a minute after the one before. -/
def bindFailure (n : ℕ) : Turn where
  stopped := false
  stillBound := true
  binds := false
  select := .timeout
  failedAt := 30 * n
  loggedAt := 30 * n
  checkedAt := 30 * n

theorem ten_bind_failures_give_up :
    (final turn (startListening false) ((List.range 10).map bindFailure)).phase = .gaveUp :=
  (gives_up_iff false ((List.range 10).map bindFailure) (by decide +kernel) (by decide +kernel)).2
    [] _ rfl (by decide) (by decide)

/-- A turn that binds a socket and fails to accept on it, a second after the one before. -/
def acceptFailure (n : ℕ) : Turn where
  stopped := false
  stillBound := true
  binds := true
  select := .failure
  failedAt := n
  loggedAt := n
  checkedAt := n

theorem acceptFailures_run {s : BCListener} {first : Option ℚ} {m : ℕ} (h : Running s first m)
    (hbound : s.bound = false) (k n : ℕ) :
    Along turn FailsWhile s ((List.range' k n).map acceptFailure) ∧
      Advances s ((List.range' k n).map acceptFailure) := by
  induction n generalizing s first m k with
  | zero => exact ⟨trivial, trivial⟩
  | succ n ih =>
    have hfails : Fails s (acceptFailure k) := ⟨rfl, by simp [hbound, acceptFailure]⟩
    have hstep := turn_running h hfails
    have hrebinds : s.rebinds (acceptFailure k) = true := by
      simp [BCListener.rebinds, hbound, acceptFailure]
    simp only [hrebinds, if_true, Option.getD_none] at hstep
    rw [if_neg (by simp [acceptFailure])] at hstep
    obtain ⟨hrun, hfree, hdelay⟩ := hstep
    obtain ⟨halong, hadvances⟩ := ih hrun hfree (k + 1)
    refine ⟨⟨fun _ => hfails, halong⟩, fun _ => ⟨le_rfl, fun t' ht' delay hd => ?_⟩, hadvances⟩
    obtain rfl : BackoffPolicy.default.delay 0 = delay := by simpa [hdelay] using hd
    cases n with
    | zero => simp at ht'
    | succ n =>
      obtain rfl : acceptFailure (k + 1) = t' := by simpa [List.range'_succ] using ht'
      show (k : ℚ) + BackoffPolicy.default.delay 0 ≤ ((k + 1 : ℕ) : ℚ)
      simp only [BackoffPolicy.delay, BackoffPolicy.default, pow_zero]
      push_cast
      have hmin := min_le_left ((1 : ℚ) / 2 * 1) 30
      linarith

theorem acceptFailures_not_outlasts (k n : ℕ) :
    ¬ Outlasts ((List.range' k n).map acceptFailure) := by
  induction n generalizing k with
  | zero => exact id
  | succ n ih =>
    rintro (hnow | hp | ho)
    · simp [acceptFailure] at hnow
      norm_num at hnow
    · cases n with
      | zero => exact hp
      | succ n => exact absurd hp.1 (by simp [acceptFailure])
    · exact ih (k + 1) ho

/-- No number of failures bounds every run of failures. -/
theorem listener_retries_for_ever :
    ¬ ∃ limit : ℕ, ∀ (bound : Bool) (ts : List Turn),
      Along turn FailsWhile (startListening bound) ts → Advances (startListening bound) ts →
      limit ≤ ts.length → (final turn (startListening bound) ts).phase = .gaveUp := by
  rintro ⟨limit, h⟩
  obtain ⟨halong, hadvances⟩ := acceptFailures_run (running_startListening false) rfl 0 limit
  have hgave := h false _ halong hadvances (by simp)
  exact acceptFailures_not_outlasts 0 limit ((gaveUp_start_iff false halong hadvances).mp hgave)

end Fmofp.Listener
