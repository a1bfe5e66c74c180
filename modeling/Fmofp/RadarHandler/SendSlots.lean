import Fmofp.RadarHandler.LoopLocks

/-! When the sections of the radar message handler exclude each other on a loop, and the grants of the
send slot keep their distance: as long as nobody who comes to a section needs a new lock while others of
its loop are still at that section. -/

namespace Fmofp.LoopLocks

open Python Machine

/-! ### What holds in every run -/

/-- Locks are numbered as they are made, are asked for on their own loops and for their own purposes, and
are held by one coroutine at a time. -/
structure Sound (s : Handler) : Prop where
  unasked : ∀ k, s.asked ≤ k → s.passages k = none
  serial : ∀ k c, s.passages k = some c → c.lock.serial < s.made
  slotSerial : ∀ purpose lock, s.loopLocks.get? purpose = some lock → lock.serial < s.made
  bound : ∀ k c, s.passages k = some c → c.lock.loop = c.loop ∧ c.lock.purpose = c.purpose
  slotPurpose : ∀ purpose lock, s.loopLocks.get? purpose = some lock → lock.purpose = purpose
  single : ∀ j k c d, s.passages j = some c → s.passages k = some d → c.inside → d.inside →
    c.lock = d.lock → j = k

/-- The coroutines of a loop at one section have the same lock, and it is the one in the slot if that is
the loop's. -/
structure Together (s : Handler) : Prop where
  lock : ∀ j k c d, s.passages j = some c → s.passages k = some d → c.loop = d.loop →
    c.purpose = d.purpose → c.lock = d.lock
  slot : ∀ lock k c, s.loopLocks.get? c.purpose = some lock → s.passages k = some c →
    c.loop = lock.loop → c.lock = lock

/-- The last request is not before a grant, and nobody of a loop is awake before a gap is over since its
last grant. -/
structure Paced (rate : ℚ) (s : Handler) : Prop where
  last : ∀ g ∈ s.grants, g.2 ≤ s.lastRequestTime ∧ s.lastRequestTime ≤ s.clock
  wake : ∀ k c wake, s.passages k = some c → c.inside → c.purpose = "send_slot" → c.wake = some wake →
    ∀ g ∈ s.grants, g.1 = c.loop → g.2 + 1 / rate ≤ wake
  spaced : Spaced rate s.grants

theorem Sound.lt_asked {s : Handler} (h : Sound s) {k : ℕ} {c : Passage}
    (hc : s.passages k = some c) : k < s.asked := by
  by_contra hle
  rw [h.unasked k (by omega)] at hc
  cases hc

theorem Sound.not_inside_of_free {s : Handler} (h : Sound s) {lock : LoopLock}
    (hfree : s.locked lock = false) {k : ℕ} {c : Passage} (hc : s.passages k = some c)
    (hlock : c.lock = lock) : c.inside = false := by
  by_contra hinside
  have hlocked := Handler.locked_of_inside (h.lt_asked hc) hc (Bool.eq_true_of_not_eq_false hinside)
  rw [hlock, hfree] at hlocked
  cases hlocked

theorem exclusive_of {s : Handler} (h : Sound s) (htogether : Together s) : Exclusive s :=
  fun j k c d hc hd hinside hinside' hloop hpurpose =>
    h.single j k c d hc hd hinside hinside' (htogether.lock j k c d hc hd hloop hpurpose)

/-! ### Steps that only take coroutines and slots away -/

section Fewer

variable {s t : Handler} (hpassages : ∀ k c, t.passages k = some c → s.passages k = some c)
  (hslots : ∀ purpose lock, t.loopLocks.get? purpose = some lock → s.loopLocks.get? purpose = some lock)

include hpassages hslots

theorem Sound.fewer (h : Sound s) (hasked : t.asked = s.asked) (hmade : t.made = s.made) : Sound t where
  unasked k hk := by
    apply Option.eq_none_iff_forall_ne_some.mpr
    intro c hc
    have hlt := h.lt_asked (hpassages k c hc)
    omega
  serial k c hc := by
    rw [hmade]
    exact h.serial k c (hpassages k c hc)
  slotSerial purpose lock hlock := by
    rw [hmade]
    exact h.slotSerial purpose lock (hslots purpose lock hlock)
  bound k c hc := h.bound k c (hpassages k c hc)
  slotPurpose purpose lock hlock := h.slotPurpose purpose lock (hslots purpose lock hlock)
  single j k c d hc hd := h.single j k c d (hpassages j c hc) (hpassages k d hd)

theorem Together.fewer (h : Together s) : Together t where
  lock j k c d hc hd := h.lock j k c d (hpassages j c hc) (hpassages k d hd)
  slot lock k c hlock hc := h.slot lock k c (hslots c.purpose lock hlock) (hpassages k c hc)

end Fewer

section Steps

variable {rate : ℚ} {s : Handler}

theorem remove_sub (s : Handler) (k : ℕ) :
    ∀ j d, (s.remove k).passages j = some d → s.passages j = some d :=
  fun _ _ h => (Handler.remove_passages h).2

theorem leave_sub (s : Handler) (k : ℕ) :
    ∀ j d, (s.leave k).passages j = some d → s.passages j = some d := by
  intro j d h
  rcases Handler.leave_cases s k with heq | heq | ⟨c, wake, -, -, -, -, -, heq⟩
  · rw [heq] at h
    exact h
  · rw [heq] at h
    exact remove_sub s k j d h
  · rw [heq] at h
    exact remove_sub s k j d h

theorem leave_frame (s : Handler) (k : ℕ) : (s.leave k).loopLocks = s.loopLocks ∧
    (s.leave k).asked = s.asked ∧ (s.leave k).made = s.made := by
  rcases Handler.leave_cases s k with heq | heq | ⟨c, wake, -, -, -, -, -, heq⟩
  · rw [heq]
    exact ⟨rfl, rfl, rfl⟩
  · rw [heq]
    exact ⟨rfl, rfl, rfl⟩
  · rw [heq]
    exact ⟨rfl, rfl, rfl⟩

/-! ### Giving out a lock -/

/-- Apart from being inside, the passages after a lock is given out are those from before. -/
theorem acquired_forget {k j : ℕ} {d : Passage} (h : (s.acquired rate k).passages j = some d) :
    ∃ c, s.passages j = some c ∧ c.loop = d.loop ∧ c.purpose = d.purpose ∧ c.lock = d.lock := by
  rcases Handler.acquired_passages h with hd | ⟨c, hc, rfl, -, -, rfl⟩
  · exact ⟨d, hd, rfl, rfl, rfl⟩
  · exact ⟨c, hc, rfl, rfl, rfl⟩

theorem Sound.acquired (h : Sound s) (k : ℕ) : Sound (s.acquired rate k) := by
  obtain ⟨passages, hframe⟩ := Handler.acquired_frame rate s k
  have hslots : (s.acquired rate k).loopLocks = s.loopLocks := by rw [hframe]
  have hmade : (s.acquired rate k).made = s.made := by rw [hframe]
  have hasked : (s.acquired rate k).asked = s.asked := by rw [hframe]
  refine ⟨fun j hj => ?_, fun j d hd => ?_, ?_, fun j d hd => ?_, ?_, ?_⟩
  · apply Option.eq_none_iff_forall_ne_some.mpr
    intro d hd
    obtain ⟨c, hc, -⟩ := acquired_forget hd
    have hlt := h.lt_asked hc
    omega
  · obtain ⟨c, hc, -, -, hlock⟩ := acquired_forget hd
    rw [hmade, ← hlock]
    exact h.serial j c hc
  · rw [hslots, hmade]
    exact h.slotSerial
  · obtain ⟨c, hc, hloop, hpurpose, hlock⟩ := acquired_forget hd
    rw [← hloop, ← hpurpose, ← hlock]
    exact h.bound j c hc
  · rw [hslots]
    exact h.slotPurpose
  · intro i j c d hc hd hinside hinside' hlock
    rcases Handler.acquired_passages hc with hold | ⟨c, -, rfl, -, hfree, rfl⟩
    · rcases Handler.acquired_passages hd with hold' | ⟨d, -, rfl, -, hfree', rfl⟩
      · exact h.single i j c d hold hold' hinside hinside' hlock
      · rw [h.not_inside_of_free hfree' hold hlock] at hinside
        cases hinside
    · rcases Handler.acquired_passages hd with hold' | ⟨d, -, rfl, -, -, rfl⟩
      · rw [h.not_inside_of_free hfree hold' hlock.symm] at hinside'
        cases hinside'
      · rfl

theorem Together.acquired (h : Together s) (k : ℕ) : Together (s.acquired rate k) := by
  obtain ⟨passages, hframe⟩ := Handler.acquired_frame rate s k
  have hslots : (s.acquired rate k).loopLocks = s.loopLocks := by rw [hframe]
  constructor
  · intro i j c d hc hd hloop hpurpose
    obtain ⟨c', hc', hcloop, hcpurpose, hclock⟩ := acquired_forget hc
    obtain ⟨d', hd', hdloop, hdpurpose, hdlock⟩ := acquired_forget hd
    rw [← hclock, ← hdlock]
    apply h.lock i j c' d' hc' hd'
    · rw [hcloop, hdloop, hloop]
    · rw [hcpurpose, hdpurpose, hpurpose]
  · intro lock j d hlock hd hloop
    obtain ⟨c, hc, hcloop, hcpurpose, hclock⟩ := acquired_forget hd
    rw [hslots, ← hcpurpose] at hlock
    rw [← hclock]
    apply h.slot lock j c hlock hc
    rw [hcloop, hloop]

/-- Whoever takes the send slot sleeps until a gap after every grant so far. -/
theorem Paced.le_sendSlotWake (h : Paced rate s) {wake : ℚ} (hwake : s.sendSlotWake rate = some wake)
    {g : ℕ × ℚ} (hg : g ∈ s.grants) : g.2 + 1 / rate ≤ wake := by
  obtain ⟨hlast, hclock⟩ := h.last g hg
  rw [Handler.sendSlotWake] at hwake
  dsimp only at hwake
  split_ifs at hwake
  · cases hwake
    have hmin : min (1 / rate - (s.clock - s.lastRequestTime)) (1 / rate) =
        1 / rate - (s.clock - s.lastRequestTime) := min_eq_left (by linarith)
    rw [hmin]
    linarith
  · cases hwake
    linarith

theorem Paced.acquired (h : Paced rate s) (k : ℕ) : Paced rate (s.acquired rate k) := by
  obtain ⟨passages, hframe⟩ := Handler.acquired_frame rate s k
  have hgrants : (s.acquired rate k).grants = s.grants := by rw [hframe]
  refine ⟨?_, ?_, ?_⟩
  · rw [hframe]
    exact h.last
  · rw [hgrants]
    intro j d wake hd hinside hpurpose hwake g hg hloop
    rcases Handler.acquired_passages hd with hd | ⟨c, hc, rfl, -, -, rfl⟩
    · exact h.wake j d wake hd hinside hpurpose hwake g hg hloop
    · exact h.le_sendSlotWake hwake hg
  · rw [hgrants]
    exact h.spaced

/-! ### Coming to a section -/

/-- What does not change when a coroutine comes to a section. -/
theorem enter_frame (s : Handler) (loop : ℕ) (purpose : String) :
    (s.enter loop purpose).asked = s.asked + 1 ∧ (s.enter loop purpose).grants = s.grants ∧
      (s.enter loop purpose).lastRequestTime = s.lastRequestTime ∧
      (s.enter loop purpose).clock = s.clock := by
  rw [Handler.enter]
  rcases Handler.loopBoundLock_cases s loop purpose with ⟨lock, -, -, heq⟩ | ⟨-, heq⟩
  · rw [heq]
    exact ⟨rfl, rfl, rfl, rfl⟩
  · rw [heq]
    exact ⟨rfl, rfl, rfl, rfl⟩

theorem enter_locks (s : Handler) (loop : ℕ) (purpose : String) :
    (s.enter loop purpose).loopLocks = (s.loopBoundLock loop purpose).2.loopLocks ∧
      (s.enter loop purpose).made = (s.loopBoundLock loop purpose).2.made := ⟨rfl, rfl⟩

/-- A lock that is handed out has a number, and is for the loop and the purpose. -/
theorem Sound.loopBoundLock (h : Sound s) (loop : ℕ) (purpose : String) :
    (s.loopBoundLock loop purpose).1.loop = loop ∧
      (s.loopBoundLock loop purpose).1.purpose = purpose ∧
      (s.loopBoundLock loop purpose).1.serial < (s.loopBoundLock loop purpose).2.made ∧
      s.made ≤ (s.loopBoundLock loop purpose).2.made ∧
      ∀ purpose' lock, (s.loopBoundLock loop purpose).2.loopLocks.get? purpose' = some lock →
        s.loopLocks.get? purpose' = some lock ∨
          purpose' = purpose ∧ lock = (s.loopBoundLock loop purpose).1 := by
  rcases Handler.loopBoundLock_cases s loop purpose with ⟨lock, hslot, hloop, heq⟩ | ⟨-, heq⟩
  · rw [heq]
    exact ⟨hloop, h.slotPurpose purpose lock hslot, h.slotSerial purpose lock hslot, le_refl _,
      fun _ _ hget => .inl hget⟩
  · rw [heq]
    refine ⟨rfl, rfl, Nat.lt_succ_self _, Nat.le_succ _, fun purpose' lock hget => ?_⟩
    rw [Handler.newLock] at hget
    dsimp only at hget
    rw [Dict.get?_set] at hget
    split_ifs at hget with hsame
    · cases hget
      exact .inr ⟨hsame.symm, rfl⟩
    · exact .inl hget

theorem Sound.enter (h : Sound s) (loop : ℕ) (purpose : String) : Sound (s.enter loop purpose) := by
  obtain ⟨hloop, hpurpose, hserial, hmade, hslots⟩ := h.loopBoundLock loop purpose
  obtain ⟨hasked, -⟩ := enter_frame s loop purpose
  refine ⟨fun j hj => ?_, fun j d hd => ?_, fun p lock hlock => ?_, fun j d hd => ?_,
    fun p lock hlock => ?_, fun i j c d hc hd hinside hinside' hlock => ?_⟩
  · rw [hasked] at hj
    apply Option.eq_none_iff_forall_ne_some.mpr
    intro d hd
    rcases Handler.enter_passages hd with ⟨rfl, -⟩ | ⟨-, hold⟩
    · omega
    · have hlt := h.lt_asked hold
      omega
  · rw [(enter_locks s loop purpose).2]
    rcases Handler.enter_passages hd with ⟨-, rfl⟩ | ⟨-, hold⟩
    · exact hserial
    · exact lt_of_lt_of_le (h.serial j d hold) hmade
  · rw [(enter_locks s loop purpose).2]
    rw [(enter_locks s loop purpose).1] at hlock
    rcases hslots p lock hlock with hold | ⟨-, rfl⟩
    · exact lt_of_lt_of_le (h.slotSerial p lock hold) hmade
    · exact hserial
  · rcases Handler.enter_passages hd with ⟨-, rfl⟩ | ⟨-, hold⟩
    · exact ⟨hloop, hpurpose⟩
    · exact h.bound j d hold
  · rw [(enter_locks s loop purpose).1] at hlock
    rcases hslots p lock hlock with hold | ⟨rfl, rfl⟩
    · exact h.slotPurpose p lock hold
    · exact hpurpose
  · rcases Handler.enter_passages hc with ⟨-, rfl⟩ | ⟨-, hold⟩
    · cases hinside
    · rcases Handler.enter_passages hd with ⟨-, rfl⟩ | ⟨-, hold'⟩
      · cases hinside'
      · exact h.single i j c d hold hold' hinside hinside' hlock

/-- Whoever comes to a section gets the lock that the others of its loop have there. -/
theorem Together.lock_of_findsOwnLock (h : Together s) {loop : ℕ} {purpose : String}
    (hfinds : FindsOwnLock s (.enter loop purpose)) {k : ℕ} {c : Passage}
    (hc : s.passages k = some c) (hloop : c.loop = loop) (hpurpose : c.purpose = purpose) :
    c.lock = (s.loopBoundLock loop purpose).1 := by
  rcases hfinds with ⟨lock, hslot, hown⟩ | hnobody
  · rcases Handler.loopBoundLock_cases s loop purpose with ⟨lock', hslot', -, heq⟩ | ⟨hother, -⟩
    · rw [heq]
      apply h.slot lock' k c _ hc _
      · rw [hpurpose]
        exact hslot'
      · rw [hslot] at hslot'
        cases hslot'
        rw [hloop, hown]
    · exact absurd hown (hother lock hslot)
  · exact absurd ⟨hloop, hpurpose⟩ (hnobody k c hc)

theorem Together.enter (h : Together s) (hsound : Sound s) {loop : ℕ} {purpose : String}
    (hfinds : FindsOwnLock s (.enter loop purpose)) : Together (s.enter loop purpose) := by
  obtain ⟨hlockLoop, -, -, -, hslots⟩ := hsound.loopBoundLock loop purpose
  constructor
  · intro i j c d hc hd hloop hpurpose
    rcases Handler.enter_passages hc with ⟨-, rfl⟩ | ⟨-, hold⟩
    · rcases Handler.enter_passages hd with ⟨-, rfl⟩ | ⟨-, hold'⟩
      · rfl
      · exact (h.lock_of_findsOwnLock hfinds hold' hloop.symm hpurpose.symm).symm
    · rcases Handler.enter_passages hd with ⟨-, rfl⟩ | ⟨-, hold'⟩
      · exact h.lock_of_findsOwnLock hfinds hold hloop hpurpose
      · exact h.lock i j c d hold hold' hloop hpurpose
  · intro lock j d hlock hd hloop
    rw [(enter_locks s loop purpose).1] at hlock
    rcases Handler.enter_passages hd with ⟨-, rfl⟩ | ⟨-, hold⟩
    · rcases Handler.loopBoundLock_cases s loop purpose with ⟨lock', hslot, -, heq⟩ | ⟨-, heq⟩
      · rw [heq] at hlock ⊢
        rw [hslot] at hlock
        exact Option.some.inj hlock
      · rw [heq] at hlock ⊢
        rw [Handler.newLock] at hlock
        dsimp only at hlock
        rw [Dict.get?_set_self] at hlock
        exact Option.some.inj hlock
    · rcases hslots d.purpose lock hlock with hslot | ⟨hsame, rfl⟩
      · exact h.slot lock j d hslot hold hloop
      · apply h.lock_of_findsOwnLock hfinds hold _ hsame
        rw [hloop, hlockLoop]

theorem Paced.enter (h : Paced rate s) (loop : ℕ) (purpose : String) :
    Paced rate (s.enter loop purpose) := by
  obtain ⟨-, hgrants, hlast, hclock⟩ := enter_frame s loop purpose
  refine ⟨?_, ?_, ?_⟩
  · rw [hgrants, hlast, hclock]
    exact h.last
  · rw [hgrants]
    intro j d wake hd hinside
    rcases Handler.enter_passages hd with ⟨-, rfl⟩ | ⟨-, hold⟩
    · cases hinside
    · exact h.wake j d wake hold hinside
  · rw [hgrants]
    exact h.spaced

/-! ### The other steps -/

theorem Paced.remove (h : Paced rate s) (k : ℕ) : Paced rate (s.remove k) where
  last := h.last
  wake j d wake hd := h.wake j d wake (remove_sub s k j d hd)
  spaced := h.spaced

/-- A grant comes after the gap, and whoever else sleeps for the send slot is on another loop. -/
theorem Paced.leave (h : Paced rate s) (hexclusive : Exclusive s) (k : ℕ) : Paced rate (s.leave k) := by
  rcases Handler.leave_cases s k with
    heq | heq | ⟨c, wake, hc, hinside, hpurpose, hwake, hslept, heq⟩
  · rw [heq]
    exact h
  · rw [heq]
    exact h.remove k
  · have hgap : ∀ g ∈ s.grants, g.1 = c.loop → g.2 + 1 / rate ≤ s.clock := fun g hg hloop =>
      (h.wake k c wake hc hinside hpurpose hwake g hg hloop).trans hslept
    rw [heq]
    refine ⟨?_, ?_, ?_⟩
    · intro g hg
      rcases List.mem_cons.mp hg with rfl | hg
      · exact ⟨le_refl _, le_refl _⟩
      · obtain ⟨hlast, hclock⟩ := h.last g hg
        exact ⟨hlast.trans hclock, le_refl _⟩
    · intro j d wake' hd hinside' hpurpose' hwake' g hg hloop
      obtain ⟨hne, hold⟩ := Handler.remove_passages hd
      rcases List.mem_cons.mp hg with rfl | hg
      · refine absurd ?_ hne
        exact hexclusive j k d c hold hc hinside' hinside hloop.symm (hpurpose'.trans hpurpose.symm)
      · exact h.wake j d wake' hold hinside' hpurpose' hwake' g hg hloop
    · refine List.pairwise_cons.mpr ⟨fun g hg hloop => ?_, h.spaced⟩
      exact hgap g hg hloop.symm

theorem Paced.elapse (h : Paced rate s) (now : ℚ) : Paced rate { s with clock := max s.clock now } where
  last g hg := ⟨(h.last g hg).1, (h.last g hg).2.trans (le_max_left _ _)⟩
  wake := h.wake
  spaced := h.spaced

theorem Sound.step (h : Sound s) (a : Action) : Sound (step rate s a).2 := by
  cases a with
  | enter loop purpose => exact h.enter loop purpose
  | acquired k => exact h.acquired k
  | leave k =>
    obtain ⟨hslots, hasked, hmade⟩ := leave_frame s k
    exact h.fewer (leave_sub s k) (fun p lock hlock => hslots ▸ hlock) hasked hmade
  | cancel k => exact h.fewer (remove_sub s k) (fun _ _ hlock => hlock) rfl rfl
  | elapse now => exact Sound.fewer (s := s) (fun _ _ hc => hc) (fun _ _ hlock => hlock) h rfl rfl
  | stop => exact Sound.fewer (s := s) (fun _ _ hc => hc) (fun _ _ hlock => (by cases hlock)) h rfl rfl

theorem Together.step (h : Together s) (hsound : Sound s) {a : Action} (hfinds : FindsOwnLock s a) :
    Together (step rate s a).2 := by
  cases a with
  | enter loop purpose => exact h.enter hsound hfinds
  | acquired k => exact h.acquired k
  | leave k =>
    have hslots := (leave_frame s k).1
    exact h.fewer (leave_sub s k) (fun p lock hlock => hslots ▸ hlock)
  | cancel k => exact h.fewer (remove_sub s k) (fun _ _ hlock => hlock)
  | elapse now => exact Together.fewer (s := s) (fun _ _ hc => hc) (fun _ _ hlock => hlock) h
  | stop => exact Together.fewer (s := s) (fun _ _ hc => hc) (fun _ _ hlock => (by cases hlock)) h

theorem Paced.step (h : Paced rate s) (hexclusive : Exclusive s) (a : Action) :
    Paced rate (step rate s a).2 := by
  cases a with
  | enter loop purpose => exact h.enter loop purpose
  | acquired k => exact h.acquired k
  | leave k => exact h.leave hexclusive k
  | cancel k => exact h.remove k
  | elapse now => exact h.elapse now
  | stop => exact ⟨h.last, h.wake, h.spaced⟩

end Steps

/-! ### Runs -/

/-- What holds in the runs in which everybody finds the lock of its loop. -/
structure Orderly (rate : ℚ) (s : Handler) : Prop where
  sound : Sound s
  together : Together s
  paced : Paced rate s

section Runs

variable {rate : ℚ} {s : Handler}

theorem Orderly.exclusive (h : Orderly rate s) : Exclusive s := exclusive_of h.sound h.together

theorem Orderly.step (h : Orderly rate s) {a : Action} (hfinds : FindsOwnLock s a) :
    Orderly rate (step rate s a).2 :=
  ⟨h.sound.step a, h.together.step h.sound hfinds, h.paced.step h.exclusive a⟩

theorem orderly_start (rate now : ℚ) : Orderly rate { clock := now } where
  sound := by
    refine ⟨fun _ _ => rfl, ?_, ?_, ?_, ?_, ?_⟩
    all_goals
      intros
      contradiction
  together := by
    refine ⟨?_, ?_⟩
    all_goals
      intros
      contradiction
  paced := by
    refine ⟨?_, ?_, List.Pairwise.nil⟩
    all_goals
      intros
      contradiction

theorem Orderly.serialised (h : Orderly rate s) : Serialised rate s := by
  refine ⟨fun ks => ?_, h.paced.spaced⟩
  induction ks generalizing s with
  | nil => exact h.exclusive
  | cons k ks ih => exact ih (h.step (a := .acquired k) trivial)

/-! ### A second lock -/

/-- A coroutine whose lock is free takes it, whoever of its loop is inside with another one. -/
theorem not_exclusive_acquired {j k : ℕ} {c d : Passage}
    (hc : s.passages j = some c) (hinside : c.inside = true) (hd : s.passages k = some d)
    (hwaits : d.inside = false) (hfree : s.locked d.lock = false) (hloop : c.loop = d.loop)
    (hpurpose : c.purpose = d.purpose) : ¬ Exclusive (s.acquired rate k) := by
  have hne : j ≠ k := by
    rintro rfl
    rw [hc] at hd
    cases hd
    rw [hinside] at hwaits
    cases hwaits
  intro hexclusive
  refine hne (hexclusive j k c _ ?_ (Handler.acquired_eq rate hd hwaits hfree) hinside rfl hloop hpurpose)
  rw [Handler.acquired_passages_ne hne]
  exact hc

theorem locked_eq_false {lock : LoopLock}
    (h : ∀ k c, s.passages k = some c → c.lock = lock → c.inside = false) :
    s.locked lock = false := by
  by_contra hlocked
  obtain ⟨k, c, hc, hinside, hlock⟩ := Handler.locked_eq_true (Bool.eq_true_of_not_eq_false hlocked)
  rw [h k c hc hlock] at hinside
  cases hinside

/-- Whoever needs a new lock while another of the loop is at the section can get inside together with
that one, or with the one that has its lock. -/
theorem not_serialised_enter (hsound : Sound s) {loop : ℕ} {purpose : String}
    (hneeds : ¬ FindsOwnLock s (.enter loop purpose)) :
    ¬ Serialised rate (s.enter loop purpose) := by
  rw [FindsOwnLock, not_or] at hneeds
  obtain ⟨hslot, hsomebody⟩ := hneeds
  push Not at hslot hsomebody
  obtain ⟨k, c, hc, rfl, rfl⟩ := hsomebody
  have hnew : s.loopBoundLock c.loop c.purpose = s.newLock c.loop c.purpose := by
    rcases Handler.loopBoundLock_cases s c.loop c.purpose with ⟨lock, hget, hown, -⟩ | ⟨-, heq⟩
    · exact absurd hown (hslot lock hget)
    · exact heq
  set t := s.enter c.loop c.purpose with ht
  set lock := (s.newLock c.loop c.purpose).1 with hlock
  have hself : t.passages s.asked = some { loop := c.loop, purpose := c.purpose, lock } := by
    rw [ht, Handler.enter, hnew]
    exact Function.update_self _ _ _
  have hkept : ∀ j d, s.passages j = some d → t.passages j = some d := by
    intro j d hd
    have hne : j ≠ s.asked := Nat.ne_of_lt (hsound.lt_asked hd)
    rw [ht, Handler.enter, hnew, ← hd]
    exact Function.update_of_ne hne _ _
  have hserial : ∀ j d, s.passages j = some d → d.lock ≠ lock := by
    intro j d hd heq
    have hlt := hsound.serial j d hd
    rw [heq] at hlt
    exact absurd hlt (Nat.lt_irrefl s.made)
  have hfree : t.locked lock = false := by
    apply locked_eq_false
    intro j d hd heq
    rcases Handler.enter_passages hd with ⟨-, rfl⟩ | ⟨-, hold⟩
    · rfl
    · exact absurd heq (hserial j d hold)
  rintro ⟨hexclusive, -⟩
  by_cases hheld : s.locked c.lock = true
  · obtain ⟨j, d, hd, hinside, hsame⟩ := Handler.locked_eq_true hheld
    obtain ⟨hloop, hpurpose⟩ := hsound.bound j d hd
    obtain ⟨hloop', hpurpose'⟩ := hsound.bound k c hc
    refine not_exclusive_acquired (hkept j d hd) hinside hself rfl hfree ?_ ?_
      (hexclusive [s.asked])
    · rw [← hloop, ← hloop', hsame]
    · rw [← hpurpose, ← hpurpose', hsame]
  · have hwaits : c.inside = false := by
      by_contra hinside
      exact hheld (Handler.locked_of_inside (hsound.lt_asked hc) hc
        (Bool.eq_true_of_not_eq_false hinside))
    have hfree' : t.locked c.lock = false := by
      apply locked_eq_false
      intro j d hd heq
      rcases Handler.enter_passages hd with ⟨-, rfl⟩ | ⟨-, hold⟩
      · rfl
      · exact hsound.not_inside_of_free (Bool.eq_false_of_not_eq_true hheld) hold heq
    have hfirst := Handler.acquired_eq rate (hkept k c hc) hwaits hfree'
    have hne : s.asked ≠ k := (Nat.ne_of_lt (hsound.lt_asked hc)).symm
    refine not_exclusive_acquired (d := { loop := c.loop, purpose := c.purpose, lock })
      hfirst rfl ?_ rfl ?_ rfl rfl (hexclusive [k, s.asked])
    · rw [Handler.acquired_passages_ne hne]
      exact hself
    · apply locked_eq_false
      intro j d hd heq
      rcases Handler.acquired_passages hd with hold | ⟨c', hc', rfl, -, -, rfl⟩
      · by_contra hinside
        rcases Handler.enter_passages hold with ⟨-, rfl⟩ | ⟨-, hold'⟩
        · exact hinside rfl
        · exact hserial j d hold' heq
      · rw [hkept j c hc] at hc'
        cases hc'
        exact absurd heq (hserial j c hc)

/-- In every run, on any number of loops, the sections of a loop exclude each other however the locks
are given out, and its grants keep their distance, exactly when everybody finds the lock of its loop. -/
theorem along_findsOwnLock_iff (rate now : ℚ) (is : List Action) :
    Along (step rate) FindsOwnLock { clock := now } is ↔
      ∀ before, before <+: is → Serialised rate (final (step rate) { clock := now } before) := by
  refine @along_iff_of_exact _ _ _ (step rate) (Orderly rate) (Serialised rate) FindsOwnLock
    (fun s a h hfinds => h.step hfinds) (fun s h => h.serialised) (fun s a h hneeds => ?_) _
    (orderly_start rate now) is
  cases a with
  | enter loop purpose => exact not_serialised_enter h.sound hneeds
  | _ => exact absurd trivial hneeds

/-- The second loop takes the slot while a coroutine of the first is inside, so that the next one of the
first loop gets a lock of its own: both are inside, and both are granted the send slot at one time. -/
theorem not_exclusive_two_loops :
    (¬ ∀ rate now is, Exclusive (final (step rate) { clock := now } is)) ∧
      ¬ ∀ rate now is, Spaced rate (final (step rate) { clock := now } is).grants := by
  constructor
  · intro h
    have hsame := h 10 0 [.enter 0 "bus", .acquired 0, .enter 1 "bus", .enter 0 "bus", .acquired 2]
      0 2 { loop := 0, purpose := "bus", lock := ⟨0, 0, "bus"⟩, inside := true, wake := some (1 / 10) }
      { loop := 0, purpose := "bus", lock := ⟨2, 0, "bus"⟩, inside := true, wake := some (1 / 10) }
      (by decide +kernel) (by decide +kernel) rfl rfl rfl rfl
    cases hsame
  · intro h
    have hspaced := h 10 0 [.enter 0 "send_slot", .acquired 0, .enter 1 "send_slot",
      .enter 0 "send_slot", .acquired 2, .elapse (1 / 10), .leave 0, .leave 2]
    revert hspaced
    decide +kernel

end Runs

end Fmofp.LoopLocks
