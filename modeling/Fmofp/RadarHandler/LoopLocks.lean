import Fmofp.Machine.Run
import Fmofp.Python.Dict

/-! The locks of the radar message handler, one slot a purpose, and the coroutines of any number of
event loops that pass through the sections they guard.  The slot has the lock of the loop that asked
last, so a loop whose lock was replaced is given another one, while the first may still be held.  The
steps of a loop lie between two awaits. -/

namespace Fmofp.LoopLocks

open Python Machine

/-- An `asyncio.Lock`, with the loop that it is stored with and the purpose that it is stored under. -/
structure LoopLock where
  serial : ℕ
  loop : ℕ
  purpose : String
  deriving Repr, DecidableEq

/-- A coroutine in `async with self._loop_bound_lock(purpose)`: it waits for the lock or is inside. -/
structure Passage where
  loop : ℕ
  purpose : String
  lock : LoopLock
  inside : Bool := false
  /-- When the sleep in `_acquire_send_slot` is over; none if its gap cannot be computed. -/
  wake : Option ℚ := none
  deriving Repr, DecidableEq

structure Handler where
  loopLocks : Dict String LoopLock := []
  made : ℕ := 0
  passages : ℕ → Option Passage := fun _ => none
  asked : ℕ := 0
  /-- `time.monotonic()`. -/
  clock : ℚ
  lastRequestTime : ℚ := 0
  /-- The loops and times at which `_acquire_send_slot` returned True, the last first: a record that
  the program does not keep. -/
  grants : List (ℕ × ℚ) := []

inductive Action
  /-- A coroutine of the loop comes to the section. -/
  | enter (loop : ℕ) (purpose : String)
  /-- A waiting one is given its lock. -/
  | acquired (k : ℕ)
  /-- One that is inside comes to the end of the section. -/
  | leave (k : ℕ)
  /-- One is cancelled, or an exception takes it out of the section. -/
  | cancel (k : ℕ)
  | elapse (now : ℚ)
  /-- `stop` drops the locks. -/
  | stop
  deriving Repr, DecidableEq

namespace Handler

def newLock (s : Handler) (loop : ℕ) (purpose : String) : LoopLock × Handler :=
  let lock : LoopLock := { serial := s.made, loop, purpose }
  (lock, { s with loopLocks := s.loopLocks.set purpose lock, made := s.made + 1 })

/-- `_loop_bound_lock`. -/
def loopBoundLock (s : Handler) (loop : ℕ) (purpose : String) : LoopLock × Handler :=
  match s.loopLocks.get? purpose with
  | none => s.newLock loop purpose
  | some existing => if existing.loop ≠ loop then s.newLock loop purpose else (existing, s)

def locked (s : Handler) (lock : LoopLock) : Bool :=
  (List.range s.asked).any fun k => (s.passages k).any fun c => c.inside && decide (c.lock = lock)

def enter (s : Handler) (loop : ℕ) (purpose : String) : Handler :=
  let (lock, t) := s.loopBoundLock loop purpose
  { t with passages := Function.update t.passages t.asked (some { loop, purpose, lock })
           asked := t.asked + 1 }

/-- `_acquire_send_slot` inside the section, up to the end of its sleep: it sleeps out the gap since the
last request, and never more than one gap. -/
def sendSlotWake (rate : ℚ) (s : Handler) : Option ℚ :=
  if rate = 0 then none
  else
    let gap := 1 / rate
    let elapsed := s.clock - s.lastRequestTime
    let waitTime := gap - elapsed
    if waitTime > 0 then some (s.clock + min waitTime gap) else some s.clock

def acquired (rate : ℚ) (s : Handler) (k : ℕ) : Handler :=
  match s.passages k with
  | none => s
  | some c =>
    if c.inside || s.locked c.lock then s
    else
      { s with passages := Function.update s.passages k
                (some { c with inside := true, wake := s.sendSlotWake rate }) }

def remove (s : Handler) (k : ℕ) : Handler :=
  { s with passages := Function.update s.passages k none }

/-- The end of a section, which in `_acquire_send_slot` comes after the sleep and claims the slot. -/
def leave (s : Handler) (k : ℕ) : Handler :=
  match s.passages k with
  | none => s
  | some c =>
    if !c.inside then s
    else if c.purpose ≠ "send_slot" then s.remove k
    else
      match c.wake with
      | none => s.remove k
      | some wake =>
        if s.clock < wake then s
        else { s.remove k with lastRequestTime := s.clock
                               grants := (c.loop, s.clock) :: s.grants }

end Handler

/-- One step, with `rate` requests a second. -/
def step (rate : ℚ) (s : Handler) : Action → Unit × Handler
  | .enter loop purpose => ((), s.enter loop purpose)
  | .acquired k => ((), s.acquired rate k)
  | .leave k => ((), s.leave k)
  | .cancel k => ((), s.remove k)
  | .elapse now => ((), { s with clock := max s.clock now })
  | .stop => ((), { s with loopLocks := [] })

/-! ### What is to hold -/

/-- No two coroutines of a loop are inside the section of one purpose. -/
def Exclusive (s : Handler) : Prop :=
  ∀ j k c d, s.passages j = some c → s.passages k = some d → c.inside → d.inside → c.loop = d.loop →
    c.purpose = d.purpose → j = k

/-- Two grants on one loop are at least one gap apart. -/
def Spaced (rate : ℚ) (grants : List (ℕ × ℚ)) : Prop :=
  grants.Pairwise fun later earlier => later.1 = earlier.1 → earlier.2 + 1 / rate ≤ later.2

instance (rate : ℚ) (grants : List (ℕ × ℚ)) : Decidable (Spaced rate grants) :=
  List.instDecidablePairwise grants

/-- Mutual exclusion in this state and however locks are given to waiting coroutines from here on, and
the spacing of the grants. -/
def Serialised (rate : ℚ) (s : Handler) : Prop :=
  (∀ ks : List ℕ, Exclusive (final (step rate) s (ks.map .acquired))) ∧ Spaced rate s.grants

/-- A coroutine that comes to a section finds the lock of its loop in the slot, or no other of its loop
is at that section. -/
def FindsOwnLock (s : Handler) : Action → Prop
  | .enter loop purpose =>
    (∃ lock, s.loopLocks.get? purpose = some lock ∧ lock.loop = loop) ∨
      ∀ k c, s.passages k = some c → ¬ (c.loop = loop ∧ c.purpose = purpose)
  | _ => True

/-! ### Steps -/

namespace Handler

variable {s : Handler} {k : ℕ}

theorem remove_passages {j : ℕ} {d : Passage} (h : (s.remove k).passages j = some d) :
    j ≠ k ∧ s.passages j = some d := by
  rw [remove] at h
  dsimp only at h
  rw [Function.update_apply] at h
  split_ifs at h with hj
  exact ⟨hj, h⟩

/-- A passage after a lock is given out is one from before, or the one that is given its lock. -/
theorem acquired_passages {rate : ℚ} {j : ℕ} {d : Passage}
    (h : (s.acquired rate k).passages j = some d) :
    s.passages j = some d ∨
      ∃ c, s.passages k = some c ∧ j = k ∧ c.inside = false ∧ s.locked c.lock = false ∧
        d = { c with inside := true, wake := s.sendSlotWake rate } := by
  rw [acquired] at h
  split at h
  · exact .inl h
  · rename_i c hc
    split_ifs at h with hbusy
    · exact .inl h
    · dsimp only at h
      rw [Function.update_apply] at h
      split_ifs at h with hj
      · simp only [Bool.or_eq_true, not_or, Bool.not_eq_true] at hbusy
        cases h
        exact .inr ⟨c, hc, hj, hbusy.1, hbusy.2, rfl⟩
      · exact .inl h

theorem acquired_eq (rate : ℚ) {c : Passage} (hc : s.passages k = some c) (hwaits : c.inside = false)
    (hfree : s.locked c.lock = false) :
    (s.acquired rate k).passages k =
      some { c with inside := true, wake := s.sendSlotWake rate } := by
  rw [acquired, hc]
  simp [hwaits, hfree]

theorem acquired_passages_ne {rate : ℚ} {j : ℕ} (h : j ≠ k) :
    (s.acquired rate k).passages j = s.passages j := by
  rw [acquired]
  split
  · rfl
  · split_ifs
    · rfl
    · exact Function.update_of_ne h _ _

/-- Giving out a lock changes the passages only. -/
theorem acquired_frame (rate : ℚ) (s : Handler) (k : ℕ) :
    ∃ passages, s.acquired rate k = { s with passages } := by
  rw [acquired]
  split
  · exact ⟨s.passages, rfl⟩
  · split_ifs
    · exact ⟨s.passages, rfl⟩
    · exact ⟨_, rfl⟩

theorem locked_of_inside {c : Passage} (hk : k < s.asked) (hc : s.passages k = some c)
    (hinside : c.inside = true) : s.locked c.lock = true := by
  rw [locked, List.any_eq_true]
  refine ⟨k, List.mem_range.mpr hk, ?_⟩
  rw [hc, Option.any_some, hinside, Bool.true_and]
  exact decide_eq_true rfl

theorem locked_eq_true {lock : LoopLock} (h : s.locked lock = true) :
    ∃ k c, s.passages k = some c ∧ c.inside = true ∧ c.lock = lock := by
  rw [locked, List.any_eq_true] at h
  obtain ⟨k, -, h⟩ := h
  rw [Option.any_eq_true] at h
  obtain ⟨c, hc, h⟩ := h
  rw [Bool.and_eq_true] at h
  exact ⟨k, c, hc, h.1, of_decide_eq_true h.2⟩

/-- The lock for a loop is the one in the slot if that is the loop's, and a new one otherwise. -/
theorem loopBoundLock_cases (s : Handler) (loop : ℕ) (purpose : String) :
    (∃ lock, s.loopLocks.get? purpose = some lock ∧ lock.loop = loop ∧
        s.loopBoundLock loop purpose = (lock, s)) ∨
      (∀ lock, s.loopLocks.get? purpose = some lock → lock.loop ≠ loop) ∧
        s.loopBoundLock loop purpose = s.newLock loop purpose := by
  rw [loopBoundLock]
  split
  · rename_i hnone
    exact .inr ⟨fun lock hlock => (by rw [hnone] at hlock; cases hlock), rfl⟩
  · rename_i existing hslot
    split_ifs with hother
    · refine .inr ⟨fun lock hlock => ?_, rfl⟩
      rw [hslot] at hlock
      cases hlock
      exact hother
    · exact .inl ⟨existing, hslot, not_not.mp hother, rfl⟩

theorem enter_passages {loop : ℕ} {purpose : String} {j : ℕ} {d : Passage}
    (h : (s.enter loop purpose).passages j = some d) :
    j = s.asked ∧ d = { loop, purpose, lock := (s.loopBoundLock loop purpose).1 } ∨
      j ≠ s.asked ∧ s.passages j = some d := by
  have hsame : (s.loopBoundLock loop purpose).2.passages = s.passages ∧
      (s.loopBoundLock loop purpose).2.asked = s.asked := by
    rcases loopBoundLock_cases s loop purpose with ⟨lock, -, -, heq⟩ | ⟨-, heq⟩
    · rw [heq]
      exact ⟨rfl, rfl⟩
    · rw [heq]
      exact ⟨rfl, rfl⟩
  rw [enter] at h
  dsimp only at h
  rw [hsame.1, hsame.2, Function.update_apply] at h
  split_ifs at h with hj
  · cases h
    exact .inl ⟨hj, rfl⟩
  · exact .inr ⟨hj, h⟩

/-- What a coroutine at the end of a section does: it is not there yet, or it goes, or it goes with a
grant of the send slot. -/
theorem leave_cases (s : Handler) (k : ℕ) :
    s.leave k = s ∨ s.leave k = s.remove k ∨
      ∃ c wake, s.passages k = some c ∧ c.inside = true ∧ c.purpose = "send_slot" ∧
        c.wake = some wake ∧ wake ≤ s.clock ∧
        s.leave k = { s.remove k with lastRequestTime := s.clock
                                      grants := (c.loop, s.clock) :: s.grants } := by
  rw [leave]
  split
  · exact .inl rfl
  · rename_i c hc
    split_ifs with hinside hother
    · exact .inl rfl
    · exact .inr (.inl rfl)
    · split
      · exact .inr (.inl rfl)
      · rename_i wake hwake
        split_ifs with hearly
        · exact .inl rfl
        · refine .inr (.inr ⟨c, wake, hc, ?_, not_not.mp hother, hwake, not_lt.mp hearly, rfl⟩)
          simpa using hinside

end Handler

end Fmofp.LoopLocks
