import Mathlib

/-! Counting in windows.  A history says when windows open and when something occurs.  Where windows
open at least one length apart and little occurs in each, little occurs in any stretch of that length
wherever it begins. -/

namespace Machine

inductive WindowEvent (T : Type)
  | opens (time : T)
  | occurs (time : T)
  deriving Repr, DecidableEq

namespace Windows

open WindowEvent

variable {T : Type} [AddCommGroup T] [LinearOrder T]

/-- The times between `start` and `stop` at which something occurs, the end excluded. -/
def occurrences (start stop : T) : List (WindowEvent T) → ℕ
  | [] => 0
  | opens _ :: es => occurrences start stop es
  | occurs time :: es =>
    (if start ≤ time ∧ time < stop then 1 else 0) + occurrences start stop es

/-- What may follow at `clock` in a window that opened at `last` and in which `count` things have
occurred: nothing goes back in time, the next window opens one `length` later or more, and no more than
`limit` things occur in each. -/
def Windowed (length : T) (limit : ℕ) : T → T → ℕ → List (WindowEvent T) → Prop
  | _, _, _, [] => True
  | clock, last, _, opens time :: es =>
    clock ≤ time ∧ last + length ≤ time ∧ Windowed length limit time time 0 es
  | clock, last, count, occurs time :: es =>
    clock ≤ time ∧ count + 1 ≤ limit ∧ Windowed length limit time last (count + 1) es

section

variable {length : T} {limit : ℕ} {clock last : T} {count : ℕ} {es : List (WindowEvent T)}

/-- What holds of a clock holds of an earlier one. -/
theorem Windowed.mono {clock' : T} (h : Windowed length limit clock last count es)
    (hle : clock' ≤ clock) : Windowed length limit clock' last count es := by
  cases es with
  | nil => trivial
  | cons e es =>
    cases e with
    | opens time => exact ⟨hle.trans h.1, h.2⟩
    | occurs time => exact ⟨hle.trans h.1, h.2⟩

/-- The rest of a history behind some occurrences. -/
theorem Windowed.occurred {times : List T}
    (h : Windowed length limit clock last count (times.map occurs ++ es)) (hcount : count ≤ limit) :
    count + times.length ≤ limit ∧
      ∃ clock', Windowed length limit clock' last (count + times.length) es := by
  induction times generalizing clock count with
  | nil => exact ⟨hcount, clock, h⟩
  | cons time times ih =>
    obtain ⟨-, hlimit, h⟩ := h
    have := ih h hlimit
    rwa [List.length_cons, Nat.add_comm times.length, ← Nat.add_assoc]

/-- The rest of a history behind an opening. -/
theorem Windowed.opened {before : List (WindowEvent T)} {time : T}
    (h : Windowed length limit clock last count (before ++ opens time :: es)) :
    Windowed length limit time time 0 es := by
  induction before generalizing clock last count with
  | nil => exact h.2.2
  | cons e before ih =>
    cases e with
    | opens _ => exact ih h.2.2
    | occurs _ => exact ih h.2.2

/-- Nothing occurs before the end of a stretch that is over. -/
theorem Windowed.occurrences_over {start stop : T} (h : Windowed length limit clock last count es)
    (hover : stop ≤ clock) : occurrences start stop es = 0 := by
  induction es generalizing clock last count with
  | nil => rfl
  | cons e es ih =>
    cases e with
    | opens time => exact ih h.2.2 (hover.trans h.1)
    | occurs time =>
      rw [occurrences, ih h.2.2 (hover.trans h.1),
        if_neg fun hin => (hover.trans h.1).not_gt hin.2]

variable [IsOrderedAddMonoid T]

/-- In a window that opened within the stretch, only what the window still takes occurs: the next one
opens after the end. -/
theorem Windowed.occurrences_last {start : T} (h : Windowed length limit clock last count es)
    (hcount : count ≤ limit) (hlast : start ≤ last) :
    count + occurrences start (start + length) es ≤ limit := by
  induction es generalizing clock count with
  | nil => exact hcount
  | cons e es ih =>
    cases e with
    | opens time =>
      have hover : start + length ≤ time := (add_le_add_left hlast length).trans h.2.1
      rw [occurrences, h.2.2.occurrences_over hover]
      exact hcount
    | occurs time =>
      have := ih h.2.2 h.2.1
      rw [occurrences]
      split_ifs <;> omega

/-- In a window that reaches into the stretch, what it still takes occurs, and a whole other window. -/
theorem Windowed.occurrences_into {start : T} (h : Windowed length limit clock last count es)
    (hcount : count ≤ limit) (hclock : start ≤ clock) :
    count + occurrences start (start + length) es ≤ 2 * limit := by
  induction es generalizing clock last count with
  | nil => exact hcount.trans (by omega)
  | cons e es ih =>
    cases e with
    | opens time =>
      have := h.2.2.occurrences_last (Nat.zero_le limit) (hclock.trans h.1)
      rw [occurrences]
      omega
    | occurs time =>
      have := ih h.2.2 h.2.1 (hclock.trans h.1)
      rw [occurrences]
      split_ifs <;> omega

/-- Any stretch of one length takes part in two windows at most. -/
theorem Windowed.occurrences_le (h : Windowed length limit clock last count es)
    (hcount : count ≤ limit) (start : T) :
    occurrences start (start + length) es ≤ 2 * limit := by
  induction es generalizing clock last count with
  | nil => exact Nat.zero_le _
  | cons e es ih =>
    cases e with
    | opens time => exact ih h.2.2 (Nat.zero_le limit)
    | occurs time =>
      by_cases hin : start ≤ time
      · have := h.2.2.occurrences_into h.2.1 hin
        rw [occurrences]
        split_ifs <;> omega
      · rw [occurrences, if_neg fun h => hin h.1, Nat.zero_add]
        exact ih h.2.2 h.2.1

end

end Windows

end Machine
