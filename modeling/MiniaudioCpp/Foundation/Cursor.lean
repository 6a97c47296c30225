import Mathlib.Algebra.Ring.Nat
import Mathlib.Data.List.Basic

/-!
# A cursor over a sequence

A sequence with a position in it, read from front to back.  The position may be
past the end; nothing is left there.  `reads_eq` is the law of chunking: reading
in several pieces is reading once, and it ends at the same position.
-/

namespace Foundation

/-- A sequence and a position in it. -/
structure Cursor (β : Type*) where
  content : List β
  position : ℕ
  deriving DecidableEq

namespace Cursor

variable {β : Type*}

/-- How much is left. -/
def remaining (c : Cursor β) : ℕ := c.content.length - c.position

/-- The next `n` entries, or those that are left. -/
def next (c : Cursor β) (n : ℕ) : List β := (c.content.drop c.position).take n

/-- The cursor after the next `n` entries. -/
def advance (c : Cursor β) (n : ℕ) : Cursor β :=
  { c with position := c.position + (c.next n).length }

/-- Reading in pieces. -/
def reads (c : Cursor β) : List ℕ → List β × Cursor β
  | [] => ([], c)
  | n :: ns => ((c.next n) ++ ((c.advance n).reads ns).1, ((c.advance n).reads ns).2)

@[simp] theorem content_advance (c : Cursor β) (n : ℕ) : (c.advance n).content = c.content := rfl

@[simp] theorem position_advance (c : Cursor β) (n : ℕ) :
    (c.advance n).position = c.position + (c.next n).length := rfl

theorem length_next (c : Cursor β) (n : ℕ) : (c.next n).length = min n c.remaining := by
  simp [next, remaining]

/-- Past the end there is nothing. -/
theorem next_of_length_le {c : Cursor β} (h : c.content.length ≤ c.position) (n : ℕ) :
    c.next n = [] := by
  rw [next, List.drop_eq_nil_of_le h, List.take_nil]

theorem next_zero (c : Cursor β) : c.next 0 = [] := rfl

/-- Asking for more than what is left gives what is left. -/
theorem next_min_remaining (c : Cursor β) (n : ℕ) : c.next (min n c.remaining) = c.next n := by
  have hall : (c.content.drop c.position).length ≤ c.remaining := by simp [remaining]
  calc c.next (min n c.remaining)
      = ((c.content.drop c.position).take c.remaining).take n := List.take_take.symm
    _ = c.next n := by rw [List.take_of_length_le hall, next]

theorem position_advance_le {c : Cursor β} (h : c.position ≤ c.content.length) (n : ℕ) :
    (c.advance n).position ≤ c.content.length := by
  rw [position_advance, length_next, remaining]
  omega

/-- Reading `n + m` entries is reading `n` and then `m`. -/
theorem next_add (c : Cursor β) (n m : ℕ) : c.next (n + m) = c.next n ++ (c.advance n).next m := by
  unfold next advance
  by_cases hn : n ≤ c.remaining
  · have hlength : (c.next n).length = n := by rw [length_next]; omega
    rw [hlength, List.take_add, List.drop_drop]
  · -- the first read reaches the end: nothing is left for the second
    have hleft : (c.content.drop c.position).length ≤ n := by
      rw [List.length_drop]
      rw [remaining] at hn
      omega
    have hend : c.content.length ≤ c.position + (c.next n).length := by
      rw [length_next, remaining]
      rw [remaining] at hn
      omega
    rw [List.take_of_length_le hleft, List.take_of_length_le (by omega),
      List.drop_eq_nil_of_le hend, List.take_nil, List.append_nil]

theorem advance_add (c : Cursor β) (n m : ℕ) : c.advance (n + m) = (c.advance n).advance m := by
  have hlength := congrArg List.length (next_add c n m)
  rw [List.length_append] at hlength
  simp [advance, hlength, Nat.add_assoc]

/-- Reading in pieces is reading once. -/
theorem reads_eq (c : Cursor β) (ns : List ℕ) : c.reads ns = (c.next ns.sum, c.advance ns.sum) := by
  induction ns generalizing c with
  | nil => simp [reads, next_zero, advance]
  | cons n ns ih => rw [reads, ih, List.sum_cons, next_add, advance_add]

end Cursor

end Foundation
