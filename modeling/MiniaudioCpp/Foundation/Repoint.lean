import Mathlib.Logic.Function.Basic
import Mathlib.Logic.Relator

/-!
# Pointing one key of a relation elsewhere

A relation between keys and targets in which each key has at most one target is
`Relator.RightUnique`.  `Repoints R R' a b` says that `R'` is `R` with the key
`a` pointed at `b`, whatever `a` pointed at before.  It keeps uniqueness, and
every property of single pairs that the new pair has.

`Tabulated R table Alive` follows such a relation through a history in which
pairs also come to an end: the last target of each key stands in `table`, and
the pairs that are left are those of the table that are alive.
-/

namespace Foundation

variable {α β : Type*}

/-- `a` points at `b`, and every other key where it pointed before. -/
def Repoints (R R' : α → β → Prop) (a : α) (b : β) : Prop :=
  ∀ x y, R' x y ↔ (x = a ∧ y = b) ∨ (x ≠ a ∧ R x y)

namespace Repoints

variable {R R' : α → β → Prop} {a : α} {b : β}

/-- The key points at its new target. -/
theorem target (h : Repoints R R' a b) : R' a b := (h a b).mpr (Or.inl ⟨rfl, rfl⟩)

/-- The other keys are left alone. -/
theorem of_ne (h : Repoints R R' a b) {x : α} (hx : x ≠ a) (y : β) : R' x y ↔ R x y := by
  rw [h x y]
  constructor
  · rintro (⟨heq, _⟩ | ⟨_, hR⟩)
    · exact absurd heq hx
    · exact hR
  · exact fun hR => Or.inr ⟨hx, hR⟩

/-- Each key still has at most one target. -/
theorem rightUnique (h : Repoints R R' a b) (hR : Relator.RightUnique R) :
    Relator.RightUnique R' := by
  intro x y z hy hz
  rcases (h x y).mp hy with ⟨rfl, rfl⟩ | ⟨hx, hy⟩
  · rcases (h x z).mp hz with ⟨_, rfl⟩ | ⟨hx, _⟩
    · rfl
    · exact absurd rfl hx
  · rcases (h x z).mp hz with ⟨heq, _⟩ | ⟨_, hz⟩
    · exact absurd heq hx
    · exact hR hy hz

/-- What holds of every pair and of the new one holds of every pair after it. -/
theorem forall_of (h : Repoints R R' a b) {P : α → β → Prop} (hR : ∀ x y, R x y → P x y)
    (hnew : P a b) (x : α) (y : β) (hy : R' x y) : P x y := by
  rcases (h x y).mp hy with ⟨rfl, rfl⟩ | ⟨_, hold⟩
  · exact hnew
  · exact hR x y hold

end Repoints

/-- Updating a partial function at one key. -/
theorem repoints_update [DecidableEq α] (f : α → Option β) (a : α) (b : β) :
    Repoints (fun x y => f x = some y)
      (fun x y => (if x = a then some b else f x) = some y) a b := by
  intro x y
  by_cases hx : x = a
  · simp [hx, eq_comm]
  · simp [hx]

/-! ## The last target of each key -/

/-- The relation is the table, as far as its pairs are alive. -/
def Tabulated (R : α → β → Prop) (table : α → Option β) (Alive : α → β → Prop) : Prop :=
  ∀ x y, R x y ↔ table x = some y ∧ Alive x y

namespace Tabulated

variable {R R' : α → β → Prop} {table : α → Option β} {Alive Alive' : α → β → Prop}

/-- Pointing a key at a pair that is alive updates the table. -/
theorem repoint [DecidableEq α] {a : α} {b : β} (h : Tabulated R table Alive)
    (hR : Repoints R R' a b) (hab : Alive a b) :
    Tabulated R' (Function.update table a (some b)) Alive := by
  intro x y
  by_cases hx : x = a
  · subst hx
    rw [Function.update_self, Option.some.injEq, hR x y]
    constructor
    · intro hpair
      rcases hpair with ⟨_, hy⟩ | ⟨hne, _⟩
      · exact ⟨hy.symm, hy ▸ hab⟩
      · exact absurd rfl hne
    · intro hpair
      exact Or.inl ⟨rfl, hpair.1.symm⟩
  · rw [Function.update_of_ne hx, hR.of_ne hx y]
    exact h x y

/-- Pairs that come to an end leave the table as it is; none of them is ever
alive again. -/
theorem retire (h : Tabulated R table Alive) (hR : ∀ x y, R' x y ↔ R x y ∧ Alive' x y)
    (hAlive : ∀ x y, table x = some y → Alive' x y → Alive x y) : Tabulated R' table Alive' := by
  intro x y
  rw [hR x y, h x y]
  constructor
  · intro hleft
    obtain ⟨⟨htable, _⟩, halive⟩ := hleft
    exact ⟨htable, halive⟩
  · intro hleft
    obtain ⟨htable, halive⟩ := hleft
    exact ⟨⟨htable, hAlive x y htable halive⟩, halive⟩

end Tabulated

end Foundation
