import Mathlib.Data.List.Basic
import Mathlib.Logic.Relation

/-!
# While loops

A loop is a step function `State → Option State`: `none` says that the condition
of the loop fails.  `loopUpTo` runs it for at most some number of rounds, and
`none` says that these were not enough.  The rule of total correctness is
`loopUpTo_of_potential`: an invariant, and a potential that each round lowers,
give a result after as many rounds as the potential says at the start.
-/

namespace Foundation

variable {State : Type*} {step : State → Option State}

/-- At most `rounds` rounds of the loop. -/
def loopUpTo (step : State → Option State) : ℕ → State → Option State
  | 0, s => if (step s).isNone then some s else none
  | rounds + 1, s =>
      match step s with
      | none => some s
      | some next => loopUpTo step rounds next

/-- The loop gets from one state to another. -/
abbrev Reaches (step : State → Option State) : State → State → Prop :=
  Relation.ReflTransGen fun s next => step s = some next

theorem loopUpTo_of_none {s : State} (hstep : step s = none) (rounds : ℕ) :
    loopUpTo step rounds s = some s := by
  cases rounds <;> simp [loopUpTo, hstep]

theorem loopUpTo_succ {s next : State} (hstep : step s = some next) (rounds : ℕ) :
    loopUpTo step (rounds + 1) s = loopUpTo step rounds next := by
  simp [loopUpTo, hstep]

/-- What holds at the start and is kept by each round holds in every state that
the loop gets to. -/
theorem Reaches.invariant {Inv : State → Prop} {s t : State} (h : Reaches step s t)
    (hkeep : ∀ s next, Inv s → step s = some next → Inv next) (hinv : Inv s) : Inv t := by
  induction h with
  | refl => exact hinv
  | tail _ hstep ih => exact hkeep _ _ ih hstep

/-- A potential that each round lowers bounds the number of rounds, and the
result is a state where the condition fails. -/
theorem loopUpTo_of_potential (potential : State → ℕ)
    (hlower : ∀ s next, step s = some next → potential next < potential s) {s : State} :
    ∃ t, Reaches step s t ∧ step t = none ∧
      ∀ rounds, potential s ≤ rounds → loopUpTo step rounds s = some t := by
  induction s using (measure potential).wf.induction with
  | _ s ih =>
      cases hstep : step s with
      | none => exact ⟨s, .refl, hstep, fun rounds _ => loopUpTo_of_none hstep rounds⟩
      | some next =>
          have hlt := hlower s next hstep
          obtain ⟨t, hreaches, hend, hloop⟩ := ih next hlt
          refine ⟨t, .head hstep hreaches, hend, fun rounds hrounds => ?_⟩
          obtain ⟨rest, rfl⟩ := Nat.exists_eq_add_of_lt (Nat.lt_of_lt_of_le hlt hrounds)
          rw [loopUpTo_succ hstep]
          exact hloop _ (Nat.le_add_right _ rest)

end Foundation
