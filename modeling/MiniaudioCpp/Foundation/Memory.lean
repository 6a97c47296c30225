import Mathlib.Algebra.Ring.Nat
import Mathlib.Order.Interval.Set.Basic

/-!
# Flat memory and counted loops

A memory is a function from addresses to cells.  `Overwrites value region m m'`
says that `m'` is `m` with every cell of the region set to one value.

`forUpTo count body` is the loop `for (uint32_t i = 0; i < count; ++i)`, with
its rule `forUpTo_induction`; a loop that overwrites a region in each iteration
overwrites all of them (`overwrites_forUpTo`).
-/

namespace Foundation

/-- The cells by their addresses. -/
abbrev Memory (α : Type*) := ℕ → α

variable {α σ : Type*}

/-! ## Counted loops -/

/-- `for (uint32_t i = 0; i < count; ++i) body(i)`. -/
def forUpTo (count : UInt32) (body : UInt32 → σ → σ) (state : σ) : σ :=
  (List.range count.toNat).foldl (fun state i => body (UInt32.ofNat i) state) state

/-- The loop rule: `P i` holds before iteration `i`. -/
theorem forUpTo_induction {P : ℕ → σ → Prop} {count : UInt32} {body : UInt32 → σ → σ} {state : σ}
    (hstart : P 0 state)
    (hbody : ∀ i state, i < count → P i.toNat state → P (i.toNat + 1) (body i state)) :
    P count.toNat (forUpTo count body state) := by
  have hupto : ∀ n, n ≤ count.toNat →
      P n ((List.range n).foldl (fun state i => body (UInt32.ofNat i) state) state) := by
    intro n
    induction n with
    | zero => exact fun _ => hstart
    | succ n ih =>
        intro hn
        have hsize : count.toNat < 2 ^ 32 := count.toNat_lt
        have hword : (UInt32.ofNat n).toNat = n :=
          UInt32.toNat_ofNat_of_lt' (by rw [UInt32.size]; omega)
        rw [List.range_succ, List.foldl_append, List.foldl_cons, List.foldl_nil]
        have hlt : UInt32.ofNat n < count := by
          rw [UInt32.lt_iff_toNat_lt, hword]
          omega
        have hnext := hbody (UInt32.ofNat n)
          ((List.range n).foldl (fun state i => body (UInt32.ofNat i) state) state) hlt
        rw [hword] at hnext
        exact hnext (ih (by omega))
  exact hupto count.toNat (Nat.le_refl _)

/-! ## Overwriting -/

/-- The cells of `region` hold `value`, and the others what they held. -/
structure Overwrites (value : α) (region : Set ℕ) (before after : Memory α) : Prop where
  inside : ∀ a ∈ region, after a = value
  outside : ∀ a ∉ region, after a = before a

/-- Set `length` cells from `base` on. -/
def Memory.fill (base length : ℕ) (value : α) (m : Memory α) : Memory α :=
  fun a => if base ≤ a ∧ a < base + length then value else m a

namespace Overwrites

variable {value : α} {region region' : Set ℕ} {m m' m'' : Memory α}

theorem empty (value : α) (m : Memory α) : Overwrites value ∅ m m where
  inside _ ha := absurd ha (Set.notMem_empty _)
  outside _ _ := rfl

theorem fill (base length : ℕ) (value : α) (m : Memory α) :
    Overwrites value (Set.Ico base (base + length)) m (m.fill base length value) where
  inside _ ha := if_pos (Set.mem_Ico.mp ha)
  outside _ ha := if_neg fun h => ha (Set.mem_Ico.mpr h)

/-- Two regions one after the other. -/
theorem union (h : Overwrites value region m m') (h' : Overwrites value region' m' m'') :
    Overwrites value (region ∪ region') m m'' where
  inside a ha := by
    by_cases hlast : a ∈ region'
    · exact h'.inside a hlast
    · rw [h'.outside a hlast]
      exact h.inside a (ha.resolve_right hlast)
  outside a ha := by
    rw [Set.mem_union, not_or] at ha
    rw [h'.outside a ha.2, h.outside a ha.1]

theorem congr_region (h : Overwrites value region m m') (heq : region = region') :
    Overwrites value region' m m' := heq ▸ h

end Overwrites

/-- A loop each iteration of which overwrites a region of its own. -/
theorem overwrites_forUpTo {value : α} {count : UInt32} {body : UInt32 → Memory α → Memory α}
    (region : UInt32 → Set ℕ) (hbody : ∀ i m, Overwrites value (region i) m (body i m))
    (m : Memory α) :
    Overwrites value {a | ∃ i, i < count ∧ a ∈ region i} m (forUpTo count body m) := by
  have hloop : Overwrites value {a | ∃ i : UInt32, i.toNat < count.toNat ∧ a ∈ region i} m
      (forUpTo count body m) := by
    refine forUpTo_induction
      (P := fun n m' => Overwrites value {a | ∃ i : UInt32, i.toNat < n ∧ a ∈ region i} m m') ?_ ?_
    · apply (Overwrites.empty value m).congr_region
      ext a
      simp
    · intro i m' _ hupto
      apply (hupto.union (hbody i m')).congr_region
      ext a
      simp only [Set.mem_union, Set.mem_ofPred_eq]
      constructor
      · rintro (⟨j, hj, ha⟩ | ha)
        · exact ⟨j, Nat.lt_succ_of_lt hj, ha⟩
        · exact ⟨i, Nat.lt_succ_self _, ha⟩
      · rintro ⟨j, hj, ha⟩
        -- the last iteration, or one of those before it
        rcases Nat.lt_succ_iff_lt_or_eq.mp hj with hlt | heq
        · exact Or.inl ⟨j, hlt, ha⟩
        · obtain rfl := UInt32.toNat_inj.mp heq
          exact Or.inr ha
  exact hloop

end Foundation
