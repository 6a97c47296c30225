import MiniaudioCpp.Foundation.Memory
import Mathlib.Order.CompletePartialOrder
import Mathlib.Order.Interval.Set.Disjoint

/-!
# Copying ranges of a flat memory

`Memory.memcpy` copies a range of cells and is not defined when the two ranges
overlap.  A loop of copies whose targets meet neither each other nor a source
does all of them (`copyUpTo_of_disjoint`).  Without that, this much is left: the
last range that was copied agrees with its source (`copyUpTo_last`).
-/

namespace Foundation

variable {α : Type*}

namespace Memory

/-- `length` cells from `src` on, copied to `dst` on. -/
def copy (dst src length : ℕ) (m : Memory α) : Memory α :=
  fun a => if dst ≤ a ∧ a < dst + length then m (src + (a - dst)) else m a

/-- The two ranges have a cell in common. -/
def Overlap (dst src length : ℕ) : Prop := dst < src + length ∧ src < dst + length

instance (dst src length : ℕ) : Decidable (Overlap dst src length) :=
  inferInstanceAs (Decidable (_ ∧ _))

/-- `memcpy`, in cells. -/
def memcpy (dst src length : ℕ) (m : Memory α) : Option (Memory α) :=
  if Overlap dst src length then none else some (m.copy dst src length)

/-- `for (uint32_t i = 0; i < count; ++i) memcpy(dst(i), src(i), length(i))`. -/
def copyUpTo (count : UInt32) (dst src length : UInt32 → ℕ) (m : Memory α) :
    Option (Memory α) :=
  forUpTo count (fun i m => m.bind (memcpy (dst i) (src i) (length i))) (some m)

/-! ## One copy -/

section One

variable (dst src length : ℕ) (m : Memory α)

theorem copy_inside {k : ℕ} (hk : k < length) : m.copy dst src length (dst + k) = m (src + k) := by
  rw [copy, if_pos (by omega), Nat.add_sub_cancel_left]

theorem copy_outside {a : ℕ} (ha : a ∉ Set.Ico dst (dst + length)) :
    m.copy dst src length a = m a :=
  if_neg ha

@[simp] theorem memcpy_zero : m.memcpy dst src 0 = some m := by
  have hnone : ¬ Overlap dst src 0 := by
    unfold Overlap
    omega
  rw [memcpy, if_neg hnone]
  congr 1
  funext a
  exact copy_outside dst src 0 m (by simp)

end One

theorem memcpy_eq_some {dst src length : ℕ} {m m' : Memory α}
    (h : m.memcpy dst src length = some m') :
    ¬ Overlap dst src length ∧ m' = m.copy dst src length := by
  unfold memcpy at h
  split at h
  · simp at h
  · exact ⟨‹_›, (Option.some.inj h).symm⟩

/-- Ranges that do not meet do not overlap. -/
theorem not_overlap_of_disjoint {dst src length : ℕ}
    (h : Disjoint (Set.Ico src (src + length)) (Set.Ico dst (dst + length))) :
    ¬ Overlap dst src length := by
  intro ⟨hdst, hsrc⟩
  -- the larger of the two starts is in both
  have hmem : max src dst ∈ Set.Ico src (src + length) := by
    rw [Set.mem_Ico]
    omega
  refine Set.disjoint_left.mp h hmem ?_
  rw [Set.mem_Ico]
  omega

/-- After a copy the target agrees with its source. -/
theorem copy_agrees {dst src length : ℕ} (h : ¬ Overlap dst src length) (m : Memory α) {k : ℕ}
    (hk : k < length) :
    m.copy dst src length (dst + k) = m.copy dst src length (src + k) := by
  rw [copy_inside dst src length m hk, copy_outside]
  unfold Overlap at h
  rw [Set.mem_Ico]
  omega

/-! ## Loops of copies -/

section Loop

variable {count : UInt32} {dst src length : UInt32 → ℕ} {m m' : Memory α}

/-- The first `n` ranges were copied, and nothing else has changed. -/
structure Copies (n : ℕ) (dst src length : UInt32 → ℕ) (m m' : Memory α) : Prop where
  inside : ∀ i : UInt32, i.toNat < n → ∀ k < length i, m' (dst i + k) = m (src i + k)
  outside : ∀ a, (∀ i : UInt32, i.toNat < n → a ∉ Set.Ico (dst i) (dst i + length i)) →
    m' a = m a

theorem Copies.zero (dst src length : UInt32 → ℕ) (m : Memory α) :
    Copies 0 dst src length m m where
  inside _ hi := absurd hi (Nat.not_lt_zero _)
  outside _ _ := rfl

/-- One more range, which meets none of the targets before it, from a source
that none of them meets. -/
theorem Copies.succ {i : UInt32} (h : Copies i.toNat dst src length m m')
    (hdst : ∀ j : UInt32, j.toNat < i.toNat →
      Disjoint (Set.Ico (dst j) (dst j + length j)) (Set.Ico (dst i) (dst i + length i)))
    (hsrc : ∀ j : UInt32, j.toNat < i.toNat →
      Disjoint (Set.Ico (src i) (src i + length i)) (Set.Ico (dst j) (dst j + length j))) :
    Copies (i.toNat + 1) dst src length m (m'.copy (dst i) (src i) (length i)) where
  inside j hj k hk := by
    rcases Nat.lt_succ_iff_lt_or_eq.mp hj with hlt | heq
    · have hmem : dst j + k ∈ Set.Ico (dst j) (dst j + length j) := ⟨by omega, by omega⟩
      rw [copy_outside _ _ _ _ (Set.disjoint_left.mp (hdst j hlt) hmem), h.inside j hlt k hk]
    · obtain rfl := UInt32.toNat_inj.mp heq
      have hmem : src j + k ∈ Set.Ico (src j) (src j + length j) := ⟨by omega, by omega⟩
      rw [copy_inside _ _ _ _ hk]
      exact h.outside _ fun i hi => Set.disjoint_left.mp (hsrc i hi) hmem
  outside a ha := by
    rw [copy_outside _ _ _ _ (ha i (Nat.lt_succ_self _))]
    exact h.outside a fun j hj => ha j (Nat.lt_succ_of_lt hj)

/-- A loop of copies whose targets meet neither each other nor a source. -/
theorem copyUpTo_of_disjoint
    (hdst : ∀ i j, i < count → j < count → i ≠ j →
      Disjoint (Set.Ico (dst i) (dst i + length i)) (Set.Ico (dst j) (dst j + length j)))
    (hsrc : ∀ i j, i < count → j < count →
      Disjoint (Set.Ico (src i) (src i + length i)) (Set.Ico (dst j) (dst j + length j)))
    (m : Memory α) :
    ∃ m', m.copyUpTo count dst src length = some m' ∧
      Copies count.toNat dst src length m m' := by
  refine forUpTo_induction
    (P := fun n s => ∃ m', s = some m' ∧ Copies n dst src length m m') ?_ ?_
  · exact ⟨m, rfl, .zero dst src length m⟩
  · intro i s hi ⟨m', hs, hcopies⟩
    have hearlier : ∀ j : UInt32, j.toNat < i.toNat → j < count ∧ j ≠ i := by
      intro j hj
      refine ⟨UInt32.lt_trans hj hi, ?_⟩
      rintro rfl
      exact Nat.lt_irrefl _ hj
    refine ⟨m'.copy (dst i) (src i) (length i), ?_, hcopies.succ ?_ ?_⟩
    · rw [hs, Option.bind_some, memcpy, if_neg (not_overlap_of_disjoint (hsrc i i hi hi))]
    · exact fun j hj => hdst j i (hearlier j hj).1 hi (hearlier j hj).2
    · exact fun j hj => hsrc i j hi (hearlier j hj).1

/-- Of the ranges that are not empty there is a last one. -/
theorem exists_last_range {i : UInt32} (hi : i < count) (hpos : 0 < length i) :
    ∃ j, j < count ∧ 0 < length j ∧ ∀ i, j < i → i < count → length i = 0 := by
  -- the largest index is the one with the fewest after it
  obtain ⟨j, ⟨hj, hjpos⟩, hlast⟩ := WellFounded.has_min
    (measure fun i : UInt32 => count.toNat - i.toNat).wf {i | i < count ∧ 0 < length i}
    ⟨i, hi, hpos⟩
  refine ⟨j, hj, hjpos, fun i hji hicount => ?_⟩
  by_contra hne
  refine hlast i ⟨hicount, Nat.pos_of_ne_zero hne⟩ ?_
  change count.toNat - i.toNat < count.toNat - j.toNat
  rw [UInt32.lt_iff_toNat_lt] at hji hicount
  omega

/-- The last range that is not empty: whatever the earlier ones were, it agrees
with its source in the end. -/
theorem copyUpTo_last {j : UInt32} (hj : j < count)
    (hlater : ∀ i, j < i → i < count → length i = 0)
    (h : m.copyUpTo count dst src length = some m') :
    ¬ Overlap (dst j) (src j) (length j) ∧
      ∀ k < length j, m' (dst j + k) = m' (src j + k) := by
  let Agrees : Memory α → Prop := fun m' =>
    ¬ Overlap (dst j) (src j) (length j) ∧ ∀ k < length j, m' (dst j + k) = m' (src j + k)
  have hloop : j.toNat < count.toNat → ∀ m', m.copyUpTo count dst src length = some m' →
      Agrees m' := by
    refine forUpTo_induction (P := fun n (s : Option (Memory α)) =>
      j.toNat < n → ∀ m', s = some m' → Agrees m') ?_ ?_
    · exact fun h => absurd h (Nat.not_lt_zero _)
    · intro i s hi ih hlt m' hm'
      obtain ⟨before, hbefore, hcopy⟩ := Option.bind_eq_some_iff.mp hm'
      rcases Nat.lt_succ_iff_lt_or_eq.mp hlt with hpast | heq
      · -- past `j` the loop copies nothing
        rw [hlater i hpast hi, memcpy_zero] at hcopy
        obtain rfl := Option.some.inj hcopy
        exact ih hpast before hbefore
      · obtain rfl := UInt32.toNat_inj.mp heq
        obtain ⟨hapart, rfl⟩ := memcpy_eq_some hcopy
        exact ⟨hapart, fun k hk => copy_agrees hapart before hk⟩
  exact hloop hj m' h

end Loop

end Memory

end Foundation
