import Mathlib.Logic.Equiv.Basic

/-!
# Slots that hold tokens exclusively

`slots : ι → Option τ` says which token each slot holds.  It is `Exclusive`
when no token is in two slots.  The updates are clearing a slot, filling an
empty one with a token that is nowhere, and permuting the slots; a move from
one slot to an empty one is the permutation that swaps them.  For each update
there are two lemmas: it keeps `Exclusive`, and it changes `Holds` so.
-/

namespace Foundation

variable {ι τ : Type*}

/-- Some slot holds the token. -/
def Holds (slots : ι → Option τ) (t : τ) : Prop := ∃ i, slots i = some t

/-- No token is in two slots. -/
def Exclusive (slots : ι → Option τ) : Prop :=
  ∀ i j t, slots i = some t → slots j = some t → i = j

theorem Exclusive.of_forall_eq_none {slots : ι → Option τ} (h : ∀ i, slots i = none) :
    Exclusive slots := by
  intro i j t hi
  rw [h i] at hi
  exact absurd hi (by simp)

variable [DecidableEq ι] {slots : ι → Option τ}

/-! ## Clearing a slot -/

theorem Exclusive.clear (h : Exclusive slots) (i : ι) :
    Exclusive (Function.update slots i none) := by
  have hkeep : ∀ j t, Function.update slots i none j = some t → slots j = some t := by
    intro j t hj
    by_cases hji : j = i
    · subst hji
      simp at hj
    · rwa [Function.update_of_ne hji] at hj
  exact fun j k t hj hk => h j k t (hkeep j t hj) (hkeep k t hk)

theorem Exclusive.holds_clear (h : Exclusive slots) (i : ι) (t : τ) :
    Holds (Function.update slots i none) t ↔ Holds slots t ∧ slots i ≠ some t := by
  constructor
  · rintro ⟨j, hj⟩
    by_cases hji : j = i
    · subst hji
      simp at hj
    · rw [Function.update_of_ne hji] at hj
      exact ⟨⟨j, hj⟩, fun hi => hji (h j i t hj hi)⟩
  · rintro ⟨⟨j, hj⟩, hi⟩
    have hji : j ≠ i := fun hji => hi (hji ▸ hj)
    exact ⟨j, by rw [Function.update_of_ne hji, hj]⟩

/-! ## Filling an empty slot -/

theorem Exclusive.fill (h : Exclusive slots) (i : ι) {t : τ} (ht : ¬ Holds slots t) :
    Exclusive (Function.update slots i (some t)) := by
  intro j k u hj hk
  by_cases hji : j = i <;> by_cases hki : k = i
  · rw [hji, hki]
  · subst hji
    rw [Function.update_self, Option.some.injEq] at hj
    rw [Function.update_of_ne hki] at hk
    exact absurd ⟨k, hj ▸ hk⟩ ht
  · subst hki
    rw [Function.update_self, Option.some.injEq] at hk
    rw [Function.update_of_ne hji] at hj
    exact absurd ⟨j, hk ▸ hj⟩ ht
  · rw [Function.update_of_ne hji] at hj
    rw [Function.update_of_ne hki] at hk
    exact h j k u hj hk

theorem holds_fill {i : ι} (hi : slots i = none) (t u : τ) :
    Holds (Function.update slots i (some t)) u ↔ u = t ∨ Holds slots u := by
  constructor
  · rintro ⟨j, hj⟩
    by_cases hji : j = i
    · subst hji
      rw [Function.update_self, Option.some.injEq] at hj
      exact Or.inl hj.symm
    · rw [Function.update_of_ne hji] at hj
      exact Or.inr ⟨j, hj⟩
  · rintro (rfl | ⟨j, hj⟩)
    · exact ⟨i, by rw [Function.update_self]⟩
    · refine ⟨j, ?_⟩
      rw [Function.update_of_ne (fun hji => by rw [hji, hi] at hj; simp at hj), hj]

/-! ## Permuting the slots -/

omit [DecidableEq ι] in
theorem Exclusive.permute (h : Exclusive slots) (e : Equiv.Perm ι) : Exclusive (slots ∘ e) :=
  fun i j t hi hj => e.injective (h (e i) (e j) t hi hj)

omit [DecidableEq ι] in
theorem holds_permute (e : Equiv.Perm ι) (t : τ) : Holds (slots ∘ e) t ↔ Holds slots t := by
  constructor
  · rintro ⟨i, hi⟩
    exact ⟨e i, hi⟩
  · rintro ⟨i, hi⟩
    exact ⟨e.symm i, by simpa using hi⟩

/-- Exchanging two slots is a permutation. -/
theorem update_swap (i j : ι) :
    Function.update (Function.update slots i (slots j)) j (slots i) = slots ∘ Equiv.swap i j := by
  funext k
  by_cases hkj : k = j
  · subst hkj
    simp
  · rw [Function.update_of_ne hkj]
    by_cases hki : k = i
    · subst hki
      simp
    · rw [Function.update_of_ne hki, Function.comp_apply, Equiv.swap_apply_of_ne_of_ne hki hkj]

end Foundation
