import Mathlib.Algebra.GroupWithZero.Nat
import Mathlib.Data.List.Basic

/-!
# Arenas

A store that hands out a new index for each entry and never hands one out
twice.  A freed entry keeps its index, so an index names one allocation for
ever: reading through a stale one gives `none`, not some later entry.

The lemmas say what `get?` and `size` are after each update; nothing else
unfolds the list.
-/

namespace Foundation

/-- Entries by index; `none` marks a freed one. -/
structure Arena (β : Type*) where
  cells : List (Option β)

namespace Arena

variable {β : Type*}

/-- No entry was ever allocated. -/
def empty : Arena β := ⟨[]⟩

/-- The number of entries ever allocated, and the index of the next one. -/
def size (a : Arena β) : ℕ := a.cells.length

/-- The live entry at an index. -/
def get? (a : Arena β) (i : ℕ) : Option β := a.cells[i]?.join

/-- A new entry, at index `a.size`. -/
def alloc (a : Arena β) (x : β) : Arena β := ⟨a.cells ++ [some x]⟩

/-- Overwrite the entry at an allocated index. -/
def put (a : Arena β) (i : ℕ) (x : β) : Arena β := ⟨a.cells.set i (some x)⟩

/-- Free the entry at an index. -/
def free (a : Arena β) (i : ℕ) : Arena β := ⟨a.cells.set i none⟩

/-- Overwrite the entry at an allocated index, or free it. -/
def update (a : Arena β) (i : ℕ) : Option β → Arena β
  | none => a.free i
  | some x => a.put i x

/-- Every live entry passes the test. -/
def all (a : Arena β) (test : β → Bool) : Bool := a.cells.all fun cell => cell.all test

/-- The sum of a weight over the live entries. -/
def total (a : Arena β) (weight : β → ℕ) : ℕ :=
  (a.cells.map fun cell => (cell.map weight).getD 0).sum

/-! ## Sizes -/

@[simp] theorem size_empty : (empty : Arena β).size = 0 := rfl

@[simp] theorem size_alloc (a : Arena β) (x : β) : (a.alloc x).size = a.size + 1 := by
  simp [alloc, size]

@[simp] theorem size_put (a : Arena β) (i : ℕ) (x : β) : (a.put i x).size = a.size := by
  simp [put, size]

@[simp] theorem size_free (a : Arena β) (i : ℕ) : (a.free i).size = a.size := by
  simp [free, size]

@[simp] theorem size_update (a : Arena β) (i : ℕ) (x : Option β) :
    (a.update i x).size = a.size := by
  cases x <;> simp [update]

/-! ## Reading after an update -/

@[simp] theorem get?_empty (i : ℕ) : (empty : Arena β).get? i = none := by
  simp [empty, get?]

theorem lt_size_of_get? {a : Arena β} {i : ℕ} {x : β} (h : a.get? i = some x) : i < a.size := by
  by_contra hge
  rw [get?, List.getElem?_eq_none (Nat.not_lt.mp hge)] at h
  simp at h

theorem get?_of_size_le {a : Arena β} {i : ℕ} (h : a.size ≤ i) : a.get? i = none := by
  rw [get?, List.getElem?_eq_none h]
  rfl

theorem get?_alloc (a : Arena β) (x : β) (i : ℕ) :
    (a.alloc x).get? i = if i = a.size then some x else a.get? i := by
  unfold get? alloc size
  by_cases hlt : i < a.cells.length
  · rw [List.getElem?_append_left hlt, if_neg (Nat.ne_of_lt hlt)]
  · rw [List.getElem?_append_right (Nat.not_lt.mp hlt)]
    by_cases heq : i = a.cells.length
    · simp [heq]
    · rw [if_neg heq, List.getElem?_eq_none (l := a.cells) (by omega),
        List.getElem?_eq_none (by simp only [List.length_singleton]; omega)]

@[simp] theorem get?_alloc_self (a : Arena β) (x : β) : (a.alloc x).get? a.size = some x := by
  simp [get?_alloc]

/-- An allocation leaves the live entries as they are. -/
theorem get?_alloc_of_get? {a : Arena β} {i : ℕ} {x y : β} (h : a.get? i = some y) :
    (a.alloc x).get? i = some y := by
  rw [get?_alloc, if_neg (Nat.ne_of_lt (lt_size_of_get? h)), h]

theorem get?_put {a : Arena β} {i : ℕ} (hi : i < a.size) (x : β) (j : ℕ) :
    (a.put i x).get? j = if j = i then some x else a.get? j := by
  unfold get? put
  unfold size at hi
  rw [List.getElem?_set]
  by_cases hij : j = i
  · subst hij
    simp [hi]
  · rw [if_neg (Ne.symm hij), if_neg hij]

theorem get?_put_self {a : Arena β} {i : ℕ} (hi : i < a.size) (x : β) :
    (a.put i x).get? i = some x := by
  rw [get?_put hi, if_pos rfl]

theorem get?_put_of_ne {a : Arena β} {i j : ℕ} (hi : i < a.size) (hj : j ≠ i) (x : β) :
    (a.put i x).get? j = a.get? j := by
  rw [get?_put hi, if_neg hj]

theorem get?_free (a : Arena β) (i j : ℕ) :
    (a.free i).get? j = if j = i then none else a.get? j := by
  unfold get? free
  rw [List.getElem?_set]
  by_cases hij : j = i
  · subst hij
    by_cases hlt : j < a.cells.length <;> simp [hlt]
  · rw [if_neg (Ne.symm hij), if_neg hij]

theorem get?_update {a : Arena β} {i : ℕ} (hi : i < a.size) (x : Option β) (j : ℕ) :
    (a.update i x).get? j = if j = i then x else a.get? j := by
  cases x with
  | none => exact get?_free a i j
  | some x => exact get?_put hi x j

/-- An arena is what its entries are. -/
theorem ext_get? {a b : Arena β} (hsize : a.size = b.size) (h : ∀ i, a.get? i = b.get? i) :
    a = b := by
  obtain ⟨cells⟩ := a
  obtain ⟨cells'⟩ := b
  refine congrArg Arena.mk (List.ext_getElem hsize fun i hi hi' => ?_)
  simpa [get?, hi, hi'] using h i

/-- Writing what is there changes nothing. -/
theorem put_self {a : Arena β} {i : ℕ} {x : β} (h : a.get? i = some x) : a.put i x = a := by
  rw [get?, Option.join_eq_some_iff, List.getElem?_eq_some_iff] at h
  obtain ⟨hlt, hx⟩ := h
  rw [put, ← hx, List.set_getElem_self]

/-- Two writes to one index leave the second. -/
@[simp] theorem put_put (a : Arena β) (i : ℕ) (x y : β) : (a.put i x).put i y = a.put i y := by
  simp [put]

/-- What was written before the entry is freed does not matter. -/
@[simp] theorem free_put (a : Arena β) (i : ℕ) (x : β) : (a.put i x).free i = a.free i := by
  simp [free, put]

/-- Writing the entry that was allocated last. -/
theorem put_alloc_size (a : Arena β) (x y : β) : (a.alloc x).put a.size y = a.alloc y := by
  simp [put, alloc, size]

/-! ## Testing every entry -/

theorem all_iff {a : Arena β} {test : β → Bool} :
    a.all test = true ↔ ∀ i x, a.get? i = some x → test x = true := by
  unfold all get?
  rw [List.all_eq_true]
  constructor
  · intro h i x hget
    rw [Option.join_eq_some_iff] at hget
    have hcell := h (some x) (List.mem_of_getElem? hget)
    simpa using hcell
  · intro h cell hcell
    obtain ⟨i, hi⟩ := List.getElem?_of_mem hcell
    cases cell with
    | none => rfl
    | some x => simpa using h i x (by rw [hi]; rfl)

/-! ## Totals -/

section Total

variable (weight : β → ℕ)

@[simp] theorem total_empty : (empty : Arena β).total weight = 0 := rfl

theorem total_alloc (a : Arena β) (x : β) :
    (a.alloc x).total weight = a.total weight + weight x := by
  simp [total, alloc]

/-- A freed entry no longer counts. -/
theorem total_free {a : Arena β} {i : ℕ} {x : β} (h : a.get? i = some x) :
    (a.free i).total weight + weight x = a.total weight := by
  obtain ⟨cells⟩ := a
  unfold total free get? at *
  induction cells generalizing i with
  | nil => simp at h
  | cons cell cells ih =>
      cases i with
      | zero =>
          obtain rfl : cell = some x := by simpa using h
          simp [Nat.add_comm]
      | succ i =>
          have hrest := ih (i := i) (by simpa using h)
          simp only [List.set_cons_succ, List.map_cons, List.sum_cons] at hrest ⊢
          omega

/-- The total, index by index. -/
theorem total_eq_sum_range (a : Arena β) :
    a.total weight =
      ((List.range a.size).map fun i => ((a.get? i).map weight).getD 0).sum := by
  unfold total
  congr 1
  refine List.ext_getElem (by simp [size]) fun i hi _ => ?_
  have hlt : i < a.cells.length := by simpa using hi
  simp [get?, hlt]

/-- Where nothing is live there is nothing to count. -/
theorem total_of_dead {a : Arena β} (h : ∀ i, a.get? i = none) : a.total weight = 0 := by
  unfold total
  rw [List.sum_eq_zero_iff_forall_eq_nat]
  intro n hn
  obtain ⟨cell, hcell, rfl⟩ := List.mem_map.mp hn
  obtain ⟨i, hi⟩ := List.getElem?_of_mem hcell
  have hdead := h i
  rw [get?, hi] at hdead
  cases cell with
  | none => rfl
  | some x => simp at hdead

end Total

/-! ## One arena after another -/

/-- `b` is what `a` may have become: nothing that was freed is live again. -/
structure Later (a b : Arena β) : Prop where
  size_le : a.size ≤ b.size
  was_live : ∀ i < a.size, (∃ x, b.get? i = some x) → ∃ x, a.get? i = some x

namespace Later

variable {a b c : Arena β} {i : ℕ}

theorem refl (a : Arena β) : a.Later a := ⟨Nat.le_refl _, fun _ _ h => h⟩

theorem trans (h : a.Later b) (h' : b.Later c) : a.Later c where
  size_le := Nat.le_trans h.size_le h'.size_le
  was_live i hi hlive := h.was_live i hi (h'.was_live i (Nat.lt_of_lt_of_le hi h.size_le) hlive)

theorem alloc (a : Arena β) (x : β) : a.Later (a.alloc x) where
  size_le := size_alloc a x ▸ Nat.le_succ _
  was_live i hi hlive := by rwa [get?_alloc, if_neg (Nat.ne_of_lt hi)] at hlive

theorem free (a : Arena β) (i : ℕ) : a.Later (a.free i) where
  size_le := Nat.le_of_eq (size_free a i).symm
  was_live j _ hlive := by
    rw [get?_free] at hlive
    split at hlive
    · obtain ⟨x, hx⟩ := hlive
      simp at hx
    · exact hlive

/-- Overwriting a live entry. -/
theorem put {x : β} (hi : a.get? i = some x) (y : β) : a.Later (a.put i y) where
  size_le := Nat.le_of_eq (size_put a i y).symm
  was_live j _ hlive := by
    rw [get?_put (lt_size_of_get? hi)] at hlive
    split at hlive
    · rename_i hj
      exact ⟨x, hj ▸ hi⟩
    · exact hlive

end Later

/-! ## Two arenas in step -/

/-- Two arenas with live entries at the same indices, related one by one. -/
structure Related {γ : Type*} (R : β → γ → Prop) (a : Arena β) (b : Arena γ) : Prop where
  size_eq : a.size = b.size
  related : ∀ i, Option.Rel R (a.get? i) (b.get? i)

namespace Related

variable {γ : Type*} {R : β → γ → Prop} {a : Arena β} {b : Arena γ} {i : ℕ}

theorem empty : Related R (Arena.empty : Arena β) (Arena.empty : Arena γ) where
  size_eq := rfl
  related i := by
    rw [get?_empty, get?_empty]
    exact .none

/-- The entry that goes with one of the first arena. -/
theorem exists_right (h : Related R a b) {x : β} (hx : a.get? i = some x) :
    ∃ y, b.get? i = some y ∧ R x y := by
  have hi := h.related i
  rw [hx] at hi
  cases hy : b.get? i with
  | none =>
      rw [hy] at hi
      cases hi
  | some y =>
      rw [hy] at hi
      cases hi with
      | some hR => exact ⟨y, rfl, hR⟩

/-- Where the second arena has nothing, nor has the first. -/
theorem left_eq_none (h : Related R a b) (hi : b.get? i = none) : a.get? i = none := by
  cases hx : a.get? i with
  | none => rfl
  | some x =>
      obtain ⟨y, hy, _⟩ := h.exists_right hx
      rw [hi] at hy
      simp at hy

theorem alloc (h : Related R a b) {x : β} {y : γ} (hR : R x y) :
    Related R (a.alloc x) (b.alloc y) where
  size_eq := by rw [size_alloc, size_alloc, h.size_eq]
  related j := by
    rw [get?_alloc, get?_alloc, h.size_eq]
    split
    · exact .some hR
    · exact h.related j

theorem free (h : Related R a b) (i : ℕ) : Related R (a.free i) (b.free i) where
  size_eq := by rw [size_free, size_free, h.size_eq]
  related j := by
    rw [get?_free, get?_free]
    split
    · exact .none
    · exact h.related j

/-- Overwriting an entry of the second arena. -/
theorem put_right (h : Related R a b) {x : β} {y : γ} (hx : a.get? i = some x) (hR : R x y) :
    Related R a (b.put i y) where
  size_eq := by rw [size_put, h.size_eq]
  related j := by
    have hi : i < b.size := h.size_eq ▸ lt_size_of_get? hx
    rw [get?_put hi]
    split
    · rename_i hj
      rw [hj, hx]
      exact .some hR
    · exact h.related j

end Related

end Arena

end Foundation
