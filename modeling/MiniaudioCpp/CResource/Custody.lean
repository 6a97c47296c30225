import MiniaudioCpp.CResource.Basic
import MiniaudioCpp.Foundation.Slots

/-!
# Custody

The ownership invariant.  `slots i` is the element that object `i` owns;
`Custody slots heap` says that no element has two owners and that the log, the
live cells and the slots agree about every element: it is `held` exactly when
some object owns it, live exactly when it is `loose` or `held`, and never left
half destroyed.

Each member function of `CResource` keeps it.  The lemmas are about one object
`i` in any context: the function starts from `slots i = self.resource_` and
`slots` is updated at `i` alone, so the same lemma serves whatever other
objects exist, and a function that calls two others chains two lemmas.
-/

namespace MiniaudioCpp

open Foundation

variable {α ι : Type*}

/-- What each stage says about an element: whether it was allocated, is live,
and is owned. -/
def Placed : Option Stage → Prop → Prop → Prop → Prop
  | some .unborn, allocated, live, owned => ¬ allocated ∧ ¬ live ∧ ¬ owned
  | some (.loose _), allocated, live, owned => allocated ∧ live ∧ ¬ owned
  | some (.held _), allocated, live, owned => allocated ∧ live ∧ owned
  | some (.gone _ _), allocated, live, owned => allocated ∧ ¬ live ∧ ¬ owned
  | _, _, _, _ => False

/-- The slots, the live cells and the log agree. -/
structure Custody (slots : ι → Option Pointer) (heap : Heap α) : Prop where
  exclusive : Exclusive slots
  placed : ∀ p, Placed (heap.stage p) (p < heap.cells.size) (∃ x, heap.cells.get? p = some x)
    (Holds slots p)

namespace Custody

variable {slots : ι → Option Pointer} {heap : Heap α}

/-! ## Reading the invariant -/

theorem empty {slots : ι → Option Pointer} (h : ∀ i, slots i = none) :
    Custody slots (Heap.empty : Heap α) where
  exclusive := Exclusive.of_forall_eq_none h
  placed p := by
    rw [Heap.stage_empty]
    refine ⟨by simp [Heap.empty], by simp [Heap.empty], ?_⟩
    rintro ⟨i, hi⟩
    rw [h i] at hi
    simp at hi

theorem stage_cases (h : Custody slots heap) (p : Pointer) :
    heap.stage p = some .unborn ∨ (∃ r, heap.stage p = some (.loose r)) ∨
      (∃ r, heap.stage p = some (.held r)) ∨ ∃ r b, heap.stage p = some (.gone r b) := by
  have hp := h.placed p
  cases hs : heap.stage p with
  | none => rw [hs] at hp; exact hp.elim
  | some stage =>
      rw [hs] at hp
      cases stage with
      | dying r => exact hp.elim
      | unborn => simp
      | loose r => simp
      | held r => simp
      | gone r b => simp

theorem exists_stage (h : Custody slots heap) (p : Pointer) : ∃ stage, heap.stage p = some stage := by
  rcases h.stage_cases p with hs | ⟨_, hs⟩ | ⟨_, hs⟩ | ⟨_, _, hs⟩ <;> exact ⟨_, hs⟩

/-- An element is owned exactly in the stage `held`. -/
theorem holds_iff (h : Custody slots heap) (p : Pointer) :
    Holds slots p ↔ ∃ r, heap.stage p = some (.held r) := by
  have hp := h.placed p
  rcases h.stage_cases p with hs | ⟨r, hs⟩ | ⟨r, hs⟩ | ⟨r, b, hs⟩ <;> rw [hs] at hp ⊢
  · exact iff_of_false hp.2.2 (by simp)
  · exact iff_of_false hp.2.2 (by simp)
  · exact iff_of_true hp.2.2 ⟨r, rfl⟩
  · exact iff_of_false hp.2.2 (by simp)

theorem held_of_slot (h : Custody slots heap) {i : ι} {p : Pointer} (hi : slots i = some p) :
    ∃ r, heap.stage p = some (.held r) :=
  (h.holds_iff p).mp ⟨i, hi⟩

/-- No object owns a freed element. -/
theorem live_of_slot (h : Custody slots heap) {i : ι} {p : Pointer} (hi : slots i = some p) :
    ∃ x, heap.cells.get? p = some x := by
  obtain ⟨r, hr⟩ := h.held_of_slot hi
  have hp := h.placed p
  rw [hr] at hp
  exact hp.2.1

theorem lt_size_of_slot (h : Custody slots heap) {i : ι} {p : Pointer} (hi : slots i = some p) :
    p < heap.cells.size := by
  obtain ⟨x, hx⟩ := h.live_of_slot hi
  exact Arena.lt_size_of_get? hx

/-- A live element that no object owns is `loose`. -/
theorem loose_of_live (h : Custody slots heap) {p : Pointer}
    (hlive : ∃ x, heap.cells.get? p = some x) (hfree : ∀ i, slots i ≠ some p) :
    ∃ r, heap.stage p = some (.loose r) := by
  have hp := h.placed p
  rcases h.stage_cases p with hs | ⟨r, hs⟩ | ⟨r, hs⟩ | ⟨r, b, hs⟩ <;> rw [hs] at hp ⊢
  · exact absurd hlive hp.2.1
  · exact ⟨r, rfl⟩
  · obtain ⟨i, hi⟩ := hp.2.2
    exact absurd hi (hfree i)
  · exact absurd hlive hp.2.1

/-- The next pointer is unborn. -/
theorem stage_size (h : Custody slots heap) : heap.stage heap.cells.size = some .unborn := by
  have hp := h.placed heap.cells.size
  rcases h.stage_cases heap.cells.size with hs | ⟨r, hs⟩ | ⟨r, hs⟩ | ⟨r, b, hs⟩
  · exact hs
  all_goals
    rw [hs] at hp
    exact absurd hp.1 (Nat.lt_irrefl _)

/-- A change at one element, checked at that element. -/
theorem change {slots' : ι → Option Pointer} {heap' : Heap α} (h : Custody slots heap) (p : Pointer)
    (hstage : ∀ q, q ≠ p → heap'.stage q = heap.stage q)
    (hsize : ∀ q, q ≠ p → (q < heap'.cells.size ↔ q < heap.cells.size))
    (hcell : ∀ q, q ≠ p → heap'.cells.get? q = heap.cells.get? q)
    (hholds : ∀ q, q ≠ p → (Holds slots' q ↔ Holds slots q))
    (hexclusive : Exclusive slots')
    (hp : Placed (heap'.stage p) (p < heap'.cells.size) (∃ x, heap'.cells.get? p = some x)
      (Holds slots' p)) : Custody slots' heap' where
  exclusive := hexclusive
  placed q := by
    by_cases hq : q = p
    · exact hq ▸ hp
    · have := h.placed q
      rwa [hstage q hq, propext (hsize q hq), hcell q hq, propext (hholds q hq)]

/-- Permuting the slots changes nothing else. -/
theorem permute (h : Custody slots heap) (e : Equiv.Perm ι) : Custody (slots ∘ e) heap where
  exclusive := h.exclusive.permute e
  placed p := by
    rw [propext (holds_permute e p)]
    exact h.placed p

/-! ## The heap's operations -/

/-- `new`: a loose element that is nobody's yet. -/
theorem new (h : Custody slots heap) (x : α) :
    Custody slots (heap.new x) ∧ (heap.new x).stage heap.cells.size = some (.loose none) := by
  have hborn := Heap.stage_new_self x h.stage_size
  have hnobody : ¬ Holds slots heap.cells.size := by
    have := h.placed heap.cells.size
    rw [h.stage_size] at this
    exact this.2.2
  refine ⟨h.change heap.cells.size ?_ ?_ ?_ (fun _ _ => Iff.rfl) h.exclusive ?_, hborn⟩
  · exact fun q hq => Heap.stage_new_of_ne x hq
  · intro q hq
    rw [Heap.cells_new, Arena.size_alloc]
    exact ⟨fun hlt => Nat.lt_of_le_of_ne (Nat.le_of_lt_succ hlt) hq, Nat.lt_succ_of_lt⟩
  · intro q hq
    rw [Heap.cells_new, Arena.get?_alloc, if_neg hq]
  · rw [hborn]
    exact ⟨by simp, ⟨x, by simp⟩, hnobody⟩

/-- Overwriting a live element. -/
theorem store (h : Custody slots heap) {p : Pointer} (hlive : ∃ x, heap.cells.get? p = some x)
    (x : α) : Custody slots (heap.store p x) := by
  obtain ⟨y, hy⟩ := hlive
  have hlt := Arena.lt_size_of_get? hy
  refine h.change p (fun _ _ => rfl) (by simp) ?_ (fun _ _ => Iff.rfl) h.exclusive ?_
  · intro q hq
    rw [Heap.cells_store, Arena.get?_put_of_ne hlt hq]
  · have hp := h.placed p
    have hlive' : (∃ z, (heap.store p x).cells.get? p = some z) = ∃ z, heap.cells.get? p = some z :=
      propext (iff_of_true ⟨x, Arena.get?_put_self hlt x⟩ ⟨y, hy⟩)
    rwa [hlive', Heap.stage_store, Heap.cells_store, Arena.size_put]

/-- An event that moves the stage of `p`, with the slots, and leaves the cells. -/
theorem record (h : Custody slots heap) {slots' : ι → Option Pointer} {event : Event} {p : Pointer}
    {stage : Stage} (stage' : Stage) (hsubject : event.subject = some p) (hstage : heap.stage p = some stage)
    (hnext : resourceLifecycle.next stage event = some stage') (hexclusive : Exclusive slots')
    (hholds : ∀ q, q ≠ p → (Holds slots' q ↔ Holds slots q))
    (hp : Placed (some stage') (p < heap.cells.size) (∃ x, heap.cells.get? p = some x)
      (Holds slots' p)) :
    Custody slots' (heap.record event) := by
  refine h.change p ?_ (fun _ _ => Iff.rfl) (fun _ _ => rfl) hholds hexclusive ?_
  · intro q hq
    exact Heap.stage_record_of_ne (by rw [hsubject]; simpa using Ne.symm hq)
  · rw [Heap.stage_record_self _ hsubject hstage hnext]
    exact hp

/-- An event about no element. -/
theorem record_none (h : Custody slots heap) {event : Event} (hsubject : event.subject = none) :
    Custody slots (heap.record event) where
  exclusive := h.exclusive
  placed p := by
    rw [Heap.stage_record_of_ne (by simp [hsubject])]
    exact h.placed p

/-- An initialisation function applied to an element that is owned and not yet
initialised: its answer is on record. -/
theorem init [Inhabited α] (h : Custody slots heap) {p : Pointer}
    (hp : heap.stage p = some (.held none)) (f : α → MaResult × α) :
    Custody slots (heap.init f p).2 := by
  have hplaced := h.placed p
  rw [hp] at hplaced
  have hstore := h.store hplaced.2.1 (f (heap.load p)).2
  have hplaced' := hstore.placed p
  rw [Heap.stage_store, hp] at hplaced'
  exact hstore.record (.held (some (f (heap.load p)).1)) rfl (by rw [Heap.stage_store, hp]) rfl
    h.exclusive (fun _ _ => Iff.rfl) hplaced'

/-- `delete` of a loose element. -/
theorem deleteLoose (h : Custody slots heap) {p : Pointer} {r : Option MaResult}
    (hp : heap.stage p = some (.loose r)) : Custody slots (heap.delete p) := by
  have hplaced := h.placed p
  rw [hp] at hplaced
  refine h.change p (fun q hq => Heap.stage_delete_of_ne hq) (by simp) ?_ (fun _ _ => Iff.rfl)
    h.exclusive ?_
  · intro q hq
    rw [Heap.cells_delete, Arena.get?_free, if_neg hq]
  · rw [Heap.stage_delete_self (.gone r false) hp rfl]
    exact ⟨by simpa using hplaced.1, by simp [Arena.get?_free], hplaced.2.2⟩

variable [DecidableEq ι] {i : ι}

/-! ## The member functions of `CResource` -/

/-- A raw pointer to a loose element is taken by an empty object. -/
theorem adopt (h : Custody slots heap) (hi : slots i = none) {ptr : Option Pointer}
    (hloose : ∀ p, ptr = some p → ∃ r, heap.stage p = some (.loose r)) :
    Custody (Function.update slots i ptr) (heap.adopt ptr) := by
  cases ptr with
  | none =>
      rw [Function.update_eq_self_iff.mpr hi.symm]
      exact h
  | some p =>
      obtain ⟨r, hr⟩ := hloose p rfl
      have hp := h.placed p
      rw [hr] at hp
      refine h.record (.held r) rfl hr rfl (h.exclusive.fill i hp.2.2) ?_ ⟨hp.1, hp.2.1, ⟨i, by simp⟩⟩
      intro q hq
      rw [holds_fill hi]
      exact or_iff_right hq

/-- A new element is taken by an empty object. -/
theorem adopt_new (h : Custody slots heap) (hi : slots i = none) {p : Pointer}
    (hp : heap.stage p = some (.loose none)) :
    Custody (Function.update slots i (some p)) (heap.adopt (some p)) ∧
      (heap.adopt (some p)).stage p = some (.held none) := by
  refine ⟨h.adopt hi fun q hq => ⟨none, Option.some.inj hq ▸ hp⟩, ?_⟩
  exact Heap.stage_record_self (.held none) rfl hp rfl

/-- What clearing the slot of `p` does to the other elements, and to `p`. -/
theorem holds_clear (h : Custody slots heap) {p : Pointer} (hi : slots i = some p) :
    (∀ q, q ≠ p → (Holds (Function.update slots i none) q ↔ Holds slots q)) ∧
      ¬ Holds (Function.update slots i none) p := by
  constructor
  · intro q hq
    rw [h.exclusive.holds_clear, hi]
    exact and_iff_left (by simpa using Ne.symm hq)
  · rw [h.exclusive.holds_clear]
    exact fun hheld => hheld.2 hi

/-- `destruct` leaves nothing half destroyed, and the object's slot may be
cleared. -/
theorem destruct (h : Custody slots heap) {self : CResource} (hi : slots i = self.resource_) :
    Custody (Function.update slots i none) (self.destruct heap) := by
  obtain ⟨resource⟩ := self
  cases resource with
  | none =>
      rw [Function.update_eq_self_iff.mpr (Eq.symm hi)]
      exact h
  | some p =>
      obtain ⟨r, hr⟩ := h.held_of_slot hi
      have hp := h.placed p
      rw [hr] at hp
      obtain ⟨hothers, hcleared⟩ := h.holds_clear hi
      refine h.change p ?_ (by simp) ?_ hothers (h.exclusive.clear i) ?_
      · intro q hq
        exact CResource.stage_destruct_of_ne (by simpa using Ne.symm hq)
      · intro q hq
        exact CResource.get?_destruct_of_ne (by simpa using Ne.symm hq)
      · rw [CResource.stage_destruct_self rfl hr]
        exact ⟨by simpa [CResource.destruct] using hp.1,
          by simp [CResource.destruct, Arena.get?_free], hcleared⟩

/-- `release`: the element is loose again. -/
theorem release (h : Custody slots heap) {self : CResource} (hi : slots i = self.resource_) :
    Custody (Function.update slots i none) (self.release heap).2.2 := by
  obtain ⟨resource⟩ := self
  cases resource with
  | none =>
      rw [Function.update_eq_self_iff.mpr (Eq.symm hi)]
      exact h
  | some p =>
      obtain ⟨r, hr⟩ := h.held_of_slot hi
      have hp := h.placed p
      rw [hr] at hp
      obtain ⟨hothers, hcleared⟩ := h.holds_clear hi
      exact h.record (.loose r) rfl hr rfl (h.exclusive.clear i) hothers ⟨hp.1, hp.2.1, hcleared⟩

/-- `reset(ptr)`, where `ptr` is loose. -/
theorem reset (h : Custody slots heap) {self : CResource} (hi : slots i = self.resource_)
    {ptr : Option Pointer}
    (hloose : ∀ p, ptr = some p → ∃ r, (self.destruct heap).stage p = some (.loose r)) :
    Custody (Function.update slots i ptr) (self.reset ptr heap).2 := by
  have hadopt := (h.destruct hi).adopt (Function.update_self ..) hloose
  rwa [Function.update_idem] at hadopt

/-- Moving an element from one slot to an empty one. -/
theorem move (h : Custody slots heap) {j : ι} (hi : slots i = none) :
    Custody (Function.update (Function.update slots i (slots j)) j none) heap := by
  rw [← hi, update_swap]
  exact h.permute (Equiv.swap i j)

/-- `operator=(CResource&&)` between two objects. -/
theorem moveAssign (h : Custody slots heap) {j : ι} (hij : j ≠ i) {self other : CResource}
    (hi : slots i = self.resource_) (hj : slots j = other.resource_) :
    Custody (Function.update (Function.update slots i other.resource_) j none)
      (self.moveAssign other heap).2.2 := by
  have hmove := (h.destruct hi).move (i := i) (j := j) (Function.update_self ..)
  rw [Function.update_of_ne hij, Function.update_idem, hj] at hmove
  exact hmove

/-- `emplace`: the object owns a new element, and the answer of the
initialisation function is on record. -/
theorem emplace [Inhabited α] (h : Custody slots heap) {self : CResource}
    (hi : slots i = self.resource_) (f : α → MaResult × α) :
    Custody (Function.update slots i (self.emplace f heap).2.1.resource_)
      (self.emplace f heap).2.2 := by
  obtain ⟨hnew, hborn⟩ := (h.destruct hi).new (default : α)
  obtain ⟨hadopt, hheld⟩ := hnew.adopt_new (i := i) (Function.update_self ..) hborn
  rw [Function.update_idem] at hadopt
  exact hadopt.init hheld f

end Custody

end MiniaudioCpp
