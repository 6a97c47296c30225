import MiniaudioCpp.CResource.Custody

/-!
# Worlds of objects

`World` is a set of objects of one class that derives from `CResource`, over
one heap.  The operations that name two objects live here, since the two may be
the same one.  Custody of a world is custody of its `slots`, and each operation
keeps it.
-/

namespace MiniaudioCpp

open Foundation CResourceBase

variable {α : Type*}

/-- The living objects of a class, and the heap they share. -/
structure World (ω α : Type*) where
  objects : Arena ω
  heap : Heap α

namespace World

variable {ω : Type*} [CResourceBase ω]

/-- No object was constructed and nothing was allocated. -/
def empty : World ω α := ⟨Arena.empty, Heap.empty⟩

/-- A new object with the given value. -/
def construct (w : World ω α) (x : ω) : World ω α :=
  { w with objects := w.objects.alloc x }

/-- A member function called on an object. -/
def member {R : Type*} (w : World ω α) (self : ℕ) (f : ω → Heap α → R × ω × Heap α) :
    Option (World ω α × R) :=
  (w.objects.get? self).map fun x =>
    let (result, x, heap) := f x w.heap
    (⟨w.objects.put self x, heap⟩, result)

/-- Move construction: the base is moved from, the other members are copied. -/
def moveConstruct (w : World ω α) (other : ℕ) : Option (World ω α) :=
  (w.objects.get? other).map fun y =>
    let (c, left) := (base y).moveFrom
    { w with objects := (w.objects.put other (withBase y left)).alloc (withBase y c) }

/-- Move assignment: `if (this != &other)` the base is moved over, and the
other members are copied. -/
def moveAssign (w : World ω α) (self other : ℕ) : Option (World ω α) :=
  (w.objects.get? self).bind fun x =>
    (w.objects.get? other).map fun y =>
      if self = other then w
      else
        let (c, left, heap) := (base x).moveAssign (base y) w.heap
        ⟨(w.objects.put self (withBase y c)).put other (withBase y left), heap⟩

/-- `swap`, the member or the one of the namespace: only the base takes part. -/
def swap (w : World ω α) (self other : ℕ) : Option (World ω α) :=
  (w.objects.get? self).bind fun x =>
    (w.objects.get? other).map fun y =>
      { w with objects :=
          (w.objects.put self (withBase x (base y))).put other (withBase y (base x)) }

/-- The destructor. -/
def destroy (w : World ω α) (self : ℕ) : Option (World ω α) :=
  (w.objects.get? self).map fun x => ⟨w.objects.free self, (base x).destruct w.heap⟩

/-- The element each object owns; `none` for an empty object and for an index
with no object. -/
def slots (w : World ω α) (i : ℕ) : Option Pointer :=
  (w.objects.get? i).bind fun x => (base x).resource_

/-- The element is live and owned by no object. -/
def Loose (w : World ω α) (p : Pointer) : Bool :=
  (w.heap.cells.get? p).isSome && w.objects.all fun x => decide ((base x).resource_ ≠ some p)

/-! ## What each update does to `slots` -/

theorem slots_of_get? {w : World ω α} {i : ℕ} {x : ω} (h : w.objects.get? i = some x) :
    w.slots i = (base x).resource_ := by
  simp [slots, h]

theorem slots_eq_some {w : World ω α} {i : ℕ} {p : Pointer} :
    w.slots i = some p ↔ ∃ x, w.objects.get? i = some x ∧ (base x).resource_ = some p := by
  simp [slots, Option.bind_eq_some_iff]

theorem slots_of_size_le {w : World ω α} {i : ℕ} (h : w.objects.size ≤ i) : w.slots i = none := by
  simp [slots, Arena.get?_of_size_le h]

theorem slots_put (objects : Arena ω) {i : ℕ} (hi : i < objects.size) (x : ω) (heap heap' : Heap α) :
    slots ⟨objects.put i x, heap⟩ =
      Function.update (slots ⟨objects, heap'⟩) i (base x).resource_ := by
  funext j
  by_cases hj : j = i
  · subst hj
    simp [slots, Arena.get?_put hi]
  · simp [slots, Arena.get?_put hi, hj]

theorem slots_alloc (objects : Arena ω) (x : ω) (heap heap' : Heap α) :
    slots ⟨objects.alloc x, heap⟩ =
      Function.update (slots ⟨objects, heap'⟩) objects.size (base x).resource_ := by
  funext j
  by_cases hj : j = objects.size
  · subst hj
    simp [slots]
  · simp [slots, Arena.get?_alloc, hj]

theorem slots_free (objects : Arena ω) (i : ℕ) (heap heap' : Heap α) :
    slots ⟨objects.free i, heap⟩ = Function.update (slots ⟨objects, heap'⟩) i none := by
  funext j
  by_cases hj : j = i
  · subst hj
    simp [slots, Arena.get?_free]
  · simp [slots, Arena.get?_free, hj]

theorem loose_iff {w : World ω α} {p : Pointer} :
    w.Loose p = true ↔ (∃ x, w.heap.cells.get? p = some x) ∧ ∀ i, w.slots i ≠ some p := by
  unfold Loose
  rw [Bool.and_eq_true, Option.isSome_iff_exists, Arena.all_iff]
  refine and_congr_right fun _ => ?_
  constructor
  · intro h i hslot
    obtain ⟨x, hget, hp⟩ := slots_eq_some.mp hslot
    exact (of_decide_eq_true (h i x hget)) hp
  · intro h i x hget
    exact decide_eq_true fun hp => h i (slots_eq_some.mpr ⟨x, hget, hp⟩)

/-- A pointer that is null or loose is at the loose stage. -/
theorem loose_of_all {w : World ω α} (h : Custody w.slots w.heap) {ptr : Option Pointer}
    (hptr : ptr.all w.Loose = true) {p : Pointer} (hp : ptr = some p) :
    (∃ r, w.heap.stage p = some (.loose r)) ∧ ∀ i, w.slots i ≠ some p := by
  subst hp
  obtain ⟨hlive, hfree⟩ := loose_iff.mp (by simpa using hptr)
  exact ⟨h.loose_of_live hlive hfree, hfree⟩

/-! ## The heap after each operation -/

variable {w w' : World ω α} {self : ℕ}

theorem heap_moveConstruct (hw : w.moveConstruct self = some w') : w'.heap = w.heap := by
  simp only [moveConstruct, Option.map_eq_some_iff] at hw
  obtain ⟨_, _, rfl⟩ := hw
  rfl

/-- An assignment of an object to itself changes nothing; any other destroys what
the object owned. -/
theorem heap_moveAssign {other : ℕ} (hw : w.moveAssign self other = some w') :
    w'.heap = w.heap ∨
      ∃ x, w.objects.get? self = some x ∧ w'.heap = (base x).destruct w.heap := by
  simp only [moveAssign, Option.bind_eq_some_iff, Option.map_eq_some_iff] at hw
  obtain ⟨x, hx, _, _, rfl⟩ := hw
  split
  · exact Or.inl rfl
  · exact Or.inr ⟨x, hx, rfl⟩

theorem heap_swap {other : ℕ} (hw : w.swap self other = some w') : w'.heap = w.heap := by
  simp only [swap, Option.bind_eq_some_iff, Option.map_eq_some_iff] at hw
  obtain ⟨_, _, _, _, rfl⟩ := hw
  rfl

theorem heap_destroy (hw : w.destroy self = some w') :
    ∃ x, w.objects.get? self = some x ∧ w'.heap = (base x).destruct w.heap := by
  simp only [destroy, Option.map_eq_some_iff] at hw
  obtain ⟨x, hx, rfl⟩ := hw
  exact ⟨x, hx, rfl⟩

/-! ## Custody after each operation -/

omit [CResourceBase ω] in
theorem member_eq_some {R : Type*} {f : ω → Heap α → R × ω × Heap α} {result : R} :
    w.member self f = some (w', result) ↔ ∃ x, w.objects.get? self = some x ∧
      w' = ⟨w.objects.put self (f x w.heap).2.1, (f x w.heap).2.2⟩ ∧
        result = (f x w.heap).1 := by
  simp only [member, Option.map_eq_some_iff, Prod.mk.injEq]
  constructor
  · rintro ⟨x, hx, rfl, rfl⟩
    exact ⟨x, hx, rfl, rfl⟩
  · rintro ⟨x, hx, rfl, rfl⟩
    exact ⟨x, hx, rfl, rfl⟩

/-- Putting an object back with another element. -/
theorem custody_put {x y : ω} {heap : Heap α} (hx : w.objects.get? self = some x)
    (h : Custody (Function.update w.slots self (base y).resource_) heap) :
    Custody (slots ⟨w.objects.put self y, heap⟩) heap := by
  rwa [slots_put _ (Arena.lt_size_of_get? hx) y heap w.heap]

/-- A new object, at an index that held nothing before. -/
theorem custody_alloc {y : ω} {heap : Heap α}
    (h : Custody (Function.update w.slots w.objects.size (base y).resource_) heap) :
    Custody (slots ⟨w.objects.alloc y, heap⟩) heap := by
  rwa [slots_alloc w.objects y heap w.heap]

/-- A member function that keeps custody of its own object. -/
theorem custody_member {R : Type*} {f : ω → Heap α → R × ω × Heap α} {result : R}
    (hw : w.member self f = some (w', result))
    (hf : ∀ x, w.objects.get? self = some x →
      Custody (Function.update w.slots self (base (f x w.heap).2.1).resource_) (f x w.heap).2.2) :
    Custody w'.slots w'.heap := by
  obtain ⟨x, hx, rfl, _⟩ := member_eq_some.mp hw
  exact custody_put hx (hf x hx)

theorem custody_release (h : Custody w.slots w.heap) {x : ω} (hx : w.objects.get? self = some x) :
    Custody (Function.update w.slots self ((base x).release w.heap).2.1.resource_)
      ((base x).release w.heap).2.2 := by
  rw [CResource.release_eq]
  exact h.release (slots_of_get? hx)

/-- `reset` with a pointer that is null or loose. -/
theorem custody_reset (h : Custody w.slots w.heap) {x : ω} (hx : w.objects.get? self = some x)
    {ptr : Option Pointer} (hptr : ptr.all w.Loose = true) :
    Custody (Function.update w.slots self ((base x).reset ptr w.heap).1.resource_)
      ((base x).reset ptr w.heap).2 := by
  refine h.reset (slots_of_get? hx) fun p hp => ?_
  -- the old element is another one, so `ptr` is still loose after `destruct`
  obtain ⟨⟨r, hr⟩, hfree⟩ := loose_of_all h hptr hp
  have hother : (base x).resource_ ≠ some p := slots_of_get? hx ▸ hfree self
  exact ⟨r, (CResource.stage_destruct_of_ne hother).trans hr⟩

theorem custody_construct (h : Custody w.slots w.heap) {y : ω} (hy : (base y).resource_ = none) :
    Custody (w.construct y).slots (w.construct y).heap := by
  apply custody_alloc
  rwa [hy, Function.update_eq_self_iff.mpr (slots_of_size_le (Nat.le_refl _)).symm]

theorem custody_moveConstruct (h : Custody w.slots w.heap) (hw : w.moveConstruct self = some w') :
    Custody w'.slots w'.heap := by
  simp only [moveConstruct, Option.map_eq_some_iff] at hw
  obtain ⟨y, hy, rfl⟩ := hw
  have hempty : w.slots w.objects.size = none := slots_of_size_le (Nat.le_refl _)
  have hne : self ≠ w.objects.size := Nat.ne_of_lt (Arena.lt_size_of_get? hy)
  have hmove := h.move (j := self) hempty
  rw [slots_of_get? hy, Function.update_comm hne.symm] at hmove
  -- the moved-from object is put back first, then the new one is allocated
  have hput : slots ⟨w.objects.put self (withBase y ⟨none⟩), w.heap⟩ =
      Function.update w.slots self none := by
    rw [slots_put _ (Arena.lt_size_of_get? hy) _ w.heap w.heap, base_withBase]
  have halloc := slots_alloc (w.objects.put self (withBase y ⟨none⟩))
    (withBase y ⟨(base y).resource_⟩) w.heap w.heap
  rw [hput, base_withBase, Arena.size_put] at halloc
  show Custody (slots ⟨_, w.heap⟩) w.heap
  simp only [CResource.moveFrom]
  rw [halloc]
  exact hmove

theorem custody_moveAssign {other : ℕ} (h : Custody w.slots w.heap)
    (hw : w.moveAssign self other = some w') : Custody w'.slots w'.heap := by
  simp only [moveAssign, Option.bind_eq_some_iff, Option.map_eq_some_iff] at hw
  obtain ⟨x, hx, y, hy, hw⟩ := hw
  by_cases heq : self = other
  · rw [if_pos heq] at hw
    exact hw ▸ h
  · rw [if_neg heq] at hw
    subst hw
    have hassign := h.moveAssign (Ne.symm heq) (slots_of_get? hx) (slots_of_get? hy)
    have hfirst := slots_put _ (Arena.lt_size_of_get? hx) (withBase y ⟨(base y).resource_⟩)
      w.heap w.heap
    have hsecond := slots_put (w.objects.put self (withBase y ⟨(base y).resource_⟩))
      (by simpa using Arena.lt_size_of_get? hy) (withBase y ⟨none⟩)
      ((base x).destruct w.heap) w.heap
    rw [hfirst, base_withBase, base_withBase] at hsecond
    simp only [CResource.moveAssign, CResource.reset, Heap.adopt] at hassign ⊢
    rw [hsecond]
    exact hassign

theorem custody_swap {other : ℕ} (h : Custody w.slots w.heap)
    (hw : w.swap self other = some w') : Custody w'.slots w'.heap := by
  simp only [swap, Option.bind_eq_some_iff, Option.map_eq_some_iff] at hw
  obtain ⟨x, hx, y, hy, rfl⟩ := hw
  have hpermute := h.permute (Equiv.swap self other)
  rw [← update_swap, slots_of_get? hx, slots_of_get? hy] at hpermute
  have hfirst := slots_put _ (Arena.lt_size_of_get? hx) (withBase x (base y)) w.heap w.heap
  have hsecond := slots_put (w.objects.put self (withBase x (base y)))
    (by simpa using Arena.lt_size_of_get? hy) (withBase y (base x)) w.heap w.heap
  rw [hfirst, base_withBase, base_withBase] at hsecond
  rw [hsecond]
  exact hpermute

theorem custody_destroy (h : Custody w.slots w.heap) (hw : w.destroy self = some w') :
    Custody w'.slots w'.heap := by
  simp only [destroy, Option.map_eq_some_iff] at hw
  obtain ⟨x, hx, rfl⟩ := hw
  rw [slots_free w.objects self _ w.heap]
  exact h.destruct (slots_of_get? hx)

/-! ## The slots after the operations on objects -/

theorem slots_construct {y : ω} (hy : (base y).resource_ = none) : (w.construct y).slots = w.slots := by
  have halloc := slots_alloc w.objects y w.heap w.heap
  rw [hy, Function.update_eq_self_iff.mpr (slots_of_size_le (Nat.le_refl _)).symm] at halloc
  exact halloc

theorem slots_moveConstruct {other : ℕ} (hw : w.moveConstruct other = some w') :
    w'.slots = Function.update (Function.update w.slots other none) w.objects.size
      (w.slots other) := by
  simp only [moveConstruct, Option.map_eq_some_iff] at hw
  obtain ⟨y, hy, rfl⟩ := hw
  have hput := slots_put w.objects (Arena.lt_size_of_get? hy) (withBase y ⟨none⟩) w.heap w.heap
  have halloc := slots_alloc (w.objects.put other (withBase y ⟨none⟩))
    (withBase y ⟨(base y).resource_⟩) w.heap w.heap
  rw [hput, base_withBase, base_withBase, Arena.size_put] at halloc
  rw [slots_of_get? hy]
  exact halloc

theorem slots_moveAssign {other : ℕ} (hne : self ≠ other)
    (hw : w.moveAssign self other = some w') :
    w'.slots = Function.update (Function.update w.slots self (w.slots other)) other none := by
  simp only [moveAssign, Option.bind_eq_some_iff, Option.map_eq_some_iff, if_neg hne] at hw
  obtain ⟨x, hx, y, hy, rfl⟩ := hw
  have hfirst := slots_put w.objects (Arena.lt_size_of_get? hx) (withBase y ⟨(base y).resource_⟩)
    w.heap w.heap
  have hsecond := slots_put (w.objects.put self (withBase y ⟨(base y).resource_⟩))
    (by simpa using Arena.lt_size_of_get? hy) (withBase y ⟨none⟩) ((base x).destruct w.heap) w.heap
  rw [hfirst, base_withBase, base_withBase] at hsecond
  rw [slots_of_get? hy]
  exact hsecond

theorem slots_swap {other : ℕ} (hw : w.swap self other = some w') :
    w'.slots = Function.update (Function.update w.slots self (w.slots other)) other
      (w.slots self) := by
  simp only [swap, Option.bind_eq_some_iff, Option.map_eq_some_iff] at hw
  obtain ⟨x, hx, y, hy, rfl⟩ := hw
  have hfirst := slots_put w.objects (Arena.lt_size_of_get? hx) (withBase x (base y)) w.heap w.heap
  have hsecond := slots_put (w.objects.put self (withBase x (base y)))
    (by simpa using Arena.lt_size_of_get? hy) (withBase y (base x)) w.heap w.heap
  rw [hfirst, base_withBase, base_withBase] at hsecond
  rw [slots_of_get? hx, slots_of_get? hy]
  exact hsecond

theorem slots_destroy (hw : w.destroy self = some w') :
    w'.slots = Function.update w.slots self none := by
  simp only [destroy, Option.map_eq_some_iff] at hw
  obtain ⟨x, _, rfl⟩ := hw
  exact slots_free w.objects self _ w.heap

/-! ## How many objects there were -/

omit [CResourceBase ω] in
theorem size_construct (x : ω) : (w.construct x).objects.size = w.objects.size + 1 :=
  Arena.size_alloc w.objects x

theorem size_moveConstruct {other : ℕ} (hw : w.moveConstruct other = some w') :
    w'.objects.size = w.objects.size + 1 := by
  simp only [moveConstruct, Option.map_eq_some_iff] at hw
  obtain ⟨y, _, rfl⟩ := hw
  simp

theorem size_moveAssign {other : ℕ} (hw : w.moveAssign self other = some w') :
    w'.objects.size = w.objects.size := by
  simp only [moveAssign, Option.bind_eq_some_iff, Option.map_eq_some_iff] at hw
  obtain ⟨x, _, y, _, rfl⟩ := hw
  split <;> simp

theorem size_swap {other : ℕ} (hw : w.swap self other = some w') :
    w'.objects.size = w.objects.size := by
  simp only [swap, Option.bind_eq_some_iff, Option.map_eq_some_iff] at hw
  obtain ⟨x, _, y, _, rfl⟩ := hw
  simp

theorem size_destroy (hw : w.destroy self = some w') : w'.objects.size = w.objects.size := by
  simp only [destroy, Option.map_eq_some_iff] at hw
  obtain ⟨x, _, rfl⟩ := hw
  simp

end World

end MiniaudioCpp
