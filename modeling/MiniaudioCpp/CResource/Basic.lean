import MiniaudioCpp.CResource.Heap

/-!
# `CResource`

The member functions of `CResource`, each on the object and the heap.  A class
that derives from it is any type with a `CResourceBase` instance: what its own
members are does not matter to the functions it inherits.
-/

namespace MiniaudioCpp

open Foundation

/-- `CResource`: the element it owns, or null. -/
structure CResource where
  resource_ : Option Pointer := none
  deriving DecidableEq, Repr

variable {α : Type*}

/-- A raw pointer passed to a `CResource`. -/
def Heap.adopt (heap : Heap α) : Option Pointer → Heap α
  | none => heap
  | some p => heap.record (.adopt p)

theorem Heap.cells_adopt (heap : Heap α) (ptr : Option Pointer) :
    (heap.adopt ptr).cells = heap.cells := by
  cases ptr <;> rfl

theorem Heap.log_adopt (heap : Heap α) (ptr : Option Pointer) :
    (heap.adopt ptr).log = heap.log ++ (ptr.map Event.adopt).toList := by
  cases ptr <;> simp [Heap.adopt]

namespace CResource

/-- `destruct`: uninitialise and delete what is owned. -/
def destruct (self : CResource) (heap : Heap α) : Heap α :=
  match self.resource_ with
  | none => heap
  | some p => (heap.uninit p).delete p

/-- `CResource(pointer resource)`. -/
def ofPointer (resource : Option Pointer) (heap : Heap α) : CResource × Heap α :=
  (⟨resource⟩, heap.adopt resource)

/-- `CResource(CResource&& other)`: the new object, and what is left of `other`. -/
def moveFrom (other : CResource) : CResource × CResource :=
  (⟨other.resource_⟩, ⟨none⟩)

/-- `clear`. -/
def clear (self : CResource) (heap : Heap α) : CResource × Heap α :=
  (⟨none⟩, self.destruct heap)

/-- `emplace`: the old element goes before the new one is made, and the new one
stays whatever `InitFunction` answers. -/
def emplace [Inhabited α] (InitFunction : α → MaResult × α) (self : CResource) (heap : Heap α) :
    MaResult × CResource × Heap α :=
  let heap := self.destruct heap
  let p := heap.cells.size
  let heap := (heap.new default).adopt (some p)
  let (result, heap) := heap.init InitFunction p
  (result, ⟨some p⟩, heap)

/-- `reset`. -/
def reset (ptr : Option Pointer) (self : CResource) (heap : Heap α) : CResource × Heap α :=
  (⟨ptr⟩, (self.destruct heap).adopt ptr)

/-- `release`. -/
def release (self : CResource) (heap : Heap α) : Option Pointer × CResource × Heap α :=
  match self.resource_ with
  | none => (none, ⟨none⟩, heap)
  | some p => (some p, ⟨none⟩, heap.record (.release p))

/-- `operator=(CResource&& other)` for two distinct objects: `reset()`, then
take over what `other` owns. -/
def moveAssign (self other : CResource) (heap : Heap α) : CResource × CResource × Heap α :=
  let (_, heap) := self.reset none heap
  (⟨other.resource_⟩, ⟨none⟩, heap)

/-- `operator=(std::nullptr_t)`. -/
def assignNull (self : CResource) (heap : Heap α) : CResource × Heap α := self.clear heap

/-! ## What is left after `release` -/

theorem release_eq (self : CResource) (heap : Heap α) : (self.release heap).2.1 = ⟨none⟩ := by
  obtain ⟨resource⟩ := self
  cases resource <;> rfl

theorem cells_release (self : CResource) (heap : Heap α) :
    (self.release heap).2.2.cells = heap.cells := by
  obtain ⟨resource⟩ := self
  cases resource <;> rfl

/-! ## Cells, stages and log after `destruct` -/

/-- What `destruct` logs. -/
def destroyed (self : CResource) : List Event :=
  match self.resource_ with
  | none => []
  | some p => [.uninit p, .delete p]

theorem log_destruct (self : CResource) (heap : Heap α) :
    (self.destruct heap).log = heap.log ++ self.destroyed := by
  obtain ⟨resource⟩ := self
  cases resource <;> simp [destruct, destroyed]

theorem later_destruct (self : CResource) (heap : Heap α) :
    heap.cells.Later (self.destruct heap).cells := by
  obtain ⟨resource⟩ := self
  cases resource with
  | none => exact .refl _
  | some p => exact .free _ p

@[simp] theorem size_destruct (self : CResource) (heap : Heap α) :
    (self.destruct heap).cells.size = heap.cells.size := by
  obtain ⟨resource⟩ := self
  cases resource <;> simp [destruct]

theorem get?_destruct_of_ne {self : CResource} {heap : Heap α} {q : Pointer}
    (hq : self.resource_ ≠ some q) : (self.destruct heap).cells.get? q = heap.cells.get? q := by
  obtain ⟨resource⟩ := self
  cases resource with
  | none => rfl
  | some p =>
      have hqp : q ≠ p := fun hqp => hq (by rw [hqp])
      simp [destruct, Arena.get?_free, hqp]

/-- An owned element goes through `uninit` and `delete`. -/
theorem stage_destruct_self {self : CResource} {heap : Heap α} {p : Pointer} {r : Option MaResult}
    (hself : self.resource_ = some p) (hr : heap.stage p = some (.held r)) :
    (self.destruct heap).stage p = some (.gone r true) := by
  rw [destruct, hself]
  exact Heap.stage_delete_self _ (Heap.stage_record_self (.dying r) rfl hr rfl) rfl

theorem stage_destruct_of_ne {self : CResource} {heap : Heap α} {q : Pointer}
    (hq : self.resource_ ≠ some q) : (self.destruct heap).stage q = heap.stage q := by
  obtain ⟨resource⟩ := self
  cases resource with
  | none => rfl
  | some p =>
      have hqp : q ≠ p := fun hqp => hq (by rw [hqp])
      exact (Heap.stage_delete_of_ne hqp).trans (Heap.stage_uninit_of_ne hqp)

end CResource

/-- A class that derives from `CResource`; its other members are left alone by
`withBase`. -/
class CResourceBase (ω : Type*) where
  base : ω → CResource
  withBase : ω → CResource → ω
  base_withBase : ∀ x c, base (withBase x c) = c

open CResourceBase

attribute [simp] base_withBase

instance : CResourceBase CResource where
  base := id
  withBase _ c := c
  base_withBase _ _ := rfl

@[simp] theorem base_cResource (c : CResource) : base c = c := rfl

end MiniaudioCpp
