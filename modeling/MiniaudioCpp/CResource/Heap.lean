import MiniaudioCpp.Foundation.Arena
import MiniaudioCpp.Foundation.Lifecycle
import MiniaudioCpp.Miniaudio.Result

/-!
# The heap behind the wrappers

`CResource` allocates with `new`, frees with `delete` and calls the two C
functions it is given on what it owns.  The heap keeps the live elements and a
log of what happened to each of them, in order.  A pointer names one
allocation: an address that the allocator reuses later is another pointer here,
so a stale pointer never reaches a later element.

`resourceLifecycle` is what the log of one element may look like at all.  Two
paths lead out of it: `uninit` then `delete`, which is what `CResource` does
with an element it owns, and a `delete` of an element no `CResource` holds,
which is what the initialisation functions do with one that `release` gave
them.
-/

namespace MiniaudioCpp

open Foundation

/-- The address of one allocated element. -/
abbrev Pointer := ℕ

/-- What happens to elements, and the two events about the client's engine that
the wrappers can cause. -/
inductive Event
  /-- `new element_type()`. -/
  | new (p : Pointer)
  /-- A `CResource` takes the element: by `emplace`, or a raw pointer passed to it. -/
  | adopt (p : Pointer)
  /-- The initialisation function was applied and answered `result`. -/
  | init (p : Pointer) (result : MaResult)
  /-- A `CResource` handed the element out. -/
  | release (p : Pointer)
  /-- `UninitFunction(p)`. -/
  | uninit (p : Pointer)
  /-- `delete p`. -/
  | delete (p : Pointer)
  /-- `ma_log_init` on the global `g_maLog`. -/
  | logInit
  /-- A member of the engine was named through a null engine pointer. -/
  | nullEngineAccess
  deriving DecidableEq, Repr

/-- The element an event is about. -/
def Event.subject : Event → Option Pointer
  | .new p => some p
  | .adopt p => some p
  | .init p _ => some p
  | .release p => some p
  | .uninit p => some p
  | .delete p => some p
  | .logInit => none
  | .nullEngineAccess => none

/-- Where an element is in its life.  `result` is what its initialisation
function answered, once it was applied. -/
inductive Stage
  | unborn
  /-- Live, in the hands of the client or of a wrapper's member function. -/
  | loose (result : Option MaResult)
  /-- Live and owned by a `CResource`. -/
  | held (result : Option MaResult)
  /-- Uninitialised and not yet deleted. -/
  | dying (result : Option MaResult)
  /-- Deleted, after `UninitFunction` or without it. -/
  | gone (result : Option MaResult) (uninited : Bool)
  deriving DecidableEq, Repr

/-- The life of an element, event by event. -/
def resourceLifecycle : Lifecycle Stage Event where
  start := .unborn
  next
    | .unborn, .new _ => some (.loose none)
    | .loose result, .adopt _ => some (.held result)
    | .held earlier, .init _ result => if earlier = none then some (.held (some result)) else none
    | .held result, .release _ => some (.loose result)
    | .held result, .uninit _ => some (.dying result)
    | .dying result, .delete _ => some (.gone result true)
    | .loose result, .delete _ => some (.gone result false)
    | _, _ => none

/-- The elements that are live, and the log of what happened. -/
structure Heap (α : Type*) where
  cells : Arena α
  log : List Event

namespace Heap

variable {α : Type*}

/-- Nothing was ever allocated. -/
def empty : Heap α := ⟨Arena.empty, []⟩

/-- Append an event to the log. -/
def record (heap : Heap α) (event : Event) : Heap α :=
  { heap with log := heap.log ++ [event] }

/-- `new element_type()`, whose value is `x`.  The pointer is `heap.cells.size`. -/
def new (heap : Heap α) (x : α) : Heap α :=
  { heap with cells := heap.cells.alloc x }.record (.new heap.cells.size)

/-- The element at `p`. -/
def load [Inhabited α] (heap : Heap α) (p : Pointer) : α := (heap.cells.get? p).getD default

/-- Overwrite the element at `p`. -/
def store (heap : Heap α) (p : Pointer) (x : α) : Heap α :=
  { heap with cells := heap.cells.put p x }

/-- Apply an initialisation function to the element at `p`. -/
def init [Inhabited α] (heap : Heap α) (InitFunction : α → MaResult × α) (p : Pointer) :
    MaResult × Heap α :=
  let (result, x) := InitFunction (heap.load p)
  (result, (heap.store p x).record (.init p result))

/-- `UninitFunction(p)`. -/
def uninit (heap : Heap α) (p : Pointer) : Heap α := heap.record (.uninit p)

/-- `delete p`. -/
def delete (heap : Heap α) (p : Pointer) : Heap α :=
  { heap with cells := heap.cells.free p }.record (.delete p)

/-- The stage the log leaves `p` in. -/
def stage (heap : Heap α) (p : Pointer) : Option Stage :=
  resourceLifecycle.stageOf Event.subject heap.log p

/-- The part of the log about `p`. -/
def history (heap : Heap α) (p : Pointer) : List Event :=
  Lifecycle.history Event.subject heap.log p

/-! ## Cells and stages after each operation -/

@[simp] theorem cells_record (heap : Heap α) (event : Event) :
    (heap.record event).cells = heap.cells := rfl

@[simp] theorem cells_new (heap : Heap α) (x : α) :
    (heap.new x).cells = heap.cells.alloc x := rfl

@[simp] theorem cells_store (heap : Heap α) (p : Pointer) (x : α) :
    (heap.store p x).cells = heap.cells.put p x := rfl

@[simp] theorem cells_uninit (heap : Heap α) (p : Pointer) :
    (heap.uninit p).cells = heap.cells := rfl

@[simp] theorem cells_delete (heap : Heap α) (p : Pointer) :
    (heap.delete p).cells = heap.cells.free p := rfl

@[simp] theorem log_record (heap : Heap α) (event : Event) :
    (heap.record event).log = heap.log ++ [event] := rfl

@[simp] theorem log_new (heap : Heap α) (x : α) :
    (heap.new x).log = heap.log ++ [.new heap.cells.size] := rfl

@[simp] theorem log_store (heap : Heap α) (p : Pointer) (x : α) :
    (heap.store p x).log = heap.log := rfl

@[simp] theorem log_uninit (heap : Heap α) (p : Pointer) :
    (heap.uninit p).log = heap.log ++ [.uninit p] := rfl

@[simp] theorem log_delete (heap : Heap α) (p : Pointer) :
    (heap.delete p).log = heap.log ++ [.delete p] := rfl

theorem load_of_get? [Inhabited α] {heap : Heap α} {p : Pointer} {x : α}
    (h : heap.cells.get? p = some x) : heap.load p = x := by
  rw [load, h, Option.getD_some]

@[simp] theorem stage_empty (p : Pointer) : (empty : Heap α).stage p = some .unborn := rfl

/-- An event moves the stage of its subject and of nothing else. -/
theorem stage_record (heap : Heap α) (event : Event) (p : Pointer) :
    (heap.record event).stage p =
      if event.subject = some p then
        (heap.stage p).bind fun stage => resourceLifecycle.next stage event
      else heap.stage p :=
  Lifecycle.stageOf_append heap.log event p

theorem stage_record_self {heap : Heap α} {event : Event} {p : Pointer} {stage : Stage}
    (stage' : Stage) (hsubject : event.subject = some p) (hstage : heap.stage p = some stage)
    (hnext : resourceLifecycle.next stage event = some stage') :
    (heap.record event).stage p = some stage' := by
  rw [stage_record, if_pos hsubject, hstage, Option.bind_some, hnext]

theorem stage_record_of_ne {heap : Heap α} {event : Event} {p : Pointer}
    (hsubject : event.subject ≠ some p) : (heap.record event).stage p = heap.stage p := by
  rw [stage_record, if_neg hsubject]

/-- An event about `p` leaves the other elements where they are. -/
theorem stage_record_other {heap : Heap α} {event : Event} {p q : Pointer}
    (hsubject : event.subject = some p) (hq : q ≠ p) :
    (heap.record event).stage q = heap.stage q := by
  apply stage_record_of_ne
  rw [hsubject, ne_eq, Option.some.injEq]
  exact Ne.symm hq

@[simp] theorem stage_store (heap : Heap α) (p : Pointer) (x : α) :
    (heap.store p x).stage = heap.stage := rfl

theorem stage_new_self {heap : Heap α} (x : α) (h : heap.stage heap.cells.size = some .unborn) :
    (heap.new x).stage heap.cells.size = some (.loose none) :=
  stage_record_self _ rfl h rfl

theorem stage_new_of_ne {heap : Heap α} (x : α) {p : Pointer} (hp : p ≠ heap.cells.size) :
    (heap.new x).stage p = heap.stage p :=
  stage_record_other rfl hp

theorem stage_delete_self {heap : Heap α} {p : Pointer} {stage : Stage} (stage' : Stage)
    (hstage : heap.stage p = some stage)
    (hnext : resourceLifecycle.next stage (.delete p) = some stage') :
    (heap.delete p).stage p = some stage' :=
  stage_record_self _ rfl hstage hnext

theorem stage_delete_of_ne {heap : Heap α} {p q : Pointer} (hq : q ≠ p) :
    (heap.delete p).stage q = heap.stage q :=
  stage_record_other rfl hq

theorem stage_uninit_of_ne {heap : Heap α} {p q : Pointer} (hq : q ≠ p) :
    (heap.uninit p).stage q = heap.stage q :=
  stage_record_other rfl hq

end Heap

end MiniaudioCpp
