import MiniaudioCpp.CResource.History
import MiniaudioCpp.CResource.World
import MiniaudioCpp.Foundation.Machine

/-!
# Runs of `CResource` objects

Any number of `CResource` objects, and any sequence of calls on them.  A call
that names an object needs a living one, and a raw pointer passed to a
`CResource` has to be null or point to a live element that no object owns;
those are the only guards of `ownerStep`.

The invariant is `Custody` of the world's slots, together with the fact that no
element was deleted without `UninitFunction`.  `unique_owner` reads off it what
a unique owner promises.

Which elements the objects have to answer for is written down twice: in the log
of the heap, by the member functions themselves, and in an `OwnerAccount` that a
client keeps of its calls and their answers.  The promise holds of both.
-/

namespace MiniaudioCpp

open Foundation

variable {α : Type*}

/-- A pointer a caller may pass to a `CResource`. -/
def World.Accepts (w : World CResource α) (ptr : Option Pointer) : Bool := ptr.all w.Loose

/-- The calls on `CResource` objects.  `newElement` is the client making an
element itself, to pass it on later. -/
inductive OwnerCall (α : Type*)
  | newElement (x : α)
  | construct
  | constructFrom (resource : Option Pointer)
  | moveConstruct (other : ℕ)
  | moveAssign (self other : ℕ)
  | emplace (self : ℕ) (InitFunction : α → MaResult × α)
  | reset (self : ℕ) (ptr : Option Pointer)
  | clear (self : ℕ)
  | assignNull (self : ℕ)
  | release (self : ℕ)
  | swap (self other : ℕ)
  | swapNamespace (lhs rhs : ℕ)
  | destroy (self : ℕ)

/-- What a call hands back. -/
inductive OwnerAnswer
  | done
  | result (result : MaResult)
  | pointer (p : Option Pointer)
  deriving DecidableEq, Repr

/-- One call. -/
def ownerStep [Inhabited α] (w : World CResource α) :
    OwnerCall α → Option (World CResource α × OwnerAnswer)
  | .newElement x => some ({ w with heap := w.heap.new x }, .pointer (some w.heap.cells.size))
  | .construct => some (w.construct ⟨none⟩, .done)
  | .constructFrom resource =>
      if w.Accepts resource then
        let (c, heap) := CResource.ofPointer resource w.heap
        some (⟨w.objects.alloc c, heap⟩, .done)
      else none
  | .moveConstruct other => (w.moveConstruct other).map fun w => (w, .done)
  | .moveAssign self other => (w.moveAssign self other).map fun w => (w, .done)
  | .emplace self InitFunction =>
      w.member self fun c heap =>
        let (result, c, heap) := c.emplace InitFunction heap
        (.result result, c, heap)
  | .reset self ptr =>
      if w.Accepts ptr then w.member self fun c heap => (.done, c.reset ptr heap) else none
  | .clear self => w.member self fun c heap => (.done, c.clear heap)
  | .assignNull self => w.member self fun c heap => (.done, c.assignNull heap)
  | .release self =>
      w.member self fun c heap =>
        let (p, c, heap) := c.release heap
        (.pointer p, c, heap)
  | .swap self other => (w.swap self other).map fun w => (w, .done)
  | .swapNamespace lhs rhs => (w.swap lhs rhs).map fun w => (w, .done)
  | .destroy self => (w.destroy self).map fun w => (w, .done)

/-! ## Custody along a run -/

section Custody

variable {w w' : World CResource α} {answer : OwnerAnswer}

theorem ownerStep_custody [Inhabited α] (h : Custody w.slots w.heap) {call : OwnerCall α}
    (hstep : ownerStep w call = some (w', answer)) : Custody w'.slots w'.heap := by
  cases call with
  | newElement x =>
      simp only [ownerStep, Option.some.injEq, Prod.mk.injEq] at hstep
      exact hstep.1 ▸ (h.new x).1
  | construct =>
      simp only [ownerStep, Option.some.injEq, Prod.mk.injEq] at hstep
      exact hstep.1 ▸ World.custody_construct h rfl
  | constructFrom resource =>
      simp only [ownerStep, Option.ite_none_right_eq_some, Option.some.injEq,
        Prod.mk.injEq] at hstep
      obtain ⟨haccepts, rfl, _⟩ := hstep
      exact World.custody_alloc (h.adopt (World.slots_of_size_le (Nat.le_refl _))
        fun p hp => (World.loose_of_all h haccepts hp).1)
  | moveConstruct other =>
      simp only [ownerStep, Option.map_eq_some_iff, Prod.mk.injEq] at hstep
      obtain ⟨_, hmove, rfl, _⟩ := hstep
      exact World.custody_moveConstruct h hmove
  | moveAssign self other =>
      simp only [ownerStep, Option.map_eq_some_iff, Prod.mk.injEq] at hstep
      obtain ⟨_, hmove, rfl, _⟩ := hstep
      exact World.custody_moveAssign h hmove
  | emplace self InitFunction =>
      simp only [ownerStep] at hstep
      exact World.custody_member hstep fun c hc =>
        h.emplace (World.slots_of_get? hc) InitFunction
  | reset self ptr =>
      simp only [ownerStep, Option.ite_none_right_eq_some] at hstep
      obtain ⟨haccepts, hmember⟩ := hstep
      exact World.custody_member hmember fun c hc => World.custody_reset h hc haccepts
  | clear self =>
      simp only [ownerStep] at hstep
      exact World.custody_member hstep fun c hc => h.destruct (World.slots_of_get? hc)
  | assignNull self =>
      simp only [ownerStep] at hstep
      exact World.custody_member hstep fun c hc => h.destruct (World.slots_of_get? hc)
  | release self =>
      simp only [ownerStep] at hstep
      exact World.custody_member hstep fun c hc => World.custody_release h hc
  | swap self other =>
      simp only [ownerStep, Option.map_eq_some_iff, Prod.mk.injEq] at hstep
      obtain ⟨_, hswap, rfl, _⟩ := hstep
      exact World.custody_swap h hswap
  | swapNamespace lhs rhs =>
      simp only [ownerStep, Option.map_eq_some_iff, Prod.mk.injEq] at hstep
      obtain ⟨_, hswap, rfl, _⟩ := hstep
      exact World.custody_swap h hswap
  | destroy self =>
      simp only [ownerStep, Option.map_eq_some_iff, Prod.mk.injEq] at hstep
      obtain ⟨_, hdestroy, rfl, _⟩ := hstep
      exact World.custody_destroy h hdestroy

end Custody

/-! ## Nothing is deleted without `UninitFunction` -/

/-- Every deleted element went through `UninitFunction`. -/
def Heap.NoRawDelete (heap : Heap α) : Prop := ∀ p r, heap.stage p ≠ some (.gone r false)

namespace Heap.NoRawDelete

variable {heap : Heap α}

/-- Only a `delete` ends a life. -/
theorem record (h : heap.NoRawDelete) {event : Event} (hevent : ∀ q, event ≠ .delete q) :
    (heap.record event).NoRawDelete := by
  intro p r hgone
  rw [Heap.stage_record] at hgone
  split at hgone
  · obtain ⟨stage, _, hnext⟩ := Option.bind_eq_some_iff.mp hgone
    rcases resourceLifecycle_cases hnext with ⟨q, _, rfl, heq⟩ | ⟨q, r, _, rfl, heq⟩ |
      ⟨q, r, _, rfl, heq⟩ | ⟨q, r, _, rfl, heq⟩ | ⟨q, r, _, rfl, heq⟩ | ⟨q, r, _, rfl, heq⟩ |
      ⟨q, r, _, rfl, heq⟩
    iterate 5 exact absurd heq (by simp)
    iterate 2 exact hevent q rfl
  · exact h p r hgone

theorem adopt (h : heap.NoRawDelete) (ptr : Option Pointer) : (heap.adopt ptr).NoRawDelete := by
  cases ptr with
  | none => exact h
  | some p => exact h.record (by simp)

theorem new (h : heap.NoRawDelete) (x : α) : (heap.new x).NoRawDelete :=
  record (h := h) (by simp)

theorem destruct {ι : Type*} {slots : ι → Option Pointer} (h : heap.NoRawDelete)
    (hcustody : Custody slots heap) {i : ι} {self : CResource} (hi : slots i = self.resource_) :
    (self.destruct heap).NoRawDelete := by
  intro p r hgone
  by_cases hself : self.resource_ = some p
  · obtain ⟨r', hr'⟩ := hcustody.held_of_slot (hi.trans hself)
    rw [CResource.stage_destruct_self hself hr'] at hgone
    simp at hgone
  · rw [CResource.stage_destruct_of_ne hself] at hgone
    exact h p r hgone

theorem init [Inhabited α] (h : heap.NoRawDelete) (f : α → MaResult × α) (p : Pointer) :
    (heap.init f p).2.NoRawDelete :=
  record (h := h) (by simp)

theorem release (h : heap.NoRawDelete) (self : CResource) : (self.release heap).2.2.NoRawDelete := by
  obtain ⟨resource⟩ := self
  cases resource with
  | none => exact h
  | some p => exact h.record (by simp)

/-- A member function of an object. -/
theorem member {w w' : World CResource α} {R : Type*} {f : CResource → Heap α → R × CResource × Heap α}
    {self : ℕ} {result : R} (hw : w.member self f = some (w', result))
    (hf : ∀ c, w.objects.get? self = some c → (f c w.heap).2.2.NoRawDelete) :
    w'.heap.NoRawDelete := by
  obtain ⟨c, hc, rfl, _⟩ := World.member_eq_some.mp hw
  exact hf c hc

end Heap.NoRawDelete

theorem ownerStep_noRawDelete [Inhabited α] {w w' : World CResource α} {answer : OwnerAnswer}
    (hcustody : Custody w.slots w.heap) (h : w.heap.NoRawDelete) {call : OwnerCall α}
    (hstep : ownerStep w call = some (w', answer)) : w'.heap.NoRawDelete := by
  -- whatever an object drops goes through `destruct`
  have hdestruct : ∀ {i : ℕ} {c : CResource}, w.objects.get? i = some c →
      (c.destruct w.heap).NoRawDelete :=
    fun hc => h.destruct hcustody (World.slots_of_get? hc)
  cases call with
  | newElement x =>
      simp only [ownerStep, Option.some.injEq, Prod.mk.injEq] at hstep
      exact hstep.1 ▸ h.new x
  | construct =>
      simp only [ownerStep, Option.some.injEq, Prod.mk.injEq] at hstep
      exact hstep.1 ▸ h
  | constructFrom resource =>
      simp only [ownerStep, Option.ite_none_right_eq_some, Option.some.injEq,
        Prod.mk.injEq] at hstep
      obtain ⟨_, rfl, _⟩ := hstep
      exact h.adopt resource
  | moveConstruct other =>
      simp only [ownerStep, Option.map_eq_some_iff, Prod.mk.injEq] at hstep
      obtain ⟨_, hmove, rfl, _⟩ := hstep
      rw [World.heap_moveConstruct hmove]
      exact h
  | moveAssign self other =>
      simp only [ownerStep, Option.map_eq_some_iff, Prod.mk.injEq] at hstep
      obtain ⟨_, hmove, rfl, _⟩ := hstep
      rcases World.heap_moveAssign hmove with heq | ⟨c, hc, heq⟩
      · exact heq ▸ h
      · exact heq ▸ hdestruct hc
  | emplace self InitFunction =>
      simp only [ownerStep] at hstep
      exact .member hstep fun c hc => (((hdestruct hc).new default).adopt _).init InitFunction _
  | reset self ptr =>
      simp only [ownerStep, Option.ite_none_right_eq_some] at hstep
      exact .member hstep.2 fun c hc => (hdestruct hc).adopt ptr
  | clear self =>
      simp only [ownerStep] at hstep
      exact .member hstep fun c hc => hdestruct hc
  | assignNull self =>
      simp only [ownerStep] at hstep
      exact .member hstep fun c hc => hdestruct hc
  | release self =>
      simp only [ownerStep] at hstep
      exact .member hstep fun c hc => h.release c
  | swap self other =>
      simp only [ownerStep, Option.map_eq_some_iff, Prod.mk.injEq] at hstep
      obtain ⟨_, hswap, rfl, _⟩ := hstep
      rw [World.heap_swap hswap]
      exact h
  | swapNamespace lhs rhs =>
      simp only [ownerStep, Option.map_eq_some_iff, Prod.mk.injEq] at hstep
      obtain ⟨_, hswap, rfl, _⟩ := hstep
      rw [World.heap_swap hswap]
      exact h
  | destroy self =>
      simp only [ownerStep, Option.map_eq_some_iff, Prod.mk.injEq] at hstep
      obtain ⟨_, hdestroy, rfl, _⟩ := hstep
      obtain ⟨c, hc, heq⟩ := World.heap_destroy hdestroy
      exact heq ▸ hdestruct hc

/-! ## The unique owner -/

/-- What a set of objects promises about the elements they own, owned or handed
out, at one point of a run. -/
structure SoundOwnership (w : World CResource α) : Prop where
  /-- Each element is held by at most one object. -/
  one_owner : ∀ i j p, w.slots i = some p → w.slots j = some p → i = j
  /-- No object holds a freed element. -/
  no_dangling : ∀ i p, w.slots i = some p → ∃ x, w.heap.cells.get? p = some x
  uninit_once : ∀ p, w.heap.log.count (.uninit p) ≤ 1
  delete_once : ∀ p, w.heap.log.count (.delete p) ≤ 1
  /-- A deleted element was uninitialised before, and nothing came between. -/
  uninit_before_delete : ∀ p, .delete p ∈ w.heap.log →
    ∃ before, w.heap.history p = before ++ [.uninit p, .delete p]
  /-- With the last object gone, every element that was ever adopted, and not
  handed out last, is uninitialised and deleted exactly once. -/
  all_freed : (∀ i, w.objects.get? i = none) → ∀ p, .adopt p ∈ w.heap.log →
    ¬ HandedOut p (w.heap.history p) →
      w.heap.log.count (.uninit p) = 1 ∧ w.heap.log.count (.delete p) = 1

/-- With the last object gone, nobody holds anything. -/
theorem not_holds_of_gone {w : World CResource α} (hnone : ∀ i, w.objects.get? i = none)
    (p : Pointer) : ¬ Holds w.slots p := by
  rintro ⟨i, hi⟩
  simp [World.slots, hnone i] at hi

/-- The invariant of the runs. -/
structure OwnerInvariant (w : World CResource α) : Prop where
  custody : Custody w.slots w.heap
  noRawDelete : w.heap.NoRawDelete

theorem OwnerInvariant.sound {w : World CResource α} (h : OwnerInvariant w) : SoundOwnership w where
  one_owner i j p := h.custody.exclusive i j p
  no_dangling i p := h.custody.live_of_slot
  uninit_once p := by
    obtain ⟨stage, hstage⟩ := h.custody.exists_stage p
    rw [(Heap.counts_of_stage hstage).1]
    split <;> omega
  delete_once p := by
    obtain ⟨stage, hstage⟩ := h.custody.exists_stage p
    rw [(Heap.counts_of_stage hstage).2]
    split <;> omega
  uninit_before_delete p hdelete := by
    obtain ⟨stage, hstage⟩ := h.custody.exists_stage p
    obtain ⟨r, b, rfl⟩ := Heap.gone_of_delete hstage hdelete
    cases b with
    | false => exact absurd hstage (h.noRawDelete p r)
    | true =>
        obtain ⟨before, heq, _, _⟩ := Heap.shape_of_stage hstage
        exact ⟨before, heq⟩
  all_freed hnone p hadopt hkept := by
    -- the element is in no slot, was adopted and not handed out: it is gone
    rcases h.custody.stage_cases p with hs | ⟨r, hs⟩ | ⟨r, hs⟩ | ⟨r, b, hs⟩
    · exact (Heap.adopted_of_stage hs hadopt).elim
    · exact absurd (Heap.adopted_of_stage hs hadopt) hkept
    · exact absurd ((h.custody.holds_iff p).mpr ⟨r, hs⟩) (not_holds_of_gone hnone p)
    · cases b with
      | false => exact absurd hs (h.noRawDelete p r)
      | true => exact Heap.counts_of_stage hs

theorem OwnerInvariant.empty : OwnerInvariant (World.empty : World CResource α) where
  custody := Custody.empty fun i => by simp [World.slots, World.empty]
  noRawDelete p r := by simp [World.empty]

theorem OwnerInvariant.step [Inhabited α] {w w' : World CResource α} {call : OwnerCall α}
    {answer : OwnerAnswer} (h : OwnerInvariant w) (hstep : ownerStep w call = some (w', answer)) :
    OwnerInvariant w' where
  custody := ownerStep_custody h.custody hstep
  noRawDelete := ownerStep_noRawDelete h.custody h.noRawDelete hstep

/-! ## What a client entrusted -/

/-- How many elements a call makes. -/
def OwnerCall.made : OwnerCall α → ℕ
  | .newElement _ | .emplace _ _ => 1
  | _ => 0

/-- The element that a call gives to an object; `next` is the one that is made
next. -/
def OwnerCall.entrusts (next : Pointer) : OwnerCall α → Option Pointer
  | .emplace _ _ => some next
  | .constructFrom ptr | .reset _ ptr => ptr
  | _ => none

/-- The element that an answer hands back to the client. -/
def handedBack : OwnerCall α × OwnerAnswer → Option Pointer
  | (.release _, .pointer p) => p
  | _ => none

/-- What a client can tell from its own calls and their answers: the element that
is made next, and those that it gave to an object and did not get back. -/
structure OwnerAccount where
  next : Pointer := 0
  entrusted : List Pointer := []
  deriving DecidableEq, Repr

/-- One more call and its answer. -/
def OwnerAccount.record (account : OwnerAccount) (call : OwnerCall α × OwnerAnswer) : OwnerAccount where
  next := account.next + call.1.made
  entrusted := (call.1.entrusts account.next).toList ++
    account.entrusted.filter fun p => handedBack call ≠ some p

/-- What an object did not hand out: it still holds the element, or has
uninitialised it. -/
def Stage.Entrusted : Stage → Prop
  | .held _ | .dying _ | .gone _ true => True
  | _ => False

/-- Only a `release` takes a kept element out of the hands of the objects. -/
theorem entrusted_append {log events : List Event} {p : Pointer} {stage : Stage}
    (hstage : resourceLifecycle.stageOf Event.subject log p = some stage) (hkept : stage.Entrusted)
    (hrelease : .release p ∉ events) :
    ∀ {stage' : Stage},
      resourceLifecycle.stageOf Event.subject (log ++ events) p = some stage' → stage'.Entrusted := by
  induction events using List.reverseRecOn with
  | nil =>
      intro stage' hstage'
      rw [List.append_nil, hstage] at hstage'
      exact Option.some.inj hstage' ▸ hkept
  | append_singleton events event ih =>
      intro stage' hstage'
      rw [List.mem_append, not_or, List.mem_singleton] at hrelease
      rw [← List.append_assoc, Lifecycle.stageOf_append] at hstage'
      split at hstage'
      · next hsubject =>
        obtain ⟨before, hbefore, hnext⟩ := Option.bind_eq_some_iff.mp hstage'
        have hkept' := ih hrelease.1 hbefore
        rcases resourceLifecycle_cases hnext with ⟨q, rfl, rfl, rfl⟩ | ⟨q, r, rfl, rfl, rfl⟩ |
          ⟨q, r, rfl, rfl, rfl⟩ | ⟨q, r, rfl, rfl, rfl⟩ | ⟨q, r, rfl, rfl, rfl⟩ |
          ⟨q, r, rfl, rfl, rfl⟩ | ⟨q, r, rfl, rfl, rfl⟩
        · exact hkept'
        · exact trivial
        · exact trivial
        · exact absurd (congrArg Event.release (Option.some.inj hsubject).symm) hrelease.2
        · exact trivial
        · exact trivial
        · exact hkept'
      · exact ih hrelease.1 hstage'

/-- What a call logs and leaves, as far as a client's account is about it. -/
structure Entrusts (w : World CResource α) (call : OwnerCall α) (answer : OwnerAnswer)
    (events : List Event) (w' : World CResource α) : Prop where
  log : w'.heap.log = w.heap.log ++ events
  size : w'.heap.cells.size = w.heap.cells.size + call.made
  released : ∀ p, .release p ∈ events → handedBack (call, answer) = some p
  entrusted : ∀ p, call.entrusts w.heap.cells.size = some p → Holds w'.slots p

/-- `destruct` hands nothing out. -/
theorem release_notMem_destroyed (c : CResource) (p : Pointer) : .release p ∉ c.destroyed := by
  obtain ⟨resource⟩ := c
  cases resource <;> simp [CResource.destroyed]

section Entrusts

variable {w w' : World CResource α} {answer : OwnerAnswer}

/-- A call that touches no element. -/
theorem Entrusts.of_heap_eq {call : OwnerCall α} (hmade : call.made = 0)
    (hentrusts : call.entrusts w.heap.cells.size = none) (hheap : w'.heap = w.heap) :
    Entrusts w call answer [] w' where
  log := by rw [hheap, List.append_nil]
  size := by rw [hheap, hmade, Nat.add_zero]
  released p hmem := by simp at hmem
  entrusted p hp := by simp [hentrusts] at hp

/-- A call that drops what an object owned. -/
theorem Entrusts.of_destruct {call : OwnerCall α} (c : CResource) (hmade : call.made = 0)
    (hentrusts : call.entrusts w.heap.cells.size = none) (hheap : w'.heap = c.destruct w.heap) :
    Entrusts w call answer c.destroyed w' where
  log := by rw [hheap, CResource.log_destruct]
  size := by rw [hheap, CResource.size_destruct, hmade, Nat.add_zero]
  released p hmem := absurd hmem (release_notMem_destroyed c p)
  entrusted p hp := by simp [hentrusts] at hp

theorem ownerStep_entrusts [Inhabited α] {call : OwnerCall α}
    (hstep : ownerStep w call = some (w', answer)) : ∃ events, Entrusts w call answer events w' := by
  -- what a member function leaves in its object
  have hslot : ∀ {self : ℕ} {c c' : CResource} {heap : Heap α}, w.objects.get? self = some c →
      World.slots ⟨w.objects.put self c', heap⟩ self = c'.resource_ :=
    fun hc => World.slots_of_get? (Arena.get?_put_self (Arena.lt_size_of_get? hc) _)
  cases call with
  | newElement x =>
      simp only [ownerStep, Option.some.injEq, Prod.mk.injEq] at hstep
      obtain ⟨rfl, _⟩ := hstep
      exact ⟨[.new w.heap.cells.size], rfl, by simp [OwnerCall.made], by simp,
        by simp [OwnerCall.entrusts]⟩
  | construct =>
      simp only [ownerStep, Option.some.injEq, Prod.mk.injEq] at hstep
      obtain ⟨rfl, _⟩ := hstep
      exact ⟨[], .of_heap_eq rfl rfl rfl⟩
  | constructFrom resource =>
      simp only [ownerStep, Option.ite_none_right_eq_some, Option.some.injEq,
        Prod.mk.injEq] at hstep
      obtain ⟨_, rfl, _⟩ := hstep
      refine ⟨(resource.map Event.adopt).toList, Heap.log_adopt _ _, ?_, ?_, fun p hp => ?_⟩
      · simp [OwnerCall.made, CResource.ofPointer, Heap.cells_adopt]
      · cases resource <;> simp
      · refine ⟨w.objects.size, ?_⟩
        exact (World.slots_of_get? (Arena.get?_alloc_self _ _)).trans hp
  | moveConstruct other =>
      simp only [ownerStep, Option.map_eq_some_iff, Prod.mk.injEq] at hstep
      obtain ⟨_, hmove, rfl, _⟩ := hstep
      exact ⟨[], .of_heap_eq rfl rfl (World.heap_moveConstruct hmove)⟩
  | moveAssign self other =>
      simp only [ownerStep, Option.map_eq_some_iff, Prod.mk.injEq] at hstep
      obtain ⟨_, hmove, rfl, _⟩ := hstep
      rcases World.heap_moveAssign hmove with heq | ⟨c, _, heq⟩
      · exact ⟨[], .of_heap_eq rfl rfl heq⟩
      · exact ⟨c.destroyed, .of_destruct c rfl rfl heq⟩
  | emplace self InitFunction =>
      simp only [ownerStep] at hstep
      obtain ⟨c, hc, rfl, _⟩ := World.member_eq_some.mp hstep
      refine ⟨c.destroyed ++ [.new w.heap.cells.size, .adopt w.heap.cells.size,
        .init w.heap.cells.size (c.emplace InitFunction w.heap).1],
        ?_, ?_, fun p hmem => ?_, fun p hp => ?_⟩
      · simp [CResource.emplace, Heap.init, Heap.adopt, CResource.log_destruct]
      · simp [OwnerCall.made, CResource.emplace, Heap.init, Heap.adopt]
      · simp [release_notMem_destroyed] at hmem
      · obtain rfl := Option.some.inj hp
        refine ⟨self, (hslot hc).trans ?_⟩
        simp [CResource.emplace]
  | reset self ptr =>
      simp only [ownerStep, Option.ite_none_right_eq_some] at hstep
      obtain ⟨c, hc, rfl, _⟩ := World.member_eq_some.mp hstep.2
      refine ⟨c.destroyed ++ (ptr.map Event.adopt).toList, ?_, ?_, fun p hmem => ?_, fun p hp => ?_⟩
      · simp [CResource.reset, Heap.log_adopt, CResource.log_destruct]
      · simp [OwnerCall.made, CResource.reset, Heap.cells_adopt]
      · cases ptr <;> simp [release_notMem_destroyed] at hmem
      · exact ⟨self, (hslot hc).trans hp⟩
  | clear self =>
      simp only [ownerStep] at hstep
      obtain ⟨c, _, rfl, _⟩ := World.member_eq_some.mp hstep
      exact ⟨c.destroyed, .of_destruct c rfl rfl rfl⟩
  | assignNull self =>
      simp only [ownerStep] at hstep
      obtain ⟨c, _, rfl, _⟩ := World.member_eq_some.mp hstep
      exact ⟨c.destroyed, .of_destruct c rfl rfl rfl⟩
  | release self =>
      simp only [ownerStep] at hstep
      obtain ⟨c, _, rfl, rfl⟩ := World.member_eq_some.mp hstep
      obtain ⟨resource⟩ := c
      refine ⟨(resource.map Event.release).toList, ?_, ?_, ?_, by simp [OwnerCall.entrusts]⟩ <;>
        cases resource <;> simp [OwnerCall.made, CResource.release, handedBack]
  | swap self other =>
      simp only [ownerStep, Option.map_eq_some_iff, Prod.mk.injEq] at hstep
      obtain ⟨_, hswap, rfl, _⟩ := hstep
      exact ⟨[], .of_heap_eq rfl rfl (World.heap_swap hswap)⟩
  | swapNamespace lhs rhs =>
      simp only [ownerStep, Option.map_eq_some_iff, Prod.mk.injEq] at hstep
      obtain ⟨_, hswap, rfl, _⟩ := hstep
      exact ⟨[], .of_heap_eq rfl rfl (World.heap_swap hswap)⟩
  | destroy self =>
      simp only [ownerStep, Option.map_eq_some_iff, Prod.mk.injEq] at hstep
      obtain ⟨_, hdestroy, rfl, _⟩ := hstep
      obtain ⟨c, _, heq⟩ := World.heap_destroy hdestroy
      exact ⟨c.destroyed, .of_destruct c rfl rfl heq⟩

end Entrusts

/-- The objects keep what the account says was entrusted to them. -/
structure KeepsAccount (w : World CResource α) (account : OwnerAccount) : Prop where
  owner : OwnerInvariant w
  next : account.next = w.heap.cells.size
  kept : ∀ p ∈ account.entrusted, ∃ stage, w.heap.stage p = some stage ∧ stage.Entrusted

theorem KeepsAccount.step [Inhabited α] {w w' : World CResource α} {account : OwnerAccount}
    {call : OwnerCall α} {answer : OwnerAnswer} (h : KeepsAccount w account)
    (hstep : ownerStep w call = some (w', answer)) :
    KeepsAccount w' (account.record (call, answer)) := by
  have howner : OwnerInvariant w' := h.owner.step hstep
  obtain ⟨events, hentrusts⟩ := ownerStep_entrusts hstep
  refine ⟨howner, ?_, fun p hp => ?_⟩
  · rw [hentrusts.size, ← h.next]
    rfl
  · rcases List.mem_append.mp hp with hnew | hold
    · -- an object holds what it was given in this call
      rw [Option.mem_toList, h.next] at hnew
      obtain ⟨r, hheld⟩ := (howner.custody.holds_iff p).mp (hentrusts.entrusted p hnew)
      exact ⟨_, hheld, trivial⟩
    · obtain ⟨hmem, hback⟩ := List.mem_filter.mp hold
      obtain ⟨stage, hstage, hkept⟩ := h.kept p hmem
      obtain ⟨stage', hstage'⟩ := howner.custody.exists_stage p
      have hrelease : .release p ∉ events := fun hevent =>
        absurd (hentrusts.released p hevent) (of_decide_eq_true hback)
      refine ⟨stage', hstage', entrusted_append hstage hkept hrelease ?_⟩
      rw [← hentrusts.log]
      exact hstage'

/-- With the last object gone, nothing that was entrusted is left. -/
theorem KeepsAccount.freed {w : World CResource α} {account : OwnerAccount} (h : KeepsAccount w account)
    (hnone : ∀ i, w.objects.get? i = none) {p : Pointer} (hp : p ∈ account.entrusted) :
    w.heap.log.count (.uninit p) = 1 ∧ w.heap.log.count (.delete p) = 1 := by
  obtain ⟨stage, hstage, hkept⟩ := h.kept p hp
  rcases h.owner.custody.stage_cases p with hs | ⟨r, hs⟩ | ⟨r, hs⟩ | ⟨r, b, hs⟩
  · exact (Option.some.inj (hstage.symm.trans hs) ▸ hkept).elim
  · exact (Option.some.inj (hstage.symm.trans hs) ▸ hkept).elim
  · exact absurd ((h.owner.custody.holds_iff p).mpr ⟨r, hs⟩) (not_holds_of_gone hnone p)
  · cases b with
    | false => exact absurd hs (h.owner.noRawDelete p r)
    | true => exact Heap.counts_of_stage hs

/-- `CResource` is a sound unique owner: whatever the calls, ownership is sound
after each of them, and with the last object gone all that the client entrusted
to one and was not handed back is uninitialised and deleted exactly once. -/
theorem unique_owner [Inhabited α] {calls : List (OwnerCall α)} {w : World CResource α}
    {answers : List OwnerAnswer} (hrun : run ownerStep World.empty calls = some (w, answers)) :
    SoundOwnership w ∧ ((∀ i, w.objects.get? i = none) →
      ∀ p ∈ ((calls.zip answers).foldl OwnerAccount.record {}).entrusted,
        w.heap.log.count (.uninit p) = 1 ∧ w.heap.log.count (.delete p) = 1) := by
  have hkeeps : KeepsAccount w ((calls.zip answers).foldl OwnerAccount.record {}) := by
    refine run_recorded ?_ ⟨OwnerInvariant.empty, rfl, by simp⟩ hrun
    intro w account call answer w' h hstep
    exact h.step hstep
  exact ⟨hkeeps.owner.sound, fun hnone p => hkeeps.freed hnone⟩

/-- An element that the client made and an object took, one that was emplaced,
an exchange of the two, the first one handed out and taken back, until both
objects are gone. -/
theorem unique_owner_exchange :
    let calls : List (OwnerCall ℕ) := [.newElement 7, .constructFrom (some 0), .moveConstruct 0,
      .emplace 0 fun x => (.error, x), .swap 0 1, .moveAssign 1 1, .release 0,
      .reset 0 (some 0), .destroy 1, .destroy 0]
    let answers : List OwnerAnswer := [.pointer (some 0), .done, .done, .result .error, .done,
      .done, .pointer (some 0), .done, .done, .done]
    let w : World CResource ℕ := ⟨⟨[none, none]⟩, ⟨⟨[none, none]⟩, [.new 0, .adopt 0, .new 1,
      .adopt 1, .init 1 .error, .release 0, .adopt 0, .uninit 1, .delete 1, .uninit 0,
      .delete 0]⟩⟩
    run ownerStep World.empty calls = some (w, answers) ∧
      ((calls.zip answers).foldl OwnerAccount.record {}).entrusted = [0, 1] ∧
      SoundOwnership w ∧ ((∀ i, w.objects.get? i = none) →
        ∀ p ∈ ((calls.zip answers).foldl OwnerAccount.record {}).entrusted,
          w.heap.log.count (.uninit p) = 1 ∧ w.heap.log.count (.delete p) = 1) := by
  intro calls answers w
  have hrun : run ownerStep World.empty calls = some (w, answers) := rfl
  exact ⟨hrun, rfl, unique_owner hrun⟩

end MiniaudioCpp
