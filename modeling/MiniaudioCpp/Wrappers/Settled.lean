import MiniaudioCpp.CResource.History
import MiniaudioCpp.Wrappers.Init

/-!
# Initialisations that settle

Between two calls of the wrappers every element is settled: it is owned and was
initialised with success, or it is gone, uninitialised where its initialisation
had succeeded and not where it had failed.  Within an `Init` an element passes
through stages that are none of these; `emplaceEnsured` and `resetEnsured` leave
them before they return (`ensureInit_initialised`), and their answer says
whether the wrapper owns the element that this call initialised.
-/

namespace MiniaudioCpp

open Foundation

variable {α ι : Type*}

/-- The stages between two calls. -/
def Stage.Settled : Stage → Prop
  | .unborn => True
  | .held result => result = some .success
  | .gone result true => result = some .success
  | .gone result false => ∃ r, result = some r ∧ r ≠ .success
  | .loose _ | .dying _ => False

/-- The element is settled. -/
def Heap.SettledAt (heap : Heap α) (p : Pointer) : Prop :=
  ∀ stage, heap.stage p = some stage → stage.Settled

/-- Every element is settled. -/
def Heap.AllSettled (heap : Heap α) : Prop := ∀ p, heap.SettledAt p

namespace Heap

variable {heap : Heap α} {p : Pointer}

theorem SettledAt.of_stage {stage : Stage} (hp : heap.stage p = some stage)
    (hsettled : stage.Settled) : heap.SettledAt p := by
  intro stage' hstage
  obtain rfl := Option.some.inj (hp.symm.trans hstage)
  exact hsettled

/-- Only the stage counts. -/
theorem SettledAt.congr {heap' : Heap α} (h : heap.SettledAt p)
    (hstage : heap'.stage p = heap.stage p) : heap'.SettledAt p := by
  intro stage hstage'
  exact h stage (hstage ▸ hstage')

/-- An owned element that is settled was initialised with success, so that
`destruct` settles it again. -/
theorem SettledAt.destruct (h : heap.SettledAt p) {slots : ι → Option Pointer}
    (hcustody : Custody slots heap) {i : ι} {self : CResource} (hi : slots i = self.resource_) :
    (self.destruct heap).SettledAt p := by
  by_cases hself : self.resource_ = some p
  · obtain ⟨r, hr⟩ := hcustody.held_of_slot (hi.trans hself)
    exact SettledAt.of_stage (CResource.stage_destruct_self hself hr) (h (.held r) hr)
  · exact h.congr (CResource.stage_destruct_of_ne hself)

theorem AllSettled.empty : (Heap.empty : Heap α).AllSettled :=
  fun p => SettledAt.of_stage (stage_empty p) trivial

theorem AllSettled.record_none (h : heap.AllSettled) {event : Event}
    (hsubject : event.subject = none) : (heap.record event).AllSettled :=
  fun p => (h p).congr (stage_record_of_ne (by simp [hsubject]))

/-- A change at one element, checked at that element. -/
theorem AllSettled.change (hother : ∀ q, q ≠ p → heap.SettledAt q) (hp : heap.SettledAt p) :
    heap.AllSettled := by
  intro q
  by_cases heq : q = p
  · exact heq ▸ hp
  · exact hother q heq

end Heap

/-! ## One initialisation -/

/-- What an `Init` does, seen from the object `i` it is called on: custody is
kept, every element is settled, and the answer is `true` exactly when the object
owns an element whose initialisation succeeded in this call. -/
structure Initialised [DecidableEq ι] (slots : ι → Option Pointer) (i : ι) (heap : Heap α)
    (answer : Bool) (self' : CResource) (heap' : Heap α) : Prop where
  custody : Custody (Function.update slots i self'.resource_) heap'
  settled : heap'.AllSettled
  reports : answer = true ↔ ∃ p fresh, self'.resource_ = some p ∧
    heap'.log = heap.log ++ fresh ∧ .init p .success ∈ fresh

namespace Heap

@[simp] theorem log_init [Inhabited α] (heap : Heap α) (f : MaInit α) (p : Pointer) :
    (heap.init f p).2.log = heap.log ++ [.init p (heap.init f p).1] := rfl

theorem stage_init [Inhabited α] {heap : Heap α} {p : Pointer} (f : MaInit α)
    (h : heap.stage p = some (.held none)) :
    (heap.init f p).2.stage p = some (.held (some (heap.init f p).1)) :=
  stage_record_self (.held (some (heap.init f p).1)) rfl h rfl

theorem stage_init_of_ne [Inhabited α] {heap : Heap α} {p q : Pointer} (f : MaInit α)
    (hq : q ≠ p) : (heap.init f p).2.stage q = heap.stage q :=
  stage_record_other rfl hq

end Heap

section Initialisation

variable [DecidableEq ι] {slots : ι → Option Pointer} {heap before : Heap α} {i : ι}

/-- An `Init` that is turned down. -/
theorem initialised_reject {self : CResource} (h : Custody slots heap) (hsettled : heap.AllSettled)
    (hi : slots i = self.resource_) : Initialised slots i heap false self heap where
  custody := by
    rw [Function.update_eq_self_iff.mpr hi.symm]
    exact h
  settled := hsettled
  reports := by
    apply iff_of_false (by simp)
    rintro ⟨p, fresh, _, hlog, hmem⟩
    rw [List.self_eq_append_right.mp hlog] at hmem
    simp at hmem

/-- An initialisation of a new element `p`, the only one that is not settled, and
`ensureInit` on its result: the element stays if it succeeded, and is deleted if
not. -/
theorem ensureInit_initialised [Inhabited α] {p : Pointer} (f : MaInit α)
    (h : Custody (Function.update slots i (some p)) heap)
    (hp : heap.stage p = some (.held none))
    (hothers : ∀ q, q ≠ p → heap.SettledAt q) (hlog : ∃ log, heap.log = before.log ++ log) :
    Initialised slots i before (CResource.ensureInit (heap.init f p).1 ⟨some p⟩ (heap.init f p).2).1
      (CResource.ensureInit (heap.init f p).1 ⟨some p⟩ (heap.init f p).2).2.1
      (CResource.ensureInit (heap.init f p).1 ⟨some p⟩ (heap.init f p).2).2.2 := by
  have hcustody := h.init hp f
  have hheld := Heap.stage_init f hp
  have hothers' : ∀ q, q ≠ p → (heap.init f p).2.SettledAt q :=
    fun q hq => (hothers q hq).congr (Heap.stage_init_of_ne f hq)
  obtain ⟨log, hlog⟩ := hlog
  have hlog' : (heap.init f p).2.log = before.log ++ (log ++ [.init p (heap.init f p).1]) := by
    rw [Heap.log_init, hlog, List.append_assoc]
  generalize (heap.init f p).1 = result at hheld hlog' ⊢
  generalize (heap.init f p).2 = heap at hcustody hheld hothers' hlog' ⊢
  unfold CResource.ensureInit
  by_cases hresult : result = .success
  · rw [if_neg (not_not.mpr hresult)]
    subst hresult
    exact ⟨hcustody, Heap.AllSettled.change hothers' (Heap.SettledAt.of_stage hheld rfl),
      iff_of_true rfl ⟨p, _, rfl, hlog', by simp⟩⟩
  · rw [if_pos hresult]
    -- the element is released, and deleted as the loose element it then is
    have hreleased : (heap.record (.release p)).stage p = some (.loose (some result)) :=
      Heap.stage_record_self (.loose (some result)) rfl hheld rfl
    have hrelease : Custody (Function.update slots i none) (heap.record (.release p)) := by
      have hslot : Function.update slots i (some p) i = (⟨some p⟩ : CResource).resource_ :=
        Function.update_self ..
      have hreleased := hcustody.release hslot
      rwa [Function.update_idem] at hreleased
    have hgone : ((heap.record (.release p)).delete p).stage p =
        some (.gone (some result) false) :=
      Heap.stage_delete_self (.gone (some result) false) hreleased rfl
    refine ⟨hrelease.deleteLoose hreleased, Heap.AllSettled.change (p := p) ?_ ?_, ?_⟩
    · intro q hq
      apply (hothers' q hq).congr
      calc ((heap.record (.release p)).delete p).stage q
          = (heap.record (.release p)).stage q := Heap.stage_delete_of_ne hq
        _ = heap.stage q := Heap.stage_record_other rfl hq
    · exact Heap.SettledAt.of_stage hgone ⟨result, rfl, hresult⟩
    · exact iff_of_false (by simp) (by rintro ⟨_, _, hnone, _⟩; simp [CResource.release] at hnone)

variable [Inhabited α] {self : CResource}

/-- `emplace` and its check, in a call that may have logged something before. -/
theorem emplaceEnsured_initialised (h : Custody slots heap) (hsettled : heap.AllSettled)
    (hi : slots i = self.resource_) (hbefore : ∃ log, heap.log = before.log ++ log)
    (f : MaInit α) :
    Initialised slots i before (self.emplaceEnsured f heap).1 (self.emplaceEnsured f heap).2.1
      (self.emplaceEnsured f heap).2.2 := by
  obtain ⟨hnew, hborn⟩ := (h.destruct hi).new (default : α)
  obtain ⟨hadopt, hheld⟩ := hnew.adopt_new (i := i) (Function.update_self ..) hborn
  rw [Function.update_idem] at hadopt
  refine ensureInit_initialised f hadopt hheld ?_ ?_
  · intro q hq
    apply ((hsettled q).destruct h hi).congr
    calc (((self.destruct heap).new default).adopt (some (self.destruct heap).cells.size)).stage q
        = ((self.destruct heap).new default).stage q := Heap.stage_record_other rfl hq
      _ = (self.destruct heap).stage q := Heap.stage_new_of_ne _ hq
  · obtain ⟨log, hlog⟩ := hbefore
    exact ⟨log ++ self.destroyed ++ [.new (self.destruct heap).cells.size,
      .adopt (self.destruct heap).cells.size],
      by simp [Heap.adopt, CResource.log_destruct, hlog]⟩

/-- `reset(new element_type())`, the initialisation and its check. -/
theorem resetEnsured_initialised (h : Custody slots heap) (hsettled : heap.AllSettled)
    (hi : slots i = self.resource_) (f : MaInit α) :
    Initialised slots i heap (self.resetEnsured f heap).1 (self.resetEnsured f heap).2.1
      (self.resetEnsured f heap).2.2 := by
  obtain ⟨hnew, hborn⟩ := h.new (default : α)
  -- the old element was allocated before the new one
  have hother : self.resource_ ≠ some heap.cells.size := fun heq =>
    absurd (h.lt_size_of_slot (hi.trans heq)) (Nat.lt_irrefl _)
  have hloose : (self.destruct (heap.new default)).stage heap.cells.size = some (.loose none) :=
    (CResource.stage_destruct_of_ne hother).trans hborn
  obtain ⟨hadopt, hheld⟩ := (hnew.destruct hi).adopt_new (i := i) (Function.update_self ..) hloose
  rw [Function.update_idem] at hadopt
  refine ensureInit_initialised f hadopt hheld ?_ ?_
  · intro q hq
    have hold : (heap.new (default : α)).SettledAt q :=
      (hsettled q).congr (Heap.stage_new_of_ne _ hq)
    apply (hold.destruct hnew hi).congr
    exact Heap.stage_record_other rfl hq
  · exact ⟨.new heap.cells.size :: self.destroyed ++ [.adopt heap.cells.size],
      by simp [Heap.adopt, CResource.log_destruct]⟩

end Initialisation

/-! ## Worlds between two calls -/

/-- Custody, and every element settled. -/
structure World.Settled {ω : Type*} [CResourceBase ω] (w : World ω α) : Prop where
  custody : Custody w.slots w.heap
  allSettled : w.heap.AllSettled

namespace World.Settled

open CResourceBase

variable {ω : Type*} [CResourceBase ω] {w w' : World ω α} {self other : ℕ} {x : ω}

theorem empty : (World.empty : World ω α).Settled where
  custody := Custody.empty fun i => by simp [World.slots, World.empty]
  allSettled := Heap.AllSettled.empty

theorem construct (h : w.Settled) {y : ω} (hy : (base y).resource_ = none) :
    (w.construct y).Settled :=
  ⟨World.custody_construct h.custody hy, h.allSettled⟩

/-- Putting an object back after an `Init`. -/
theorem initialised (hx : w.objects.get? self = some x) {y : ω} {heap : Heap α} {answer : Bool}
    (hinit : Initialised w.slots self w.heap answer (base y) heap) :
    (⟨w.objects.put self y, heap⟩ : World ω α).Settled :=
  ⟨World.custody_put hx hinit.custody, hinit.settled⟩

/-- Overwriting the element that an object owns. -/
theorem store (h : w.Settled) (hx : w.objects.get? self = some x) {p : Pointer}
    (hp : (base x).resource_ = some p) {y : ω} (hy : (base y).resource_ = some p) (value : α) :
    (⟨w.objects.put self y, w.heap.store p value⟩ : World ω α).Settled := by
  have hslot : w.slots self = some p := (World.slots_of_get? hx).trans hp
  refine ⟨World.custody_put hx ?_, h.allSettled⟩
  rw [hy, Function.update_eq_self_iff.mpr hslot.symm]
  exact h.custody.store (h.custody.live_of_slot hslot) value

theorem moveConstruct (h : w.Settled) (hw : w.moveConstruct other = some w') : w'.Settled := by
  refine ⟨World.custody_moveConstruct h.custody hw, ?_⟩
  rw [World.heap_moveConstruct hw]
  exact h.allSettled

/-- What an object drops is settled again. -/
theorem destruct (h : w.Settled) (hx : w.objects.get? self = some x) :
    ((base x).destruct w.heap).AllSettled :=
  fun p => (h.allSettled p).destruct h.custody (World.slots_of_get? hx)

theorem moveAssign (h : w.Settled) (hw : w.moveAssign self other = some w') : w'.Settled := by
  refine ⟨World.custody_moveAssign h.custody hw, ?_⟩
  rcases World.heap_moveAssign hw with heq | ⟨x, hx, heq⟩
  · exact heq ▸ h.allSettled
  · exact heq ▸ h.destruct hx

theorem swap (h : w.Settled) (hw : w.swap self other = some w') : w'.Settled := by
  refine ⟨World.custody_swap h.custody hw, ?_⟩
  rw [World.heap_swap hw]
  exact h.allSettled

theorem destroy (h : w.Settled) (hw : w.destroy self = some w') : w'.Settled := by
  refine ⟨World.custody_destroy h.custody hw, ?_⟩
  obtain ⟨x, hx, heq⟩ := World.heap_destroy hw
  exact heq ▸ h.destruct hx

end World.Settled

end MiniaudioCpp
