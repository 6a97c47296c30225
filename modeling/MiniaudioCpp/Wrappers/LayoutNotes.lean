import MiniaudioCpp.Routing.NodeLifetimes
import MiniaudioCpp.Wrappers.Layouts

/-!
# The notes of a client

A client that writes down what it gave to each `Init` that answered `true`, and
moves its notes when it moves wrappers, has a note for each node that a wrapper
owns, whatever was done in between: filters that were reconfigured, buses that
were attached, initialisations that failed.  `Given` is this invariant, with one
lemma for each kind of call.

Every call but `Init` only hands elements around or leaves their layouts alone;
all of them go through `Given.carry`.
-/

namespace MiniaudioCpp

open Foundation CResourceBase

variable {ε α F : Type*}

/-! ## The machine -/

/-- `SetCutoffFrequency` on an object; `none` where its class has no such
function. -/
def Wrapper.SetCutoffFrequency [Inhabited α] (M : Miniaudio ε α F) (newCutoffFrequency : F)
    (x : Wrapper F) (heap : Heap α) : Option (Option MaResult × Wrapper F × Heap α) :=
  match x with
  | .lpfNode self =>
      let (result, self, heap) := self.SetCutoffFrequency M newCutoffFrequency heap
      some (result, .lpfNode self, heap)
  | .hpfNode self =>
      let (result, self, heap) := self.SetCutoffFrequency M newCutoffFrequency heap
      some (result, .hpfNode self, heap)
  | _ => none

/-- The calls. -/
inductive LayoutCall (ε F : Type*)
  | wrapper (call : WrapperCall ε F)
  | SetCutoffFrequency (self : ℕ) (newCutoffFrequency : F)
  | attach (call : AttachCall)

/-- What a call hands back. -/
inductive LayoutAnswer
  | wrapper (answer : WrapperAnswer)
  | cutoff (result : Option MaResult)
  | attached (answer : Bool)
  deriving DecidableEq, Repr

/-- One call.  Buses are attached that are of no node or of a live one. -/
def layoutStep [Zero F] [Inhabited α] (M : Miniaudio ε α F) (N : NodeGraph (Heap α))
    (w : World (Wrapper F) α) : LayoutCall ε F → Option (World (Wrapper F) α × LayoutAnswer)
  | .wrapper call => (wrapperStep M w call).map fun (w, answer) => (w, .wrapper answer)
  | .SetCutoffFrequency self newCutoffFrequency =>
      (w.objects.get? self).bind fun x =>
        (x.SetCutoffFrequency M newCutoffFrequency w.heap).map fun (result, x, heap) =>
          (⟨w.objects.put self x, heap⟩, .cutoff result)
  | .attach call =>
      if w.Reaches call.output.Node && w.Reaches call.input.Node then
        let (answer, heap) := call.AttachTo N w.heap
        some ({ w with heap }, .attached answer)
      else none

/-! ## The notes of the client -/

/-- What each wrapper was given, after one more call and its answer: the `Init`
whose node it has, if it has one. -/
def recordInit (given : List (Option (InitCall F))) :
    LayoutCall ε F × LayoutAnswer → List (Option (InitCall F))
  | (.wrapper (.construct _), _) => given ++ [none]
  | (.wrapper (.init self _ _ call), .wrapper (.initialised true)) => given.set self (some call)
  | (.wrapper (.moveConstruct other), _) => given ++ [given[other]?.join]
  | (.wrapper (.moveAssign self other), _) => given.set self given[other]?.join
  | (.wrapper (.swap self other), _) =>
      (given.set self given[other]?.join).set other given[self]?.join
  | _ => given

/-- The notes after a history. -/
def inits (history : List (LayoutCall ε F × LayoutAnswer)) : List (Option (InitCall F)) :=
  history.foldl recordInit []

/-- The notes go with the elements: whoever owns one was given the `Init` that
left its layout. -/
structure Given (layoutOf : α → NodeLayout) (w : World (Wrapper F) α)
    (given : List (Option (InitCall F))) : Prop where
  settled : w.Settled
  length : given.length = w.objects.size
  laid : ∀ i p, w.slots i = some p → ∃ call a, given[i]?.join = some call ∧
    w.heap.cells.get? p = some a ∧ ∀ l, call.layout = some l → layoutOf a = l

section Steps

variable {layoutOf : α → NodeLayout} {w w' : World (Wrapper F) α}
  {given given' : List (Option (InitCall F))}

theorem Given.empty : Given layoutOf (World.empty : World (Wrapper F) α) [] where
  settled := .empty
  length := rfl
  laid i p h := by simp [World.slots, World.empty] at h

/-- A step after which each element belongs to a wrapper with the same note and
has the same layout. -/
theorem Given.carry (h : Given layoutOf w given) (hsettled : w'.Settled)
    (hlength : given'.length = w'.objects.size)
    (hkept : ∀ i p, w'.slots i = some p → ∃ j, w.slots j = some p ∧
      given'[i]?.join = given[j]?.join ∧
        (w'.heap.cells.get? p).map layoutOf = (w.heap.cells.get? p).map layoutOf) :
    Given layoutOf w' given' where
  settled := hsettled
  length := hlength
  laid i p hi := by
    obtain ⟨j, hj, hnote, hlayout⟩ := hkept i p hi
    obtain ⟨call, a, hcall, hcell, hlaid⟩ := h.laid j p hj
    rw [hcell, Option.map_some, Option.map_eq_some_iff] at hlayout
    obtain ⟨a', hcell', heq⟩ := hlayout
    exact ⟨call, a', hnote.trans hcall, hcell', fun l hl => heq.trans (hlaid l hl)⟩

theorem Given.lt_length (h : Given layoutOf w given) {i : ℕ} {p : Pointer}
    (hi : w.slots i = some p) : i < given.length := by
  obtain ⟨x, hx, _⟩ := World.slots_eq_some.mp hi
  exact h.length ▸ Arena.lt_size_of_get? hx

/-- An element that is another object's is not touched by a destructor. -/
theorem Given.get?_destruct (h : Given layoutOf w given) {self i : ℕ} {x : Wrapper F} {p : Pointer}
    (hx : w.objects.get? self = some x) (hi : w.slots i = some p) (hne : i ≠ self) :
    ((base x).destruct w.heap).cells.get? p = w.heap.cells.get? p := by
  refine CResource.get?_destruct_of_ne fun hp => hne ?_
  exact h.settled.custody.exclusive i self p hi ((World.slots_of_get? hx).trans hp)

/-- One note is overwritten. -/
theorem join_set_self {i : ℕ} (hi : i < given.length) (note : Option (InitCall F)) :
    (given.set i note)[i]?.join = note := by
  rw [List.getElem?_set_self hi, Option.join_some]

theorem join_set_ne {i j : ℕ} (hij : i ≠ j) (note : Option (InitCall F)) :
    (given.set j note)[i]?.join = given[i]?.join := by
  rw [List.getElem?_set_ne hij.symm]

/-- One note is added. -/
theorem join_append_left {i : ℕ} (hi : i < given.length) (note : Option (InitCall F)) :
    (given ++ [note])[i]?.join = given[i]?.join := by
  rw [List.getElem?_append_left hi]

/-! ## Wrappers that are made, moved and destroyed -/

theorem Given.construct (h : Given layoutOf w given) {x : Wrapper F}
    (hx : (base x).resource_ = none) : Given layoutOf (w.construct x) (given ++ [none]) := by
  apply h.carry (h.settled.construct hx)
  · rw [List.length_append, h.length, World.size_construct, List.length_singleton]
  · intro i p hi
    rw [World.slots_construct hx] at hi
    exact ⟨i, hi, join_append_left (h.lt_length hi) none, rfl⟩

theorem Given.moveConstruct (h : Given layoutOf w given) {other : ℕ}
    (hw : w.moveConstruct other = some w') :
    Given layoutOf w' (given ++ [given[other]?.join]) := by
  apply h.carry (h.settled.moveConstruct hw)
  · rw [List.length_append, h.length, World.size_moveConstruct hw, List.length_singleton]
  · intro i p hi
    rw [World.slots_moveConstruct hw] at hi
    rw [World.heap_moveConstruct hw]
    by_cases hnew : i = w.objects.size
    · -- the new object has the element of the one it was made from, and its note
      subst hnew
      rw [Function.update_self] at hi
      refine ⟨other, hi, ?_, rfl⟩
      rw [← h.length, List.getElem?_concat_length, Option.join_some]
    · rw [Function.update_of_ne hnew] at hi
      by_cases hother : i = other
      · rw [hother, Function.update_self] at hi
        exact absurd hi (by simp)
      · rw [Function.update_of_ne hother] at hi
        exact ⟨i, hi, join_append_left (h.lt_length hi) _, rfl⟩

theorem Given.moveAssign (h : Given layoutOf w given) {self other : ℕ}
    (hw : w.moveAssign self other = some w') :
    Given layoutOf w' (given.set self given[other]?.join) := by
  apply h.carry (h.settled.moveAssign hw)
  · rw [List.length_set, h.length, World.size_moveAssign hw]
  · obtain ⟨x, hx, y, hy, heq⟩ : ∃ x, w.objects.get? self = some x ∧ ∃ y,
        w.objects.get? other = some y ∧ _ := by
      simpa only [World.moveAssign, Option.bind_eq_some_iff, Option.map_eq_some_iff] using hw
    have hself : self < given.length := h.length ▸ Arena.lt_size_of_get? hx
    intro i p hi
    by_cases hsame : self = other
    · -- an assignment to itself
      rw [if_pos hsame] at heq
      subst heq
      refine ⟨i, hi, ?_, rfl⟩
      by_cases hi' : i = self
      · rw [hi', join_set_self hself, hsame]
      · exact join_set_ne hi' _
    · have hheap : w'.heap = (base x).destruct w.heap := by
        rw [if_neg hsame] at heq
        exact heq ▸ rfl
      rw [World.slots_moveAssign hsame hw] at hi
      by_cases hother : i = other
      · rw [hother, Function.update_self] at hi
        exact absurd hi (by simp)
      · rw [Function.update_of_ne hother] at hi
        by_cases hi' : i = self
        · rw [hi', Function.update_self] at hi
          rw [hheap, h.get?_destruct hx hi (Ne.symm hsame)]
          exact ⟨other, hi, by rw [hi', join_set_self hself], rfl⟩
        · rw [Function.update_of_ne hi'] at hi
          rw [hheap, h.get?_destruct hx hi hi']
          exact ⟨i, hi, join_set_ne hi' _, rfl⟩

theorem Given.swap (h : Given layoutOf w given) {self other : ℕ}
    (hw : w.swap self other = some w') :
    Given layoutOf w' ((given.set self given[other]?.join).set other given[self]?.join) := by
  apply h.carry (h.settled.swap hw)
  · rw [List.length_set, List.length_set, h.length, World.size_swap hw]
  · obtain ⟨x, hx, y, hy, _⟩ : ∃ x, w.objects.get? self = some x ∧ ∃ y,
        w.objects.get? other = some y ∧ _ := by
      simpa only [World.swap, Option.bind_eq_some_iff, Option.map_eq_some_iff] using hw
    have hself : self < given.length := h.length ▸ Arena.lt_size_of_get? hx
    have hother : other < (given.set self given[other]?.join).length := by
      rw [List.length_set]
      exact h.length ▸ Arena.lt_size_of_get? hy
    intro i p hi
    rw [World.slots_swap hw] at hi
    rw [World.heap_swap hw]
    by_cases hi' : i = other
    · rw [hi', Function.update_self] at hi
      exact ⟨self, hi, by rw [hi', join_set_self hother], rfl⟩
    · rw [Function.update_of_ne hi'] at hi
      rw [join_set_ne hi']
      by_cases hi'' : i = self
      · rw [hi'', Function.update_self] at hi
        exact ⟨other, hi, by rw [hi'', join_set_self hself], rfl⟩
      · rw [Function.update_of_ne hi''] at hi
        exact ⟨i, hi, join_set_ne hi'' _, rfl⟩

theorem Given.destroy (h : Given layoutOf w given) {self : ℕ} (hw : w.destroy self = some w') :
    Given layoutOf w' given := by
  apply h.carry (h.settled.destroy hw) (h.length.trans (World.size_destroy hw).symm)
  obtain ⟨x, hx, hheap⟩ := World.heap_destroy hw
  intro i p hi
  rw [World.slots_destroy hw] at hi
  by_cases hi' : i = self
  · rw [hi', Function.update_self] at hi
    exact absurd hi (by simp)
  · rw [Function.update_of_ne hi'] at hi
    rw [hheap, h.get?_destruct hx hi hi']
    exact ⟨i, hi, rfl, rfl⟩

/-! ## Elements that are initialised and changed -/

variable {M : Miniaudio ε α F} {N : NodeGraph (Heap α)}

/-- Attaching changes elements, and none of what the notes are about. -/
theorem Given.attach (hgraph : N.ReadsLayouts layoutOf) (h : Given layoutOf w given)
    (call : AttachCall) :
    Given layoutOf { w with heap := (call.AttachTo N w.heap).2 } given := by
  have hheap : (call.AttachTo N w.heap).2.log = w.heap.log ∧
      (call.AttachTo N w.heap).2.cells.size = w.heap.cells.size ∧
      ∀ p, ((call.AttachTo N w.heap).2.cells.get? p).map layoutOf =
        (w.heap.cells.get? p).map layoutOf := by
    rw [call.attachTo_eq, OutputBus.AttachTo]
    split
    · exact hgraph.attach _ _ _ _ w.heap
    · exact ⟨rfl, rfl, fun _ => rfl⟩
  generalize (call.AttachTo N w.heap).2 = heap' at hheap
  obtain ⟨hlog, hsize, hlayout⟩ := hheap
  have hstage : heap'.stage = w.heap.stage := by
    funext p
    rw [Heap.stage, Heap.stage, hlog]
  have hlive : ∀ p, (∃ a, heap'.cells.get? p = some a) ↔ ∃ a, w.heap.cells.get? p = some a := by
    intro p
    have heq := congrArg Option.isSome (hlayout p)
    rw [Option.isSome_map, Option.isSome_map] at heq
    rw [← Option.isSome_iff_exists, ← Option.isSome_iff_exists, heq]
  refine h.carry ⟨⟨h.settled.custody.exclusive, fun p => ?_⟩, fun p => ?_⟩ h.length
    fun i p hi => ⟨i, hi, rfl, hlayout p⟩
  · show Placed (heap'.stage p) (p < heap'.cells.size) (∃ a, heap'.cells.get? p = some a) _
    rw [hstage, hsize, propext (hlive p)]
    exact h.settled.custody.placed p
  · exact (h.settled.allSettled p).congr (congrFun hstage p)

variable [Inhabited α]

/-- An `Init` that answers `true` is noted. -/
theorem Given.init (hdoc : M.LaysOut layoutOf) (h : Given layoutOf w given) {self : ℕ} {env : ε}
    {engine : MaEngine} {call : InitCall F} {x x' : Wrapper F} {heap' : Heap α} {b : Bool}
    (hx : w.objects.get? self = some x)
    (hinit : x.Init M env (some engine) call w.heap = some (b, x', heap')) :
    Given layoutOf ⟨w.objects.put self x', heap'⟩
      (if b then given.set self (some call) else given) := by
  have hpath := Wrapper.init_path hinit
  have hlays := (Wrapper.init_layoutPath hdoc hinit).initLays
  have hself : self < given.length := h.length ▸ Arena.lt_size_of_get? hx
  have hslots : World.slots ⟨w.objects.put self x', heap'⟩ =
      Function.update w.slots self (base x').resource_ :=
    World.slots_put w.objects (Arena.lt_size_of_get? hx) x' heap' w.heap
  refine ⟨.initialised hx (hpath.initialised h.settled.custody h.settled.allSettled
    (World.slots_of_get? hx)), ?_, fun i p hi => ?_⟩
  · rw [Arena.size_put, ← h.length]
    cases b <;> simp
  · rw [hslots] at hi
    by_cases hi' : i = self
    · subst hi'
      rw [Function.update_self] at hi
      cases b with
      | true =>
          obtain ⟨p', a, hp', hcell, hlaid⟩ := hlays.accepted rfl
          obtain rfl := Option.some.inj (hp'.symm.trans hi)
          exact ⟨call, a, join_set_self hself _, hcell, hlaid⟩
      | false =>
          rcases hlays.refused rfl with hnone | ⟨hsame, hcells⟩
          · rw [hnone] at hi
            exact absurd hi (by simp)
          · -- turned down: the wrapper has what it had
            have hold : w.slots i = some p :=
              (World.slots_of_get? hx).trans ((congrArg CResource.resource_ hsame).symm.trans hi)
            obtain ⟨call', a, hnote, hcell, hlaid⟩ := h.laid i p hold
            exact ⟨call', a, hnote, (congrArg (Arena.get? · p) hcells).trans hcell, hlaid⟩
    · rw [Function.update_of_ne hi'] at hi
      obtain ⟨call', a, hnote, hcell, hlaid⟩ := h.laid i p hi
      refine ⟨call', a, ?_, ?_, hlaid⟩
      · cases b with
        | true => exact (join_set_ne hi' _).trans hnote
        | false => exact hnote
      · refine (hlays.others p (h.settled.custody.lt_size_of_slot hi) fun hp => hi' ?_).trans hcell
        exact h.settled.custody.exclusive i self p hi ((World.slots_of_get? hx).trans hp)

/-- Overwriting an element with one of the same layout. -/
theorem Given.store (h : Given layoutOf w given) {self : ℕ} {x y : Wrapper F} {p : Pointer} {a : α}
    (hx : w.objects.get? self = some x) (hp : (base x).resource_ = some p)
    (hy : (base y).resource_ = some p) (ha : layoutOf a = layoutOf (w.heap.load p)) :
    Given layoutOf ⟨w.objects.put self y, w.heap.store p a⟩ given := by
  have hlt := Arena.lt_size_of_get? hx
  obtain ⟨a₀, hcell⟩ := h.settled.custody.live_of_slot ((World.slots_of_get? hx).trans hp)
  have hslots : World.slots ⟨w.objects.put self y, w.heap.store p a⟩ = w.slots := by
    rw [World.slots_put w.objects hlt y _ w.heap, hy, ← hp, ← World.slots_of_get? hx]
    exact Function.update_eq_self self w.slots
  refine h.carry (h.settled.store hx hp hy a) (by rw [Arena.size_put, h.length]) fun i q hi => ?_
  rw [hslots] at hi
  refine ⟨i, hi, rfl, ?_⟩
  show ((w.heap.cells.put p a).get? q).map layoutOf = _
  by_cases hq : q = p
  · subst hq
    rw [Arena.get?_put_self (Arena.lt_size_of_get? hcell), hcell, Option.map_some, Option.map_some,
      ha, Heap.load_of_get? hcell]
  · rw [Arena.get?_put_of_ne (Arena.lt_size_of_get? hcell) hq]

/-- `SetCutoffFrequency` reconfigures the filter and leaves its buses. -/
theorem Given.setCutoffFrequency (hdoc : M.LaysOut layoutOf) (h : Given layoutOf w given)
    {self : ℕ} {newCutoffFrequency : F} {x x' : Wrapper F} {heap' : Heap α}
    {result : Option MaResult} (hx : w.objects.get? self = some x)
    (hset : x.SetCutoffFrequency M newCutoffFrequency w.heap = some (result, x', heap')) :
    Given layoutOf ⟨w.objects.put self x', heap'⟩ given := by
  cases x with
  | lpfNode filter =>
      cases hp : filter.resource_ with
      | none =>
          simp only [Wrapper.SetCutoffFrequency, LPFNode.SetCutoffFrequency, hp] at hset
          obtain ⟨rfl, rfl, rfl⟩ := hset
          rw [Arena.put_self hx]
          exact h
      | some p =>
          simp only [Wrapper.SetCutoffFrequency, LPFNode.SetCutoffFrequency, hp] at hset
          obtain ⟨rfl, rfl, rfl⟩ := hset
          exact h.store hx hp hp (hdoc.lpf_reinit _ _)
  | hpfNode filter =>
      cases hp : filter.resource_ with
      | none =>
          simp only [Wrapper.SetCutoffFrequency, HPFNode.SetCutoffFrequency, hp] at hset
          obtain ⟨rfl, rfl, rfl⟩ := hset
          rw [Arena.put_self hx]
          exact h
      | some p =>
          simp only [Wrapper.SetCutoffFrequency, HPFNode.SetCutoffFrequency, hp] at hset
          obtain ⟨rfl, rfl, rfl⟩ := hset
          exact h.store hx hp hp (hdoc.hpf_reinit _ _)
  | engine | tBaseNode | splitterNode | engineNode | sound =>
      simp [Wrapper.SetCutoffFrequency] at hset

end Steps

end MiniaudioCpp
