import MiniaudioCpp.Foundation.Machine
import MiniaudioCpp.Routing.Attachments
import MiniaudioCpp.Wrappers.Init

/-!
# Buses and moves

A bus is a value: the address of a node, and an index.  It does not refer to the
wrapper it was taken from, so it stays what it is wherever the node goes.  Over
any run of moves, swaps, releases, resets and destructions of wrappers, a bus of
a node that is still live answers as it did, whoever owns the node now produces
the same bus, and a wrapper that was left empty produces buses that lead
nowhere (`bus_values_kept`).

The class of the wrappers is any that derives from `CResource`.  The state of
miniaudio's graph may change with each call; only what it answers about live
nodes may not.
-/

namespace MiniaudioCpp

open Foundation CResourceBase

variable {α ω G : Type*}

/-! ## The wrappers and the graph -/

/-- The wrappers, the heap they share, and the node graph. -/
structure Routed (ω α G : Type*) where
  world : World ω α
  graph : G

/-- The calls on wrappers of one class.  `construct` makes an empty one, `init`
is an `Init` with what miniaudio's function does. -/
inductive TransferCall (ω α : Type*)
  | construct (x : ω)
  | init (self : ℕ) (InitFunction : MaInit α)
  | moveConstruct (other : ℕ)
  | moveAssign (self other : ℕ)
  | swap (self other : ℕ)
  | release (self : ℕ)
  | reset (self : ℕ) (ptr : Option Pointer)
  | destroy (self : ℕ)

/-- What a call hands back. -/
inductive TransferAnswer
  | done
  | initialised (answer : Bool)
  | pointer (p : Option Pointer)
  deriving DecidableEq, Repr

variable [CResourceBase ω]

/-- One call on the wrappers.  `reset` takes null or a live node that no wrapper
owns. -/
def transferWorld [Inhabited α] (w : World ω α) :
    TransferCall ω α → Option (World ω α × TransferAnswer)
  | .construct x => if (base x).resource_.isNone then some (w.construct x, .done) else none
  | .init self InitFunction =>
      w.member self fun x heap =>
        let (answer, c, heap) := (base x).emplaceEnsured InitFunction heap
        (.initialised answer, withBase x c, heap)
  | .moveConstruct other => (w.moveConstruct other).map fun w => (w, .done)
  | .moveAssign self other => (w.moveAssign self other).map fun w => (w, .done)
  | .swap self other => (w.swap self other).map fun w => (w, .done)
  | .release self =>
      w.member self fun x heap =>
        let (p, c, heap) := (base x).release heap
        (.pointer p, withBase x c, heap)
  | .reset self ptr =>
      if ptr.all w.Loose then
        w.member self fun x heap =>
          let (c, heap) := (base x).reset ptr heap
          (.done, withBase x c, heap)
      else none
  | .destroy self => (w.destroy self).map fun w => (w, .done)

/-- One call, with the graph that it leaves. -/
def transferStep [Inhabited α] (s : Routed ω α G) (call : TransferCall ω α × G) :
    Option (Routed ω α G × TransferAnswer) :=
  (transferWorld s.world call.1).map fun (w, answer) => (⟨w, call.2⟩, answer)

/-! ## One call -/

section Step

variable [Inhabited α] {w w' : World ω α} {call : TransferCall ω α} {answer : TransferAnswer}

/-- The calls keep custody. -/
theorem transferWorld_custody (h : Custody w.slots w.heap)
    (hstep : transferWorld w call = some (w', answer)) : Custody w'.slots w'.heap := by
  cases call with
  | construct x =>
      simp only [transferWorld, Option.ite_none_right_eq_some, Option.some.injEq,
        Prod.mk.injEq] at hstep
      obtain ⟨hempty, rfl, _⟩ := hstep
      exact World.custody_construct h (Option.isNone_iff_eq_none.mp hempty)
  | init self InitFunction =>
      simp only [transferWorld] at hstep
      refine World.custody_member hstep fun x hx => ?_
      rw [base_withBase]
      exact h.emplaceEnsured (World.slots_of_get? hx) InitFunction
  | moveConstruct other =>
      simp only [transferWorld, Option.map_eq_some_iff, Prod.mk.injEq] at hstep
      obtain ⟨_, hmove, rfl, _⟩ := hstep
      exact World.custody_moveConstruct h hmove
  | moveAssign self other =>
      simp only [transferWorld, Option.map_eq_some_iff, Prod.mk.injEq] at hstep
      obtain ⟨_, hmove, rfl, _⟩ := hstep
      exact World.custody_moveAssign h hmove
  | swap self other =>
      simp only [transferWorld, Option.map_eq_some_iff, Prod.mk.injEq] at hstep
      obtain ⟨_, hswap, rfl, _⟩ := hstep
      exact World.custody_swap h hswap
  | release self =>
      simp only [transferWorld] at hstep
      refine World.custody_member hstep fun x hx => ?_
      rw [base_withBase]
      exact World.custody_release h hx
  | reset self ptr =>
      simp only [transferWorld, Option.ite_none_right_eq_some] at hstep
      obtain ⟨haccepts, hmember⟩ := hstep
      refine World.custody_member hmember fun x hx => ?_
      rw [base_withBase]
      exact World.custody_reset h hx haccepts
  | destroy self =>
      simp only [transferWorld, Option.map_eq_some_iff, Prod.mk.injEq] at hstep
      obtain ⟨_, hdestroy, rfl, _⟩ := hstep
      exact World.custody_destroy h hdestroy

/-- No call brings a freed node back to life. -/
theorem transferWorld_later (hstep : transferWorld w call = some (w', answer)) :
    w.heap.cells.Later w'.heap.cells := by
  cases call with
  | construct x =>
      simp only [transferWorld, Option.ite_none_right_eq_some, Option.some.injEq,
        Prod.mk.injEq] at hstep
      obtain ⟨_, rfl, _⟩ := hstep
      exact .refl _
  | init self InitFunction =>
      simp only [transferWorld] at hstep
      obtain ⟨x, _, rfl, _⟩ := World.member_eq_some.mp hstep
      exact CResource.later_emplaceEnsured InitFunction (base x) w.heap
  | moveConstruct other =>
      simp only [transferWorld, Option.map_eq_some_iff, Prod.mk.injEq] at hstep
      obtain ⟨_, hmove, rfl, _⟩ := hstep
      rw [World.heap_moveConstruct hmove]
      exact .refl _
  | moveAssign self other =>
      simp only [transferWorld, Option.map_eq_some_iff, Prod.mk.injEq] at hstep
      obtain ⟨_, hmove, rfl, _⟩ := hstep
      rcases World.heap_moveAssign hmove with heq | ⟨x, _, heq⟩
      · exact heq ▸ .refl _
      · exact heq ▸ CResource.later_destruct (base x) w.heap
  | swap self other =>
      simp only [transferWorld, Option.map_eq_some_iff, Prod.mk.injEq] at hstep
      obtain ⟨_, hswap, rfl, _⟩ := hstep
      rw [World.heap_swap hswap]
      exact .refl _
  | release self =>
      simp only [transferWorld] at hstep
      obtain ⟨x, _, rfl, _⟩ := World.member_eq_some.mp hstep
      show w.heap.cells.Later ((base x).release w.heap).2.2.cells
      rw [CResource.cells_release]
      exact .refl _
  | reset self ptr =>
      simp only [transferWorld, Option.ite_none_right_eq_some] at hstep
      obtain ⟨x, _, rfl, _⟩ := World.member_eq_some.mp hstep.2
      show w.heap.cells.Later (((base x).destruct w.heap).adopt ptr).cells
      rw [Heap.cells_adopt]
      exact CResource.later_destruct (base x) w.heap
  | destroy self =>
      simp only [transferWorld, Option.map_eq_some_iff, Prod.mk.injEq] at hstep
      obtain ⟨_, hdestroy, rfl, _⟩ := hstep
      obtain ⟨x, _, heq⟩ := World.heap_destroy hdestroy
      exact heq ▸ CResource.later_destruct (base x) w.heap

end Step

/-! ## What the getters promise -/

/-- The getters answer 0 for a null node. -/
structure NodeGraph.NullIsEmpty (M : NodeGraph G) : Prop where
  input_bus_count : ∀ g, M.ma_node_get_input_bus_count g none = 0
  output_bus_count : ∀ g, M.ma_node_get_output_bus_count g none = 0
  input_channels : ∀ g i, M.ma_node_get_input_channels g none i = 0
  output_channels : ∀ g i, M.ma_node_get_output_channels g none i = 0

/-- The getters answer alike about a node. -/
structure NodeGraph.AnswersAlike (M : NodeGraph G) (n : Pointer) (g g' : G) : Prop where
  input_bus_count :
    M.ma_node_get_input_bus_count g' (some n) = M.ma_node_get_input_bus_count g (some n)
  output_bus_count :
    M.ma_node_get_output_bus_count g' (some n) = M.ma_node_get_output_bus_count g (some n)
  input_channels : ∀ i,
    M.ma_node_get_input_channels g' (some n) i = M.ma_node_get_input_channels g (some n) i
  output_channels : ∀ i,
    M.ma_node_get_output_channels g' (some n) i = M.ma_node_get_output_channels g (some n) i

theorem NodeGraph.AnswersAlike.trans {M : NodeGraph G} {n : Pointer} {g g' g'' : G}
    (h : M.AnswersAlike n g g') (h' : M.AnswersAlike n g' g'') : M.AnswersAlike n g g'' where
  input_bus_count := h'.input_bus_count.trans h.input_bus_count
  output_bus_count := h'.output_bus_count.trans h.output_bus_count
  input_channels i := (h'.input_channels i).trans (h.input_channels i)
  output_channels i := (h'.output_channels i).trans (h.output_channels i)

/-- The node is live. -/
def Routed.Live (s : Routed ω α G) (n : Pointer) : Prop := ∃ x, s.world.heap.cells.get? n = some x

/-- A call does not change what the getters answer about a node that is live
before and after it. -/
def GettersKept (M : NodeGraph G) (s : Routed ω α G) (_ : TransferCall ω α × G)
    (_ : TransferAnswer) (s' : Routed ω α G) : Prop :=
  ∀ n, s.Live n → s'.Live n → M.AnswersAlike n s.graph s'.graph

/-! ## Bus values -/

/-- A wrapper as part of the routing. -/
def routing (x : ω) : NodeRouting := ⟨(base x).resource_⟩

/-- The bus designates a node and an index, and answers in `g'` what it answered
in `g`. -/
structure Bus.Keeps {IsInput : Bool} (M : NodeGraph G) (g g' : G) (bus : Bus IsInput)
    (n : Pointer) (i : UInt32) : Prop where
  node : bus.Node = some n
  index : bus.Index = i
  valid : bus.IsValid M g' = bus.IsValid M g
  channels : bus.GetNumChannels M g' = bus.GetNumChannels M g

/-- The buses lead nowhere: they are invalid, have no channels, and cannot attach
or be attached. -/
structure LeadsNowhere (M : NodeGraph G) (g : G) (input : InputBus) (output : OutputBus) :
    Prop where
  input_invalid : input.IsValid M g = false
  output_invalid : output.IsValid M g = false
  input_channels : input.GetNumChannels M g = 0
  output_channels : output.GetNumChannels M g = 0
  cannot_attach : ∀ target, OutputBus.CanAttachTo M g output target = false ∧
    OutputBus.AttachTo M output target g = (false, g)
  cannot_be_attached : ∀ source, OutputBus.CanAttachTo M g source input = false ∧
    OutputBus.AttachTo M source input g = (false, g)

/-- What buses promise between two points of a run. -/
structure BusValuesKept (M : NodeGraph G) (s s' : Routed ω α G) : Prop where
  /-- A bus taken from an owner of a node keeps its meaning while the node lives. -/
  kept : ∀ j x n i, s.world.objects.get? j = some x → (base x).resource_ = some n → s'.Live n →
    Bus.Keeps M s.graph s'.graph ((routing x).InputBus i) n i ∧
      Bus.Keeps M s.graph s'.graph ((routing x).OutputBus i) n i
  /-- Whoever owns the node produces the same bus. -/
  same : ∀ j x k y n i, s.world.objects.get? j = some x → (base x).resource_ = some n →
    s'.world.objects.get? k = some y → (base y).resource_ = some n →
      (routing y).InputBus i = (routing x).InputBus i ∧
        (routing y).OutputBus i = (routing x).OutputBus i
  /-- Nobody else owns it. -/
  one_owner : ∀ k k' n, s'.world.slots k = some n → s'.world.slots k' = some n → k = k'
  /-- A wrapper that owns nothing produces buses that lead nowhere. -/
  empty : ∀ k y i, s'.world.objects.get? k = some y → (base y).resource_ = none →
    LeadsNowhere M s'.graph ((routing y).InputBus i) ((routing y).OutputBus i)

section Values

variable {M : NodeGraph G} {g g' : G} {n : Pointer}

/-- A bus is its node and its index. -/
theorem routing_bus {x : ω} {resource : Option Pointer}
    (hx : (base x).resource_ = resource) (i : UInt32) :
    (routing x).InputBus i = ⟨resource, i⟩ ∧ (routing x).OutputBus i = ⟨resource, i⟩ := by
  subst hx
  unfold routing NodeRouting.InputBus NodeRouting.OutputBus Bus.ofBase BusImpl.GetMaOwnerImpl
  cases (base x).resource_ <;> exact ⟨rfl, rfl⟩

theorem keeps_input (h : M.AnswersAlike n g g') (i : UInt32) :
    Bus.Keeps M g g' (⟨some n, i⟩ : InputBus) n i where
  node := rfl
  index := rfl
  valid := by simp [Bus.IsValid, h.input_bus_count]
  channels := by simp [Bus.GetNumChannels, h.input_channels]

theorem keeps_output (h : M.AnswersAlike n g g') (i : UInt32) :
    Bus.Keeps M g g' (⟨some n, i⟩ : OutputBus) n i where
  node := rfl
  index := rfl
  valid := by simp [Bus.IsValid, h.output_bus_count]
  channels := by simp [Bus.GetNumChannels, h.output_channels]

/-- The buses of no node lead nowhere. -/
theorem leadsNowhere_of_null (hnull : M.NullIsEmpty) (g : G) (i : UInt32) :
    LeadsNowhere M g (⟨none, i⟩ : InputBus) (⟨none, i⟩ : OutputBus) := by
  have hinput : (⟨none, i⟩ : InputBus).GetNumChannels M g = 0 := hnull.input_channels g i
  have houtput : (⟨none, i⟩ : OutputBus).GetNumChannels M g = 0 := hnull.output_channels g i
  have hattach : ∀ target, OutputBus.CanAttachTo M g ⟨none, i⟩ target = false := by
    intro target
    simp [OutputBus.CanAttachTo, houtput]
  have hattached : ∀ source, OutputBus.CanAttachTo M g source ⟨none, i⟩ = false := by
    intro source
    simp only [OutputBus.CanAttachTo, hinput]
    by_cases hchannels : source.GetNumChannels M g = 0 <;> simp [hchannels]
  refine ⟨rfl, rfl, hinput, houtput, fun target => ⟨hattach target, ?_⟩,
    fun source => ⟨hattached source, ?_⟩⟩
  · simp [OutputBus.AttachTo, hattach target]
  · simp [OutputBus.AttachTo, hattached source]

end Values

/-! ## Runs -/

section Runs

variable {M : NodeGraph G} {s s' : Routed ω α G}

/-- What holds between a point of a run and a later one. -/
structure Routed.After (M : NodeGraph G) (s s' : Routed ω α G) : Prop where
  custody : Custody s'.world.slots s'.world.heap
  later : s.world.heap.cells.Later s'.world.heap.cells
  alike : ∀ n, s.Live n → s'.Live n → M.AnswersAlike n s.graph s'.graph

theorem Routed.After.refl (h : Custody s.world.slots s.world.heap) : Routed.After M s s where
  custody := h
  later := .refl _
  alike _ _ _ := ⟨rfl, rfl, fun _ => rfl, fun _ => rfl⟩

/-- One more call.  A node that is live at both ends was live in between. -/
theorem Routed.After.step [Inhabited α] {call : TransferCall ω α × G} {answer : TransferAnswer}
    {s'' : Routed ω α G} (h : Routed.After M s s')
    (hstep : transferStep s' call = some (s'', answer))
    (hgetters : GettersKept M s' call answer s'') : Routed.After M s s'' := by
  obtain ⟨⟨w, answer'⟩, hworld, heq⟩ := Option.map_eq_some_iff.mp hstep
  obtain ⟨rfl, rfl⟩ := Prod.mk.inj heq
  have hlater := transferWorld_later hworld
  refine ⟨transferWorld_custody h.custody hworld, h.later.trans hlater, ?_⟩
  intro n hlive hlive''
  obtain ⟨x, hx⟩ := hlive
  have hlt := Nat.lt_of_lt_of_le (Arena.lt_size_of_get? hx) h.later.size_le
  have hlive' : s'.Live n := hlater.was_live n hlt hlive''
  exact (h.alike n ⟨x, hx⟩ hlive').trans (hgetters n hlive' hlive'')

/-- The promise, read off the invariant. -/
theorem Routed.After.busValuesKept (h : Routed.After M s s') (hnull : M.NullIsEmpty)
    (hcustody : Custody s.world.slots s.world.heap) : BusValuesKept M s s' where
  kept j x n i hx hn hlive := by
    obtain ⟨hinput, houtput⟩ := routing_bus hn i
    have hlive₀ : s.Live n := hcustody.live_of_slot ((World.slots_of_get? hx).trans hn)
    have halike := h.alike n hlive₀ hlive
    rw [hinput, houtput]
    exact ⟨keeps_input halike i, keeps_output halike i⟩
  same j x k y n i _ hn _ hn' := by
    obtain ⟨hinput, houtput⟩ := routing_bus hn i
    obtain ⟨hinput', houtput'⟩ := routing_bus hn' i
    exact ⟨hinput'.trans hinput.symm, houtput'.trans houtput.symm⟩
  one_owner k k' n := h.custody.exclusive k k' n
  empty k y i _ hn := by
    obtain ⟨hinput, houtput⟩ := routing_bus hn i
    rw [hinput, houtput]
    exact leadsNowhere_of_null hnull s'.graph i

end Runs

/-- From any point of a run to any later one, buses keep their values. -/
theorem bus_values_kept [Inhabited α] {M : NodeGraph G} (hnull : M.NullIsEmpty) {g : G}
    {before after : List (TransferCall ω α × G)} {s s' : Routed ω α G}
    {answers answers' : List TransferAnswer}
    (hbefore : run transferStep ⟨World.empty, g⟩ before = some (s, answers))
    (hafter : run transferStep s after = some (s', answers'))
    (hgetters : Along transferStep (GettersKept M) s after) : BusValuesKept M s s' := by
  have hempty : Custody (World.empty : World ω α).slots (World.empty : World ω α).heap :=
    Custody.empty fun i => by simp [World.slots, World.empty]
  have hkeep : ∀ (s : Routed ω α G) call answer s', Custody s.world.slots s.world.heap →
      transferStep s call = some (s', answer) → Custody s'.world.slots s'.world.heap := by
    intro s call answer s' h hstep
    obtain ⟨⟨w, answer'⟩, hworld, heq⟩ := Option.map_eq_some_iff.mp hstep
    obtain ⟨rfl, rfl⟩ := Prod.mk.inj heq
    exact transferWorld_custody h hworld
  have hcustody : Custody s.world.slots s.world.heap := run_invariant hkeep hempty hbefore
  have hlater : Routed.After M s s' :=
    run_invariant_of_along (fun _ _ _ _ h hstep hkept => h.step hstep hkept)
      (Routed.After.refl hcustody) hgetters hafter
  exact hlater.busValuesKept hnull hcustody

/-- A node that is moved, handed out and taken back by another wrapper, and one
that is destroyed with its wrapper. -/
theorem bus_values_moved :
    let g : OutputBus → Option InputBus := fun _ => none
    let s : Routed CResource ℕ (OutputBus → Option InputBus) :=
      ⟨⟨⟨[some ⟨some 0⟩, some ⟨some 1⟩]⟩, ⟨⟨[some 0, some 0]⟩,
        [.new 0, .adopt 0, .init 0 .success, .new 1, .adopt 1, .init 1 .success]⟩⟩, g⟩
    let after : List (TransferCall CResource ℕ × (OutputBus → Option InputBus)) :=
      [(.moveConstruct 0, g), (.release 2, g), (.reset 1 (some 0), g)]
    ∃ s' answers, run transferStep s after = some (s', answers) ∧
      s'.world.slots 0 = none ∧ s'.world.slots 1 = some 0 ∧ s'.world.slots 2 = none ∧
      BusValuesKept sampleGraph s s' := by
  intro g s after
  let ok : MaInit ℕ := fun x => (.success, x)
  have hnull : sampleGraph.NullIsEmpty :=
    ⟨fun _ => rfl, fun _ => rfl, fun _ _ => rfl, fun _ _ => rfl⟩
  have hgetters : Along transferStep (GettersKept sampleGraph) s after :=
    along_of_invariant (fun _ _ _ _ _ _ => ⟨fun _ _ _ => ⟨rfl, rfl, fun _ => rfl, fun _ => rfl⟩,
      trivial⟩) after trivial
  have hbefore : run transferStep (⟨World.empty, g⟩ : Routed CResource ℕ _)
      [(.construct ⟨none⟩, g), (.init 0 ok, g), (.construct ⟨none⟩, g), (.init 1 ok, g)] =
        some (s, [.done, .initialised true, .done, .initialised true]) := rfl
  exact ⟨_, _, rfl, rfl, rfl, rfl, bus_values_kept hnull hbefore rfl hgetters⟩

end MiniaudioCpp
