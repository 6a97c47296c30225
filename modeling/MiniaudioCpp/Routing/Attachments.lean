import MiniaudioCpp.Foundation.Machine
import MiniaudioCpp.Foundation.Repoint
import MiniaudioCpp.Routing.Bus

/-!
# The attachments of a node graph

`CanAttachTo` compares channel counts and node addresses only.  A bus exists
exactly when miniaudio answers a channel count other than zero for it, so the
comparison covers null nodes and indices out of range on either side
(`canAttachTo_iff`).

Every run of attach calls, by any route, accepts exactly the pairs of buses that
can be joined, and leaves a graph in which each output bus has at most one
target and each connection is such a pair (`routing_keeps_well_formed`).
-/

namespace MiniaudioCpp

open Foundation

variable {G : Type*}

/-! ## The machine -/

/-- An attach call, by one of the five routes. -/
inductive AttachCall
  | bus (self : OutputBus) (target : InputBus)
  | busToNode (self : OutputBus) (other : NodeIO)
  | node (self : NodeIO) (input : InputBus)
  | nodeToNode (self other : NodeIO)
  | routing (self : NodeRouting) (outputBus : UInt32) (target : BusOwner) (targetInputBus : UInt32)

namespace AttachCall

/-- The output bus that a call is about. -/
def output : AttachCall → OutputBus
  | .bus self _ => self
  | .busToNode self _ => self
  | .node self _ => self.Output
  | .nodeToNode self _ => self.Output
  | .routing self outputBus _ _ => self.OutputBus outputBus

/-- The input bus that a call is about. -/
def input : AttachCall → InputBus
  | .bus _ target => target
  | .busToNode _ other => other.Input
  | .node _ input => input
  | .nodeToNode _ other => other.Input
  | .routing _ _ target targetInputBus => BusIndex.Of targetInputBus target

/-- The `CanAttachTo` that goes with the call; for a `NodeIO`, which has none of
its own, that of its output bus. -/
def CanAttachTo (M : NodeGraph G) (g : G) : AttachCall → Bool
  | .bus self target => OutputBus.CanAttachTo M g self target
  | .busToNode self other => OutputBus.CanAttachToIO M g self other
  | .node self input => OutputBus.CanAttachTo M g self.Output input
  | .nodeToNode self other => OutputBus.CanAttachToIO M g self.Output other
  | .routing self outputBus target targetInputBus =>
      self.CanAttachTo M g outputBus target targetInputBus

/-- The call. -/
def AttachTo (M : NodeGraph G) (g : G) : AttachCall → Bool × G
  | .bus self target => OutputBus.AttachTo M self target g
  | .busToNode self other => OutputBus.AttachToIO M self other g
  | .node self input => self.AttachTo M input g
  | .nodeToNode self other => self.AttachToIO M other g
  | .routing self outputBus target targetInputBus =>
      self.AttachTo M outputBus target targetInputBus g

end AttachCall

/-- One call. -/
def attachStep (M : NodeGraph G) (g : G) (call : AttachCall) : Option (G × Bool) :=
  let (answer, g) := call.AttachTo M g
  some (g, answer)

/-! ## What is asked of the graph -/

/-- The two buses exist, have equal channel counts and are on different nodes. -/
structure Joinable (M : NodeGraph G) (g : G) (output : OutputBus) (input : InputBus) : Prop where
  output_valid : output.IsValid M g = true
  input_valid : input.IsValid M g = true
  channels : output.GetNumChannels M g = input.GetNumChannels M g
  nodes : output.Node ≠ input.Node

/-- What miniaudio documents about a node graph.  `Attached g output input` is
that the output bus feeds the input bus. -/
structure NodeGraph.Documented (M : NodeGraph G) (Attached : G → OutputBus → InputBus → Prop) :
    Prop where
  /-- Channels are zero for a null node and for an index out of range, and
  positive for a bus that exists. -/
  input_channels : ∀ g node index, M.ma_node_get_input_channels g node index ≠ 0 ↔
    node.isSome = true ∧ index < M.ma_node_get_input_bus_count g node
  output_channels : ∀ g node index, M.ma_node_get_output_channels g node index ≠ 0 ↔
    node.isSome = true ∧ index < M.ma_node_get_output_bus_count g node
  /-- Two buses that can be joined are. -/
  attach_success : ∀ g output input, Joinable M g output input →
    (M.ma_node_attach_output_bus output.Node output.Index input.Node input.Index g).1 = .success
  /-- The output bus then feeds that input bus and no other. -/
  attach_repoints : ∀ g output input, Joinable M g output input →
    Repoints (Attached g)
      (Attached (M.ma_node_attach_output_bus output.Node output.Index input.Node input.Index g).2)
      output input
  /-- Attaching leaves the buses and their channels as they are. -/
  attach_buses : ∀ g node index node' index',
    let g' := (M.ma_node_attach_output_bus node index node' index' g).2
    M.ma_node_get_input_bus_count g' = M.ma_node_get_input_bus_count g ∧
      M.ma_node_get_output_bus_count g' = M.ma_node_get_output_bus_count g ∧
      M.ma_node_get_input_channels g' = M.ma_node_get_input_channels g ∧
      M.ma_node_get_output_channels g' = M.ma_node_get_output_channels g

/-- Each output bus has at most one target, and every connection joins two buses
that can be joined. -/
structure WellRouted (M : NodeGraph G) (Attached : G → OutputBus → InputBus → Prop) (g : G) :
    Prop where
  unique : Relator.RightUnique (Attached g)
  joins : ∀ output input, Attached g output input → Joinable M g output input

/-- What one call does. -/
structure Routes (M : NodeGraph G) (Attached : G → OutputBus → InputBus → Prop) (g : G)
    (call : AttachCall) (answer : Bool) (g' : G) : Prop where
  accepts : answer = true ↔ Joinable M g call.output call.input
  canAttach : answer = call.CanAttachTo M g
  attached : answer = true → Attached g' call.output call.input
  others : ∀ output input, output ≠ call.output →
    (Attached g' output input ↔ Attached g output input)
  rejected : answer = false → ∀ output input, Attached g' output input ↔ Attached g output input
  /-- The graph is left well formed. -/
  wellRouted : WellRouted M Attached g'

/-! ## `CanAttachTo` -/

section Steps

variable {M : NodeGraph G} {Attached : G → OutputBus → InputBus → Prop} {g g' : G}

/-- A bus has channels exactly when it exists. -/
theorem getNumChannels_ne_zero (hdoc : M.Documented Attached) {IsInput : Bool} (bus : Bus IsInput) :
    bus.GetNumChannels M g ≠ 0 ↔ bus.IsValid M g = true := by
  cases IsInput with
  | true =>
      unfold Bus.GetNumChannels Bus.IsValid
      rw [if_pos rfl, if_pos rfl, hdoc.input_channels, Bool.and_eq_true, decide_eq_true_iff]
  | false =>
      unfold Bus.GetNumChannels Bus.IsValid
      rw [if_neg Bool.false_ne_true, if_neg Bool.false_ne_true, hdoc.output_channels,
        Bool.and_eq_true, decide_eq_true_iff]

/-- `CanAttachTo` needs no `IsValid`. -/
theorem canAttachTo_iff (hdoc : M.Documented Attached) (output : OutputBus) (input : InputBus) :
    OutputBus.CanAttachTo M g output input = true ↔ Joinable M g output input := by
  unfold OutputBus.CanAttachTo
  simp only [Bool.and_eq_true, bne_iff_ne, beq_iff_eq]
  constructor
  · rintro ⟨⟨hpositive, hchannels⟩, hnodes⟩
    have hinput : input.GetNumChannels M g ≠ 0 := hchannels ▸ hpositive
    exact ⟨(getNumChannels_ne_zero hdoc output).mp hpositive,
      (getNumChannels_ne_zero hdoc input).mp hinput, hchannels, hnodes⟩
  · intro h
    exact ⟨⟨(getNumChannels_ne_zero hdoc output).mpr h.output_valid, h.channels⟩, h.nodes⟩

/-- Every route goes through `OutputBus::CanAttachTo`. -/
theorem AttachCall.canAttachTo_eq (call : AttachCall) :
    call.CanAttachTo M g = OutputBus.CanAttachTo M g call.output call.input := by
  cases call <;> rfl

/-- Every route goes through `OutputBus::AttachTo`. -/
theorem AttachCall.attachTo_eq (call : AttachCall) :
    call.AttachTo M g = OutputBus.AttachTo M call.output call.input g := by
  cases call <;> rfl

/-! ## `AttachTo` -/

/-- Buses that can be joined are joined. -/
theorem attachTo_of_joinable (hdoc : M.Documented Attached) {output : OutputBus}
    {input : InputBus} (h : Joinable M g output input) :
    OutputBus.AttachTo M output input g = (true,
      (M.ma_node_attach_output_bus output.Node output.Index input.Node input.Index g).2) := by
  unfold OutputBus.AttachTo
  rw [if_pos ((canAttachTo_iff hdoc output input).mpr h)]
  simp only [hdoc.attach_success g output input h, decide_true]

/-- For others miniaudio is not called. -/
theorem attachTo_of_not_joinable (hdoc : M.Documented Attached) {output : OutputBus}
    {input : InputBus} (h : ¬ Joinable M g output input) :
    OutputBus.AttachTo M output input g = (false, g) := by
  unfold OutputBus.AttachTo
  exact if_neg fun hcan => h ((canAttachTo_iff hdoc output input).mp hcan)

/-- Only the buses and the channels of a graph decide what can be joined. -/
theorem Joinable.attach (hdoc : M.Documented Attached) {output : OutputBus} {input : InputBus}
    (h : Joinable M g output input) (node : Option Pointer) (index : UInt32)
    (node' : Option Pointer) (index' : UInt32) :
    Joinable M (M.ma_node_attach_output_bus node index node' index' g).2 output input := by
  obtain ⟨hin, hout, hinChannels, houtChannels⟩ := hdoc.attach_buses g node index node' index'
  refine ⟨?_, ?_, ?_, h.nodes⟩
  · simpa only [Bus.IsValid, hout, hin] using h.output_valid
  · simpa only [Bus.IsValid, hout, hin] using h.input_valid
  · simpa only [Bus.GetNumChannels, hinChannels, houtChannels] using h.channels

/-- One call, on a well formed graph. -/
theorem routes_attachStep (hdoc : M.Documented Attached) (hg : WellRouted M Attached g)
    {call : AttachCall} {answer : Bool} (hstep : attachStep M g call = some (g', answer)) :
    Routes M Attached g call answer g' := by
  simp only [attachStep, call.attachTo_eq, Option.some.injEq, Prod.mk.injEq] at hstep
  have hcan := canAttachTo_iff (g := g) hdoc call.output call.input
  by_cases h : Joinable M g call.output call.input
  · rw [attachTo_of_joinable hdoc h] at hstep
    obtain ⟨rfl, rfl⟩ := hstep
    have hrepoints := hdoc.attach_repoints g call.output call.input h
    -- the old connections are joinable in the new graph too
    have hjoins : ∀ output input, Attached g output input → Joinable M _ output input :=
      fun output input hattached => (hg.joins output input hattached).attach hdoc
        call.output.Node call.output.Index call.input.Node call.input.Index
    exact {
      accepts := iff_of_true rfl h
      canAttach := (call.canAttachTo_eq.trans (hcan.mpr h)).symm
      attached := fun _ => hrepoints.target
      others := fun output input hne => hrepoints.of_ne hne input
      rejected := fun hfalse => absurd hfalse (by simp)
      wellRouted := ⟨hrepoints.rightUnique hg.unique,
        hrepoints.forall_of hjoins (h.attach hdoc _ _ _ _)⟩ }
  · rw [attachTo_of_not_joinable hdoc h] at hstep
    obtain ⟨rfl, rfl⟩ := hstep
    exact {
      accepts := iff_of_false (by simp) h
      canAttach := by
        rw [call.canAttachTo_eq, eq_comm, Bool.eq_false_iff]
        exact fun hcan' => h (hcan.mp hcan')
      attached := fun htrue => absurd htrue (by simp)
      others := fun _ _ _ => Iff.rfl
      rejected := fun _ _ _ => Iff.rfl
      wellRouted := hg }

end Steps

/-! ## Runs -/

/-- Every run of attach calls goes through, and each call of it answers whether
the two buses can be joined, joins them if so, leaves all other attachments, and
leaves the graph well formed. -/
theorem routing_keeps_well_formed {M : NodeGraph G}
    {Attached : G → OutputBus → InputBus → Prop} (hdoc : M.Documented Attached) {g : G}
    (hg : WellRouted M Attached g) (calls : List AttachCall) :
    (∃ last, run (attachStep M) g calls = some last) ∧
      Along (attachStep M) (Routes M Attached) g calls := by
  constructor
  · clear hg
    induction calls generalizing g with
    | nil => exact ⟨_, run_nil g⟩
    | cons call calls ih =>
        obtain ⟨last, hlast⟩ := ih (g := (call.AttachTo M g).2)
        exact ⟨_, run_cons_eq_some.mpr ⟨_, _, _, rfl, hlast, rfl⟩⟩
  · refine along_of_invariant ?_ calls hg
    intro g call answer g' hg hstep
    have hroutes := routes_attachStep hdoc hg hstep
    exact ⟨hroutes, hroutes.wellRouted⟩

/-- A graph without attachments is well formed. -/
theorem wellRouted_of_unattached {M : NodeGraph G} {Attached : G → OutputBus → InputBus → Prop}
    {g : G} (h : ∀ output input, ¬ Attached g output input) : WellRouted M Attached g where
  unique _ _ _ hattached := absurd hattached (h _ _)
  joins output input hattached := absurd hattached (h output input)

/-! ## An instance -/

/-- A graph in which each node has one bus of either kind, of one channel at node
2 and of two channels elsewhere; the state is the target of each output bus. -/
def sampleGraph : NodeGraph (OutputBus → Option InputBus) where
  ma_node_get_input_bus_count _ node := if node.isSome then 1 else 0
  ma_node_get_output_bus_count _ node := if node.isSome then 1 else 0
  ma_node_get_input_channels _ := channels
  ma_node_get_output_channels _ := channels
  ma_node_attach_output_bus node index node' index' g :=
    if channels node index ≠ 0 ∧ channels node index = channels node' index' ∧ node ≠ node' then
      (.success, fun bus => if bus = ⟨node, index⟩ then some ⟨node', index'⟩ else g bus)
    else (.invalidArgs, g)
where
  channels (node : Option Pointer) (index : UInt32) : UInt32 :=
    if node.isSome && index < 1 then (if node = some 2 then 1 else 2) else 0

theorem sampleGraph_documented : sampleGraph.Documented fun g output input => g output = some input := by
  have hchannels : ∀ node index, sampleGraph.channels node index ≠ 0 ↔
      node.isSome = true ∧ index < (if node.isSome then 1 else 0) := by
    intro node index
    unfold sampleGraph.channels
    cases node with
    | none => simp
    | some node => by_cases hindex : index < 1 <;> by_cases hnode : node = 2 <;> simp_all
  have hattach : ∀ g output input, Joinable sampleGraph g output input →
      sampleGraph.channels output.Node output.Index ≠ 0 ∧
        sampleGraph.channels output.Node output.Index =
          sampleGraph.channels input.Node input.Index ∧ output.Node ≠ input.Node := by
    intro g output input h
    have hvalid := h.output_valid
    simp only [Bus.IsValid, Bool.false_eq_true, if_false, Bool.and_eq_true,
      decide_eq_true_iff] at hvalid
    exact ⟨(hchannels _ _).mpr hvalid, h.channels, h.nodes⟩
  exact {
    input_channels := fun _ => hchannels
    output_channels := fun _ => hchannels
    attach_success := fun g output input h => by
      simp only [sampleGraph]
      rw [if_pos (hattach g output input h)]
    attach_repoints := fun g output input h => by
      simp only [sampleGraph]
      rw [if_pos (hattach g output input h)]
      exact repoints_update g output input
    attach_buses := fun _ _ _ _ _ => ⟨rfl, rfl, rfl, rfl⟩ }

/-- An attachment, one that replaces it by another route, and three that are
turned down: to the same node, to a null node, and to a bus of one channel. -/
theorem routing_keeps_well_formed_reattached :
    let calls : List AttachCall := [.bus ⟨some 0, 0⟩ ⟨some 1, 0⟩,
      .routing ⟨some 0⟩ 0 (.maNode (some 3)) 0, .node ⟨⟨some 0, 0⟩, ⟨some 0, 0⟩⟩ ⟨some 0, 0⟩,
      .busToNode ⟨some 0, 0⟩ ⟨⟨none, 0⟩, ⟨none, 0⟩⟩, .bus ⟨some 0, 0⟩ ⟨some 2, 0⟩]
    (∃ last, run (attachStep sampleGraph) (fun _ => none) calls = some last) ∧
      Along (attachStep sampleGraph)
        (Routes sampleGraph fun g output input => g output = some input) (fun _ => none) calls :=
  routing_keeps_well_formed sampleGraph_documented
    (wellRouted_of_unattached fun _ _ => by simp) _

end MiniaudioCpp
