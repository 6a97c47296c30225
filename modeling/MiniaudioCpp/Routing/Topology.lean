import MiniaudioCpp.Routing.BusValues

/-!
# The topology of a node

`NodeTopology` asks miniaudio how many buses a node has and how many channels
each of them, and answers for an empty wrapper itself.  What a bus says of itself,
and what `CanAttachTo` makes of two of them, is all in these answers.
-/

namespace MiniaudioCpp

variable {G : Type*}

/-- `NodeTopology`, by what `get` answers on the node it is part of. -/
structure NodeTopology where
  get : Option Pointer
  deriving DecidableEq, Repr

namespace NodeTopology

variable (M : NodeGraph G) (g : G)

/-- `NodeTopology::GetNumInputBusses`. -/
def GetNumInputBusses (self : NodeTopology) : UInt32 :=
  match self.get with
  | some p => M.ma_node_get_input_bus_count g (some p)
  | none => 0

/-- `NodeTopology::GetNumOutputBusses`. -/
def GetNumOutputBusses (self : NodeTopology) : UInt32 :=
  match self.get with
  | some p => M.ma_node_get_output_bus_count g (some p)
  | none => 0

/-- `NodeTopology::GetNumInputChannels`. -/
def GetNumInputChannels (self : NodeTopology) (busIndex : UInt32) : UInt32 :=
  match self.get with
  | some p => M.ma_node_get_input_channels g (some p) busIndex
  | none => 0

/-- `NodeTopology::GetNumOutputChannels`. -/
def GetNumOutputChannels (self : NodeTopology) (busIndex : UInt32) : UInt32 :=
  match self.get with
  | some p => M.ma_node_get_output_channels g (some p) busIndex
  | none => 0

end NodeTopology

/-- The topology that a `NodeRouting` always has. -/
def NodeRouting.toNodeTopology (self : NodeRouting) : NodeTopology := ⟨self.get⟩

/-! ## Buses -/

namespace NodeRouting

variable {M : NodeGraph G} {g : G} (self : NodeRouting)

/-- The buses that exist are those that are counted. -/
theorem isValid_inputBus (i : UInt32) :
    (self.InputBus i).IsValid M g = decide (i < self.toNodeTopology.GetNumInputBusses M g) := by
  obtain ⟨node⟩ := self
  cases node with
  | none => exact (decide_eq_false UInt32.not_lt_zero).symm
  | some p => exact decide_eq_decide.mpr Iff.rfl

theorem isValid_outputBus (i : UInt32) :
    (self.OutputBus i).IsValid M g = decide (i < self.toNodeTopology.GetNumOutputBusses M g) := by
  obtain ⟨node⟩ := self
  cases node with
  | none => exact (decide_eq_false UInt32.not_lt_zero).symm
  | some p => exact decide_eq_decide.mpr Iff.rfl

/-- A bus has the channels that its node reports for it. -/
theorem getNumChannels_inputBus (hnull : M.NullIsEmpty) (i : UInt32) :
    (self.InputBus i).GetNumChannels M g = self.toNodeTopology.GetNumInputChannels M g i := by
  obtain ⟨node⟩ := self
  cases node with
  | none => exact hnull.input_channels g i
  | some p => rfl

theorem getNumChannels_outputBus (hnull : M.NullIsEmpty) (i : UInt32) :
    (self.OutputBus i).GetNumChannels M g = self.toNodeTopology.GetNumOutputChannels M g i := by
  obtain ⟨node⟩ := self
  cases node with
  | none => exact hnull.output_channels g i
  | some p => rfl

@[simp] theorem node_outputBus (i : UInt32) : (self.OutputBus i).Node = self.get := by
  obtain ⟨node⟩ := self
  cases node <;> rfl

@[simp] theorem node_of_cResource (node : Option Pointer) (i : UInt32) :
    (BusIndex.Of i (.cResource node) : MiniaudioCpp.InputBus).Node = node := by
  cases node <;> rfl

/-- The topologies of the two nodes decide what can be attached. -/
theorem canAttachTo_cResource (hnull : M.NullIsEmpty) (target : NodeRouting) (o i : UInt32) :
    self.CanAttachTo M g o (.cResource target.get) i =
      let channels := self.toNodeTopology.GetNumOutputChannels M g o
      (channels != 0 && channels == target.toNodeTopology.GetNumInputChannels M g i &&
        self.get != target.get) := by
  have htarget : (BusIndex.Of i (.cResource target.get) : MiniaudioCpp.InputBus) =
      target.InputBus i := rfl
  rw [CanAttachTo, htarget, OutputBus.CanAttachTo, self.getNumChannels_outputBus hnull,
    target.getNumChannels_inputBus hnull, self.node_outputBus, ← htarget, node_of_cResource]

end NodeRouting

end MiniaudioCpp
