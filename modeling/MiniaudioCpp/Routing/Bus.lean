import MiniaudioCpp.CResource.Heap
import MiniaudioCpp.Miniaudio.Result

/-!
# Buses and the ways to attach them

A `Bus` is the address of a node, which may be null, and an index, which may be
out of range.  `OutputBus::AttachTo` never asks `IsValid`: it goes by the
channel counts that miniaudio answers.

miniaudio's node graph is a parameter, over its states `G`.
-/

namespace MiniaudioCpp

variable {G : Type*}

/-- The functions of miniaudio on a node graph; the node is an `ma_node_base*`. -/
structure NodeGraph (G : Type*) where
  ma_node_get_input_bus_count : G → Option Pointer → UInt32
  ma_node_get_output_bus_count : G → Option Pointer → UInt32
  ma_node_get_input_channels : G → Option Pointer → UInt32 → UInt32
  ma_node_get_output_channels : G → Option Pointer → UInt32 → UInt32
  ma_node_attach_output_bus :
    Option Pointer → UInt32 → Option Pointer → UInt32 → G → MaResult × G

/-! ## The bus -/

/-- `Bus<IsInput>`. -/
structure Bus (IsInput : Bool) where
  Node : Option Pointer
  Index : UInt32
  deriving DecidableEq, Repr

abbrev InputBus := Bus true
abbrev OutputBus := Bus false

/-- `NodeIO`. -/
structure NodeIO where
  Input : InputBus
  Output : OutputBus
  deriving DecidableEq, Repr

/-- What a bus can be taken of: a `CResource`, by what its `get` answers, or one
of miniaudio's own node types. -/
inductive BusOwner
  | cResource (get : Option Pointer)
  | maNode (node : Option Pointer)
  deriving DecidableEq, Repr

/-- `BusImpl`. -/
structure BusImpl where
  Index : UInt32
  Owner : BusOwner
  deriving DecidableEq, Repr

/-- `BusImpl::GetMaOwnerImpl`.  The `ma_node_base` is the first member of each
node type, so a null node is a null base. -/
def BusImpl.GetMaOwnerImpl (self : BusImpl) : Option Pointer :=
  match self.Owner with
  | .cResource get =>
      match get with
      | none => none
      | some ptr => some ptr
  | .maNode node => node

/-- `Bus(const Traits::BusBase& bus)`. -/
def Bus.ofBase {IsInput : Bool} (bus : BusImpl) : Bus IsInput :=
  ⟨bus.GetMaOwnerImpl, bus.Index⟩

/-- `BusIndex::Of`. -/
def BusIndex.Of {IsInput : Bool} (Index : UInt32) (owner : BusOwner) : Bus IsInput :=
  Bus.ofBase ⟨Index, owner⟩

namespace Bus

variable {IsInput : Bool} (M : NodeGraph G) (g : G)

/-- `Bus::GetNumChannels`. -/
def GetNumChannels (self : Bus IsInput) : UInt32 :=
  if IsInput then M.ma_node_get_input_channels g self.Node self.Index
  else M.ma_node_get_output_channels g self.Node self.Index

/-- `Bus::IsValid`. -/
def IsValid (self : Bus IsInput) : Bool :=
  if IsInput then self.Node.isSome && self.Index < M.ma_node_get_input_bus_count g self.Node
  else self.Node.isSome && self.Index < M.ma_node_get_output_bus_count g self.Node

end Bus

/-! ## Attaching -/

namespace OutputBus

variable (M : NodeGraph G)

/-- `OutputBus::CanAttachTo(InputBus)`. -/
def CanAttachTo (g : G) (self : OutputBus) (target : InputBus) : Bool :=
  let numChannels := self.GetNumChannels M g
  numChannels != 0 && numChannels == target.GetNumChannels M g && self.Node != target.Node

/-- `OutputBus::CanAttachTo(const NodeIO&)`. -/
def CanAttachToIO (g : G) (self : OutputBus) (other : NodeIO) : Bool :=
  CanAttachTo M g self other.Input

/-- `OutputBus::AttachTo(InputBus)`. -/
def AttachTo (self : OutputBus) (target : InputBus) (g : G) : Bool × G :=
  if CanAttachTo M g self target then
    let (result, g) :=
      M.ma_node_attach_output_bus self.Node self.Index target.Node target.Index g
    (result = .success, g)
  else (false, g)

/-- `OutputBus::AttachTo(const NodeIO&)`. -/
def AttachToIO (self : OutputBus) (other : NodeIO) (g : G) : Bool × G :=
  AttachTo M self other.Input g

end OutputBus

namespace NodeIO

variable (M : NodeGraph G)

/-- `NodeIO::AttachTo(InputBus)`. -/
def AttachTo (self : NodeIO) (input : InputBus) (g : G) : Bool × G :=
  OutputBus.AttachTo M self.Output input g

/-- `NodeIO::AttachTo(NodeIO)`. -/
def AttachToIO (self other : NodeIO) (g : G) : Bool × G :=
  OutputBus.AttachTo M self.Output other.Input g

end NodeIO

/-- `NodeRouting`, by what `get` answers on the node it is part of. -/
structure NodeRouting where
  get : Option Pointer
  deriving DecidableEq, Repr

namespace NodeRouting

variable (M : NodeGraph G)

/-- `NodeRouting::OutputBus`. -/
def OutputBus (self : NodeRouting) (busIndex : UInt32) : OutputBus :=
  Bus.ofBase ⟨busIndex, .cResource self.get⟩

/-- `NodeRouting::InputBus`. -/
def InputBus (self : NodeRouting) (busIndex : UInt32) : InputBus :=
  Bus.ofBase ⟨busIndex, .cResource self.get⟩

/-- `NodeRouting::CanAttachTo`, for either kind of target. -/
def CanAttachTo (g : G) (self : NodeRouting) (outputBus : UInt32) (target : BusOwner)
    (targetInputBus : UInt32) : Bool :=
  OutputBus.CanAttachTo M g (self.OutputBus outputBus) (BusIndex.Of targetInputBus target)

/-- `NodeRouting::AttachTo`, for either kind of target. -/
def AttachTo (self : NodeRouting) (outputBus : UInt32) (target : BusOwner)
    (targetInputBus : UInt32) (g : G) : Bool × G :=
  OutputBus.AttachTo M (self.OutputBus outputBus) (BusIndex.Of targetInputBus target) g

end NodeRouting

end MiniaudioCpp
