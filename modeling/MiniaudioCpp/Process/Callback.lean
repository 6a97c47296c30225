import MiniaudioCpp.Foundation.Copies
import MiniaudioCpp.Routing.Bus

/-!
# `ProcessCallbackData`

What `TBaseNode::sProcess` hands to the `Process` function of a node: the bus
counts, one buffer per bus, and a frame count for each side.  The buffers are
addresses of samples in one flat memory.

`GetOutputBuffer` takes its frame count from `pFrameCountIn`, as
`GetInputBuffer` does.
-/

namespace MiniaudioCpp

open Foundation

variable {G α : Type*}

/-- `ma_format`. -/
inductive MaFormat
  | unknown
  | u8
  | s16
  | s24
  | s32
  | f32
  deriving DecidableEq, Repr

/-- `choc::buffer::InterleavedView`. -/
structure InterleavedView where
  data : ℕ
  numChannels : UInt32
  numFrames : UInt32
  deriving DecidableEq, Repr

/-- `ProcessCallbackData`; the two frame counts are read through their pointers,
and `ppFramesIn` may be null. -/
structure ProcessCallbackData where
  InputBusCount : UInt32
  OutputBusCount : UInt32
  nodeBase : Option Pointer
  ppFramesIn : Option (UInt32 → ℕ)
  pFrameCountIn : UInt32
  ppFramesOut : UInt32 → ℕ
  pFrameCountOut : UInt32

/-- `TBaseNode::sProcess`, up to the call of `Process`. -/
def TBaseNode.sProcess (M : NodeGraph G) (g : G) (pNode : Option Pointer)
    (ppFramesIn : Option (UInt32 → ℕ)) (pFrameCountIn : UInt32) (ppFramesOut : UInt32 → ℕ)
    (pFrameCountOut : UInt32) : ProcessCallbackData where
  InputBusCount := M.ma_node_get_input_bus_count g pNode
  OutputBusCount := M.ma_node_get_output_bus_count g pNode
  nodeBase := pNode
  ppFramesIn := ppFramesIn
  pFrameCountIn := pFrameCountIn
  ppFramesOut := ppFramesOut
  pFrameCountOut := pFrameCountOut

namespace ProcessCallbackData

variable (M : NodeGraph G) (g : G) (self : ProcessCallbackData)

/-- `InputBusIndex(busIndex).Of(nodeBase)`. -/
def inputBus (busIndex : UInt32) : InputBus := BusIndex.Of busIndex (.maNode self.nodeBase)

/-- `OutputBusIndex(busIndex).Of(nodeBase)`. -/
def outputBus (busIndex : UInt32) : OutputBus := BusIndex.Of busIndex (.maNode self.nodeBase)

/-- `GetInputBuffer`; none where it would go through a null `ppFramesIn`. -/
def GetInputBuffer (busIndex : UInt32) : Option InterleavedView :=
  self.ppFramesIn.map fun ppFramesIn =>
    { data := ppFramesIn busIndex
      numChannels := (self.inputBus busIndex).GetNumChannels M g
      numFrames := self.pFrameCountIn }

/-- `GetOutputBuffer`. -/
def GetOutputBuffer (busIndex : UInt32) : InterleavedView where
  data := self.ppFramesOut busIndex
  numChannels := (self.outputBus busIndex).GetNumChannels M g
  -- the count of the input side
  numFrames := self.pFrameCountIn

/-- The parameters and the effect of `ma_silence_pcm_frames`. -/
abbrev Silence (α : Type*) := ℕ → UInt64 → MaFormat → UInt32 → Memory α → Memory α

/-- `FillOutputBusWithSilence`. -/
def FillOutputBusWithSilence (ma_silence_pcm_frames : Silence α) (outputBusIndex : UInt32)
    (m : Memory α) : Memory α :=
  let outputBuffer := self.GetOutputBuffer M g outputBusIndex
  ma_silence_pcm_frames outputBuffer.data outputBuffer.numFrames.toUInt64 .f32
    outputBuffer.numChannels m

/-- `FillOutputWithSilence`. -/
def FillOutputWithSilence (ma_silence_pcm_frames : Silence α) (m : Memory α) : Memory α :=
  forUpTo self.OutputBusCount
    (fun i m => self.FillOutputBusWithSilence M g ma_silence_pcm_frames i m) m

/-- `sizeof(InputBuffer::Sample)`. -/
def sizeofSample : UInt64 := 4

/-- `CopyInputsToOutputs`; none where a `memcpy` is not defined.  The size is in
bytes, and a cell of the memory is a sample. -/
def CopyInputsToOutputs (m : Memory α) : Option (Memory α) :=
  forUpTo (min self.InputBusCount self.OutputBusCount) (fun i m =>
    m.bind fun m => (self.GetInputBuffer M g i).bind fun inputBuffer =>
      let outputBuffer := self.GetOutputBuffer M g i
      let numFramesToCopy := min inputBuffer.numFrames outputBuffer.numFrames
      let numChannels := min inputBuffer.numChannels outputBuffer.numChannels
      let size := sizeofSample * numFramesToCopy.toUInt64 * numChannels.toUInt64
      m.memcpy outputBuffer.data inputBuffer.data (size.toNat / sizeofSample.toNat)) (some m)

end ProcessCallbackData

end MiniaudioCpp
