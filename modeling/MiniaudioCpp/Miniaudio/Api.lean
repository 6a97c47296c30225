import Mathlib.Algebra.Ring.Nat
import MiniaudioCpp.Miniaudio.Result

/-!
# The part of miniaudio behind the wrappers

The configurations that the wrappers fill in, with the fields they set, and the
functions they pass them to.  The functions are not part of this library, so
they are a parameter: `Miniaudio ε α F` over the elements `α` that they
initialise and a type `F` of cutoff frequencies.  What else their outcome
depends on is `ε`; an initialisation gets it anew at each call, and is free to
succeed once and fail the next time.
-/

namespace MiniaudioCpp

/-- What the wrappers read of a live `ma_engine`: the address of its node graph,
and the answer of `ma_engine_get_sample_rate`. -/
structure MaEngine where
  nodeGraph : ℕ
  sampleRate : UInt32
  deriving DecidableEq, Repr

/-- `ma_engine_config`. -/
structure MaEngineConfig where
  channels : UInt32
  /-- Whether `pLog` is the global `g_maLog`. -/
  pLog : Bool
  noDevice : Bool
  pResourceManagerVFS : Option ℕ

/-- `ma_node_config`, with the two bus counts and the flags of its `vtable`. -/
structure MaNodeConfig where
  vtableInputBusCount : UInt32
  vtableOutputBusCount : UInt32
  vtableFlags : UInt32
  inputBusCount : UInt32
  outputBusCount : UInt32
  pInputChannels : List UInt32
  pOutputChannels : List UInt32
  /-- `initialState`: started, or stopped. -/
  started : Bool

/-- `ma_splitter_node_config`. -/
structure MaSplitterNodeConfig where
  channels : UInt32
  outputBusCount : UInt32

/-- `ma_engine_node_config` of a group. -/
structure MaEngineNodeConfig where
  pEngine : MaEngine
  flags : UInt32
  channelsIn : UInt32
  channelsOut : UInt32
  volumeSmoothTimeInPCMFrames : UInt32
  isPitchDisabled : Bool

/-- `ma_sound_config`; `pInitialAttachment` and `pDoneFence` are null. -/
structure MaSoundConfig where
  pFilePath : Option String
  flags : UInt32
  channelsOut : UInt32

/-- `ma_lpf_node_config`, `ma_hpf_node_config`. -/
structure MaFilterNodeConfig (F : Type*) where
  channels : UInt32
  sampleRate : UInt32
  cutoffFrequency : F
  order : UInt32

/-- `ma_lpf_config`, `ma_hpf_config`. -/
structure MaFilterConfig (F : Type*) where
  format : UInt32
  channels : UInt32
  sampleRate : UInt32
  cutoffFrequency : F
  order : UInt32

/-- A function that initialises the element it is given. -/
abbrev MaInit (α : Type*) := α → MaResult × α

/-- The functions and constants of miniaudio that the wrappers use. -/
structure Miniaudio (ε α F : Type*) where
  MA_NODE_FLAG_PASSTHROUGH : UInt32
  MA_NODE_BUS_COUNT_UNKNOWN : UInt32
  MA_SOUND_FLAG_NO_SPATIALIZATION : UInt32
  MA_SOUND_FLAG_NO_DEFAULT_ATTACHMENT : UInt32
  MA_SOUND_SOURCE_CHANNEL_COUNT : UInt32
  MA_MAX_FILTER_ORDER : UInt32
  one_le_MA_MAX_FILTER_ORDER : 1 ≤ MA_MAX_FILTER_ORDER
  ma_engine_init : ε → MaEngineConfig → MaInit α
  /-- The node graph is null where the engine is. -/
  ma_node_init : ε → Option ℕ → MaNodeConfig → MaInit α
  ma_splitter_node_init : ε → ℕ → MaSplitterNodeConfig → MaInit α
  ma_engine_node_init : ε → MaEngineNodeConfig → MaInit α
  ma_sound_init_from_file : ε → MaEngine → Option String → UInt32 → MaInit α
  ma_sound_init_ex : ε → MaEngine → MaSoundConfig → MaInit α
  ma_sound_init_from_data_source : ε → MaEngine → ℕ → UInt32 → MaInit α
  ma_lpf_node_init : ε → ℕ → MaFilterNodeConfig F → MaInit α
  ma_hpf_node_init : ε → ℕ → MaFilterNodeConfig F → MaInit α
  ma_lpf_node_reinit : MaFilterConfig F → MaInit α
  ma_hpf_node_reinit : MaFilterConfig F → MaInit α
  /-- `format`, `channels` and `sampleRate` of the filter in a node. -/
  lpf : α → UInt32 × UInt32 × UInt32
  hpf : α → UInt32 × UInt32 × UInt32

/-! ## An instance -/

/-- An element that keeps what a filter was configured with. -/
structure SampleNode where
  channels : UInt32 := 0
  sampleRate : UInt32 := 0
  cutoffFrequency : ℕ := 0
  order : UInt32 := 0
  deriving DecidableEq, Repr, Inhabited

namespace SampleNode

/-- Configure a filter: channels are needed, and `env` decides the rest. -/
def init (env : MaResult) (config : MaFilterNodeConfig ℕ) (x : SampleNode) :
    MaResult × SampleNode :=
  if config.channels = 0 then (.invalidArgs, x)
  else if env = .success then
    (.success, ⟨config.channels, config.sampleRate, config.cutoffFrequency, config.order⟩)
  else (env, x)

/-- Configure a filter again; the format (0, the only one here), the channels and
the order cannot change. -/
def reinit (config : MaFilterConfig ℕ) (x : SampleNode) : MaResult × SampleNode :=
  if config.format = 0 ∧ config.channels = x.channels ∧ config.order = x.order then
    (.success,
      { x with sampleRate := config.sampleRate, cutoffFrequency := config.cutoffFrequency })
  else (.invalidArgs, x)

end SampleNode

/-- A miniaudio whose initialisations answer what `ε` tells them to. -/
def Miniaudio.sample : Miniaudio MaResult SampleNode ℕ where
  MA_NODE_FLAG_PASSTHROUGH := 1
  MA_NODE_BUS_COUNT_UNKNOWN := 255
  MA_SOUND_FLAG_NO_SPATIALIZATION := 0x4000
  MA_SOUND_FLAG_NO_DEFAULT_ATTACHMENT := 0x1000
  MA_SOUND_SOURCE_CHANNEL_COUNT := 0xFFFFFFFF
  MA_MAX_FILTER_ORDER := 8
  one_le_MA_MAX_FILTER_ORDER := by decide
  ma_engine_init env _ x := (env, x)
  ma_node_init env _ _ x := (env, x)
  ma_splitter_node_init env _ _ x := (env, x)
  ma_engine_node_init env _ x := (env, x)
  ma_sound_init_from_file env _ _ _ x := (env, x)
  ma_sound_init_ex env _ _ x := (env, x)
  ma_sound_init_from_data_source env _ _ _ x := (env, x)
  ma_lpf_node_init env _ := SampleNode.init env
  ma_hpf_node_init env _ := SampleNode.init env
  ma_lpf_node_reinit := SampleNode.reinit
  ma_hpf_node_reinit := SampleNode.reinit
  lpf x := (0, x.channels, x.sampleRate)
  hpf x := (0, x.channels, x.sampleRate)

end MiniaudioCpp
