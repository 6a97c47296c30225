import MiniaudioCpp.Process.Callback
import MiniaudioCpp.Wrappers.Init

/-!
# `DataSource<T>`

A `DataSource<T>` is a `CResource` that owns an `ma_data_source_base` on the
heap, with a `T` as a member, `mInternalSource`.  `Init` makes the base and
initialises the member.  The callbacks in the vtable get a `void*` and cast it
to `T*`.

A type `T` is given by what its member functions do: `DataSourceType σ μ`, over
its states `σ` and its samples `μ`.
-/

namespace MiniaudioCpp

open Foundation

/-- What `T::Read` does: its answer, the samples it wrote to `pFramesOut`, and
`framesRead`, which was zero. -/
structure ReadOutcome (μ : Type*) where
  answer : Bool
  frames : List μ
  framesRead : UInt64
  deriving DecidableEq, Repr

/-- What `T::GetDataFormat` leaves in its three arguments. -/
structure DataFormat where
  format : MaFormat := .unknown
  numChannels : UInt32 := 0
  sampleRate : UInt32 := 0
  deriving DecidableEq, Repr

/-- The member functions of a data source type.  The optional ones are those
that the concepts ask for: `CHasInit`, `CHasCursor`, `CHasLength`, `CCanLoop`,
`CHasChannelMap`, and the `requires` in `SourceSeek`. -/
structure DataSourceType (σ μ : Type*) where
  Init : Option (σ → σ)
  Read : Bool → UInt64 → σ → ReadOutcome μ × σ
  Seek : Option (UInt64 → σ → Bool × σ)
  GetDataFormat : σ → DataFormat × σ
  GetCursor : Option (σ → UInt64 × σ)
  GetLength : Option (σ → UInt64 × σ)
  SetLooping : Option (Bool → σ → σ)
  GetChannelMap : Option (UInt64 → σ → List UInt8 × σ)

/-- `DataSource<T>`. -/
structure DataSource (σ : Type*) extends CResource where
  mInternalSource : σ

/-- A `DataSource<T>` and the heap its base is on. -/
structure DataSourceState (σ α : Type*) where
  self : DataSource σ
  heap : Heap α

/-- Where a `void*` that miniaudio passes can point: to an element on the heap,
or to the member `mInternalSource`. -/
inductive SourceAddress
  | element (p : Pointer)
  | mInternalSource
  deriving DecidableEq, Repr

variable {σ μ α : Type*}

namespace DataSource

/-- `DataSource::Init`. -/
def Init [Inhabited α] (T : DataSourceType σ μ) (ma_data_source_init : MaInit α)
    (s : DataSourceState σ α) : Bool × DataSourceState σ α :=
  let (result, c, heap) := s.self.toCResource.emplace ma_data_source_init s.heap
  if result ≠ .success then (false, ⟨⟨c, s.self.mInternalSource⟩, heap⟩)
  else
    let mInternalSource :=
      match T.Init with
      | some Init => Init s.self.mInternalSource
      | none => s.self.mInternalSource
    (true, ⟨⟨c, mInternalSource⟩, heap⟩)

/-! ## The object behind a pointer -/

/-- The `T` at an address.  An element on the heap is an `ma_data_source_base`
and nothing more: there is no `T`. -/
def sourceAt (s : DataSourceState σ α) : SourceAddress → Option σ
  | .element _ => none
  | .mInternalSource => some s.self.mInternalSource

/-- The `T` at an address, overwritten. -/
def putSource (s : DataSourceState σ α) (x : σ) : SourceAddress → DataSourceState σ α
  | .element _ => s
  | .mInternalSource => { s with self := { s.self with mInternalSource := x } }

/-- `static_cast<T*>(pDataSource)->f()`; undefined, here `none`, where the
pointer does not point to a `T`. -/
def callMember {β : Type*} (pDataSource : SourceAddress) (f : σ → β × σ)
    (s : DataSourceState σ α) : Option (DataSourceState σ α × β) :=
  match sourceAt s pDataSource with
  | none => none
  | some x =>
      let (answer, x) := f x
      some (putSource s x pDataSource, answer)

end DataSource

/-! ## The callbacks -/

/-- A callback of the vtable with its arguments; a pointer that may be null is a
`Bool`, an `ma_bool32` its truth value. -/
inductive SourceCallback
  | SourceRead (pFramesOut : Bool) (frameCount : UInt64) (pFramesRead : Bool)
  | SourceSeek (frameIndex : UInt64)
  | SourceGetDataFormat (pFormat pChannels pSampleRate pChannelMap : Bool) (channelMapCap : UInt64)
  | SourceGetCursor
  | SourceGetLength
  | SourceSetLooping (isLooping : Bool)
  deriving DecidableEq, Repr

/-- What a callback hands back: its result and what it stored through its
pointers. -/
inductive SourceAnswer (μ : Type*)
  | read (result : MaResult) (frames : List μ) (pFramesRead : Option UInt64)
  | format (result : MaResult) (pFormat : Option MaFormat) (pChannels pSampleRate : Option UInt32)
      (pChannelMap : Option (List UInt8))
  | position (result : MaResult) (value : UInt64)
  | result (result : MaResult)
  deriving DecidableEq, Repr

/-- The pointer is stored through if it is not null. -/
def storeThrough {β : Type*} (pointer : Bool) (value : β) : Option β :=
  if pointer then some value else none

namespace DataSource

/-- The parameters and the answer of `ma_channel_map_init_standard`, for the
Microsoft order. -/
abbrev StandardChannelMap := UInt64 → UInt32 → List UInt8

variable (T : DataSourceType σ μ) (ma_channel_map_init_standard : StandardChannelMap)

/-- The answer of `SourceRead`. -/
def readAnswer (pFramesRead : Bool) (outcome : ReadOutcome μ) : SourceAnswer μ :=
  if outcome.answer then .read .success outcome.frames (storeThrough pFramesRead outcome.framesRead)
  else .read .error outcome.frames none

/-- `DataSource::SourceRead`. -/
def SourceRead (pDataSource : SourceAddress) (pFramesOut : Bool) (frameCount : UInt64)
    (pFramesRead : Bool) (s : DataSourceState σ α) :
    Option (DataSourceState σ α × SourceAnswer μ) :=
  (callMember pDataSource (T.Read pFramesOut frameCount) s).map fun (s, outcome) =>
    (s, readAnswer pFramesRead outcome)

/-- `DataSource::SourceSeek`: a type without `Seek` is not asked. -/
def SourceSeek (pDataSource : SourceAddress) (frameIndex : UInt64) (s : DataSourceState σ α) :
    Option (DataSourceState σ α × SourceAnswer μ) :=
  match T.Seek with
  | some Seek =>
      (callMember pDataSource (Seek frameIndex) s).map fun (s, answer) =>
        (s, .result (if answer then .success else .error))
  | none => some (s, .result .notImplemented)

/-- The two member functions that `SourceGetDataFormat` calls, one after the
other: what is stored as the format, and as the channel map. -/
def getDataFormat (pChannelMap : Bool) (channelMapCap : UInt64) (x : σ) :
    (DataFormat × Option (List UInt8)) × σ :=
  let (format, x) := T.GetDataFormat x
  if pChannelMap && channelMapCap != 0 then
    match T.GetChannelMap with
    | some GetChannelMap =>
        let (channelMap, x) := GetChannelMap channelMapCap x
        ((format, some channelMap), x)
    | none => ((format, some (ma_channel_map_init_standard channelMapCap format.numChannels)), x)
  else ((format, none), x)

/-- The answer of `SourceGetDataFormat`. -/
def formatAnswer (pFormat pChannels pSampleRate : Bool)
    (stored : DataFormat × Option (List UInt8)) : SourceAnswer μ :=
  .format .success (storeThrough pFormat stored.1.format)
    (storeThrough pChannels stored.1.numChannels) (storeThrough pSampleRate stored.1.sampleRate)
    stored.2

/-- `DataSource::SourceGetDataFormat`. -/
def SourceGetDataFormat (pDataSource : SourceAddress)
    (pFormat pChannels pSampleRate pChannelMap : Bool) (channelMapCap : UInt64)
    (s : DataSourceState σ α) : Option (DataSourceState σ α × SourceAnswer μ) :=
  (callMember pDataSource
      (getDataFormat T ma_channel_map_init_standard pChannelMap channelMapCap) s).map
    fun (s, stored) => (s, formatAnswer pFormat pChannels pSampleRate stored)

/-- A callback that stores the value of a member function; that one is none where
the vtable has a null. -/
def sourceGetPosition (get : Option (σ → UInt64 × σ)) (pDataSource : SourceAddress)
    (s : DataSourceState σ α) : Option (DataSourceState σ α × SourceAnswer μ) :=
  get.bind fun get =>
    (callMember pDataSource get s).map fun (s, value) => (s, .position .success value)

/-- `DataSource::SourceGetCursor`. -/
def SourceGetCursor (pDataSource : SourceAddress) (s : DataSourceState σ α) :
    Option (DataSourceState σ α × SourceAnswer μ) :=
  sourceGetPosition T.GetCursor pDataSource s

/-- `DataSource::SourceGetLength`. -/
def SourceGetLength (pDataSource : SourceAddress) (s : DataSourceState σ α) :
    Option (DataSourceState σ α × SourceAnswer μ) :=
  sourceGetPosition T.GetLength pDataSource s

/-- `DataSource::SourceSetLooping`. -/
def SourceSetLooping (pDataSource : SourceAddress) (isLooping : Bool) (s : DataSourceState σ α) :
    Option (DataSourceState σ α × SourceAnswer μ) :=
  T.SetLooping.bind fun SetLooping =>
    (callMember pDataSource (fun x => ((), SetLooping isLooping x)) s).map fun (s, _) =>
      (s, .result .success)

/-- The callback that `sDataSourceVable` has for a call, applied to a pointer. -/
def invoke (pDataSource : SourceAddress) (s : DataSourceState σ α) :
    SourceCallback → Option (DataSourceState σ α × SourceAnswer μ)
  | .SourceRead pFramesOut frameCount pFramesRead =>
      SourceRead T pDataSource pFramesOut frameCount pFramesRead s
  | .SourceSeek frameIndex => SourceSeek T pDataSource frameIndex s
  | .SourceGetDataFormat pFormat pChannels pSampleRate pChannelMap channelMapCap =>
      SourceGetDataFormat T ma_channel_map_init_standard pDataSource pFormat pChannels pSampleRate
        pChannelMap channelMapCap s
  | .SourceGetCursor => SourceGetCursor T pDataSource s
  | .SourceGetLength => SourceGetLength T pDataSource s
  | .SourceSetLooping isLooping => SourceSetLooping T pDataSource isLooping s

end DataSource

end MiniaudioCpp
