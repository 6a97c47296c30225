import MiniaudioCpp.CResource.World
import MiniaudioCpp.Miniaudio.Api

/-!
# The wrappers and their `Init` functions

Each wrapper derives from a `CResource` and initialises it against the client's
engine.  `GetMiniaudioEngine` answers with a reference to an `Engine`, which is
passed here as what it owns: an engine, or nothing.

Every path that reaches miniaudio ends in `ensureInit`: where the result is not
`MA_SUCCESS` the element is released and deleted, without `UninitFunction`.
-/

namespace MiniaudioCpp

open Foundation CResourceBase

variable {ε α F : Type*}

/-- `delete` of a pointer that may be null. -/
def Heap.deleteNode (heap : Heap α) : Option Pointer → Heap α
  | none => heap
  | some p => heap.delete p

namespace CResource

/-- `if (!JPL_ENSURE(!result)) { node = release(); delete node; return false; }`,
and `true` otherwise. -/
def ensureInit (result : MaResult) (self : CResource) (heap : Heap α) :
    Bool × CResource × Heap α :=
  if result ≠ .success then
    let (node, self, heap) := self.release heap
    (false, self, heap.deleteNode node)
  else (true, self, heap)

/-- `emplace`, and `ensureInit` on its result. -/
def emplaceEnsured [Inhabited α] (InitFunction : MaInit α) (self : CResource) (heap : Heap α) :
    Bool × CResource × Heap α :=
  let (result, self, heap) := self.emplace InitFunction heap
  self.ensureInit result heap

/-- `reset(new element_type())`, an initialisation of the new element, and
`ensureInit` on its result.  The new element is made before the old one goes. -/
def resetEnsured [Inhabited α] (InitFunction : MaInit α) (self : CResource) (heap : Heap α) :
    Bool × CResource × Heap α :=
  let p := heap.cells.size
  let heap := heap.new default
  let (self, heap) := self.reset (some p) heap
  let (result, heap) := heap.init InitFunction p
  self.ensureInit result heap

end CResource

namespace CResource

theorem ensureInit_of_success (self : CResource) (heap : Heap α) :
    self.ensureInit .success heap = (true, self, heap) := rfl

theorem ensureInit_of_ne {result : MaResult} (hresult : result ≠ .success) (p : Pointer)
    (heap : Heap α) : ensureInit result ⟨some p⟩ heap =
      (false, ⟨none⟩, (heap.record (.release p)).delete p) := by
  rw [ensureInit, if_pos hresult]
  rfl

/-- Where it answers `true` it has left the element where it was. -/
theorem ensureInit_self_of_true {result : MaResult} {self : CResource} {heap : Heap α}
    (htrue : (self.ensureInit result heap).1 = true) :
    (self.ensureInit result heap).2.1 = self := by
  unfold ensureInit at htrue ⊢
  split at htrue
  next => simp at htrue
  next hresult => rw [if_neg hresult]

/-- `emplace`, spelled out. -/
theorem emplace_eq [Inhabited α] (f : MaInit α) (self : CResource) (heap : Heap α) :
    self.emplace f heap = ((f default).1, ⟨some heap.cells.size⟩,
      ((((self.destruct heap).new default).adopt (some heap.cells.size)).store heap.cells.size
        (f default).2).record (.init heap.cells.size (f default).1)) := by
  have hload : (((self.destruct heap).new default).adopt (some heap.cells.size)).load
      heap.cells.size = (default : α) := by
    simp [Heap.load, Heap.adopt, Arena.get?_alloc]
  simp only [emplace, size_destruct, Heap.init, hload]

section Emplace

variable [Inhabited α] {f : MaInit α} (self : CResource) (heap : Heap α)

/-- An initialisation that succeeds leaves the new element owned. -/
theorem emplaceEnsured_of_success (hresult : (f default).1 = .success) :
    (self.emplaceEnsured f heap).1 = true ∧
      (self.emplaceEnsured f heap).2.1 = ⟨some heap.cells.size⟩ ∧
      (self.emplaceEnsured f heap).2.2.cells.get? heap.cells.size = some (f default).2 := by
  simp only [emplaceEnsured, emplace_eq]
  rw [hresult, ensureInit_of_success]
  refine ⟨rfl, rfl, Arena.get?_put_self ?_ _⟩
  simp [Heap.adopt]

/-- One that fails leaves nothing owned. -/
theorem emplaceEnsured_of_ne (hresult : (f default).1 ≠ .success) :
    (self.emplaceEnsured f heap).1 = false ∧ (self.emplaceEnsured f heap).2.1 = ⟨none⟩ := by
  simp only [emplaceEnsured, emplace_eq]
  rw [ensureInit_of_ne hresult]
  exact ⟨rfl, rfl⟩

/-- All that is logged on the way. -/
theorem log_emplaceEnsured (f : MaInit α) (self : CResource) (heap : Heap α) :
    (self.emplaceEnsured f heap).2.2.log = heap.log ++ self.destroyed ++
      [.new heap.cells.size, .adopt heap.cells.size, .init heap.cells.size (f default).1] ++
      if (f default).1 = .success then []
      else [.release heap.cells.size, .delete heap.cells.size] := by
  simp only [emplaceEnsured, emplace_eq]
  by_cases hresult : (f default).1 = .success
  · rw [hresult, ensureInit_of_success]
    simp [Heap.adopt, log_destruct]
  · rw [ensureInit_of_ne hresult, if_neg hresult]
    simp [Heap.adopt, log_destruct]

end Emplace

/-! ### `reset` to a new element -/

section Reset

variable [Inhabited α] {f : MaInit α} (self : CResource) (heap : Heap α)

/-- `resetEnsured`, spelled out. -/
theorem resetEnsured_eq (f : MaInit α) : self.resetEnsured f heap =
    ensureInit (f default).1 ⟨some heap.cells.size⟩
      ((((self.destruct (heap.new default)).adopt (some heap.cells.size)).store heap.cells.size
        (f default).2).record (.init heap.cells.size (f default).1)) := by
  have hload : ((self.destruct (heap.new default)).adopt (some heap.cells.size)).load
      heap.cells.size = (default : α) := by
    by_cases hself : self.resource_ = some heap.cells.size
    · simp [Heap.load, Heap.adopt, destruct, hself, Arena.get?_free]
    · simp [Heap.load, Heap.adopt, get?_destruct_of_ne hself]
  simp only [resetEnsured, reset, Heap.init, hload]

/-- An initialisation that succeeds leaves the new element owned. -/
theorem resetEnsured_of_success (hresult : (f default).1 = .success) :
    (self.resetEnsured f heap).1 = true ∧
      (self.resetEnsured f heap).2.1 = ⟨some heap.cells.size⟩ ∧
      (self.resetEnsured f heap).2.2.cells.get? heap.cells.size = some (f default).2 := by
  rw [resetEnsured_eq, hresult, ensureInit_of_success]
  refine ⟨rfl, rfl, Arena.get?_put_self ?_ _⟩
  simp [Heap.adopt]

/-- One that fails leaves nothing owned. -/
theorem resetEnsured_of_ne (hresult : (f default).1 ≠ .success) :
    (self.resetEnsured f heap).1 = false ∧ (self.resetEnsured f heap).2.1 = ⟨none⟩ := by
  rw [resetEnsured_eq, ensureInit_of_ne hresult]
  exact ⟨rfl, rfl⟩

/-- All that is logged on the way. -/
theorem log_resetEnsured (f : MaInit α) : (self.resetEnsured f heap).2.2.log =
    heap.log ++ [.new heap.cells.size] ++ self.destroyed ++
      [.adopt heap.cells.size, .init heap.cells.size (f default).1] ++
      if (f default).1 = .success then []
      else [.release heap.cells.size, .delete heap.cells.size] := by
  rw [resetEnsured_eq]
  by_cases hresult : (f default).1 = .success
  · rw [hresult, ensureInit_of_success]
    simp [Heap.adopt, log_destruct]
  · rw [ensureInit_of_ne hresult, if_neg hresult]
    simp [Heap.adopt, log_destruct]

end Reset

/-! ### What was there before -/

section Before

/-- A new element at `p`, deleted again where its initialisation failed: the
others stay as they are. -/
theorem get?_ensureInit_of_ne {result : MaResult} {heap : Heap α} {p q : Pointer} (hq : q ≠ p) :
    (ensureInit result ⟨some p⟩ heap).2.2.cells.get? q = heap.cells.get? q := by
  by_cases hresult : result = .success
  · rw [hresult, ensureInit_of_success]
  · rw [ensureInit_of_ne hresult]
    exact (Arena.get?_free ..).trans (if_neg hq)

theorem size_ensureInit (result : MaResult) (p : Pointer) (heap : Heap α) :
    (ensureInit result ⟨some p⟩ heap).2.2.cells.size = heap.cells.size := by
  by_cases hresult : result = .success
  · rw [hresult, ensureInit_of_success]
  · rw [ensureInit_of_ne hresult]
    exact Arena.size_free ..

variable [Inhabited α] {self : CResource} {heap : Heap α} {f : MaInit α} {q : Pointer}

/-- The elements that were there before are what `destruct` leaves of them. -/
theorem get?_emplaceEnsured_of_lt (hlt : q < heap.cells.size) :
    (self.emplaceEnsured f heap).2.2.cells.get? q = (self.destruct heap).cells.get? q := by
  have hne : q ≠ heap.cells.size := Nat.ne_of_lt hlt
  simp only [emplaceEnsured, emplace_eq]
  rw [get?_ensureInit_of_ne hne]
  show (((self.destruct heap).cells.alloc default).put heap.cells.size (f default).2).get? q = _
  rw [Arena.get?_put_of_ne (by simp) hne, Arena.get?_alloc, size_destruct, if_neg hne]

theorem get?_resetEnsured_of_lt (hlt : q < heap.cells.size) :
    (self.resetEnsured f heap).2.2.cells.get? q = (self.destruct heap).cells.get? q := by
  have hne : q ≠ heap.cells.size := Nat.ne_of_lt hlt
  rw [resetEnsured_eq, get?_ensureInit_of_ne hne]
  show ((self.destruct (heap.new default)).cells.put heap.cells.size (f default).2).get? q = _
  rw [Arena.get?_put_of_ne (by simp) hne]
  by_cases hself : self.resource_ = some q
  · simp [destruct, hself, Arena.get?_free]
  · rw [get?_destruct_of_ne hself, get?_destruct_of_ne hself, Heap.cells_new, Arena.get?_alloc,
      if_neg hne]

/-- The elements that are not its own stay as they are. -/
theorem get?_emplaceEnsured_of_ne (hq : self.resource_ ≠ some q) (hlt : q < heap.cells.size) :
    (self.emplaceEnsured f heap).2.2.cells.get? q = heap.cells.get? q :=
  (get?_emplaceEnsured_of_lt hlt).trans (get?_destruct_of_ne hq)

theorem get?_resetEnsured_of_ne (hq : self.resource_ ≠ some q) (hlt : q < heap.cells.size) :
    (self.resetEnsured f heap).2.2.cells.get? q = heap.cells.get? q :=
  (get?_resetEnsured_of_lt hlt).trans (get?_destruct_of_ne hq)

omit [Inhabited α] in
/-- No freed element is live again in a heap that has kept what `destruct` left. -/
theorem later_of_destruct {heap' : Heap α} (hsize : heap.cells.size ≤ heap'.cells.size)
    (hkept : ∀ q < heap.cells.size, heap'.cells.get? q = (self.destruct heap).cells.get? q) :
    heap.cells.Later heap'.cells where
  size_le := hsize
  was_live q hlt hlive := (later_destruct self heap).was_live q hlt (hkept q hlt ▸ hlive)

theorem later_emplaceEnsured (f : MaInit α) (self : CResource) (heap : Heap α) :
    heap.cells.Later (self.emplaceEnsured f heap).2.2.cells := by
  refine later_of_destruct ?_ fun q => get?_emplaceEnsured_of_lt
  simp only [emplaceEnsured, emplace_eq, size_ensureInit]
  simp [Heap.adopt]

theorem later_resetEnsured (f : MaInit α) (self : CResource) (heap : Heap α) :
    heap.cells.Later (self.resetEnsured f heap).2.2.cells := by
  refine later_of_destruct ?_ fun q => get?_resetEnsured_of_lt
  rw [resetEnsured_eq, size_ensureInit]
  simp [Heap.adopt]

end Before

end CResource

/-- `emplace` and its check keep custody. -/
theorem Custody.emplaceEnsured [Inhabited α] {ι : Type*} [DecidableEq ι]
    {slots : ι → Option Pointer} {heap : Heap α} {i : ι} (h : Custody slots heap)
    {self : CResource} (hi : slots i = self.resource_) (f : MaInit α) :
    Custody (Function.update slots i (self.emplaceEnsured f heap).2.1.resource_)
      (self.emplaceEnsured f heap).2.2 := by
  have hemplace := h.emplace hi f
  simp only [CResource.emplaceEnsured, CResource.emplace_eq] at hemplace ⊢
  by_cases hresult : (f default).1 = .success
  · rw [hresult] at hemplace ⊢
    exact hemplace
  · -- the element is released, and deleted as the loose element it then is
    rw [CResource.ensureInit_of_ne hresult]
    obtain ⟨r, hheld⟩ := hemplace.held_of_slot (Function.update_self ..)
    have hslot : Function.update slots i (some heap.cells.size) i =
        (⟨some heap.cells.size⟩ : CResource).resource_ := Function.update_self ..
    have hrelease := hemplace.release hslot
    rw [Function.update_idem] at hrelease
    exact hrelease.deleteLoose (Heap.stage_record_self (.loose r) rfl hheld rfl)

/-! ## `Engine` -/

/-- `Engine::Init`.  The asserts on the two results of the log report and go
on. -/
def Engine.Init [Inhabited α] (M : Miniaudio ε α F) (env : ε) (numChannels : UInt32)
    (vfs : Option ℕ) (self : CResource) (heap : Heap α) : Bool × CResource × Heap α :=
  let heap := heap.record .logInit
  let engineConfig : MaEngineConfig :=
    { channels := numChannels, pLog := true, noDevice := false, pResourceManagerVFS := vfs }
  self.emplaceEnsured (M.ma_engine_init env engineConfig) heap

/-! ## `TBaseNode` -/

/-- `NodeLayout`, which holds a `BusConfig`. -/
structure NodeLayout where
  Inputs : List UInt32
  Outputs : List UInt32
  deriving DecidableEq, Repr

/-- `TBaseNode::IS_PASSTHROUGH`, from the flags of `TNode`. -/
def TBaseNode.IS_PASSTHROUGH (M : Miniaudio ε α F) (FLAGS : UInt32) : Bool :=
  FLAGS &&& M.MA_NODE_FLAG_PASSTHROUGH ≠ 0

/-- `BaseNode::InitConfig`, with the `vtable` that `TBaseNode::Init` adds. -/
def BaseNode.InitConfig (M : Miniaudio ε α F) (FLAGS : UInt32) (nodeLayout : NodeLayout)
    (initStarted : Bool) : MaNodeConfig :=
  let busCount := if TBaseNode.IS_PASSTHROUGH M FLAGS then 1 else M.MA_NODE_BUS_COUNT_UNKNOWN
  { vtableInputBusCount := busCount
    vtableOutputBusCount := busCount
    vtableFlags := FLAGS
    inputBusCount := UInt32.ofNat nodeLayout.Inputs.length
    outputBusCount := UInt32.ofNat nodeLayout.Outputs.length
    pInputChannels := nodeLayout.Inputs
    pOutputChannels := nodeLayout.Outputs
    started := initStarted }

/-- `&engine->nodeGraph`. -/
def Heap.nodeGraph (heap : Heap α) : Option MaEngine → Option ℕ × Heap α
  | none => (none, heap.record .nullEngineAccess)
  | some engine => (some engine.nodeGraph, heap)

/-- `TBaseNode::Init`: the engine is not checked. -/
def TBaseNode.Init [Inhabited α] (M : Miniaudio ε α F) (env : ε)
    (GetMiniaudioEngine : Option MaEngine) (FLAGS : UInt32) (nodeLayout : NodeLayout)
    (initStarted : Bool) (self : CResource) (heap : Heap α) : Bool × CResource × Heap α :=
  if TBaseNode.IS_PASSTHROUGH M FLAGS &&
      !(nodeLayout.Inputs.length == 1 && nodeLayout.Outputs.length == 1) then
    (false, self, heap)
  else
    let config := BaseNode.InitConfig M FLAGS nodeLayout initStarted
    -- `&engine->nodeGraph`, for a null engine as well
    let (nodeGraph, heap) := heap.nodeGraph GetMiniaudioEngine
    self.emplaceEnsured (M.ma_node_init env nodeGraph config) heap

/-! ## `SplitterNode` -/

/-- `SplitterNode::Init`. -/
def SplitterNode.Init [Inhabited α] (M : Miniaudio ε α F) (env : ε)
    (GetMiniaudioEngine : Option MaEngine) (numChannels numOutputBusses : UInt32)
    (self : CResource) (heap : Heap α) : Bool × CResource × Heap α :=
  if numChannels = 0 ∨ numOutputBusses = 0 then (false, self, heap)
  else
    match GetMiniaudioEngine with
    | none => (false, self, heap)
    | some engine =>
        let splitterConfig : MaSplitterNodeConfig :=
          { channels := numChannels, outputBusCount := max 1 numOutputBusses }
        self.emplaceEnsured (M.ma_splitter_node_init env engine.nodeGraph splitterConfig) heap

/-! ## `EngineNode` -/

/-- `EngineNode::GroupNodeSettings`. -/
structure GroupNodeSettings where
  NumInChannels : UInt32 := 0
  NumOutChannels : UInt32 := 0
  VolumeFadeFrameCount : UInt32 := 256
  PitchDisabled : Bool := false
  deriving DecidableEq, Repr

/-- `EngineNode::InitGroup`. -/
def EngineNode.InitGroup [Inhabited α] (M : Miniaudio ε α F) (env : ε)
    (GetMiniaudioEngine : Option MaEngine) (settings : GroupNodeSettings) (self : CResource)
    (heap : Heap α) : Bool × CResource × Heap α :=
  if settings.NumInChannels = 0 ∨ settings.NumOutChannels = 0 then (false, self, heap)
  else
    match GetMiniaudioEngine with
    | none => (false, self, heap)
    | some engine =>
        let nodeConfig : MaEngineNodeConfig :=
          { pEngine := engine
            flags := M.MA_SOUND_FLAG_NO_SPATIALIZATION
            channelsIn := settings.NumInChannels
            channelsOut := settings.NumOutChannels
            volumeSmoothTimeInPCMFrames := settings.VolumeFadeFrameCount
            isPitchDisabled := settings.PitchDisabled }
        self.emplaceEnsured (M.ma_engine_node_init env nodeConfig) heap

/-! ## `Sound` -/

/-- `Sound::Init`. -/
def Sound.Init [Inhabited α] (M : Miniaudio ε α F) (env : ε)
    (GetMiniaudioEngine : Option MaEngine) (filePathOrId : Option String) (flags : UInt32)
    (bUseSourceChannelCount : Bool) (self : CResource) (heap : Heap α) :
    Bool × CResource × Heap α :=
  match GetMiniaudioEngine with
  | none => (false, self, heap)
  | some engine =>
      let flags := flags ||| M.MA_SOUND_FLAG_NO_SPATIALIZATION
      if bUseSourceChannelCount then
        -- `ma_sound_init_ex` on an element that `reset` took first
        let flags := flags ||| M.MA_SOUND_FLAG_NO_DEFAULT_ATTACHMENT
        let config : MaSoundConfig :=
          { pFilePath := filePathOrId, flags, channelsOut := M.MA_SOUND_SOURCE_CHANNEL_COUNT }
        self.resetEnsured (M.ma_sound_init_ex env engine config) heap
      else
        self.emplaceEnsured (M.ma_sound_init_from_file env engine filePathOrId flags) heap

/-- `Sound::InitFromDataSource`; `dataSource` is what the data source owns. -/
def Sound.InitFromDataSource [Inhabited α] (M : Miniaudio ε α F) (env : ε)
    (GetMiniaudioEngine : Option MaEngine) (dataSource : Option ℕ) (flags : UInt32)
    (self : CResource) (heap : Heap α) : Bool × CResource × Heap α :=
  match dataSource with
  | none => (false, self, heap)
  | some dataSource =>
      match GetMiniaudioEngine with
      | none => (false, self, heap)
      | some engine =>
          let flags := flags ||| M.MA_SOUND_FLAG_NO_SPATIALIZATION
          self.resetEnsured (M.ma_sound_init_from_data_source env engine dataSource flags) heap

/-! ## `LPFNode` and `HPFNode` -/

/-- `std::clamp` on `uint32`. -/
def clamp (order lo hi : UInt32) : UInt32 := if order < lo then lo else if hi < order then hi else order

/-- `LPFNode`: the element, and what `GetOrder` and `GetCutoffFrequency` answer. -/
structure LPFNode (F : Type*) extends CResource where
  mOrder : UInt32
  mCutoffFrequency : F

/-- `HPFNode`. -/
structure HPFNode (F : Type*) extends CResource where
  mOrder : UInt32
  mCutoffFrequency : F

instance : CResourceBase (LPFNode F) where
  base := LPFNode.toCResource
  withBase self c := { self with toCResource := c }
  base_withBase _ _ := rfl

instance : CResourceBase (HPFNode F) where
  base := HPFNode.toCResource
  withBase self c := { self with toCResource := c }
  base_withBase _ _ := rfl

/-- `LPFNode::Init`. -/
def LPFNode.Init [Inhabited α] (M : Miniaudio ε α F) (env : ε)
    (GetMiniaudioEngine : Option MaEngine) (numChannels : UInt32) (cutoffFrequency : F)
    (order sampleRate : UInt32) (self : LPFNode F) (heap : Heap α) : Bool × LPFNode F × Heap α :=
  if numChannels = 0 then (false, self, heap)
  else
    match GetMiniaudioEngine with
    | none => (false, self, heap)
    | some engine =>
        let sampleRate := if sampleRate = 0 then engine.sampleRate else sampleRate
        let mOrder := clamp order 1 M.MA_MAX_FILTER_ORDER
        let mCutoffFrequency := cutoffFrequency
        let config : MaFilterNodeConfig F :=
          { channels := numChannels, sampleRate, cutoffFrequency := mCutoffFrequency
            order := mOrder }
        let (result, c, heap) :=
          self.toCResource.emplaceEnsured (M.ma_lpf_node_init env engine.nodeGraph config) heap
        (result, ⟨c, mOrder, mCutoffFrequency⟩, heap)

/-- `HPFNode::Init`: the channel count is not checked. -/
def HPFNode.Init [Inhabited α] (M : Miniaudio ε α F) (env : ε)
    (GetMiniaudioEngine : Option MaEngine) (numChannels : UInt32) (cutoffFrequency : F)
    (order sampleRate : UInt32) (self : HPFNode F) (heap : Heap α) : Bool × HPFNode F × Heap α :=
  match GetMiniaudioEngine with
  | none => (false, self, heap)
  | some engine =>
      -- the members are set before miniaudio has a say
      let sampleRate := if sampleRate = 0 then engine.sampleRate else sampleRate
      let mCutoffFrequency := cutoffFrequency
      let mOrder := clamp order 1 M.MA_MAX_FILTER_ORDER
      let config : MaFilterNodeConfig F :=
        { channels := numChannels, sampleRate, cutoffFrequency := mCutoffFrequency
          order := mOrder }
      let (result, c, heap) :=
        self.toCResource.emplaceEnsured (M.ma_hpf_node_init env engine.nodeGraph config) heap
      (result, ⟨c, mOrder, mCutoffFrequency⟩, heap)

/-- `LPFNode::SetCutoffFrequency`, with the result that its assert is about;
none where there is no node. -/
def LPFNode.SetCutoffFrequency [Inhabited α] (M : Miniaudio ε α F) (newCutoffFrequency : F)
    (self : LPFNode F) (heap : Heap α) : Option MaResult × LPFNode F × Heap α :=
  match self.resource_ with
  | none => (none, self, heap)
  | some node =>
      let (format, channels, sampleRate) := M.lpf (heap.load node)
      let config : MaFilterConfig F :=
        { format, channels, sampleRate, cutoffFrequency := newCutoffFrequency
          order := self.mOrder }
      let (result, x) := M.ma_lpf_node_reinit config (heap.load node)
      (some result, { self with mCutoffFrequency := newCutoffFrequency }, heap.store node x)

/-- `HPFNode::SetCutoffFrequency`. -/
def HPFNode.SetCutoffFrequency [Inhabited α] (M : Miniaudio ε α F) (newCutoffFrequency : F)
    (self : HPFNode F) (heap : Heap α) : Option MaResult × HPFNode F × Heap α :=
  match self.resource_ with
  | none => (none, self, heap)
  | some node =>
      let (format, channels, sampleRate) := M.hpf (heap.load node)
      let config : MaFilterConfig F :=
        { format, channels, sampleRate, cutoffFrequency := newCutoffFrequency
          order := self.mOrder }
      let (result, x) := M.ma_hpf_node_reinit config (heap.load node)
      (some result, { self with mCutoffFrequency := newCutoffFrequency }, heap.store node x)

end MiniaudioCpp
