import MiniaudioCpp.Routing.BusValues
import MiniaudioCpp.Wrappers.Typestate

/-!
# From a layout to the buses of a node

`Init` turns a layout into a configuration of miniaudio's, and miniaudio makes
the buses of the node from that.  `InitCall.layout` is the layout that each
`Init` asks for; an `Init` that answers `true` leaves the wrapper with an element
of this layout, and one that answers `false` with none or with the one it had
(`LayoutPath.initLays`).

Here miniaudio's getters read the element itself, through `layoutOf`.
-/

namespace MiniaudioCpp

open Foundation CResourceBase

variable {ε α F : Type*}

/-! ## What is asked of miniaudio -/

/-- The bus count of a node, given that of its `vtable` and that of its
configuration. -/
def Miniaudio.busCount (M : Miniaudio ε α F) (vtable config : UInt32) : UInt32 :=
  if vtable = M.MA_NODE_BUS_COUNT_UNKNOWN then config else vtable

/-- What miniaudio documents about the buses of a node: a node that was
initialised with success has the buses of its configuration, and reconfiguring a
filter leaves them alone. -/
structure Miniaudio.LaysOut (M : Miniaudio ε α F) (layoutOf : α → NodeLayout) : Prop where
  node : ∀ env graph config a a', M.ma_node_init env graph config a = (.success, a') →
    layoutOf a' =
      ⟨config.pInputChannels.take
          (M.busCount config.vtableInputBusCount config.inputBusCount).toNat,
        config.pOutputChannels.take
          (M.busCount config.vtableOutputBusCount config.outputBusCount).toNat⟩
  /-- One input bus, and copies of it. -/
  splitter : ∀ env graph config a a', M.ma_splitter_node_init env graph config a = (.success, a') →
    layoutOf a' = ⟨[config.channels], List.replicate config.outputBusCount.toNat config.channels⟩
  /-- Channel counts of zero would stand for those of the engine. -/
  group : ∀ env config a a', config.channelsIn ≠ 0 → config.channelsOut ≠ 0 →
    M.ma_engine_node_init env config a = (.success, a') →
      layoutOf a' = ⟨[config.channelsIn], [config.channelsOut]⟩
  lpf : ∀ env graph config a a', M.ma_lpf_node_init env graph config a = (.success, a') →
    layoutOf a' = ⟨[config.channels], [config.channels]⟩
  hpf : ∀ env graph config a a', M.ma_hpf_node_init env graph config a = (.success, a') →
    layoutOf a' = ⟨[config.channels], [config.channels]⟩
  lpf_reinit : ∀ config a, layoutOf (M.ma_lpf_node_reinit config a).2 = layoutOf a
  hpf_reinit : ∀ config a, layoutOf (M.ma_hpf_node_reinit config a).2 = layoutOf a

/-- The getters answer for a live node from its layout, and 0 for a bus it does
not have and for a null node; attaching leaves the elements where they are, with
their layouts. -/
structure NodeGraph.ReadsLayouts (N : NodeGraph (Heap α)) (layoutOf : α → NodeLayout) : Prop where
  null : N.NullIsEmpty
  input_bus_count : ∀ heap p a, heap.cells.get? p = some a →
    N.ma_node_get_input_bus_count heap (some p) = UInt32.ofNat (layoutOf a).Inputs.length
  output_bus_count : ∀ heap p a, heap.cells.get? p = some a →
    N.ma_node_get_output_bus_count heap (some p) = UInt32.ofNat (layoutOf a).Outputs.length
  input_channels : ∀ heap p a i, heap.cells.get? p = some a →
    N.ma_node_get_input_channels heap (some p) i = (layoutOf a).Inputs.getD i.toNat 0
  output_channels : ∀ heap p a i, heap.cells.get? p = some a →
    N.ma_node_get_output_channels heap (some p) i = (layoutOf a).Outputs.getD i.toNat 0
  attach : ∀ node index node' index' heap,
    let heap' := (N.ma_node_attach_output_bus node index node' index' heap).2
    heap'.log = heap.log ∧ heap'.cells.size = heap.cells.size ∧
      ∀ p, (heap'.cells.get? p).map layoutOf = (heap.cells.get? p).map layoutOf

/-! ## The layout of an `Init` -/

/-- The layout that is left when its sizes are cast to `uint32`. -/
def NodeLayout.counted (self : NodeLayout) : NodeLayout :=
  ⟨self.Inputs.take (UInt32.ofNat self.Inputs.length).toNat,
    self.Outputs.take (UInt32.ofNat self.Outputs.length).toNat⟩

/-- All of it, where the sizes fit. -/
theorem NodeLayout.counted_eq {self : NodeLayout} (hInputs : self.Inputs.length < 2 ^ 32)
    (hOutputs : self.Outputs.length < 2 ^ 32) : self.counted = self := by
  have htake : ∀ xs : List UInt32, xs.length < 2 ^ 32 →
      xs.take (UInt32.ofNat xs.length).toNat = xs := by
    intro xs hxs
    rw [UInt32.toNat_ofNat', Nat.mod_eq_of_lt hxs, List.take_length]
  rw [counted, htake _ hInputs, htake _ hOutputs]

/-- The layout that an `Init` asks for.  The buses of an engine and of a sound
are not up to the caller. -/
def InitCall.layout : InitCall F → Option NodeLayout
  | .tBaseNode nodeLayout _ => some nodeLayout.counted
  | .splitterNode numChannels numOutputBusses =>
      some ⟨[numChannels], List.replicate numOutputBusses.toNat numChannels⟩
  | .initGroup settings => some ⟨[settings.NumInChannels], [settings.NumOutChannels]⟩
  | .lpfNode numChannels .. => some ⟨[numChannels], [numChannels]⟩
  | .hpfNode numChannels .. => some ⟨[numChannels], [numChannels]⟩
  | .engine .. | .sound .. | .initFromDataSource .. => none

/-- The class has this `Init`. -/
def InitCall.suits : WrapperKind → InitCall F → Bool
  | .engine, .engine .. | .tBaseNode .., .tBaseNode .. | .splitterNode, .splitterNode ..
  | .engineNode, .initGroup .. | .sound, .sound .. | .sound, .initFromDataSource ..
  | .lpfNode, .lpfNode .. | .hpfNode, .hpfNode .. => true
  | _, _ => false

/-! ## One `Init` -/

section Init

variable [Inhabited α]

/-- The initialisation function, where it succeeds, leaves the layout. -/
def Lays (layoutOf : α → NodeLayout) (layout : Option NodeLayout) (f : MaInit α) : Prop :=
  ∀ a a', f a = (.success, a') → ∀ l, layout = some l → layoutOf a' = l

/-- The ways of an `Init`, with the layout its function leaves. -/
inductive LayoutPath (layoutOf : α → NodeLayout) (layout : Option NodeLayout) (c : CResource) :
    Heap α → Bool × CResource × Heap α → Prop
  | reject (heap : Heap α) : LayoutPath layoutOf layout c heap (false, c, heap)
  | emplace (heap : Heap α) {f : MaInit α} (hf : Lays layoutOf layout f) :
      LayoutPath layoutOf layout c heap (c.emplaceEnsured f heap)
  | reset (heap : Heap α) {f : MaInit α} (hf : Lays layoutOf layout f) :
      LayoutPath layoutOf layout c heap (c.resetEnsured f heap)
  | logged (heap : Heap α) {f : MaInit α} (hf : Lays layoutOf layout f) :
      LayoutPath layoutOf layout c heap (c.emplaceEnsured f (heap.record .logInit))

variable {M : Miniaudio ε α F} {layoutOf : α → NodeLayout}

omit [Inhabited α] in
/-- The configuration of a `TBaseNode` has the buses of its layout: a passthrough
node, whose `vtable` says one and one, got no further with any other layout. -/
theorem BaseNode.InitConfig_lays (hdoc : M.LaysOut layoutOf) (env : ε) (graph : Option ℕ)
    {FLAGS : UInt32} {nodeLayout : NodeLayout} (initStarted : Bool)
    (hfits : ¬ (TBaseNode.IS_PASSTHROUGH M FLAGS &&
      !(nodeLayout.Inputs.length == 1 && nodeLayout.Outputs.length == 1)) = true) :
    Lays layoutOf (some nodeLayout.counted)
      (M.ma_node_init env graph (BaseNode.InitConfig M FLAGS nodeLayout initStarted)) := by
  intro a a' hinit l hl
  obtain rfl := Option.some.inj hl
  rw [hdoc.node env graph _ a a' hinit]
  by_cases hpassthrough : TBaseNode.IS_PASSTHROUGH M FLAGS = true
  · have hlengths : nodeLayout.Inputs.length = 1 ∧ nodeLayout.Outputs.length = 1 := by
      simpa [hpassthrough] using hfits
    simp only [BaseNode.InitConfig, if_pos hpassthrough, NodeLayout.counted, hlengths.1,
      hlengths.2, Miniaudio.busCount]
    by_cases hunknown : (1 : UInt32) = M.MA_NODE_BUS_COUNT_UNKNOWN <;> simp [hunknown]
  · simp [BaseNode.InitConfig, hpassthrough, NodeLayout.counted, Miniaudio.busCount]

/-- `std::max(1u, n)`, for a count that was checked. -/
theorem max_one_eq {n : UInt32} (hn : n ≠ 0) : max 1 n = n := by
  have hpositive : n.toNat ≠ 0 := fun hzero => hn (UInt32.toNat_inj.mp hzero)
  have hle : 1 ≤ n := UInt32.le_iff_toNat_le.mpr (Nat.one_le_iff_ne_zero.mpr hpositive)
  exact if_pos hle

/-- Each `Init` against an engine leaves the layout it is asked for, if it leaves
any. -/
theorem Wrapper.init_layoutPath (hdoc : M.LaysOut layoutOf) {env : ε} {engine : MaEngine}
    {x x' : Wrapper F} {call : InitCall F} {heap heap' : Heap α} {answer : Bool}
    (hinit : x.Init M env (some engine) call heap = some (answer, x', heap')) :
    LayoutPath layoutOf call.layout (base x) heap (answer, base x', heap') := by
  unfold Wrapper.Init at hinit
  split at hinit
  case h_1 c numChannels vfs =>
    obtain ⟨rfl, rfl, rfl⟩ := hinit
    exact .logged heap fun _ _ _ _ hl => by simp [InitCall.layout] at hl
  case h_2 TNode FLAGS c nodeLayout initStarted =>
    unfold TBaseNode.Init at hinit
    split at hinit
    case isTrue =>
      obtain ⟨rfl, rfl, rfl⟩ := hinit
      exact .reject heap
    case isFalse hfits =>
      obtain ⟨rfl, rfl, rfl⟩ := hinit
      exact .emplace heap (BaseNode.InitConfig_lays hdoc env _ initStarted hfits)
  case h_3 c numChannels numOutputBusses =>
    unfold SplitterNode.Init at hinit
    split at hinit
    case isTrue =>
      obtain ⟨rfl, rfl, rfl⟩ := hinit
      exact .reject heap
    case isFalse hcounts =>
      obtain ⟨rfl, rfl, rfl⟩ := hinit
      refine .emplace heap fun a a' hsuccess l hl => ?_
      obtain rfl := Option.some.inj hl
      rw [hdoc.splitter _ _ _ a a' hsuccess]
      simp only [max_one_eq fun hzero => hcounts (Or.inr hzero)]
  case h_4 c settings =>
    unfold EngineNode.InitGroup at hinit
    split at hinit
    case isTrue =>
      obtain ⟨rfl, rfl, rfl⟩ := hinit
      exact .reject heap
    case isFalse hcounts =>
      obtain ⟨rfl, rfl, rfl⟩ := hinit
      refine .emplace heap fun a a' hsuccess l hl => ?_
      obtain rfl := Option.some.inj hl
      exact hdoc.group _ _ a a' (fun hzero => hcounts (Or.inl hzero))
        (fun hzero => hcounts (Or.inr hzero)) hsuccess
  case h_5 c filePathOrId flags bUseSourceChannelCount =>
    have hnone : ∀ f : MaInit α,
        Lays layoutOf (InitCall.sound filePathOrId flags bUseSourceChannelCount : InitCall F).layout
          f := fun _ _ _ _ _ hl => by simp [InitCall.layout] at hl
    cases bUseSourceChannelCount with
    | true =>
        obtain ⟨rfl, rfl, rfl⟩ := hinit
        exact .reset heap (hnone _)
    | false =>
        obtain ⟨rfl, rfl, rfl⟩ := hinit
        exact .emplace heap (hnone _)
  case h_6 c dataSource flags =>
    cases dataSource with
    | none =>
        obtain ⟨rfl, rfl, rfl⟩ := hinit
        exact .reject heap
    | some dataSource =>
        obtain ⟨rfl, rfl, rfl⟩ := hinit
        exact .reset heap fun _ _ _ _ hl => by simp [InitCall.layout] at hl
  case h_7 self numChannels cutoffFrequency order sampleRate =>
    unfold LPFNode.Init at hinit
    by_cases hchannels : numChannels = 0
    · rw [if_pos hchannels] at hinit
      obtain ⟨rfl, rfl, rfl⟩ := hinit
      exact .reject heap
    · rw [if_neg hchannels] at hinit
      obtain ⟨rfl, rfl, rfl⟩ := hinit
      refine .emplace heap fun a a' hsuccess l hl => ?_
      obtain rfl := Option.some.inj hl
      exact hdoc.lpf _ _ _ a a' hsuccess
  case h_8 self numChannels cutoffFrequency order sampleRate =>
    obtain ⟨rfl, rfl, rfl⟩ := hinit
    refine .emplace heap fun a a' hsuccess l hl => ?_
    obtain rfl := Option.some.inj hl
    exact hdoc.hpf _ _ _ a a' hsuccess
  case h_9 => simp at hinit

/-- What an `Init` does to the elements.  Where it answers `false`, the wrapper
lost its element or kept it as it was. -/
structure InitLays (layoutOf : α → NodeLayout) (layout : Option NodeLayout) (c : CResource)
    (heap : Heap α) (out : Bool × CResource × Heap α) : Prop where
  accepted : out.1 = true → ∃ p a, out.2.1.resource_ = some p ∧ out.2.2.cells.get? p = some a ∧
    ∀ l, layout = some l → layoutOf a = l
  refused : out.1 = false → out.2.1.resource_ = none ∨
    out.2.1 = c ∧ out.2.2.cells = heap.cells
  others : ∀ q < heap.cells.size, c.resource_ ≠ some q →
    out.2.2.cells.get? q = heap.cells.get? q

/-- A new element that stays where its initialisation succeeds. -/
theorem InitLays.of_outcome {layout : Option NodeLayout} {f : MaInit α}
    (hf : Lays layoutOf layout f) {c : CResource} {heap : Heap α} {out : Bool × CResource × Heap α}
    {p : Pointer}
    (hsuccess : (f default).1 = .success →
      out.1 = true ∧ out.2.1 = ⟨some p⟩ ∧ out.2.2.cells.get? p = some (f default).2)
    (hfailure : (f default).1 ≠ .success → out.1 = false ∧ out.2.1 = ⟨none⟩)
    (hothers : ∀ q < heap.cells.size, c.resource_ ≠ some q →
      out.2.2.cells.get? q = heap.cells.get? q) :
    InitLays layoutOf layout c heap out := by
  by_cases hresult : (f default).1 = .success
  · obtain ⟨htrue, hself, hcell⟩ := hsuccess hresult
    refine ⟨fun _ => ⟨p, _, congrArg CResource.resource_ hself, hcell, ?_⟩, fun hfalse => ?_, hothers⟩
    · exact hf default _ (Prod.ext hresult rfl)
    · rw [htrue] at hfalse
      exact absurd hfalse (by simp)
  · obtain ⟨hfalse, hself⟩ := hfailure hresult
    refine ⟨fun htrue => ?_, fun _ => Or.inl (congrArg CResource.resource_ hself), hothers⟩
    rw [hfalse] at htrue
    exact absurd htrue (by simp)

/-- `emplace` and its check. -/
theorem initLays_emplaceEnsured {layout : Option NodeLayout} {f : MaInit α}
    (hf : Lays layoutOf layout f) (c : CResource) (heap : Heap α) :
    InitLays layoutOf layout c heap (c.emplaceEnsured f heap) :=
  .of_outcome hf (CResource.emplaceEnsured_of_success c heap) (CResource.emplaceEnsured_of_ne c heap)
    fun _ hlt hq => CResource.get?_emplaceEnsured_of_ne hq hlt

/-- An element that `reset` took before its initialisation. -/
theorem initLays_resetEnsured {layout : Option NodeLayout} {f : MaInit α}
    (hf : Lays layoutOf layout f) (c : CResource) (heap : Heap α) :
    InitLays layoutOf layout c heap (c.resetEnsured f heap) :=
  .of_outcome hf (CResource.resetEnsured_of_success c heap) (CResource.resetEnsured_of_ne c heap)
    fun _ hlt hq => CResource.get?_resetEnsured_of_ne hq hlt

/-- Every way of an `Init`. -/
theorem LayoutPath.initLays {layout : Option NodeLayout} {c : CResource} {heap : Heap α}
    {out : Bool × CResource × Heap α} (h : LayoutPath layoutOf layout c heap out) :
    InitLays layoutOf layout c heap out := by
  cases h with
  | reject =>
      exact ⟨fun htrue => absurd htrue (by simp), fun _ => Or.inr ⟨rfl, rfl⟩, fun _ _ _ => rfl⟩
  | emplace hf => exact initLays_emplaceEnsured hf c heap
  | reset hf => exact initLays_resetEnsured hf c heap
  | logged hf =>
      have hlogged := initLays_emplaceEnsured hf c (heap.record .logInit)
      exact ⟨hlogged.accepted, hlogged.refused, hlogged.others⟩

end Init

end MiniaudioCpp
