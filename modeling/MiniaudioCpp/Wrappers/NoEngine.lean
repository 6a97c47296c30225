import MiniaudioCpp.Wrappers.Typestate

/-!
# Without an engine

When the client's `Engine` is empty, an `Init` can only be turned down, and it
should be before anything has happened.  `SplitterNode`, `EngineNode`, `Sound`,
`LPFNode` and `HPFNode` ask first.  `TBaseNode` does not: it names a member of
the engine through the null pointer and goes on.  So an `Init` without an engine
has no effect exactly when it is none of `TBaseNode`, or one that is turned down
for its layout (`no_engine_no_effect_iff`).
-/

namespace MiniaudioCpp

open Foundation CResourceBase

variable {ε α F : Type*}

/-! ## The promise and the condition -/

/-- The `Init` was turned down: the wrapper keeps its element and its members,
nothing was allocated or freed, and nothing was named through a null engine. -/
structure NoEffect (x : Wrapper F) (heap : Heap α) (answer : Bool) (x' : Wrapper F)
    (heap' : Heap α) : Prop where
  refused : answer = false
  wrapper_kept : x' = x
  heap_kept : heap' = heap
  no_access : heap'.log.count .nullEngineAccess = heap.log.count .nullEngineAccess

theorem NoEffect.of_reject (x : Wrapper F) (heap : Heap α) : NoEffect x heap false x heap :=
  ⟨rfl, rfl, rfl, rfl⟩

/-- An `Init` of a base that is turned down has no effect on the object. -/
theorem NoEffect.inObject {wrap : CResource → Wrapper F} {out : Bool × CResource × Heap α}
    {c : CResource} {x' : Wrapper F} {heap heap' : Heap α} {answer : Bool}
    (hreject : out = (false, c, heap))
    (hinit : some (inObject wrap out) = some (answer, x', heap')) :
    NoEffect (wrap c) heap answer x' heap' := by
  subst hreject
  obtain ⟨rfl, rfl, rfl⟩ := hinit
  exact NoEffect.of_reject _ heap

/-- The `Init` asks for the engine before it uses it, or does not get that far:
it is none of `TBaseNode`, or the layout does not fit a passthrough node. -/
def AsksForEngine (M : Miniaudio ε α F) : WrapperKind → InitCall F → Prop
  | .tBaseNode _ FLAGS, .tBaseNode nodeLayout _ =>
      TBaseNode.IS_PASSTHROUGH M FLAGS = true ∧
        ¬ (nodeLayout.Inputs.length = 1 ∧ nodeLayout.Outputs.length = 1)
  | _, _ => True

/-! ## `TBaseNode` -/

section TBaseNode

variable [Inhabited α] (M : Miniaudio ε α F) (env : ε) (FLAGS : UInt32)
  (nodeLayout : NodeLayout) (initStarted : Bool) (c : CResource) (heap : Heap α)

/-- A layout that does not fit a passthrough node is turned down at once. -/
theorem TBaseNode.Init_of_conflict (engine : Option MaEngine)
    (hpassthrough : TBaseNode.IS_PASSTHROUGH M FLAGS = true)
    (hlayout : ¬ (nodeLayout.Inputs.length = 1 ∧ nodeLayout.Outputs.length = 1)) :
    TBaseNode.Init M env engine FLAGS nodeLayout initStarted c heap = (false, c, heap) := by
  unfold TBaseNode.Init
  apply if_pos
  rw [hpassthrough]
  simpa [← not_and_or] using hlayout

/-- Any other layout gets to the engine, whether there is one or not. -/
theorem TBaseNode.Init_none
    (hfits : ¬ (TBaseNode.IS_PASSTHROUGH M FLAGS = true ∧
      ¬ (nodeLayout.Inputs.length = 1 ∧ nodeLayout.Outputs.length = 1))) :
    TBaseNode.Init M env none FLAGS nodeLayout initStarted c heap =
      c.emplaceEnsured (M.ma_node_init env none (BaseNode.InitConfig M FLAGS nodeLayout initStarted))
        (heap.record .nullEngineAccess) := by
  unfold TBaseNode.Init
  rw [if_neg]
  · rfl
  · simpa using hfits

/-- Then the member of the engine is named through the null pointer. -/
theorem TBaseNode.count_nullEngineAccess
    (hfits : ¬ (TBaseNode.IS_PASSTHROUGH M FLAGS = true ∧
      ¬ (nodeLayout.Inputs.length = 1 ∧ nodeLayout.Outputs.length = 1))) :
    heap.log.count .nullEngineAccess <
      (TBaseNode.Init M env none FLAGS nodeLayout initStarted c heap).2.2.log.count
        .nullEngineAccess := by
  rw [TBaseNode.Init_none M env FLAGS nodeLayout initStarted c heap hfits]
  rw [CResource.log_emplaceEnsured, Heap.log_record]
  simp only [List.count_append, List.count_singleton_self]
  omega

end TBaseNode

/-! ## The wrappers that ask -/

section Asks

variable [Inhabited α] (M : Miniaudio ε α F) (env : ε) (c : CResource) (heap : Heap α)

theorem SplitterNode.Init_none (numChannels numOutputBusses : UInt32) :
    SplitterNode.Init M env none numChannels numOutputBusses c heap = (false, c, heap) := by
  unfold SplitterNode.Init
  split <;> rfl

theorem EngineNode.InitGroup_none (settings : GroupNodeSettings) :
    EngineNode.InitGroup M env none settings c heap = (false, c, heap) := by
  unfold EngineNode.InitGroup
  split <;> rfl

theorem Sound.Init_none (filePathOrId : Option String) (flags : UInt32)
    (bUseSourceChannelCount : Bool) :
    Sound.Init M env none filePathOrId flags bUseSourceChannelCount c heap = (false, c, heap) := rfl

theorem Sound.InitFromDataSource_none (dataSource : Option ℕ) (flags : UInt32) :
    Sound.InitFromDataSource M env none dataSource flags c heap = (false, c, heap) := by
  cases dataSource <;> rfl

theorem LPFNode.Init_none (numChannels : UInt32) (cutoffFrequency : F)
    (order sampleRate : UInt32) (self : LPFNode F) :
    LPFNode.Init M env none numChannels cutoffFrequency order sampleRate self heap =
      (false, self, heap) := by
  unfold LPFNode.Init
  split <;> rfl

theorem HPFNode.Init_none (numChannels : UInt32) (cutoffFrequency : F)
    (order sampleRate : UInt32) (self : HPFNode F) :
    HPFNode.Init M env none numChannels cutoffFrequency order sampleRate self heap =
      (false, self, heap) := rfl

end Asks

/-! ## The exact condition -/

/-- Without an engine, an `Init` of a wrapper that is not an `Engine` has no
effect if and only if it asks for the engine, or is turned down for its layout. -/
theorem no_engine_no_effect_iff [Inhabited α] (M : Miniaudio ε α F) (env : ε)
    {x x' : Wrapper F} {call : InitCall F} {heap heap' : Heap α} {answer : Bool}
    (hkind : x.kind ≠ .engine)
    (hinit : x.Init M env none call heap = some (answer, x', heap')) :
    NoEffect x heap answer x' heap' ↔ AsksForEngine M x.kind call := by
  unfold Wrapper.Init at hinit
  split at hinit
  case h_1 => exact absurd rfl hkind
  case h_2 TNode FLAGS c nodeLayout initStarted =>
    obtain ⟨rfl, rfl, rfl⟩ := hinit
    by_cases hconflict : AsksForEngine M (.tBaseNode TNode FLAGS) (.tBaseNode nodeLayout initStarted)
    · rw [TBaseNode.Init_of_conflict M env FLAGS nodeLayout initStarted c heap none hconflict.1
        hconflict.2]
      exact iff_of_true (NoEffect.of_reject _ heap) hconflict
    · have haccess := TBaseNode.count_nullEngineAccess M env FLAGS nodeLayout initStarted c heap
        hconflict
      refine iff_of_false (fun heffect => ?_) hconflict
      exact absurd heffect.no_access (Nat.ne_of_gt haccess)
  case h_3 =>
    exact iff_of_true (NoEffect.inObject (SplitterNode.Init_none ..) hinit) trivial
  case h_4 =>
    exact iff_of_true (NoEffect.inObject (EngineNode.InitGroup_none ..) hinit) trivial
  case h_5 =>
    exact iff_of_true (NoEffect.inObject (Sound.Init_none ..) hinit) trivial
  case h_6 =>
    exact iff_of_true (NoEffect.inObject (Sound.InitFromDataSource_none ..) hinit) trivial
  case h_7 self numChannels cutoffFrequency order sampleRate =>
    rw [LPFNode.Init_none] at hinit
    obtain ⟨rfl, rfl, rfl⟩ := hinit
    exact iff_of_true (NoEffect.of_reject _ heap) trivial
  case h_8 self numChannels cutoffFrequency order sampleRate =>
    rw [HPFNode.Init_none] at hinit
    obtain ⟨rfl, rfl, rfl⟩ := hinit
    exact iff_of_true (NoEffect.of_reject _ heap) trivial
  case h_9 => simp at hinit

/-- A node that owns an element, and a layout with one input and one output: the
element is gone, and the engine was named through a null pointer. -/
theorem no_engine_destroys_node :
    let heap : Heap SampleNode := ⟨⟨[some {}]⟩, [.new 0, .adopt 0, .init 0 .success]⟩
    let x : Wrapper ℕ := .tBaseNode 0 0 ⟨some 0⟩
    ∃ x' heap',
      x.Init Miniaudio.sample .error none (.tBaseNode ⟨[2], [2]⟩ true) heap =
        some (false, x', heap') ∧
      base x' = ⟨none⟩ ∧
      heap'.log = heap.log ++ [.nullEngineAccess, .uninit 0, .delete 0, .new 1, .adopt 1,
        .init 1 .error, .release 1, .delete 1] ∧
      ¬ NoEffect x heap false x' heap' := by
  intro heap x
  refine ⟨_, _, rfl, rfl, rfl, ?_⟩
  intro heffect
  exact absurd heffect.no_access (by decide)

/-- A splitter without an engine. -/
theorem no_engine_splitter :
    NoEffect (.splitterNode ⟨some 0⟩ : Wrapper ℕ) (Heap.empty : Heap SampleNode) false
        (.splitterNode ⟨some 0⟩) Heap.empty ↔
      AsksForEngine Miniaudio.sample .splitterNode (.splitterNode 2 2 : InitCall ℕ) := by
  have hinit : (Wrapper.splitterNode ⟨some 0⟩ : Wrapper ℕ).Init Miniaudio.sample .success none
      (.splitterNode 2 2) Heap.empty = some (false, .splitterNode ⟨some 0⟩, Heap.empty) := rfl
  exact no_engine_no_effect_iff Miniaudio.sample .success (by decide) hinit

end MiniaudioCpp
