import MiniaudioCpp.Foundation.Machine
import MiniaudioCpp.Wrappers.Settled

/-!
# The typestate of the wrappers

Any number of wrappers of all kinds over one heap, and any sequence of their
`Init` functions, moves, swaps and destructions.  Each initialisation function
of miniaudio is free to succeed or fail at each call.

`Wrapper.init_path` reduces the nine `Init` paths to the three things they can
do: turn the call down, `emplace` and check, or `reset` to a new element,
initialise and check.  The run invariant is `Custody` with every element
settled, and `wrapper_typestate` reads the promises of the wrappers off it.
-/

namespace MiniaudioCpp

open Foundation CResourceBase

variable {ε α F : Type*}

/-! ## Wrappers of all kinds -/

/-- The classes.  A `TBaseNode` is one class for each `TNode`, with its flags. -/
inductive WrapperKind
  | engine
  | tBaseNode (TNode : ℕ) (FLAGS : UInt32)
  | splitterNode
  | engineNode
  | sound
  | lpfNode
  | hpfNode
  deriving DecidableEq, Repr

/-- An object of one of the classes. -/
inductive Wrapper (F : Type*)
  | engine (self : CResource)
  | tBaseNode (TNode : ℕ) (FLAGS : UInt32) (self : CResource)
  | splitterNode (self : CResource)
  | engineNode (self : CResource)
  | sound (self : CResource)
  | lpfNode (self : LPFNode F)
  | hpfNode (self : HPFNode F)

namespace Wrapper

/-- The class of an object. -/
def kind : Wrapper F → WrapperKind
  | .engine _ => .engine
  | .tBaseNode TNode FLAGS _ => .tBaseNode TNode FLAGS
  | .splitterNode _ => .splitterNode
  | .engineNode _ => .engineNode
  | .sound _ => .sound
  | .lpfNode _ => .lpfNode
  | .hpfNode _ => .hpfNode

instance : CResourceBase (Wrapper F) where
  base
    | .engine self | .tBaseNode _ _ self | .splitterNode self | .engineNode self | .sound self =>
        self
    | .lpfNode self => self.toCResource
    | .hpfNode self => self.toCResource
  withBase
    | .engine _, c => .engine c
    | .tBaseNode TNode FLAGS _, c => .tBaseNode TNode FLAGS c
    | .splitterNode _, c => .splitterNode c
    | .engineNode _, c => .engineNode c
    | .sound _, c => .sound c
    | .lpfNode self, c => .lpfNode { self with toCResource := c }
    | .hpfNode self, c => .hpfNode { self with toCResource := c }
  base_withBase x c := by cases x <;> rfl

/-- Default construction. -/
def fresh [Zero F] : WrapperKind → Wrapper F
  | .engine => .engine {}
  | .tBaseNode TNode FLAGS => .tBaseNode TNode FLAGS {}
  | .splitterNode => .splitterNode {}
  | .engineNode => .engineNode {}
  | .sound => .sound {}
  | .lpfNode => .lpfNode { mOrder := 0, mCutoffFrequency := 0 }
  | .hpfNode => .hpfNode { mOrder := 0, mCutoffFrequency := 0 }

theorem resource_fresh [Zero F] (kind : WrapperKind) :
    (base (fresh kind : Wrapper F)).resource_ = none := by
  cases kind <;> rfl

end Wrapper

/-- The `Init` functions, with their arguments. -/
inductive InitCall (F : Type*)
  | engine (numChannels : UInt32) (vfs : Option ℕ)
  | tBaseNode (nodeLayout : NodeLayout) (initStarted : Bool)
  | splitterNode (numChannels numOutputBusses : UInt32)
  | initGroup (settings : GroupNodeSettings)
  | sound (filePathOrId : Option String) (flags : UInt32) (bUseSourceChannelCount : Bool)
  | initFromDataSource (dataSource : Option ℕ) (flags : UInt32)
  | lpfNode (numChannels : UInt32) (cutoffFrequency : F) (order sampleRate : UInt32)
  | hpfNode (numChannels : UInt32) (cutoffFrequency : F) (order sampleRate : UInt32)

/-- Put the base that a member function leaves back into its object. -/
def inObject {ω : Type*} (wrap : CResource → ω) (out : Bool × CResource × Heap α) :
    Bool × ω × Heap α :=
  (out.1, wrap out.2.1, out.2.2)

/-- An `Init` function on an object; `none` where its class has no such
function. -/
def Wrapper.Init [Inhabited α] (M : Miniaudio ε α F) (env : ε)
    (GetMiniaudioEngine : Option MaEngine) (x : Wrapper F) (call : InitCall F) (heap : Heap α) :
    Option (Bool × Wrapper F × Heap α) :=
  match x, call with
  | .engine c, .engine numChannels vfs =>
      some (inObject .engine (Engine.Init M env numChannels vfs c heap))
  | .tBaseNode TNode FLAGS c, .tBaseNode nodeLayout initStarted =>
      some (inObject (.tBaseNode TNode FLAGS)
        (TBaseNode.Init M env GetMiniaudioEngine FLAGS nodeLayout initStarted c heap))
  | .splitterNode c, .splitterNode numChannels numOutputBusses =>
      some (inObject .splitterNode
        (SplitterNode.Init M env GetMiniaudioEngine numChannels numOutputBusses c heap))
  | .engineNode c, .initGroup settings =>
      some (inObject .engineNode (EngineNode.InitGroup M env GetMiniaudioEngine settings c heap))
  | .sound c, .sound filePathOrId flags bUseSourceChannelCount =>
      some (inObject .sound
        (Sound.Init M env GetMiniaudioEngine filePathOrId flags bUseSourceChannelCount c heap))
  | .sound c, .initFromDataSource dataSource flags =>
      some (inObject .sound
        (Sound.InitFromDataSource M env GetMiniaudioEngine dataSource flags c heap))
  | .lpfNode self, .lpfNode numChannels cutoffFrequency order sampleRate =>
      let (result, self, heap) :=
        LPFNode.Init M env GetMiniaudioEngine numChannels cutoffFrequency order sampleRate self heap
      some (result, .lpfNode self, heap)
  | .hpfNode self, .hpfNode numChannels cutoffFrequency order sampleRate =>
      let (result, self, heap) :=
        HPFNode.Init M env GetMiniaudioEngine numChannels cutoffFrequency order sampleRate self heap
      some (result, .hpfNode self, heap)
  | _, _ => none

/-! ## The three things an `Init` can do -/

/-- What an `Init` does to the base of an object and the heap. -/
inductive InitPath [Inhabited α] (c : CResource) : Heap α → Bool × CResource × Heap α → Prop
  | reject (heap : Heap α) : InitPath c heap (false, c, heap)
  | emplace (heap : Heap α) (f : MaInit α) : InitPath c heap (c.emplaceEnsured f heap)
  | reset (heap : Heap α) (f : MaInit α) : InitPath c heap (c.resetEnsured f heap)
  /-- The log of the engine is set up first. -/
  | logged (heap : Heap α) (f : MaInit α) :
      InitPath c heap (c.emplaceEnsured f (heap.record .logInit))

/-- Each `Init` against an engine takes one of the paths. -/
theorem Wrapper.init_path [Inhabited α] {M : Miniaudio ε α F} {env : ε} {engine : MaEngine}
    {x x' : Wrapper F} {call : InitCall F} {heap heap' : Heap α} {answer : Bool}
    (hinit : x.Init M env (some engine) call heap = some (answer, x', heap')) :
    InitPath (base x) heap (answer, base x', heap') := by
  unfold Wrapper.Init at hinit
  split at hinit
  case h_1 c numChannels vfs =>
    obtain ⟨rfl, rfl, rfl⟩ := hinit
    exact .logged heap _
  case h_2 TNode FLAGS c nodeLayout initStarted =>
    unfold TBaseNode.Init at hinit
    split at hinit
    · obtain ⟨rfl, rfl, rfl⟩ := hinit
      exact .reject heap
    · obtain ⟨rfl, rfl, rfl⟩ := hinit
      exact .emplace heap _
  case h_3 c numChannels numOutputBusses =>
    unfold SplitterNode.Init at hinit
    split at hinit
    · obtain ⟨rfl, rfl, rfl⟩ := hinit
      exact .reject heap
    · obtain ⟨rfl, rfl, rfl⟩ := hinit
      exact .emplace heap _
  case h_4 c settings =>
    unfold EngineNode.InitGroup at hinit
    split at hinit
    · obtain ⟨rfl, rfl, rfl⟩ := hinit
      exact .reject heap
    · obtain ⟨rfl, rfl, rfl⟩ := hinit
      exact .emplace heap _
  case h_5 c filePathOrId flags bUseSourceChannelCount =>
    -- the two paths of `Sound::Init` differ in who makes the element
    cases bUseSourceChannelCount with
    | true =>
        obtain ⟨rfl, rfl, rfl⟩ := hinit
        exact .reset heap _
    | false =>
        obtain ⟨rfl, rfl, rfl⟩ := hinit
        exact .emplace heap _
  case h_6 c dataSource flags =>
    cases dataSource with
    | none =>
        obtain ⟨rfl, rfl, rfl⟩ := hinit
        exact .reject heap
    | some dataSource =>
        obtain ⟨rfl, rfl, rfl⟩ := hinit
        exact .reset heap _
  case h_7 self numChannels cutoffFrequency order sampleRate =>
    unfold LPFNode.Init at hinit
    by_cases hchannels : numChannels = 0
    · rw [if_pos hchannels] at hinit
      obtain ⟨rfl, rfl, rfl⟩ := hinit
      exact .reject heap
    · rw [if_neg hchannels] at hinit
      obtain ⟨rfl, rfl, rfl⟩ := hinit
      exact .emplace heap _
  case h_8 self numChannels cutoffFrequency order sampleRate =>
    obtain ⟨rfl, rfl, rfl⟩ := hinit
    exact .emplace heap _
  case h_9 => simp at hinit

/-- An `Init` keeps custody and settles every element, and it answers whether the
wrapper owns the element it initialised. -/
theorem InitPath.initialised [Inhabited α] {ι : Type*} [DecidableEq ι]
    {slots : ι → Option Pointer} {i : ι} {c : CResource} {heap : Heap α}
    {out : Bool × CResource × Heap α} (hpath : InitPath c heap out) (h : Custody slots heap)
    (hsettled : heap.AllSettled) (hi : slots i = c.resource_) :
    Initialised slots i heap out.1 out.2.1 out.2.2 := by
  cases hpath with
  | reject => exact initialised_reject h hsettled hi
  | emplace f => exact emplaceEnsured_initialised h hsettled hi ⟨[], (List.append_nil _).symm⟩ f
  | reset f => exact resetEnsured_initialised h hsettled hi f
  | logged f =>
      exact emplaceEnsured_initialised (h.record_none rfl) (hsettled.record_none rfl) hi
        ⟨[.logInit], rfl⟩ f

/-! ## The machine -/

/-- The calls.  `engine` is what the client's `Engine` owns at an `Init`. -/
inductive WrapperCall (ε F : Type*)
  | construct (kind : WrapperKind)
  | init (self : ℕ) (env : ε) (engine : MaEngine) (call : InitCall F)
  | moveConstruct (other : ℕ)
  | moveAssign (self other : ℕ)
  | swap (self other : ℕ)
  | destroy (self : ℕ)

/-- What a call hands back. -/
inductive WrapperAnswer
  | done
  | initialised (answer : Bool)
  deriving DecidableEq, Repr

/-- The two objects are of one class. -/
def World.sameKind (w : World (Wrapper F) α) (self other : ℕ) : Bool :=
  (w.objects.get? self).map Wrapper.kind = (w.objects.get? other).map Wrapper.kind

/-- One call. -/
def wrapperStep [Zero F] [Inhabited α] (M : Miniaudio ε α F) (w : World (Wrapper F) α) :
    WrapperCall ε F → Option (World (Wrapper F) α × WrapperAnswer)
  | .construct kind => some (w.construct (Wrapper.fresh kind), .done)
  | .init self env engine call =>
      (w.objects.get? self).bind fun x =>
        (x.Init M env (some engine) call w.heap).map fun (answer, x, heap) =>
          (⟨w.objects.put self x, heap⟩, .initialised answer)
  | .moveConstruct other => (w.moveConstruct other).map fun w => (w, .done)
  | .moveAssign self other =>
      if w.sameKind self other then (w.moveAssign self other).map fun w => (w, .done) else none
  | .swap self other =>
      if w.sameKind self other then (w.swap self other).map fun w => (w, .done) else none
  | .destroy self => (w.destroy self).map fun w => (w, .done)

/-! ## The answers of `Init` -/

/-- An `Init` answers `true` exactly when the wrapper then owns an element whose
initialisation succeeded in this very call. -/
def InitReports (w : World (Wrapper F) α) : WrapperCall ε F → WrapperAnswer →
    World (Wrapper F) α → Prop
  | .init self .., answer, w' => ∃ b, answer = .initialised b ∧
      (b = true ↔ ∃ p fresh, w'.slots self = some p ∧ w'.heap.log = w.heap.log ++ fresh ∧
        .init p .success ∈ fresh)
  | _, _, _ => True

theorem wrapperStep_settled [Zero F] [Inhabited α] {M : Miniaudio ε α F}
    {w w' : World (Wrapper F) α} {call : WrapperCall ε F} {answer : WrapperAnswer}
    (h : w.Settled) (hstep : wrapperStep M w call = some (w', answer)) :
    InitReports w call answer w' ∧ w'.Settled := by
  cases call with
  | construct kind =>
      simp only [wrapperStep, Option.some.injEq, Prod.mk.injEq] at hstep
      obtain ⟨rfl, _⟩ := hstep
      exact ⟨trivial, h.construct (Wrapper.resource_fresh kind)⟩
  | init self env engine call =>
      simp only [wrapperStep, Option.bind_eq_some_iff, Option.map_eq_some_iff, Prod.mk.injEq,
        Prod.exists] at hstep
      obtain ⟨x, hx, b, x', heap', hinit, rfl, rfl⟩ := hstep
      have hspec := (Wrapper.init_path hinit).initialised h.custody h.allSettled
        (World.slots_of_get? hx)
      have hslot : World.slots ⟨w.objects.put self x', heap'⟩ self = (base x').resource_ := by
        apply World.slots_of_get?
        exact Arena.get?_put_self (Arena.lt_size_of_get? hx) x'
      refine ⟨⟨b, rfl, ?_⟩, World.Settled.initialised hx hspec⟩
      rw [hslot]
      exact hspec.reports
  | moveConstruct other =>
      simp only [wrapperStep, Option.map_eq_some_iff, Prod.mk.injEq] at hstep
      obtain ⟨_, hmove, rfl, _⟩ := hstep
      exact ⟨trivial, h.moveConstruct hmove⟩
  | moveAssign self other =>
      simp only [wrapperStep, Option.ite_none_right_eq_some, Option.map_eq_some_iff,
        Prod.mk.injEq] at hstep
      obtain ⟨_, _, hmove, rfl, _⟩ := hstep
      exact ⟨trivial, h.moveAssign hmove⟩
  | swap self other =>
      simp only [wrapperStep, Option.ite_none_right_eq_some, Option.map_eq_some_iff,
        Prod.mk.injEq] at hstep
      obtain ⟨_, _, hswap, rfl, _⟩ := hstep
      exact ⟨trivial, h.swap hswap⟩
  | destroy self =>
      simp only [wrapperStep, Option.map_eq_some_iff, Prod.mk.injEq] at hstep
      obtain ⟨_, hdestroy, rfl, _⟩ := hstep
      exact ⟨trivial, h.destroy hdestroy⟩

/-! ## The typestate -/

/-- What the wrappers promise about the elements, between two calls. -/
structure WrapperTypestate (w : World (Wrapper F) α) : Prop where
  /-- An element that a wrapper owns is live and was initialised with success. -/
  owns_initialised : ∀ i p, w.slots i = some p →
    (∃ x, w.heap.cells.get? p = some x) ∧ .init p .success ∈ w.heap.log
  /-- `UninitFunction` was only applied after an initialisation that succeeded. -/
  uninit_initialised : ∀ p, .uninit p ∈ w.heap.log → ∃ before after,
    w.heap.history p = before ++ .uninit p :: after ∧ .init p .success ∈ before
  /-- An element whose initialisation failed was deleted once and never
  uninitialised. -/
  failed_deleted : ∀ p r, r ≠ .success → .init p r ∈ w.heap.log →
    w.heap.log.count (.delete p) = 1 ∧ w.heap.log.count (.uninit p) = 0

theorem World.Settled.typestate {w : World (Wrapper F) α} (h : w.Settled) : WrapperTypestate w where
  owns_initialised i p hi := by
    obtain ⟨r, hr⟩ := h.custody.held_of_slot hi
    exact ⟨h.custody.live_of_slot hi, (Heap.init_mem_log_iff hr .success).mpr (h.allSettled p _ hr)⟩
  uninit_initialised p huninit := by
    obtain ⟨stage, hstage⟩ := h.custody.exists_stage p
    -- of the settled stages only one comes after an `uninit`
    obtain ⟨r, rfl⟩ : ∃ r, stage = .gone r true := by
      have hpos := List.count_pos_iff.mpr huninit
      rw [(Heap.counts_of_stage hstage).1] at hpos
      have hsettled := h.allSettled p stage hstage
      cases stage with
      | gone r uninited => cases uninited <;> simp_all
      | dying r => exact hsettled.elim
      | _ => simp at hpos
    obtain ⟨before, hshape, _, _⟩ := Heap.shape_of_stage hstage
    refine ⟨before, [.delete p], hshape, ?_⟩
    have hinit := (Heap.init_mem_log_iff hstage .success).mpr (h.allSettled p _ hstage)
    rw [← Heap.mem_history (p := p) rfl, hshape] at hinit
    simpa using hinit
  failed_deleted p r hr hinit := by
    obtain ⟨stage, hstage⟩ := h.custody.exists_stage p
    have hresult := (Heap.init_mem_log_iff hstage r).mp hinit
    have hsettled := h.allSettled p stage hstage
    -- and only one comes after an initialisation that failed
    obtain ⟨r', rfl⟩ : ∃ r', stage = .gone r' false := by
      cases stage with
      | gone r' uninited => cases uninited <;> simp_all [Stage.Settled, Stage.result]
      | _ => simp_all [Stage.Settled, Stage.result]
    obtain ⟨huninit, hdelete⟩ := Heap.counts_of_stage hstage
    exact ⟨hdelete, huninit⟩

/-- The typestate of the wrappers, over every run of `Init` functions, moves,
swaps and destructions, with the answer of each `Init` on the way. -/
theorem wrapper_typestate [Zero F] [Inhabited α] {M : Miniaudio ε α F}
    {calls : List (WrapperCall ε F)} {w : World (Wrapper F) α} {answers : List WrapperAnswer}
    (hrun : run (wrapperStep M) World.empty calls = some (w, answers)) :
    WrapperTypestate w ∧ Along (wrapperStep M) InitReports World.empty calls := by
  constructor
  · have hsettled : w.Settled :=
      run_invariant (fun _ _ _ _ h hstep => (wrapperStep_settled h hstep).2) World.Settled.empty hrun
    exact hsettled.typestate
  · refine along_of_invariant ?_ calls World.Settled.empty
    intro w call answer w' h hstep
    exact wrapperStep_settled h hstep

/-- A splitter whose first initialisation fails, moved once the second succeeded. -/
theorem wrapper_typestate_splitter :
    let calls : List (WrapperCall MaResult ℕ) := [.construct .splitterNode,
      .init 0 .error ⟨0, 48000⟩ (.splitterNode 2 2), .init 0 .success ⟨0, 48000⟩ (.splitterNode 2 2),
      .moveConstruct 0, .destroy 0]
    let w : World (Wrapper ℕ) SampleNode := ⟨⟨[none, some (.splitterNode ⟨some 1⟩)]⟩,
      ⟨⟨[none, some {}]⟩, [.new 0, .adopt 0, .init 0 .error, .release 0, .delete 0, .new 1,
        .adopt 1, .init 1 .success]⟩⟩
    run (wrapperStep .sample) World.empty calls =
        some (w, [.done, .initialised false, .initialised true, .done, .done]) ∧
      WrapperTypestate w ∧ Along (wrapperStep .sample) InitReports World.empty calls := by
  intro calls w
  have hrun : run (wrapperStep .sample) World.empty calls =
      some (w, [.done, .initialised false, .initialised true, .done, .done]) := rfl
  exact ⟨hrun, wrapper_typestate hrun⟩

end MiniaudioCpp
