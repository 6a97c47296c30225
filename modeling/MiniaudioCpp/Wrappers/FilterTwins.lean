import MiniaudioCpp.Foundation.Machine
import MiniaudioCpp.Wrappers.Init

/-!
# `LPFNode` and `HPFNode` side by side

The two classes are written alike, up to one guard: `LPFNode::Init` turns down
a channel count of zero before it looks at anything, `HPFNode::Init` does not.
There it overwrites its order and its cutoff, drops the node it owns, and fails
in `ma_hpf_node_init`.

An `LPFNode` and an `HPFNode` that get the same calls from default construction
on are in lockstep exactly as long as no `Init` tells them apart that way
(`lockstep_iff_channels_given`).
-/

namespace MiniaudioCpp

open Foundation

variable {ε α F : Type*}

/-! ## The machine -/

/-- The two filters, each with the elements of its own type. -/
structure Twins (α F : Type*) where
  lpf : LPFNode F
  lpfHeap : Heap α
  hpf : HPFNode F
  hpfHeap : Heap α

/-- Default construction. -/
def Twins.start [Zero F] : Twins α F :=
  ⟨⟨⟨none⟩, 0, 0⟩, Heap.empty, ⟨⟨none⟩, 0, 0⟩, Heap.empty⟩

/-- A call that both filters get. -/
inductive TwinCall (ε F : Type*)
  | Init (env : ε) (GetMiniaudioEngine : Option MaEngine) (numChannels : UInt32)
      (cutoffFrequency : F) (order sampleRate : UInt32)
  | SetCutoffFrequency (newCutoffFrequency : F)
  | GetOrder
  | GetCutoffFrequency
  | get

/-- What one of them hands back.  `asserted` is whether the assert in
`SetCutoffFrequency` holds, if it is reached. -/
inductive TwinAnswer (F : Type*)
  | initialised (answer : Bool)
  | asserted (holds : Option Bool)
  | order (value : UInt32)
  | cutoffFrequency (value : F)
  | got (node : Option Pointer)

/-- Equal values; the addresses of two nodes count as equal. -/
def TwinAnswer.Same : TwinAnswer F → TwinAnswer F → Prop
  | .got p, .got q => p.isSome = q.isSome
  | x, y => x = y

/-- One call, on both. -/
def twinStep [Inhabited α] (M : Miniaudio ε α F) (s : Twins α F) :
    TwinCall ε F → Option (Twins α F × TwinAnswer F × TwinAnswer F)
  | .Init env engine numChannels cutoffFrequency order sampleRate =>
      let (a, lpf, lpfHeap) :=
        s.lpf.Init M env engine numChannels cutoffFrequency order sampleRate s.lpfHeap
      let (b, hpf, hpfHeap) :=
        s.hpf.Init M env engine numChannels cutoffFrequency order sampleRate s.hpfHeap
      some (⟨lpf, lpfHeap, hpf, hpfHeap⟩, .initialised a, .initialised b)
  | .SetCutoffFrequency newCutoffFrequency =>
      let (a, lpf, lpfHeap) := s.lpf.SetCutoffFrequency M newCutoffFrequency s.lpfHeap
      let (b, hpf, hpfHeap) := s.hpf.SetCutoffFrequency M newCutoffFrequency s.hpfHeap
      some (⟨lpf, lpfHeap, hpf, hpfHeap⟩, .asserted (a.map fun r => r = .success),
        .asserted (b.map fun r => r = .success))
  | .GetOrder => some (s, .order s.lpf.mOrder, .order s.hpf.mOrder)
  | .GetCutoffFrequency =>
      some (s, .cutoffFrequency s.lpf.mCutoffFrequency, .cutoffFrequency s.hpf.mCutoffFrequency)
  | .get => some (s, .got s.lpf.resource_, .got s.hpf.resource_)

/-! ## Lockstep -/

/-- What miniaudio documents about the two kinds of filter node, which it makes
alike: `Alike x y` is for an `ma_lpf_node` and an `ma_hpf_node` with one history
of initialisations. -/
structure FiltersAlike (M : Miniaudio ε α F) (Alike : α → α → Prop) : Prop where
  init_success : ∀ env graph config x,
    (M.ma_lpf_node_init env graph config x).1 = .success ↔
      (M.ma_hpf_node_init env graph config x).1 = .success
  init_no_channels : ∀ env graph config x, config.channels = 0 →
    (M.ma_lpf_node_init env graph config x).1 ≠ .success
  init_alike : ∀ env graph config x, (M.ma_lpf_node_init env graph config x).1 = .success →
    Alike (M.ma_lpf_node_init env graph config x).2 (M.ma_hpf_node_init env graph config x).2
  /-- The fields that `SetCutoffFrequency` reads back. -/
  filter_eq : ∀ x y, Alike x y → M.lpf x = M.hpf y
  reinit_success : ∀ config x y, Alike x y →
    ((M.ma_lpf_node_reinit config x).1 = .success ↔ (M.ma_hpf_node_reinit config y).1 = .success)
  reinit_alike : ∀ config x y, Alike x y →
    Alike (M.ma_lpf_node_reinit config x).2 (M.ma_hpf_node_reinit config y).2

/-- The node owned before the call is owned after it. -/
def CResource.Keeps (before after : CResource) : Prop :=
  ∃ p, before.resource_ = some p ∧ after.resource_ = some p

/-- The step answers the same on both sides and leaves the filters both empty
or both owning, with the same order and cutoff; both own the node they had
before, or neither does. -/
structure InLockstep (s : Twins α F) (_ : TwinCall ε F) (answer : TwinAnswer F × TwinAnswer F)
    (s' : Twins α F) : Prop where
  answers : answer.1.Same answer.2
  owning : s'.lpf.resource_.isSome = s'.hpf.resource_.isSome
  order : s'.lpf.mOrder = s'.hpf.mOrder
  cutoff : s'.lpf.mCutoffFrequency = s'.hpf.mCutoffFrequency
  keeps : s.lpf.toCResource.Keeps s'.lpf.toCResource ↔ s.hpf.toCResource.Keeps s'.hpf.toCResource

/-- If the call is an `Init` without channels, there is no engine either, or the
filters own nothing and have the order and the cutoff of the call already. -/
def ChannelsGiven (M : Miniaudio ε α F) (s : Twins α F) (call : TwinCall ε F)
    (_ : TwinAnswer F × TwinAnswer F) (_ : Twins α F) : Prop :=
  ∀ env engine numChannels cutoffFrequency order sampleRate,
    call = .Init env engine numChannels cutoffFrequency order sampleRate →
      numChannels ≠ 0 ∨ engine = none ∨
        (s.lpf.resource_ = none ∧ s.lpf.mOrder = clamp order 1 M.MA_MAX_FILTER_ORDER ∧
          s.lpf.mCutoffFrequency = cutoffFrequency)

/-- The nodes: none on either side, or two that are alike. -/
def Twins.NodesAlike (Alike : α → α → Prop) (s : Twins α F) : Prop :=
  (s.lpf.resource_ = none ∧ s.hpf.resource_ = none) ∨
    ∃ p q x y, s.lpf.resource_ = some p ∧ s.hpf.resource_ = some q ∧
      s.lpfHeap.cells.get? p = some x ∧ s.hpfHeap.cells.get? q = some y ∧ Alike x y

/-- What holds between the two before each step of a run in lockstep. -/
structure TwinInvariant (Alike : α → α → Prop) (s : Twins α F) : Prop where
  order : s.lpf.mOrder = s.hpf.mOrder
  cutoff : s.lpf.mCutoffFrequency = s.hpf.mCutoffFrequency
  nodes : s.NodesAlike Alike

/-! ## Steps -/

section Steps

variable {M : Miniaudio ε α F} {Alike : α → α → Prop} {s s' : Twins α F}

theorem Twins.NodesAlike.owning (h : s.NodesAlike Alike) :
    s.lpf.resource_.isSome = s.hpf.resource_.isSome := by
  rcases h with ⟨hp, hq⟩ | ⟨p, q, x, y, hp, hq, _⟩
  · rw [hp, hq]
  · rw [hp, hq, Option.isSome_some, Option.isSome_some]

/-- A new element is not the one that was owned. -/
theorem CResource.not_keeps_new {self : CResource} {heap : Heap α} {p : Pointer} {x : α}
    (hself : self.resource_ = some p) (hp : heap.cells.get? p = some x) :
    ¬ self.Keeps ⟨some heap.cells.size⟩ := by
  rintro ⟨q, hq, hnew⟩
  obtain rfl : p = q := Option.some.inj (hself.symm.trans hq)
  have hlt := Arena.lt_size_of_get? hp
  rw [← Option.some.inj hnew] at hlt
  exact Nat.lt_irrefl _ hlt

theorem CResource.not_keeps_none (self : CResource) : ¬ self.Keeps ⟨none⟩ := by
  rintro ⟨_, _, hnone⟩
  exact absurd hnone (by simp)

/-- The same node on both sides, or none, after a step that keeps it. -/
theorem Twins.NodesAlike.keeps_iff (h : s.NodesAlike Alike)
    (hlpf : s'.lpf.resource_ = s.lpf.resource_) (hhpf : s'.hpf.resource_ = s.hpf.resource_) :
    s.lpf.toCResource.Keeps s'.lpf.toCResource ↔ s.hpf.toCResource.Keeps s'.hpf.toCResource := by
  unfold CResource.Keeps
  rw [hlpf, hhpf]
  rcases h with ⟨hp, hq⟩ | ⟨p, q, x, y, hp, hq, _⟩
  · rw [hp, hq]
  · rw [hp, hq]
    exact iff_of_true ⟨p, rfl, rfl⟩ ⟨q, rfl, rfl⟩

/-- A call that changes nothing on either side. -/
theorem lockstep_read (h : TwinInvariant Alike s) (call : TwinCall ε F)
    {answer : TwinAnswer F × TwinAnswer F} (hanswer : answer.1.Same answer.2) :
    InLockstep s call answer s :=
  ⟨hanswer, h.nodes.owning, h.order, h.cutoff, h.nodes.keeps_iff rfl rfl⟩

/-- Only an `Init` has channels to give. -/
theorem channelsGiven_of_ne_Init {call : TwinCall ε F} {answer : TwinAnswer F × TwinAnswer F}
    (hcall : ∀ env engine numChannels cutoffFrequency order sampleRate,
      call ≠ .Init env engine numChannels cutoffFrequency order sampleRate) :
    ChannelsGiven M s call answer s' :=
  fun _ _ _ _ _ _ heq => absurd heq (hcall _ _ _ _ _ _)

variable [Inhabited α]

/-- `Init` with channels and an engine: both go to miniaudio, which answers
alike. -/
theorem lockstep_Init (halike : FiltersAlike M Alike) (h : TwinInvariant Alike s) (env : ε)
    (engine : MaEngine) {numChannels : UInt32} (hchannels : numChannels ≠ 0) (cutoffFrequency : F)
    (order sampleRate : UInt32) {answer : TwinAnswer F × TwinAnswer F}
    (hstep : twinStep M s (.Init env (some engine) numChannels cutoffFrequency order sampleRate) =
      some (s', answer)) :
    InLockstep s (.Init env (some engine) numChannels cutoffFrequency order sampleRate) answer s' ∧
      TwinInvariant Alike s' := by
  simp only [twinStep, LPFNode.Init, HPFNode.Init, if_neg hchannels, Option.some.injEq,
    Prod.mk.injEq] at hstep
  obtain ⟨rfl, rfl⟩ := hstep
  generalize (⟨numChannels, _, cutoffFrequency, _⟩ : MaFilterNodeConfig F) = config
  by_cases hresult : (M.ma_lpf_node_init env engine.nodeGraph config default).1 = .success
  · obtain ⟨hanswer, hself, hcell⟩ :=
      s.lpf.toCResource.emplaceEnsured_of_success s.lpfHeap hresult
    obtain ⟨hanswer', hself', hcell'⟩ :=
      s.hpf.toCResource.emplaceEnsured_of_success s.hpfHeap
        ((halike.init_success _ _ _ _).mp hresult)
    have hnodes := halike.init_alike _ _ _ _ hresult
    refine ⟨⟨?_, ?_, rfl, rfl, ?_⟩, rfl, rfl, Or.inr ⟨_, _, _, _, ?_, ?_, hcell, hcell', hnodes⟩⟩
    · rw [hanswer, hanswer']
      rfl
    · rw [hself, hself']
      rfl
    · -- the new nodes are new on both sides
      rw [hself, hself']
      rcases h.nodes with ⟨hp, hq⟩ | ⟨p, q, x, y, hp, hq, hx, hy, _⟩
      · simp [CResource.Keeps, hp, hq]
      · exact iff_of_false (CResource.not_keeps_new hp hx) (CResource.not_keeps_new hq hy)
    · rw [hself]
    · rw [hself']
  · obtain ⟨hanswer, hself⟩ := s.lpf.toCResource.emplaceEnsured_of_ne s.lpfHeap hresult
    obtain ⟨hanswer', hself'⟩ := s.hpf.toCResource.emplaceEnsured_of_ne s.hpfHeap
      (fun heq => hresult ((halike.init_success _ _ _ _).mpr heq))
    refine ⟨⟨?_, ?_, rfl, rfl, ?_⟩, rfl, rfl, Or.inl ⟨?_, ?_⟩⟩
    · rw [hanswer, hanswer']
      rfl
    · rw [hself, hself']
    · rw [hself, hself']
      exact iff_of_false (CResource.not_keeps_none _) (CResource.not_keeps_none _)
    · rw [hself]
    · rw [hself']

/-- `Init` without channels: only the `HPFNode` goes to miniaudio, and fails
there. -/
theorem lockstep_Init_no_channels (halike : FiltersAlike M Alike) (env : ε)
    (engine : MaEngine) (cutoffFrequency : F) (order sampleRate : UInt32)
    {answer : TwinAnswer F × TwinAnswer F}
    (hstep : twinStep M s (.Init env (some engine) 0 cutoffFrequency order sampleRate) =
      some (s', answer)) :
    (InLockstep s (.Init env (some engine) 0 cutoffFrequency order sampleRate) answer s' ↔
        s.lpf.resource_ = none ∧ s.lpf.mOrder = clamp order 1 M.MA_MAX_FILTER_ORDER ∧
          s.lpf.mCutoffFrequency = cutoffFrequency) ∧
      (s.lpf.resource_ = none → s'.NodesAlike Alike) := by
  simp only [twinStep, LPFNode.Init, HPFNode.Init, if_pos, Option.some.injEq,
    Prod.mk.injEq] at hstep
  obtain ⟨rfl, rfl⟩ := hstep
  generalize hconfig : (⟨0, _, cutoffFrequency, _⟩ : MaFilterNodeConfig F) = config
  have hresult : (M.ma_hpf_node_init env engine.nodeGraph config default).1 ≠ .success := by
    intro heq
    have hchannels : config.channels = 0 := by rw [← hconfig]
    exact halike.init_no_channels _ _ _ _ hchannels ((halike.init_success _ _ _ _).mpr heq)
  obtain ⟨hanswer, hself⟩ := s.hpf.toCResource.emplaceEnsured_of_ne s.hpfHeap hresult
  refine ⟨?_, fun hnone => Or.inl ⟨hnone, congrArg CResource.resource_ hself⟩⟩
  constructor
  · -- the `HPFNode` has taken the arguments and owns nothing
    rintro ⟨_, howning, horder, hcutoff, _⟩
    rw [hself] at howning
    exact ⟨Option.not_isSome_iff_eq_none.mp (by simp [howning]), horder, hcutoff⟩
  · rintro ⟨hnone, horder, hcutoff⟩
    refine ⟨?_, ?_, horder, hcutoff, ?_⟩
    · rw [hanswer]
      rfl
    · rw [hself]
      simp [hnone]
    · rw [hself]
      refine iff_of_false ?_ (CResource.not_keeps_none _)
      rintro ⟨_, hsome, _⟩
      exact absurd (hnone.symm.trans hsome) (by simp)

/-- `SetCutoffFrequency` goes to alike nodes, with equal arguments. -/
theorem lockstep_SetCutoffFrequency (halike : FiltersAlike M Alike) (h : TwinInvariant Alike s)
    (newCutoffFrequency : F) {answer : TwinAnswer F × TwinAnswer F}
    (hstep : twinStep M s (.SetCutoffFrequency newCutoffFrequency) = some (s', answer)) :
    InLockstep s (.SetCutoffFrequency newCutoffFrequency : TwinCall ε F) answer s' ∧
      TwinInvariant Alike s' := by
  rcases h.nodes with ⟨hp, hq⟩ | ⟨p, q, x, y, hp, hq, hx, hy, hxy⟩
  · simp only [twinStep, LPFNode.SetCutoffFrequency, HPFNode.SetCutoffFrequency, hp, hq,
      Option.some.injEq, Prod.mk.injEq] at hstep
    obtain ⟨rfl, rfl⟩ := hstep
    exact ⟨⟨rfl, h.nodes.owning, h.order, h.cutoff, h.nodes.keeps_iff rfl rfl⟩, h⟩
  · simp only [twinStep, LPFNode.SetCutoffFrequency, HPFNode.SetCutoffFrequency, hp, hq,
      Heap.load_of_get? hx, Heap.load_of_get? hy, halike.filter_eq x y hxy, h.order,
      Option.some.injEq, Prod.mk.injEq] at hstep
    obtain ⟨rfl, rfl⟩ := hstep
    generalize (⟨_, _, _, newCutoffFrequency, _⟩ : MaFilterConfig F) = config
    have hiff := halike.reinit_success config x y hxy
    refine ⟨⟨?_, h.nodes.owning, rfl, rfl, h.nodes.keeps_iff rfl rfl⟩, rfl, rfl, ?_⟩
    · simp [TwinAnswer.Same, hiff]
    · refine Or.inr ⟨p, q, _, _, hp, hq, ?_, ?_, halike.reinit_alike config x y hxy⟩
      · exact Arena.get?_put_self (Arena.lt_size_of_get? hx) _
      · exact Arena.get?_put_self (Arena.lt_size_of_get? hy) _

/-- One step: it is in lockstep exactly when it is no `Init` without channels
that the two tell apart, and then the filters are again as they have to be. -/
theorem inLockstep_iff (halike : FiltersAlike M Alike) (h : TwinInvariant Alike s)
    {call : TwinCall ε F} {answer : TwinAnswer F × TwinAnswer F}
    (hstep : twinStep M s call = some (s', answer)) :
    (InLockstep s call answer s' ↔ ChannelsGiven M s call answer s') ∧
      (InLockstep s call answer s' → TwinInvariant Alike s') := by
  cases call with
  | Init env engine numChannels cutoffFrequency order sampleRate =>
      cases engine with
      | none =>
          -- turned down on both sides, with or without channels
          have hlpf : s.lpf.Init M env none numChannels cutoffFrequency order sampleRate
              s.lpfHeap = (false, s.lpf, s.lpfHeap) := ite_id _
          simp only [twinStep, hlpf, HPFNode.Init, Option.some.injEq, Prod.mk.injEq] at hstep
          obtain ⟨rfl, rfl⟩ := hstep
          refine ⟨iff_of_true (lockstep_read h _ rfl) ?_, fun _ => h⟩
          rintro _ _ _ _ _ _ ⟨⟩
          exact Or.inr (Or.inl rfl)
      | some engine =>
          by_cases hchannels : numChannels = 0
          · subst hchannels
            obtain ⟨hiff, hnodes⟩ := lockstep_Init_no_channels halike env engine cutoffFrequency
              order sampleRate hstep
            refine ⟨hiff.trans ?_, fun hlockstep =>
              ⟨hlockstep.order, hlockstep.cutoff, hnodes (hiff.mp hlockstep).1⟩⟩
            constructor
            · rintro hunchanged _ _ _ _ _ _ ⟨⟩
              exact Or.inr (Or.inr hunchanged)
            · intro hgiven
              rcases hgiven env (some engine) 0 cutoffFrequency order sampleRate rfl with
                hzero | hnone | hunchanged
              · exact absurd rfl hzero
              · exact absurd hnone (by simp)
              · exact hunchanged
          · obtain ⟨hlockstep, hinv⟩ := lockstep_Init halike h env engine hchannels
              cutoffFrequency order sampleRate hstep
            refine ⟨iff_of_true hlockstep ?_, fun _ => hinv⟩
            rintro _ _ _ _ _ _ ⟨⟩
            exact Or.inl hchannels
  | SetCutoffFrequency newCutoffFrequency =>
      obtain ⟨hlockstep, hinv⟩ := lockstep_SetCutoffFrequency halike h newCutoffFrequency hstep
      exact ⟨iff_of_true hlockstep (channelsGiven_of_ne_Init (by simp)), fun _ => hinv⟩
  | GetOrder =>
      simp only [twinStep, Option.some.injEq, Prod.mk.injEq] at hstep
      obtain ⟨rfl, rfl⟩ := hstep
      have hsame : (TwinAnswer.order s.lpf.mOrder : TwinAnswer F).Same (.order s.hpf.mOrder) :=
        congrArg TwinAnswer.order h.order
      exact ⟨iff_of_true (lockstep_read h _ hsame) (channelsGiven_of_ne_Init (by simp)), fun _ => h⟩
  | GetCutoffFrequency =>
      simp only [twinStep, Option.some.injEq, Prod.mk.injEq] at hstep
      obtain ⟨rfl, rfl⟩ := hstep
      have hsame : (TwinAnswer.cutoffFrequency s.lpf.mCutoffFrequency).Same
          (.cutoffFrequency s.hpf.mCutoffFrequency) := congrArg TwinAnswer.cutoffFrequency h.cutoff
      exact ⟨iff_of_true (lockstep_read h _ hsame) (channelsGiven_of_ne_Init (by simp)), fun _ => h⟩
  | get =>
      simp only [twinStep, Option.some.injEq, Prod.mk.injEq] at hstep
      obtain ⟨rfl, rfl⟩ := hstep
      have hsame : (TwinAnswer.got s.lpf.resource_ : TwinAnswer F).Same (.got s.hpf.resource_) :=
        h.nodes.owning
      exact ⟨iff_of_true (lockstep_read h _ hsame) (channelsGiven_of_ne_Init (by simp)), fun _ => h⟩

end Steps

/-! ## Runs -/

/-- From default construction on, the two filters are in lockstep at each step of
a run if and only if each `Init` of the run either has channels, or finds no
engine, or finds two filters that own nothing and have its order and its cutoff
already. -/
theorem lockstep_iff_channels_given [Zero F] [Inhabited α] {M : Miniaudio ε α F}
    {Alike : α → α → Prop} (halike : FiltersAlike M Alike) (calls : List (TwinCall ε F)) :
    Along (twinStep M) InLockstep Twins.start calls ↔
      Along (twinStep M) (ChannelsGiven M) Twins.start calls := by
  have hstart : TwinInvariant Alike (Twins.start : Twins α F) := ⟨rfl, rfl, Or.inl ⟨rfl, rfl⟩⟩
  refine along_iff_along ?_ calls hstart
  intro s call answer s' hinv hstep
  exact inLockstep_iff halike hinv hstep

/-- In the sample the two kinds of node are one. -/
theorem filtersAlike_sample : FiltersAlike .sample Eq where
  init_success _ _ _ _ := Iff.rfl
  init_no_channels env _ config x hchannels := by
    simp [Miniaudio.sample, SampleNode.init, hchannels]
  init_alike _ _ _ _ _ := rfl
  filter_eq x y heq := heq ▸ rfl
  reinit_success config x y heq := heq ▸ Iff.rfl
  reinit_alike config x y heq := heq ▸ rfl

/-- An `Init` that both take, and one without channels: the `LPFNode` keeps its
node, the `HPFNode` does not. -/
theorem init_without_channels :
    let calls := [.Init .success (some ⟨0, 48000⟩) 2 100 2 0,
      .Init .success (some ⟨0, 48000⟩) 0 200 4 0, .GetOrder, .get]
    (run (twinStep .sample) Twins.start calls).map Prod.snd =
        some [(.initialised true, .initialised true), (.initialised false, .initialised false),
          (.order 2, .order 4), (.got (some 0), .got none)] ∧
      ¬ Along (twinStep .sample) InLockstep Twins.start calls := by
  intro calls
  refine ⟨rfl, ?_⟩
  intro halong
  have horder := ((halong _ _ rfl).2 _ _ rfl).1.order
  exact absurd horder (by decide)

/-- Two `Init` calls with channels and a `SetCutoffFrequency`. -/
theorem lockstep_two_inits :
    let calls := [.Init .success (some ⟨0, 48000⟩) 2 100 2 0,
      .Init .error (some ⟨0, 48000⟩) 2 200 4 0, .SetCutoffFrequency 300]
    Along (twinStep .sample) InLockstep Twins.start calls ↔
      Along (twinStep .sample) (ChannelsGiven .sample) Twins.start calls :=
  lockstep_iff_channels_given filtersAlike_sample _

end MiniaudioCpp
