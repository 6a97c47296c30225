import MiniaudioCpp.Routing.NodeLog

/-!
# Attachments and the lives of nodes

A bus does not keep its node alive, and an attachment is one of miniaudio's
nodes to another.  What ties the two together is that a wrapper gives a node up
only through `UninitFunction`, which detaches it, or by `release`, which leaves
it live; and the one path that deletes a node without `UninitFunction`, a failed
`Init`, deletes a node that nothing was ever attached to.

Attachments are made by the attach calls, and by miniaudio itself for a new
sound: `Sound::Init` and `Sound::InitFromDataSource` leave it attached to the
endpoint of the engine, unless `MA_SOUND_FLAG_NO_DEFAULT_ATTACHMENT` is among
the flags.

So in every run that mixes calls on wrappers, sounds among them, with attach
calls on live nodes, no attachment ever leads to a node that is gone, moves leave
the routing as it is, and the end of a node takes away the attachments of that
node and no others (`attachments_follow_nodes`).
-/

namespace MiniaudioCpp

open Foundation CResourceBase

variable {ε α F ω G : Type*}

/-! ## Nodes and sounds -/

/-- What the initialisation and the uninitialisation of a node do to the graph,
and where the endpoint of a node graph is: a node inside the element of its
engine, which names it. -/
structure NodeLife (G : Type*) where
  ma_node_init : Pointer → MaResult → G → G
  ma_node_uninit : Pointer → G → G
  endpoint : ℕ → Pointer

/-- The graph after an event. -/
def NodeLife.after (L : NodeLife G) (g : G) : Event → G
  | .init p result => L.ma_node_init p result g
  | .uninit p => L.ma_node_uninit p g
  | _ => g

/-- `Engine::GetEndpointBus`. -/
def Engine.GetEndpointBus (L : NodeLife G) (engine : MaEngine) : InputBus :=
  BusIndex.Of 0 (.maNode (some (L.endpoint engine.nodeGraph)))

/-- The two calls that initialise a sound. -/
inductive SoundCall (ε : Type*)
  | Init (env : ε) (GetMiniaudioEngine : Option MaEngine) (filePathOrId : Option String)
      (flags : UInt32) (bUseSourceChannelCount : Bool)
  | InitFromDataSource (env : ε) (GetMiniaudioEngine : Option MaEngine) (dataSource : Option ℕ)
      (flags : UInt32)

namespace SoundCall

/-- The call, on what a wrapper owns. -/
def apply [Inhabited α] (A : Miniaudio ε α F) (self : CResource) (heap : Heap α) :
    SoundCall ε → Bool × CResource × Heap α
  | .Init env engine filePathOrId flags bUseSourceChannelCount =>
      Sound.Init A env engine filePathOrId flags bUseSourceChannelCount self heap
  | .InitFromDataSource env engine dataSource flags =>
      Sound.InitFromDataSource A env engine dataSource flags self heap

/-- The engine of the client. -/
def engine : SoundCall ε → Option MaEngine
  | .Init _ engine _ _ _ | .InitFromDataSource _ engine _ _ => engine

/-- The flags that miniaudio is called with. -/
def flags (A : Miniaudio ε α F) : SoundCall ε → UInt32
  | .Init _ _ _ flags true =>
      flags ||| A.MA_SOUND_FLAG_NO_SPATIALIZATION ||| A.MA_SOUND_FLAG_NO_DEFAULT_ATTACHMENT
  | .Init _ _ _ flags false | .InitFromDataSource _ _ _ flags =>
      flags ||| A.MA_SOUND_FLAG_NO_SPATIALIZATION

/-- The bus that miniaudio attaches the new sound to. -/
def initialAttachment (A : Miniaudio ε α F) (L : NodeLife G) (call : SoundCall ε) :
    Option InputBus :=
  if call.flags A &&& A.MA_SOUND_FLAG_NO_DEFAULT_ATTACHMENT = 0 then
    call.engine.map (Engine.GetEndpointBus L)
  else none

/-- The call is turned down, or it reaches miniaudio with these flags, on an
element that is made after the old one is gone or before. -/
theorem apply_cases [Inhabited α] (A : Miniaudio ε α F) (call : SoundCall ε) (self : CResource)
    (heap : Heap α) :
    call.apply A self heap = (false, self, heap) ∨ ∃ env engine, call.engine = some engine ∧
      ((∃ path, call.apply A self heap = self.emplaceEnsured
          (A.ma_sound_init_from_file env engine path (call.flags A)) heap) ∨
        (∃ path, call.apply A self heap = self.resetEnsured
          (A.ma_sound_init_ex env engine
            ⟨path, call.flags A, A.MA_SOUND_SOURCE_CHANNEL_COUNT⟩) heap) ∨
        ∃ dataSource, call.apply A self heap = self.resetEnsured
          (A.ma_sound_init_from_data_source env engine dataSource (call.flags A)) heap) := by
  cases call with
  | Init env engine filePathOrId flags bUseSourceChannelCount =>
      cases engine with
      | none => exact Or.inl rfl
      | some engine =>
          refine Or.inr ⟨env, engine, rfl, ?_⟩
          cases bUseSourceChannelCount with
          | false => exact Or.inl ⟨filePathOrId, rfl⟩
          | true => exact Or.inr (Or.inl ⟨filePathOrId, rfl⟩)
  | InitFromDataSource env engine dataSource flags =>
      cases dataSource with
      | none => exact Or.inl rfl
      | some dataSource =>
          cases engine with
          | none => exact Or.inl rfl
          | some engine => exact Or.inr ⟨env, engine, rfl, Or.inr (Or.inr ⟨dataSource, rfl⟩)⟩

theorem path [Inhabited α] (A : Miniaudio ε α F) (call : SoundCall ε) (self : CResource)
    (heap : Heap α) : InitPath self heap (call.apply A self heap) := by
  rcases call.apply_cases A self heap with heq | ⟨_, _, _, ⟨_, heq⟩ | ⟨_, heq⟩ | ⟨_, heq⟩⟩
  · exact heq ▸ .reject heap
  · exact heq ▸ .emplace heap _
  · exact heq ▸ .reset heap _
  · exact heq ▸ .reset heap _

end SoundCall

/-! ## The system -/

/-- A call on the wrappers, one that initialises a sound, or one that attaches
buses.  An `init` among the first is of any wrapper but a sound. -/
inductive SystemCall (ε ω α : Type*)
  | wrapper (call : TransferCall ω α)
  | sound (self : ℕ) (call : SoundCall ε)
  | attach (call : AttachCall)

/-- What a call hands back; for a sound, what `get` answers afterwards as well. -/
inductive SystemAnswer
  | wrapper (answer : TransferAnswer)
  | sound (answer : Bool) (get : Option Pointer)
  | attached (answer : Bool)
  deriving DecidableEq, Repr

/-- A null node or a live one. -/
def World.Reaches (w : World ω α) (node : Option Pointer) : Bool :=
  node.all fun n => (w.heap.cells.get? n).isSome

namespace Routed

/-- The wrappers after a call, and the graph that went through what was logged of
the nodes. -/
def follow (L : NodeLife G) (s : Routed ω α G) (w : World ω α) : Routed ω α G :=
  ⟨w, (w.heap.log.drop s.world.heap.log.length).foldl L.after s.graph⟩

/-- An attach call.  Buses are attached that are of no node or of a live one. -/
def attach (M : NodeGraph G) (s : Routed ω α G) (call : AttachCall) :
    Option (Routed ω α G × Bool) :=
  if s.world.Reaches call.output.Node && s.world.Reaches call.input.Node then
    let (answer, g) := call.AttachTo M s.graph
    some ({ s with graph := g }, answer)
  else none

/-- What miniaudio does last in an initialisation of `sound` that succeeds: it
attaches the sound, after the checks that `AttachTo` makes.  Where these fail the
initialisation fails, so there is no such step. -/
def attachSound (M : NodeGraph G) (s : Routed ω α G) (sound : Option Pointer) :
    Option InputBus → Option (Routed ω α G)
  | none => some s
  | some endpoint =>
      (s.attach M (.bus ⟨sound, 0⟩ endpoint)).bind fun (s, attached) =>
        if attached then some s else none

end Routed

/-- A call that initialises a sound, with what `get` answers afterwards. -/
def soundWorld [CResourceBase ω] [Inhabited α] (A : Miniaudio ε α F) (w : World ω α) (self : ℕ)
    (call : SoundCall ε) : Option (World ω α × Bool × Option Pointer) :=
  w.member self fun x heap =>
    let (answer, c, heap) := call.apply A (base x) heap
    ((answer, c.resource_), withBase x c, heap)

/-- One call. -/
def systemStep [CResourceBase ω] [Inhabited α] (A : Miniaudio ε α F) (M : NodeGraph G)
    (L : NodeLife G) (s : Routed ω α G) :
    SystemCall ε ω α → Option (Routed ω α G × SystemAnswer)
  | .wrapper call =>
      (transferWorld s.world call).map fun (w, answer) => (s.follow L w, .wrapper answer)
  | .sound self call =>
      (soundWorld A s.world self call).bind fun (w, answer, get) =>
        let endpoint := if answer then call.initialAttachment A L else none
        ((s.follow L w).attachSound M get endpoint).map fun s => (s, .sound answer get)
  | .attach call => (s.attach M call).map fun (s, answer) => (s, .attached answer)

/-- What a wrapper owns after the call is what `get` answers, and where the call
answers `true` it is a new node. -/
theorem soundWorld_cases [CResourceBase ω] [Inhabited α] {A : Miniaudio ε α F} {w w' : World ω α}
    {self : ℕ} {call : SoundCall ε} {accepted : Bool} {get : Option Pointer}
    (hstep : soundWorld A w self call = some (w', accepted, get)) :
    (∃ events, Logged w events w') ∧ w.heap.cells.Later w'.heap.cells ∧ w'.slots self = get ∧
      (accepted = true → get = some w.heap.cells.size) := by
  simp only [soundWorld] at hstep
  obtain ⟨x, hx, rfl, hanswer⟩ := World.member_eq_some.mp hstep
  obtain ⟨rfl, rfl⟩ := Prod.mk.inj hanswer
  have hpath := call.path A (base x) w.heap
  refine ⟨hpath.nodeLog rfl, hpath.later, ?_, hpath.resource_of_true⟩
  rw [World.slots_of_get? (Arena.get?_put_self (Arena.lt_size_of_get? hx) _), base_withBase]

/-! ## What is asked of miniaudio -/

/-- No bus of the node is attached. -/
def Unattached (Attached : G → OutputBus → InputBus → Prop) (g : G) (p : Pointer) : Prop :=
  ∀ output input, Attached g output input → output.Node ≠ some p ∧ input.Node ≠ some p

/-- What miniaudio documents about the life of a node: a new node is attached to
nothing, `ma_node_uninit` detaches the node fully, and neither touches other
nodes.  The attachment of a new sound comes after its node is initialised. -/
structure NodeLife.Documented (L : NodeLife G) (M : NodeGraph G)
    (Attached : G → OutputBus → InputBus → Prop) : Prop where
  init_attached : ∀ p result g, Unattached Attached g p → ∀ output input,
    Attached (L.ma_node_init p result g) output input ↔ Attached g output input
  init_others : ∀ p result g n, n ≠ p → M.AnswersAlike n g (L.ma_node_init p result g)
  uninit_attached : ∀ p g output input, Attached (L.ma_node_uninit p g) output input ↔
    Attached g output input ∧ output.Node ≠ some p ∧ input.Node ≠ some p
  uninit_others : ∀ p g n, n ≠ p → M.AnswersAlike n g (L.ma_node_uninit p g)

/-! ## The graph after a call -/

section Graph

variable {M : NodeGraph G} {L : NodeLife G} {Attached : G → OutputBus → InputBus → Prop}

/-- The attachments that are left are those of no node that came to its end. -/
theorem attached_after_iff (hlife : L.Documented M Attached) {events : List Event} {g : G}
    (hnew : ∀ p result, .init p result ∈ events → Unattached Attached g p)
    (output : OutputBus) (input : InputBus) :
    Attached (events.foldl L.after g) output input ↔ Attached g output input ∧
      ∀ p, .uninit p ∈ events → output.Node ≠ some p ∧ input.Node ≠ some p := by
  induction events generalizing g with
  | nil => simp
  | cons event events ih =>
      have hafter : ∀ output input, Attached (L.after g event) output input ↔
          Attached g output input ∧
            ∀ p, event = .uninit p → output.Node ≠ some p ∧ input.Node ≠ some p := by
        intro output input
        cases event with
        | init p result =>
            have hinit := hlife.init_attached p result g (hnew p result List.mem_cons_self)
            simp [NodeLife.after, hinit]
        | uninit p => simp [NodeLife.after, hlife.uninit_attached]
        | new | adopt | release | delete | logInit | nullEngineAccess => simp [NodeLife.after]
      -- a node that is attached to nothing stays so until it is initialised
      have hrest : ∀ p result, .init p result ∈ events → Unattached Attached (L.after g event) p :=
        fun p result hmem output input hattached =>
          hnew p result (List.mem_cons_of_mem _ hmem) output input
            ((hafter output input).mp hattached).1
      rw [List.foldl_cons, ih hrest, hafter, and_assoc]
      refine and_congr_right fun _ => ?_
      rw [← forall_and]
      refine forall_congr' fun p => ?_
      rw [List.mem_cons, or_imp, eq_comm (a := event)]

/-- The getters answer alike about a node that was neither made nor ended. -/
theorem answersAlike_after (hlife : L.Documented M Attached) {n : Pointer} {events : List Event}
    (hinit : ∀ result, .init n result ∉ events) (huninit : .uninit n ∉ events) (g : G) :
    M.AnswersAlike n g (events.foldl L.after g) := by
  induction events generalizing g with
  | nil => exact ⟨rfl, rfl, fun _ => rfl, fun _ => rfl⟩
  | cons event events ih =>
      rw [List.foldl_cons]
      have hrest := ih (fun result hmem => hinit result (List.mem_cons_of_mem _ hmem))
        (fun hmem => huninit (List.mem_cons_of_mem _ hmem)) (L.after g event)
      refine .trans ?_ hrest
      cases event with
      | init p result =>
          refine hlife.init_others p result g n fun heq => hinit result ?_
          exact heq ▸ List.mem_cons_self
      | uninit p =>
          refine hlife.uninit_others p g n fun heq => huninit ?_
          exact heq ▸ List.mem_cons_self
      | new | adopt | release | delete | logInit | nullEngineAccess =>
          exact ⟨rfl, rfl, fun _ => rfl, fun _ => rfl⟩

/-- What the getters answer about two nodes decides whether buses of theirs can
be joined. -/
theorem Joinable.of_alike {g g' : G} {output : OutputBus} {input : InputBus}
    (h : Joinable M g output input) {n m : Pointer} (houtput : output.Node = some n)
    (hinput : input.Node = some m) (hn : M.AnswersAlike n g g') (hm : M.AnswersAlike m g g') :
    Joinable M g' output input := by
  obtain ⟨houtputValid, hinputValid, hchannels, hnodes⟩ := h
  obtain ⟨node, index⟩ := output
  obtain ⟨node', index'⟩ := input
  obtain rfl : node = some n := houtput
  obtain rfl : node' = some m := hinput
  have hkeepsOut := keeps_output hn index
  have hkeepsIn := keeps_input hm index'
  exact ⟨hkeepsOut.valid.trans houtputValid, hkeepsIn.valid.trans hinputValid,
    hkeepsOut.channels.trans (hchannels.trans hkeepsIn.channels.symm), hnodes⟩

end Graph

/-! ## Runs -/

section Runs

variable {A : Miniaudio ε α F} {M : NodeGraph G} {L : NodeLife G}
  {Attached : G → OutputBus → InputBus → Prop} {s s' : Routed ω α G} {answer : SystemAnswer}

/-- The graph is well formed, and every attachment joins two live nodes. -/
structure LiveRouting (M : NodeGraph G) (Attached : G → OutputBus → InputBus → Prop)
    (s : Routed ω α G) : Prop where
  wellRouted : WellRouted M Attached s.graph
  live : ∀ output input, Attached s.graph output input →
    ∃ n m, output.Node = some n ∧ input.Node = some m ∧ s.Live n ∧ s.Live m

/-- An attachment that was there before, of two nodes that live on. -/
def Survives (Attached : G → OutputBus → InputBus → Prop) (s s' : Routed ω α G)
    (output : OutputBus) (input : InputBus) : Prop :=
  Attached s.graph output input ∧
    ∀ n, output.Node = some n ∨ input.Node = some n → s'.Live n

/-- What one call does to the attachments. -/
structure FollowsNodes [CResourceBase ω] (A : Miniaudio ε α F) (M : NodeGraph G) (L : NodeLife G)
    (Attached : G → OutputBus → InputBus → Prop) (s : Routed ω α G) (call : SystemCall ε ω α)
    (answer : SystemAnswer) (s' : Routed ω α G) : Prop where
  /-- A call on wrappers keeps the attachments of the nodes that live on, and no
  others. -/
  wrapper : ∀ c, call = .wrapper c → ∀ output input,
    Attached s'.graph output input ↔ Survives Attached s s' output input
  /-- So does one that initialises a sound; a new sound is then attached to the
  endpoint, if that is what the flags say. -/
  sound : ∀ self c, call = .sound self c → ∃ accepted get, answer = .sound accepted get ∧
    s'.world.slots self = get ∧ (accepted = true → get = some s.world.heap.cells.size) ∧
    ∀ output input, Attached s'.graph output input ↔
      (accepted = true ∧ output = ⟨get, 0⟩ ∧ c.initialAttachment A L = some input) ∨
        Survives Attached s s' output input
  /-- An attach call is answered and carried out, and leaves the nodes alone. -/
  attach : ∀ c, call = .attach c → s'.world = s.world ∧
    ∃ accepted, answer = .attached accepted ∧ Routes M Attached s.graph c accepted s'.graph
  /-- A node that is gone stays gone. -/
  later : s.world.heap.cells.Later s'.world.heap.cells
  liveRouting : LiveRouting M Attached s'

/-- The node that is made next is attached to nothing. -/
theorem LiveRouting.unattached_new (h : LiveRouting M Attached s) :
    Unattached Attached s.graph s.world.heap.cells.size := by
  intro output input hattached
  obtain ⟨n, m, hn, hm, ⟨x, hx⟩, y, hy⟩ := h.live output input hattached
  rw [hn, hm, ne_eq, ne_eq, Option.some.injEq, Option.some.injEq]
  exact ⟨Nat.ne_of_lt (Arena.lt_size_of_get? hx), Nat.ne_of_lt (Arena.lt_size_of_get? hy)⟩

/-- Something holds of the nodes of two buses. -/
theorem forall_node_iff {output : OutputBus} {input : InputBus} {n m : Pointer}
    (hn : output.Node = some n) (hm : input.Node = some m) {P : Pointer → Prop} :
    (∀ k, output.Node = some k ∨ input.Node = some k → P k) ↔ P n ∧ P m := by
  rw [hn, hm]
  simp [or_imp, forall_and]

/-- After what was logged of the nodes. -/
theorem LiveRouting.follow (hlife : L.Documented M Attached) (h : LiveRouting M Attached s)
    {w' : World ω α} {events : List Event} (hlogged : Logged s.world events w') :
    (∀ output input, Attached (s.follow L w').graph output input ↔
        Survives Attached s (s.follow L w') output input) ∧
      LiveRouting M Attached (s.follow L w') := by
  have hgraph : (s.follow L w').graph = events.foldl L.after s.graph := by
    rw [Routed.follow, hlogged.log, List.drop_left]
  have hended : ∀ n, s.Live n → (.uninit n ∉ events ↔ (s.follow L w').Live n) := by
    intro n hlive
    rw [hlogged.ended n hlive, ← ne_eq, Option.ne_none_iff_exists']
    rfl
  have hnew : ∀ p result, .init p result ∈ events → Unattached Attached s.graph p :=
    fun p result hmem => hlogged.initialised p result hmem ▸ h.unattached_new
  have hattached : ∀ output input, Attached (s.follow L w').graph output input ↔
      Survives Attached s (s.follow L w') output input := by
    intro output input
    rw [hgraph, attached_after_iff hlife hnew]
    refine and_congr_right fun hattached => ?_
    obtain ⟨n, m, hn, hm, hlive, hlive'⟩ := h.live output input hattached
    calc (∀ p, .uninit p ∈ events → output.Node ≠ some p ∧ input.Node ≠ some p)
        ↔ ∀ p, output.Node = some p ∨ input.Node = some p → .uninit p ∉ events := by
          refine forall_congr' fun p => ?_
          rw [← not_or, imp_not_comm]
      _ ↔ .uninit n ∉ events ∧ .uninit m ∉ events := forall_node_iff hn hm
      _ ↔ (s.follow L w').Live n ∧ (s.follow L w').Live m :=
          and_congr (hended n hlive) (hended m hlive')
      _ ↔ _ := (forall_node_iff hn hm).symm
  -- a node that lives on was neither made nor ended in the call
  have halike : ∀ n, s.Live n → (s.follow L w').Live n →
      M.AnswersAlike n s.graph (s.follow L w').graph := by
    intro n hlive hlive'
    rw [hgraph]
    refine answersAlike_after hlife (fun result hmem => ?_) ((hended n hlive).mpr hlive') _
    obtain ⟨x, hx⟩ := hlive
    exact absurd (hlogged.initialised n result hmem) (Nat.ne_of_lt (Arena.lt_size_of_get? hx))
  refine ⟨hattached, ⟨?_, ?_⟩, ?_⟩
  · intro output input input' hfirst hsecond
    exact h.wellRouted.unique ((hattached _ _).mp hfirst).1 ((hattached _ _).mp hsecond).1
  · intro output input hleft
    obtain ⟨hbefore, hkept⟩ := (hattached _ _).mp hleft
    obtain ⟨n, m, hn, hm, hlive, hlive'⟩ := h.live output input hbefore
    obtain ⟨hkeptOut, hkeptIn⟩ := (forall_node_iff hn hm).mp hkept
    exact (h.wellRouted.joins output input hbefore).of_alike hn hm
      (halike n hlive hkeptOut) (halike m hlive' hkeptIn)
  · intro output input hleft
    obtain ⟨hbefore, hkept⟩ := (hattached _ _).mp hleft
    obtain ⟨n, m, hn, hm, _, _⟩ := h.live output input hbefore
    exact ⟨n, m, hn, hm, (forall_node_iff hn hm).mp hkept⟩

/-- A bus that exists and is of no node or a live one is of a live one. -/
theorem live_of_isValid {IsInput : Bool} {bus : Bus IsInput} {g : G}
    (hvalid : bus.IsValid M g = true) (hreaches : s.world.Reaches bus.Node = true) :
    ∃ n, bus.Node = some n ∧ s.Live n := by
  cases hnode : bus.Node with
  | none => cases IsInput <;> simp [Bus.IsValid, hnode] at hvalid
  | some n =>
      rw [hnode] at hreaches
      exact ⟨n, rfl, Option.isSome_iff_exists.mp hreaches⟩

/-- After an attach call. -/
theorem LiveRouting.attach (hdoc : M.Documented Attached) (h : LiveRouting M Attached s)
    {call : AttachCall} {accepted : Bool} (hattach : s.attach M call = some (s', accepted)) :
    s'.world = s.world ∧ Routes M Attached s.graph call accepted s'.graph ∧
      LiveRouting M Attached s' := by
  simp only [Routed.attach, Option.ite_none_right_eq_some, Bool.and_eq_true, Option.some.injEq,
    Prod.mk.injEq] at hattach
  obtain ⟨⟨hreachesOut, hreachesIn⟩, rfl, rfl⟩ := hattach
  have hroutes : Routes M Attached s.graph call (call.AttachTo M s.graph).1
      (call.AttachTo M s.graph).2 := routes_attachStep hdoc h.wellRouted rfl
  refine ⟨rfl, hroutes, hroutes.wellRouted, ?_⟩
  intro output input hattached
  by_cases haccepted : (call.AttachTo M s.graph).1 = true
  · by_cases houtput : output = call.output
    · -- the new attachment is the only one of this output bus
      have hinput := hroutes.wellRouted.unique hattached
        (houtput ▸ hroutes.attached haccepted)
      have hjoinable := hroutes.accepts.mp haccepted
      obtain ⟨n, hn, hlive⟩ := live_of_isValid hjoinable.output_valid hreachesOut
      obtain ⟨m, hm, hlive'⟩ := live_of_isValid hjoinable.input_valid hreachesIn
      exact ⟨n, m, houtput ▸ hn, hinput ▸ hm, hlive, hlive'⟩
    · exact h.live output input ((hroutes.others output input houtput).mp hattached)
  · exact h.live output input
      ((hroutes.rejected (Bool.eq_false_iff.mpr haccepted) output input).mp hattached)

/-- An attach call that is accepted repoints its output bus. -/
theorem Routes.repoints {g g' : G} {call : AttachCall} {answer : Bool}
    (h : Routes M Attached g call answer g') (haccepted : answer = true) :
    Repoints (Attached g) (Attached g') call.output call.input := by
  intro output input
  have htarget := h.attached haccepted
  by_cases houtput : output = call.output
  · subst houtput
    constructor
    · intro hattached
      exact Or.inl ⟨rfl, h.wellRouted.unique hattached htarget⟩
    · intro hnew
      rcases hnew with ⟨_, hinput⟩ | ⟨hne, _⟩
      · exact hinput ▸ htarget
      · exact absurd rfl hne
  · rw [h.others output input houtput]
    simp [houtput]

/-- The attachment of a new sound. -/
theorem LiveRouting.attachSound (hdoc : M.Documented Attached) (h : LiveRouting M Attached s)
    {sound : Option Pointer} {endpoint : Option InputBus}
    (hfresh : endpoint.isSome = true → ∀ input, ¬ Attached s.graph ⟨sound, 0⟩ input)
    (hattach : s.attachSound M sound endpoint = some s') :
    s'.world = s.world ∧ LiveRouting M Attached s' ∧
      ∀ output input, Attached s'.graph output input ↔
        (output = ⟨sound, 0⟩ ∧ endpoint = some input) ∨ Attached s.graph output input := by
  cases endpoint with
  | none =>
      obtain rfl := Option.some.inj hattach
      exact ⟨rfl, h, by simp⟩
  | some endpoint =>
      simp only [Routed.attachSound, Option.bind_eq_some_iff, Prod.exists,
        Option.ite_none_right_eq_some, Option.some.injEq] at hattach
      obtain ⟨_, attached, hcall, rfl, rfl⟩ := hattach
      obtain ⟨hworld, hroutes, hrouting⟩ := h.attach hdoc hcall
      refine ⟨hworld, hrouting, fun output input => ?_⟩
      rw [hroutes.repoints rfl output input, Option.some.injEq, eq_comm (a := input)]
      refine or_congr_right ⟨fun hold => hold.2, fun hold => ⟨?_, hold⟩⟩
      rintro rfl
      exact hfresh rfl input hold

variable [CResourceBase ω] [Inhabited α]

/-- A call that initialises a sound. -/
theorem LiveRouting.sound (hdoc : M.Documented Attached) (hlife : L.Documented M Attached)
    (h : LiveRouting M Attached s) {self : ℕ} {call : SoundCall ε}
    (hstep : systemStep A M L s (.sound self call) = some (s', answer)) :
    FollowsNodes A M L Attached s (.sound self call) answer s' := by
  simp only [systemStep, Option.bind_eq_some_iff, Prod.exists, Option.map_eq_some_iff,
    Prod.mk.injEq] at hstep
  obtain ⟨w', accepted, get, hcall, _, hsound, rfl, rfl⟩ := hstep
  obtain ⟨⟨events, hlogged⟩, hlater, hslot, hget⟩ := soundWorld_cases hcall
  obtain ⟨hattached, hfollowed⟩ := h.follow hlife hlogged
  -- a new node is attached to nothing before miniaudio attaches it
  have hfresh : (if accepted then call.initialAttachment A L else none).isSome = true →
      ∀ input, ¬ Attached (s.follow L w').graph ⟨get, 0⟩ input := by
    intro hsome input hold
    cases accepted with
    | false => simp at hsome
    | true => exact (h.unattached_new _ _ ((hattached _ _).mp hold).1).1 (hget rfl)
  obtain ⟨hworld, hrouting, hmade⟩ := hfollowed.attachSound hdoc hfresh hsound
  refine ⟨fun c hc => by simp at hc, fun self' c hc => ?_, fun c hc => by simp at hc,
    hworld ▸ hlater, hrouting⟩
  obtain ⟨rfl, rfl⟩ := SystemCall.sound.inj hc
  refine ⟨accepted, get, rfl, hworld ▸ hslot, hget, fun output input => ?_⟩
  rw [hmade, hattached]
  refine or_congr ?_ ?_
  · cases accepted <;> simp
  · unfold Survives Routed.Live
    rw [hworld]

/-- A call on the wrappers. -/
theorem LiveRouting.wrapper (hlife : L.Documented M Attached) (h : LiveRouting M Attached s)
    {call : TransferCall ω α} (hstep : systemStep A M L s (.wrapper call) = some (s', answer)) :
    FollowsNodes A M L Attached s (.wrapper call) answer s' := by
  simp only [systemStep, Option.map_eq_some_iff, Prod.exists, Prod.mk.injEq] at hstep
  obtain ⟨w', answer', hworld, rfl, rfl⟩ := hstep
  obtain ⟨events, hlogged⟩ := transferWorld_logged hworld
  obtain ⟨hattached, hfollowed⟩ := h.follow hlife hlogged
  exact ⟨fun _ _ => hattached, fun _ _ hc => by simp at hc, fun _ hc => by simp at hc,
    transferWorld_later hworld, hfollowed⟩

/-- An attach call. -/
theorem LiveRouting.attached (hdoc : M.Documented Attached) (h : LiveRouting M Attached s)
    {call : AttachCall} (hstep : systemStep A M L s (.attach call) = some (s', answer)) :
    FollowsNodes A M L Attached s (.attach call) answer s' := by
  simp only [systemStep, Option.map_eq_some_iff, Prod.exists, Prod.mk.injEq] at hstep
  obtain ⟨_, accepted, hcall, rfl, rfl⟩ := hstep
  obtain ⟨hworld, hroutes, hrouting⟩ := h.attach hdoc hcall
  refine ⟨fun _ hc => by simp at hc, fun _ _ hc => by simp at hc, fun c hc => ?_,
    hworld ▸ .refl _, hrouting⟩
  obtain rfl := SystemCall.attach.inj hc
  exact ⟨hworld, accepted, rfl, hroutes⟩

/-- Each call. -/
theorem LiveRouting.step (hdoc : M.Documented Attached) (hlife : L.Documented M Attached)
    (h : LiveRouting M Attached s) {call : SystemCall ε ω α}
    (hstep : systemStep A M L s call = some (s', answer)) :
    FollowsNodes A M L Attached s call answer s' := by
  cases call with
  | wrapper call => exact h.wrapper hlife hstep
  | sound self call => exact h.sound hdoc hlife hstep
  | attach call => exact h.attached hdoc hstep

end Runs

/-- Whatever is done with the wrappers, the sounds and the buses, the attachments
follow the nodes: each one joins two live nodes. -/
theorem attachments_follow_nodes [CResourceBase ω] [Inhabited α] {A : Miniaudio ε α F}
    {M : NodeGraph G} {L : NodeLife G} {Attached : G → OutputBus → InputBus → Prop}
    (hdoc : M.Documented Attached) (hlife : L.Documented M Attached) {s : Routed ω α G}
    (hs : LiveRouting M Attached s) (calls : List (SystemCall ε ω α)) :
    Along (systemStep A M L) (FollowsNodes A M L Attached) s calls := by
  refine along_of_invariant ?_ calls hs
  intro s call answer s' h hstep
  have hfollows := h.step hdoc hlife hstep
  exact ⟨hfollows, hfollows.liveRouting⟩

/-! ## An instance -/

/-- A node that comes to its end is taken out of `sampleGraph`.  The address of a
node graph is that of the element of its engine. -/
def sampleLife : NodeLife (OutputBus → Option InputBus) where
  ma_node_init _ _ g := g
  ma_node_uninit p g := fun bus =>
    if bus.Node = some p then none else (g bus).filter fun target => target.Node ≠ some p
  endpoint nodeGraph := nodeGraph

theorem sampleLife_documented :
    sampleLife.Documented sampleGraph fun g output input => g output = some input where
  init_attached _ _ _ _ _ _ := Iff.rfl
  init_others _ _ _ _ _ := ⟨rfl, rfl, fun _ => rfl, fun _ => rfl⟩
  uninit_attached p g output input := by
    by_cases hnode : output.Node = some p
    · simp [sampleLife, hnode]
    · simp only [sampleLife, if_neg hnode, Option.filter_eq_some_iff, decide_eq_true_iff]
      exact and_congr_right fun _ => (and_iff_right hnode).symm
  uninit_others _ _ _ _ := ⟨rfl, rfl, fun _ => rfl, fun _ => rfl⟩

/-- An engine, a sound that its `Init` attaches to the endpoint, a node that the
sound is attached to afterwards, the end of that node, and a second sound. -/
theorem attachments_follow_nodes_destroyed :
    let ok : MaInit SampleNode := fun x => (.success, x)
    let Init : SoundCall MaResult := .Init .success (some ⟨0, 48000⟩) (some "a") 0 false
    let s : Routed CResource SampleNode (OutputBus → Option InputBus) :=
      ⟨World.empty, fun _ => none⟩
    let calls : List (SystemCall MaResult CResource SampleNode) := [.wrapper (.construct ⟨none⟩),
      .wrapper (.init 0 ok), .wrapper (.construct ⟨none⟩), .sound 1 Init,
      .wrapper (.construct ⟨none⟩), .wrapper (.init 2 ok), .wrapper (.init 2 ok),
      .attach (.bus ⟨some 1, 0⟩ ⟨some 3, 0⟩), .wrapper (.moveConstruct 2), .wrapper (.destroy 3),
      .sound 2 Init]
    (run (systemStep .sample sampleGraph sampleLife) s calls).map (fun last =>
        (last.1.graph ⟨some 1, 0⟩, last.1.graph ⟨some 4, 0⟩, last.1.world.slots 1)) =
      some (none, some ⟨some 0, 0⟩, some 1) ∧
    Along (systemStep .sample sampleGraph sampleLife)
      (FollowsNodes .sample sampleGraph sampleLife fun g output input => g output = some input)
      s calls := by
  refine ⟨rfl, ?_⟩
  exact attachments_follow_nodes sampleGraph_documented sampleLife_documented
    ⟨wellRouted_of_unattached fun _ _ => by simp, fun _ _ h => by simp at h⟩ _

end MiniaudioCpp
