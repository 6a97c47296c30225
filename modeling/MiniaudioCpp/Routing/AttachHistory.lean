import MiniaudioCpp.Routing.NodeLifetimes

/-!
# The attachments, read off the history

The library keeps no table of attachments of its own: they are in miniaudio's
nodes.  Still a client can know them all from its own calls.  Two kinds of calls
make an attachment: an attach call that answered `true`, and an initialisation of
a sound that answered `true` with flags that leave the attachment to miniaudio.
An output bus feeds an input bus exactly when the last such call for the output
bus was to that input bus, and the nodes of both are live
(`attached_iff_last_accepted`).  Calls that were turned down, other routes to
the same bus, moves of the wrappers and attachments that a node took with it
leave nothing behind.
-/

namespace MiniaudioCpp

open Foundation CResourceBase

variable {ε α F ω G : Type*}

/-! ## The table -/

/-- The attachment that a call made, by its answer. -/
def attachmentOf (A : Miniaudio ε α F) (L : NodeLife G) :
    SystemCall ε ω α × SystemAnswer → Option (OutputBus × InputBus)
  | (.attach call, .attached true) => some (call.output, call.input)
  | (.sound _ call, .sound true get) =>
      (call.initialAttachment A L).map fun endpoint => (⟨get, 0⟩, endpoint)
  | _ => none

/-- The target of each output bus, after one more call and its answer. -/
def recordAttachment (A : Miniaudio ε α F) (L : NodeLife G) (table : OutputBus → Option InputBus)
    (call : SystemCall ε ω α × SystemAnswer) : OutputBus → Option InputBus :=
  match attachmentOf A L call with
  | none => table
  | some (output, input) => Function.update table output (some input)

/-- The target that each output bus was last attached to. -/
def lastAccepted (A : Miniaudio ε α F) (L : NodeLife G)
    (history : List (SystemCall ε ω α × SystemAnswer)) : OutputBus → Option InputBus :=
  history.foldl (recordAttachment A L) fun _ => none

/-- The nodes of the two buses are live. -/
def Routed.BothLive (s : Routed ω α G) (output : OutputBus) (input : InputBus) : Prop :=
  ∃ n m, output.Node = some n ∧ input.Node = some m ∧ s.Live n ∧ s.Live m

/-- The attachments are those of the table between live nodes, and the nodes in
the table were all made by now. -/
structure Recorded (M : NodeGraph G) (Attached : G → OutputBus → InputBus → Prop)
    (s : Routed ω α G) (table : OutputBus → Option InputBus) : Prop where
  liveRouting : LiveRouting M Attached s
  tabulated : Tabulated (Attached s.graph) table s.BothLive
  made : ∀ output input, table output = some input →
    ∀ n, output.Node = some n ∨ input.Node = some n → n < s.world.heap.cells.size

/-! ## One call -/

section Steps

variable {A : Miniaudio ε α F} {M : NodeGraph G} {L : NodeLife G}
  {Attached : G → OutputBus → InputBus → Prop} {s s' : Routed ω α G}
  {table : OutputBus → Option InputBus}

/-- A node that is live now and was made before was live before. -/
theorem Routed.BothLive.before {output : OutputBus} {input : InputBus}
    (h : s'.BothLive output input) (hlater : s.world.heap.cells.Later s'.world.heap.cells)
    (hmade : ∀ n, output.Node = some n ∨ input.Node = some n → n < s.world.heap.cells.size) :
    s.BothLive output input := by
  obtain ⟨n, m, hn, hm, hlive, hlive'⟩ := h
  exact ⟨n, m, hn, hm, hlater.was_live n (hmade n (Or.inl hn)) hlive,
    hlater.was_live m (hmade m (Or.inr hm)) hlive'⟩

/-- The nodes of the two buses were made. -/
theorem Routed.BothLive.lt_size {output : OutputBus} {input : InputBus}
    (h : s.BothLive output input) :
    ∀ n, output.Node = some n ∨ input.Node = some n → n < s.world.heap.cells.size := by
  obtain ⟨n, m, hn, hm, ⟨x, hx⟩, y, hy⟩ := h
  exact (forall_node_iff hn hm).mpr ⟨Arena.lt_size_of_get? hx, Arena.lt_size_of_get? hy⟩

/-- An attachment survives where its nodes do. -/
theorem LiveRouting.survives_iff (h : LiveRouting M Attached s) (output : OutputBus)
    (input : InputBus) : Survives Attached s s' output input ↔
      Attached s.graph output input ∧ s'.BothLive output input := by
  refine and_congr_right fun hattached => ?_
  constructor
  · intro hkept
    obtain ⟨n, m, hn, hm, _, _⟩ := h.live output input hattached
    exact ⟨n, m, hn, hm, (forall_node_iff hn hm).mp hkept⟩
  · intro hboth
    obtain ⟨n, m, hn, hm, hlive⟩ := hboth
    exact (forall_node_iff hn hm).mpr hlive

/-- Nodes came to an end, and the table stays. -/
theorem Recorded.retire (h : Recorded M Attached s table) (hrouting : LiveRouting M Attached s')
    (hlater : s.world.heap.cells.Later s'.world.heap.cells)
    (hleft : ∀ output input, Attached s'.graph output input ↔
      Survives Attached s s' output input) : Recorded M Attached s' table := by
  refine ⟨hrouting, h.tabulated.retire ?_ ?_, ?_⟩
  · exact fun output input => (hleft output input).trans (h.liveRouting.survives_iff output input)
  · intro output input htable hlive
    exact hlive.before hlater (h.made output input htable)
  · intro output input htable n hn
    exact Nat.lt_of_lt_of_le (h.made output input htable n hn) hlater.size_le

/-- The same, and one output bus was attached anew. -/
theorem Recorded.repoint (h : Recorded M Attached s table) (hrouting : LiveRouting M Attached s')
    (hlater : s.world.heap.cells.Later s'.world.heap.cells) {output : OutputBus} {input : InputBus}
    (hnew : Repoints (Survives Attached s s') (Attached s'.graph) output input) :
    Recorded M Attached s' (Function.update table output (some input)) := by
  have hboth : s'.BothLive output input := hrouting.live _ _ hnew.target
  have hretired : Tabulated (Survives Attached s s') table s'.BothLive :=
    h.tabulated.retire h.liveRouting.survives_iff fun output input htable hlive =>
      hlive.before hlater (h.made output input htable)
  refine ⟨hrouting, hretired.repoint hnew hboth, ?_⟩
  intro output' input' htable n hn
  by_cases houtput : output' = output
  · subst houtput
    rw [Function.update_self, Option.some.injEq] at htable
    subst htable
    exact hboth.lt_size n hn
  · rw [Function.update_of_ne houtput] at htable
    exact Nat.lt_of_lt_of_le (h.made output' input' htable n hn) hlater.size_le

/-- Where the nodes are left alone, every attachment survives. -/
theorem LiveRouting.survives_of_world_eq (h : LiveRouting M Attached s)
    (hworld : s'.world = s.world) (output : OutputBus) (input : InputBus) :
    Survives Attached s s' output input ↔ Attached s.graph output input := by
  rw [h.survives_iff, and_iff_left_iff_imp]
  intro hattached
  unfold Routed.BothLive Routed.Live
  rw [hworld]
  exact h.live output input hattached

variable [CResourceBase ω]

/-- Each call. -/
theorem Recorded.step (h : Recorded M Attached s table) {call : SystemCall ε ω α}
    {answer : SystemAnswer} (hfollows : FollowsNodes A M L Attached s call answer s') :
    Recorded M Attached s' (recordAttachment A L table (call, answer)) := by
  have hlater := hfollows.later
  have hrouting := hfollows.liveRouting
  cases call with
  | wrapper call => exact h.retire hrouting hlater (hfollows.wrapper call rfl)
  | sound self call =>
      obtain ⟨accepted, get, rfl, _, hget, hattached⟩ := hfollows.sound self call rfl
      cases accepted with
      | false =>
          refine h.retire hrouting hlater fun output input => ?_
          rw [hattached]
          simp
      | true =>
          cases hendpoint : call.initialAttachment A L with
          | none =>
              simp only [recordAttachment, attachmentOf, hendpoint, Option.map_none]
              refine h.retire hrouting hlater fun output input => ?_
              rw [hattached, hendpoint]
              simp
          | some endpoint =>
              simp only [recordAttachment, attachmentOf, hendpoint, Option.map_some]
              refine h.repoint hrouting hlater fun output input => ?_
              -- no bus of the new sound was attached before
              have hfresh : Survives Attached s s' output input → output ≠ ⟨get, 0⟩ := by
                rintro hold rfl
                exact (h.liveRouting.unattached_new _ _ hold.1).1 (hget rfl)
              rw [hattached, hendpoint, Option.some.injEq, eq_comm (a := endpoint)]
              simp only [true_and, ne_eq]
              exact or_congr_right ⟨fun hold => ⟨hfresh hold, hold⟩, fun hold => hold.2⟩
  | attach call =>
      obtain ⟨hworld, accepted, rfl, hroutes⟩ := hfollows.attach call rfl
      have hsurvives := h.liveRouting.survives_of_world_eq hworld
      cases accepted with
      | false =>
          refine h.retire hrouting hlater fun output input => ?_
          rw [hsurvives, hroutes.rejected rfl]
      | true =>
          refine h.repoint hrouting hlater fun output input => ?_
          rw [hsurvives, hroutes.repoints rfl]

end Steps

/-! ## Runs -/

/-- After any run from an empty program, an output bus feeds an input bus exactly
when that is what it was last attached to and both nodes are live. -/
theorem attached_iff_last_accepted [CResourceBase ω] [Inhabited α] {A : Miniaudio ε α F}
    {M : NodeGraph G} {L : NodeLife G} {Attached : G → OutputBus → InputBus → Prop}
    (hdoc : M.Documented Attached) (hlife : L.Documented M Attached) {g : G}
    (hg : ∀ output input, ¬ Attached g output input) {calls : List (SystemCall ε ω α)}
    {s : Routed ω α G} {answers : List SystemAnswer}
    (hrun : run (systemStep A M L) ⟨World.empty, g⟩ calls = some (s, answers))
    (output : OutputBus) (input : InputBus) :
    Attached s.graph output input ↔
      lastAccepted A L (calls.zip answers) output = some input ∧ s.BothLive output input := by
  have hstart : Recorded M Attached (⟨World.empty, g⟩ : Routed ω α G) fun _ => none :=
    { liveRouting := ⟨wellRouted_of_unattached hg, fun output input h => absurd h (hg output input)⟩
      tabulated := fun output input => iff_of_false (hg output input) (by simp)
      made := fun output input h => by simp at h }
  have hlast : Recorded M Attached s (lastAccepted A L (calls.zip answers)) := by
    refine run_recorded ?_ hstart hrun
    intro s table call answer s' h hstep
    exact h.step (h.liveRouting.step hdoc hlife hstep)
  exact hlast.tabulated output input

/-- An engine and a sound that its `Init` attaches to the endpoint, one that asks
for no attachment, an attach call on the first that is turned down, one that
replaces its attachment, and the end of the wrapper that the node had left. -/
theorem attached_iff_last_accepted_replaced :
    let ok : MaInit SampleNode := fun x => (.success, x)
    let Init (flags : UInt32) : SoundCall MaResult :=
      .Init .success (some ⟨0, 48000⟩) (some "a") flags false
    let calls : List (SystemCall MaResult CResource SampleNode) := [.wrapper (.construct ⟨none⟩),
      .wrapper (.init 0 ok), .wrapper (.construct ⟨none⟩), .sound 1 (Init 0),
      .wrapper (.construct ⟨none⟩), .sound 2 (Init 0x1000), .wrapper (.construct ⟨none⟩),
      .wrapper (.init 3 ok), .attach (.bus ⟨some 1, 0⟩ ⟨some 1, 0⟩),
      .attach (.bus ⟨some 1, 0⟩ ⟨some 3, 0⟩), .wrapper (.moveConstruct 3), .wrapper (.destroy 3)]
    ∃ s answers, run (systemStep .sample sampleGraph sampleLife) ⟨World.empty, fun _ => none⟩ calls =
        some (s, answers) ∧ s.graph ⟨some 1, 0⟩ = some ⟨some 3, 0⟩ ∧
      ∀ output input, s.graph output = some input ↔
        lastAccepted .sample sampleLife (calls.zip answers) output = some input ∧
          s.BothLive output input := by
  refine ⟨_, _, rfl, rfl, fun output input => ?_⟩
  exact attached_iff_last_accepted sampleGraph_documented sampleLife_documented
    (fun _ _ h => by simp at h) rfl output input

end MiniaudioCpp
