import MiniaudioCpp.Routing.Topology
import MiniaudioCpp.Wrappers.LayoutNotes

/-!
# The topology that wrappers report

Between its `Init` and the moment it is asked for its topology, a node may have
changed hands any number of times.  Still the client knows from its own notes
what each wrapper reports: the layout that was given to an `Init` of the
wrapper's class, or no buses at all where the wrapper is empty.  So it also knows
which buses exist and which can be attached (`wrappers_report_layouts`).
-/

namespace MiniaudioCpp

open Foundation CResourceBase

variable {ε α F G : Type*}

/-! ## Classes -/

/-- The class of each object. -/
def kinds (objects : Arena (Wrapper F)) (i : ℕ) : Option WrapperKind :=
  (objects.get? i).map Wrapper.kind

/-- The notes of each object are of an `Init` of its class. -/
structure Suited (w : World (Wrapper F) α) (given : List (Option (InitCall F))) : Prop where
  length : given.length = w.objects.size
  suits : ∀ i kind call, kinds w.objects i = some kind → given[i]?.join = some call →
    call.suits kind = true

section Kinds

variable {w w' : World (Wrapper F) α} {given given' : List (Option (InitCall F))} {self other : ℕ}

@[simp] theorem Wrapper.kind_withBase (x : Wrapper F) (c : CResource) :
    (withBase x c).kind = x.kind := by
  cases x <;> rfl

/-- Another object of the same class in its place. -/
theorem kinds_put {objects : Arena (Wrapper F)} {x y : Wrapper F}
    (hx : objects.get? self = some x) (hy : y.kind = x.kind) :
    kinds (objects.put self y) = kinds objects := by
  funext i
  unfold kinds
  by_cases hi : i = self
  · subst hi
    rw [Arena.get?_put_self (Arena.lt_size_of_get? hx), hx, Option.map_some, Option.map_some, hy]
  · rw [Arena.get?_put_of_ne (Arena.lt_size_of_get? hx) hi]

theorem kinds_alloc (objects : Arena (Wrapper F)) (x : Wrapper F) :
    kinds (objects.alloc x) = Function.update (kinds objects) objects.size (some x.kind) := by
  funext i
  unfold kinds
  rw [Arena.get?_alloc, Function.update_apply]
  split <;> rfl

theorem World.sameKind_iff : w.sameKind self other = true ↔ kinds w.objects self = kinds w.objects other :=
  decide_eq_true_iff

theorem kinds_moveConstruct (hw : w.moveConstruct other = some w') :
    kinds w'.objects = Function.update (kinds w.objects) w.objects.size (kinds w.objects other) := by
  simp only [World.moveConstruct, Option.map_eq_some_iff] at hw
  obtain ⟨y, hy, rfl⟩ := hw
  refine (kinds_alloc _ _).trans ?_
  rw [kinds_put hy (Wrapper.kind_withBase y _), Arena.size_put, Wrapper.kind_withBase]
  unfold kinds
  rw [hy, Option.map_some]

/-- Assigning within a class changes no class. -/
theorem kinds_moveAssign (hsame : kinds w.objects self = kinds w.objects other)
    (hw : w.moveAssign self other = some w') : kinds w'.objects = kinds w.objects := by
  simp only [World.moveAssign, Option.bind_eq_some_iff, Option.map_eq_some_iff] at hw
  obtain ⟨x, hx, y, hy, rfl⟩ := hw
  have hkind : y.kind = x.kind := by
    unfold kinds at hsame
    rw [hx, hy, Option.map_some, Option.map_some, Option.some.injEq] at hsame
    exact hsame.symm
  split
  · rfl
  · rename_i hne
    have hfirst : (w.objects.put self (withBase y ⟨(base y).resource_⟩)).get? other = some y := by
      rwa [Arena.get?_put_of_ne (Arena.lt_size_of_get? hx) (Ne.symm hne)]
    exact (kinds_put hfirst (Wrapper.kind_withBase y _)).trans
      (kinds_put hx ((Wrapper.kind_withBase y _).trans hkind))

theorem kinds_swap (hw : w.swap self other = some w') : kinds w'.objects = kinds w.objects := by
  simp only [World.swap, Option.bind_eq_some_iff, Option.map_eq_some_iff] at hw
  obtain ⟨x, hx, y, hy, rfl⟩ := hw
  obtain ⟨z, hz, hkind⟩ : ∃ z, (w.objects.put self (withBase x (base y))).get? other = some z ∧
      y.kind = z.kind := by
    by_cases hne : other = self
    · subst hne
      rw [Arena.get?_put_self (Arena.lt_size_of_get? hx)]
      obtain rfl := Option.some.inj (hx.symm.trans hy)
      exact ⟨_, rfl, (Wrapper.kind_withBase x _).symm⟩
    · exact ⟨y, (Arena.get?_put_of_ne (Arena.lt_size_of_get? hx) hne _).trans hy, rfl⟩
  exact (kinds_put hz ((Wrapper.kind_withBase y _).trans hkind)).trans
    (kinds_put hx (Wrapper.kind_withBase x _))

theorem kinds_destroy (hw : w.destroy self = some w') :
    kinds w'.objects = Function.update (kinds w.objects) self none := by
  simp only [World.destroy, Option.map_eq_some_iff] at hw
  obtain ⟨x, _, rfl⟩ := hw
  funext i
  unfold kinds
  rw [Arena.get?_free, Function.update_apply]
  split <;> rfl

/-- An `Init` is one of the class of the object, which stays of this class. -/
theorem Wrapper.init_suits [Inhabited α] {M : Miniaudio ε α F} {env : ε}
    {engine : Option MaEngine} {x x' : Wrapper F} {call : InitCall F} {heap heap' : Heap α}
    {b : Bool} (hinit : x.Init M env engine call heap = some (b, x', heap')) :
    x'.kind = x.kind ∧ call.suits x.kind = true := by
  unfold Wrapper.Init at hinit
  split at hinit
  case h_9 => simp at hinit
  all_goals
    obtain ⟨rfl, rfl, rfl⟩ := hinit
    exact ⟨rfl, rfl⟩

/-- `SetCutoffFrequency` leaves the class as well. -/
theorem Wrapper.kind_setCutoffFrequency [Inhabited α] {M : Miniaudio ε α F}
    {newCutoffFrequency : F} {x x' : Wrapper F} {heap heap' : Heap α} {result : Option MaResult}
    (hset : x.SetCutoffFrequency M newCutoffFrequency heap = some (result, x', heap')) :
    x'.kind = x.kind := by
  cases x with
  | lpfNode filter | hpfNode filter =>
      obtain ⟨rfl, rfl, rfl⟩ := hset
      rfl
  | engine | tBaseNode | splitterNode | engineNode | sound =>
      simp [Wrapper.SetCutoffFrequency] at hset

theorem Suited.lt_length (h : Suited w given) {i : ℕ} {kind : WrapperKind}
    (hi : kinds w.objects i = some kind) : i < given.length := by
  unfold kinds at hi
  obtain ⟨x, hx, _⟩ := Option.map_eq_some_iff.mp hi
  exact h.length ▸ Arena.lt_size_of_get? hx

theorem Suited.empty : Suited (World.empty : World (Wrapper F) α) [] where
  length := rfl
  suits i kind call h := by simp [kinds, World.empty] at h

/-- Where no class changes, each note is an old one of an object of that class. -/
theorem Suited.carry (h : Suited w given) (hsize : w'.objects.size = w.objects.size)
    (hlength : given'.length = given.length) (hkinds : kinds w'.objects = kinds w.objects)
    (hnotes : ∀ i, i < given.length → ∃ j, kinds w.objects j = kinds w.objects i ∧
      given'[i]?.join = given[j]?.join) : Suited w' given' where
  length := (hlength.trans h.length).trans hsize.symm
  suits i kind call hi hcall := by
    rw [hkinds] at hi
    obtain ⟨j, hj, hnote⟩ := hnotes i (h.lt_length hi)
    exact h.suits j kind call (hj.trans hi) (hnote.symm.trans hcall)

/-- One more object, with a note that suits it. -/
theorem Suited.append (h : Suited w given) (hsize : w'.objects.size = w.objects.size + 1)
    {kind : Option WrapperKind} {note : Option (InitCall F)}
    (hkinds : kinds w'.objects = Function.update (kinds w.objects) w.objects.size kind)
    (hnote : ∀ k call, kind = some k → note = some call → call.suits k = true) :
    Suited w' (given ++ [note]) where
  length := by rw [List.length_append, h.length, hsize, List.length_singleton]
  suits i k call hi hcall := by
    rw [hkinds] at hi
    by_cases hnew : i = w.objects.size
    · subst hnew
      rw [Function.update_self] at hi
      rw [← h.length, List.getElem?_concat_length, Option.join_some] at hcall
      exact hnote k call hi hcall
    · rw [Function.update_of_ne hnew] at hi
      rw [join_append_left (h.lt_length hi)] at hcall
      exact h.suits i k call hi hcall

theorem Suited.moveAssign (h : Suited w given) (hsame : kinds w.objects self = kinds w.objects other)
    (hw : w.moveAssign self other = some w') : Suited w' (given.set self given[other]?.join) := by
  apply h.carry (World.size_moveAssign hw) List.length_set (kinds_moveAssign hsame hw)
  intro i hi
  by_cases hself : i = self
  · subst hself
    exact ⟨other, hsame.symm, join_set_self hi _⟩
  · exact ⟨i, rfl, join_set_ne hself _⟩

theorem Suited.swap (h : Suited w given) (hsame : kinds w.objects self = kinds w.objects other)
    (hw : w.swap self other = some w') :
    Suited w' ((given.set self given[other]?.join).set other given[self]?.join) := by
  apply h.carry (World.size_swap hw) (List.length_set.trans List.length_set) (kinds_swap hw)
  intro i hi
  by_cases hother : i = other
  · subst hother
    exact ⟨self, hsame, join_set_self (by rwa [List.length_set]) _⟩
  · by_cases hself : i = self
    · subst hself
      exact ⟨other, hsame.symm, (join_set_ne hother _).trans (join_set_self hi _)⟩
    · exact ⟨i, rfl, (join_set_ne hother _).trans (join_set_ne hself _)⟩

theorem Suited.destroy (h : Suited w given) (hw : w.destroy self = some w') : Suited w' given where
  length := h.length.trans (World.size_destroy hw).symm
  suits i kind call hi hcall := by
    rw [kinds_destroy hw] at hi
    by_cases hself : i = self
    · rw [hself, Function.update_self] at hi
      exact absurd hi (by simp)
    · rw [Function.update_of_ne hself] at hi
      exact h.suits i kind call hi hcall

/-- An object that stays of its class, with its note or with another that suits. -/
theorem Suited.put (h : Suited w given) {x y : Wrapper F} {heap : Heap α}
    (hx : w.objects.get? self = some x) (hy : y.kind = x.kind) :
    Suited ⟨w.objects.put self y, heap⟩ given :=
  h.carry (Arena.size_put ..) rfl (kinds_put hx hy) fun i _ => ⟨i, rfl, rfl⟩

theorem Suited.set (h : Suited w given) {x : Wrapper F} (hx : w.objects.get? self = some x)
    {call : InitCall F} (hsuits : call.suits x.kind = true) :
    Suited w (given.set self (some call)) where
  length := by rw [List.length_set, h.length]
  suits i kind call' hi hcall := by
    by_cases hself : i = self
    · subst hself
      rw [join_set_self (h.lt_length hi), Option.some.injEq] at hcall
      unfold kinds at hi
      rw [hx, Option.map_some, Option.some.injEq] at hi
      exact hcall ▸ hi ▸ hsuits
    · rw [join_set_ne hself] at hcall
      exact h.suits i kind call' hi hcall

end Kinds

/-! ## One call -/

/-- The notes go with the elements, and suit the objects. -/
structure Noted (layoutOf : α → NodeLayout) (w : World (Wrapper F) α)
    (notes : List (Option (InitCall F))) : Prop where
  given : Given layoutOf w notes
  suited : Suited w notes

theorem Noted.step [Zero F] [Inhabited α] {M : Miniaudio ε α F} {N : NodeGraph (Heap α)}
    {layoutOf : α → NodeLayout} {w w' : World (Wrapper F) α} {given : List (Option (InitCall F))}
    (hdoc : M.LaysOut layoutOf) (hgraph : N.ReadsLayouts layoutOf) (h : Noted layoutOf w given)
    {call : LayoutCall ε F} {answer : LayoutAnswer}
    (hstep : layoutStep M N w call = some (w', answer)) :
    Noted layoutOf w' (recordInit given (call, answer)) := by
  obtain ⟨hgiven, hsuited⟩ := h
  cases call with
  | wrapper call =>
      simp only [layoutStep, Option.map_eq_some_iff, Prod.exists, Prod.mk.injEq] at hstep
      obtain ⟨w', answer, hstep, rfl, rfl⟩ := hstep
      cases call with
      | construct kind =>
          simp only [wrapperStep, Option.some.injEq, Prod.mk.injEq] at hstep
          obtain ⟨rfl, _⟩ := hstep
          refine ⟨hgiven.construct (Wrapper.resource_fresh kind), ?_⟩
          exact hsuited.append (World.size_construct _) (kinds_alloc _ _) fun _ _ _ hnote => by
            simp at hnote
      | init self env engine call =>
          simp only [wrapperStep, Option.bind_eq_some_iff, Option.map_eq_some_iff, Prod.mk.injEq,
            Prod.exists] at hstep
          obtain ⟨x, hx, b, x', heap', hinit, rfl, rfl⟩ := hstep
          obtain ⟨hkind, hsuits⟩ := Wrapper.init_suits hinit
          have hinitialised := hgiven.init hdoc hx hinit
          cases b with
          | false => exact ⟨hinitialised, hsuited.put hx hkind⟩
          | true => exact ⟨hinitialised, (hsuited.set hx hsuits).put hx hkind⟩
      | moveConstruct other =>
          simp only [wrapperStep, Option.map_eq_some_iff, Prod.mk.injEq] at hstep
          obtain ⟨_, hmove, rfl, _⟩ := hstep
          refine ⟨hgiven.moveConstruct hmove, ?_⟩
          exact hsuited.append (World.size_moveConstruct hmove) (kinds_moveConstruct hmove)
            (hsuited.suits other)
      | moveAssign self other =>
          simp only [wrapperStep, Option.ite_none_right_eq_some, Option.map_eq_some_iff,
            Prod.mk.injEq] at hstep
          obtain ⟨hsame, _, hmove, rfl, _⟩ := hstep
          exact ⟨hgiven.moveAssign hmove, hsuited.moveAssign (World.sameKind_iff.mp hsame) hmove⟩
      | swap self other =>
          simp only [wrapperStep, Option.ite_none_right_eq_some, Option.map_eq_some_iff,
            Prod.mk.injEq] at hstep
          obtain ⟨hsame, _, hswap, rfl, _⟩ := hstep
          exact ⟨hgiven.swap hswap, hsuited.swap (World.sameKind_iff.mp hsame) hswap⟩
      | destroy self =>
          simp only [wrapperStep, Option.map_eq_some_iff, Prod.mk.injEq] at hstep
          obtain ⟨_, hdestroy, rfl, _⟩ := hstep
          exact ⟨hgiven.destroy hdestroy, hsuited.destroy hdestroy⟩
  | SetCutoffFrequency self newCutoffFrequency =>
      simp only [layoutStep, Option.bind_eq_some_iff, Option.map_eq_some_iff, Prod.exists,
        Prod.mk.injEq] at hstep
      obtain ⟨x, hx, result, x', heap', hset, rfl, rfl⟩ := hstep
      exact ⟨hgiven.setCutoffFrequency hdoc hx hset,
        hsuited.put hx (Wrapper.kind_setCutoffFrequency hset)⟩
  | attach call =>
      simp only [layoutStep, Option.ite_none_right_eq_some, Option.some.injEq,
        Prod.mk.injEq] at hstep
      obtain ⟨_, rfl, rfl⟩ := hstep
      exact ⟨hgiven.attach hgraph call,
        hsuited.carry rfl rfl rfl fun i _ => ⟨i, rfl, rfl⟩⟩

/-! ## Runs -/

/-- The node of a wrapper is reported with exactly the buses of the layout. -/
structure ReportsLayout (N : NodeGraph G) (g : G) (node : NodeRouting) (layout : NodeLayout) :
    Prop where
  input_busses :
    node.toNodeTopology.GetNumInputBusses N g = UInt32.ofNat layout.Inputs.length
  output_busses :
    node.toNodeTopology.GetNumOutputBusses N g = UInt32.ofNat layout.Outputs.length
  input_channels : ∀ i,
    node.toNodeTopology.GetNumInputChannels N g i = layout.Inputs.getD i.toNat 0
  output_channels : ∀ i,
    node.toNodeTopology.GetNumOutputChannels N g i = layout.Outputs.getD i.toNat 0

/-- The layout that the notes have for a wrapper; no buses where it is empty. -/
def World.noted (w : World (Wrapper F) α) (given : List (Option (InitCall F))) (i : ℕ) :
    Option NodeLayout :=
  if (w.slots i).isNone then some ⟨[], []⟩ else given[i]?.join.bind InitCall.layout

/-- What the notes say of the wrappers is so. -/
structure LayoutsReported (N : NodeGraph (Heap α)) (w : World (Wrapper F) α)
    (given : List (Option (InitCall F))) : Prop where
  /-- For every wrapper with a node there is a note, of an `Init` of its class. -/
  note : ∀ i x p, w.objects.get? i = some x → (base x).resource_ = some p →
    ∃ call, given[i]?.join = some call ∧ call.suits x.kind = true
  reported : ∀ i x layout, w.objects.get? i = some x → w.noted given i = some layout →
    ReportsLayout N w.heap (routing x) layout
  /-- The buses that exist are those of the layout. -/
  valid : ∀ i x layout bus, w.objects.get? i = some x → w.noted given i = some layout →
    ((routing x).InputBus bus).IsValid N w.heap =
        decide (bus < UInt32.ofNat layout.Inputs.length) ∧
      ((routing x).OutputBus bus).IsValid N w.heap =
        decide (bus < UInt32.ofNat layout.Outputs.length)
  /-- Two wrappers can be attached exactly when they are two, and the layouts have
  buses of equally many channels there. -/
  attachable : ∀ i j x y layout layout' output input, w.objects.get? i = some x →
    w.objects.get? j = some y → w.noted given i = some layout → w.noted given j = some layout' →
      (routing x).CanAttachTo N w.heap output (.cResource (base y).resource_) input =
        let channels := layout.Outputs.getD output.toNat 0
        (channels != 0 && channels == layout'.Inputs.getD input.toNat 0 && i != j)

section Reports

variable {N : NodeGraph (Heap α)} {layoutOf : α → NodeLayout} {w : World (Wrapper F) α}
  {given : List (Option (InitCall F))} {i : ℕ} {x : Wrapper F} {layout : NodeLayout}

/-- A live node is reported with its own layout. -/
theorem reportsLayout_of_live (hgraph : N.ReadsLayouts layoutOf) {heap : Heap α} {p : Pointer}
    {a : α} (hcell : heap.cells.get? p = some a) : ReportsLayout N heap ⟨some p⟩ (layoutOf a) where
  input_busses := hgraph.input_bus_count heap p a hcell
  output_busses := hgraph.output_bus_count heap p a hcell
  input_channels i := hgraph.input_channels heap p a i hcell
  output_channels i := hgraph.output_channels heap p a i hcell

theorem Given.reported (hgraph : N.ReadsLayouts layoutOf) (h : Given layoutOf w given)
    (hx : w.objects.get? i = some x) (hnoted : w.noted given i = some layout) :
    ReportsLayout N w.heap (routing x) layout := by
  have hslot := World.slots_of_get? hx
  unfold World.noted at hnoted
  unfold routing
  cases hp : (base x).resource_ with
  | none =>
      rw [hslot, hp, Option.isNone_none, if_pos rfl] at hnoted
      obtain rfl := Option.some.inj hnoted
      exact ⟨rfl, rfl, fun _ => rfl, fun _ => rfl⟩
  | some p =>
      obtain ⟨call, a, hcall, hcell, hlaid⟩ := h.laid i p (hslot.trans hp)
      rw [hslot, hp, if_neg (by simp), hcall, Option.bind_some] at hnoted
      exact hlaid layout hnoted ▸ reportsLayout_of_live hgraph hcell

theorem Given.attachable (hgraph : N.ReadsLayouts layoutOf) (h : Given layoutOf w given) {j : ℕ}
    {y : Wrapper F} {layout' : NodeLayout} (hx : w.objects.get? i = some x)
    (hy : w.objects.get? j = some y) (hnoted : w.noted given i = some layout)
    (hnoted' : w.noted given j = some layout') (output input : UInt32) :
    (routing x).CanAttachTo N w.heap output (.cResource (base y).resource_) input =
      let channels := layout.Outputs.getD output.toNat 0
      (channels != 0 && channels == layout'.Inputs.getD input.toNat 0 && i != j) := by
  have hreport := h.reported hgraph hx hnoted
  have hcan := (routing x).canAttachTo_cResource (g := w.heap) hgraph.null (routing y) output input
  rw [hreport.output_channels, (h.reported hgraph hy hnoted').input_channels] at hcan
  refine hcan.trans ?_
  by_cases hchannels : layout.Outputs.getD output.toNat 0 = 0
  · rw [hchannels]
    rfl
  · -- a bus with channels is of a node, which no other wrapper has
    obtain ⟨p, hp⟩ : ∃ p, w.slots i = some p := by
      by_contra hnone
      have hslot : w.slots i = none := Option.eq_none_iff_forall_ne_some.mpr fun p hp => hnone ⟨p, hp⟩
      unfold World.noted at hnoted
      rw [hslot, Option.isNone_none, if_pos rfl] at hnoted
      obtain rfl := Option.some.inj hnoted
      exact hchannels rfl
    have hnodes : (routing x).get = (routing y).get ↔ i = j := by
      have hget : (routing x).get = some p := (World.slots_of_get? hx).symm.trans hp
      constructor
      · intro heq
        have hslot : w.slots j = some p := (World.slots_of_get? hy).trans (heq.symm.trans hget)
        exact h.settled.custody.exclusive i j p hp hslot
      · intro hij
        subst hij
        rw [Option.some.inj (hx.symm.trans hy)]
    have hbne : ((routing x).get != (routing y).get) = (i != j) := by
      rw [Bool.eq_iff_iff, bne_iff_ne, bne_iff_ne, ne_eq, hnodes]
    simp only [hbne]

end Reports

/-- After any run of `Init` functions against a live engine, moves, swaps,
destructions, filter settings and attach calls, each wrapper reports the layout
that is in the client's notes. -/
theorem wrappers_report_layouts [Zero F] [Inhabited α] {M : Miniaudio ε α F}
    {N : NodeGraph (Heap α)} {layoutOf : α → NodeLayout} (hdoc : M.LaysOut layoutOf)
    (hgraph : N.ReadsLayouts layoutOf) {calls : List (LayoutCall ε F)} {w : World (Wrapper F) α}
    {answers : List LayoutAnswer}
    (hrun : run (layoutStep M N) World.empty calls = some (w, answers)) :
    LayoutsReported N w (inits (calls.zip answers)) := by
  have hnoted : Noted layoutOf w (inits (calls.zip answers)) :=
    run_recorded (fun _ _ _ _ _ h hstep => h.step hdoc hgraph hstep) ⟨Given.empty, Suited.empty⟩ hrun
  obtain ⟨hgiven, hsuited⟩ := hnoted
  refine ⟨fun i x p hx hp => ?_, fun i x layout => hgiven.reported hgraph,
    fun i x layout bus hx hl => ?_, fun i j x y layout layout' output input hx hy hl hl' =>
      hgiven.attachable hgraph hx hy hl hl' output input⟩
  · obtain ⟨call, _, hcall, _⟩ := hgiven.laid i p ((World.slots_of_get? hx).trans hp)
    refine ⟨call, hcall, hsuited.suits i x.kind call ?_ hcall⟩
    unfold kinds
    rw [hx, Option.map_some]
  · have hreport := hgiven.reported hgraph hx hl
    rw [(routing x).isValid_inputBus, (routing x).isValid_outputBus, hreport.input_busses,
      hreport.output_busses]
    exact ⟨rfl, rfl⟩

/-! ## An instance -/

instance : Inhabited NodeLayout := ⟨⟨[], []⟩⟩

/-- A miniaudio whose elements are their layouts, and whose initialisations answer
what `ε` tells them to. -/
def Miniaudio.laidOut : Miniaudio MaResult NodeLayout ℕ where
  MA_NODE_FLAG_PASSTHROUGH := Miniaudio.sample.MA_NODE_FLAG_PASSTHROUGH
  MA_NODE_BUS_COUNT_UNKNOWN := Miniaudio.sample.MA_NODE_BUS_COUNT_UNKNOWN
  MA_SOUND_FLAG_NO_SPATIALIZATION := Miniaudio.sample.MA_SOUND_FLAG_NO_SPATIALIZATION
  MA_SOUND_FLAG_NO_DEFAULT_ATTACHMENT := Miniaudio.sample.MA_SOUND_FLAG_NO_DEFAULT_ATTACHMENT
  MA_SOUND_SOURCE_CHANNEL_COUNT := Miniaudio.sample.MA_SOUND_SOURCE_CHANNEL_COUNT
  MA_MAX_FILTER_ORDER := Miniaudio.sample.MA_MAX_FILTER_ORDER
  one_le_MA_MAX_FILTER_ORDER := Miniaudio.sample.one_le_MA_MAX_FILTER_ORDER
  ma_engine_init env _ _ := (env, ⟨[], [2]⟩)
  ma_node_init env _ config _ := (env,
    ⟨config.pInputChannels.take (count config.vtableInputBusCount config.inputBusCount).toNat,
      config.pOutputChannels.take (count config.vtableOutputBusCount config.outputBusCount).toNat⟩)
  ma_splitter_node_init env _ config _ :=
    (env, ⟨[config.channels], List.replicate config.outputBusCount.toNat config.channels⟩)
  ma_engine_node_init env config _ := (env, ⟨[config.channelsIn], [config.channelsOut]⟩)
  ma_sound_init_from_file env _ _ _ _ := (env, ⟨[], [2]⟩)
  ma_sound_init_ex env _ _ _ := (env, ⟨[], [2]⟩)
  ma_sound_init_from_data_source env _ _ _ _ := (env, ⟨[], [2]⟩)
  ma_lpf_node_init env _ config _ := (env, ⟨[config.channels], [config.channels]⟩)
  ma_hpf_node_init env _ config _ := (env, ⟨[config.channels], [config.channels]⟩)
  ma_lpf_node_reinit _ a := (.success, a)
  ma_hpf_node_reinit _ a := (.success, a)
  lpf a := (0, a.Inputs.headD 0, 48000)
  hpf a := (0, a.Inputs.headD 0, 48000)
where
  count (vtable config : UInt32) : UInt32 := if vtable = 255 then config else vtable

theorem Miniaudio.laidOut_laysOut : Miniaudio.laidOut.LaysOut id where
  node _ _ _ _ _ h := (congrArg Prod.snd h).symm
  splitter _ _ _ _ _ h := (congrArg Prod.snd h).symm
  group _ _ _ _ _ _ h := (congrArg Prod.snd h).symm
  lpf _ _ _ _ _ h := (congrArg Prod.snd h).symm
  hpf _ _ _ _ _ h := (congrArg Prod.snd h).symm
  lpf_reinit _ _ := rfl
  hpf_reinit _ _ := rfl

/-- A graph over such elements. -/
def NodeGraph.laidOut : NodeGraph (Heap NodeLayout) where
  ma_node_get_input_bus_count heap node := UInt32.ofNat (layoutAt heap node).Inputs.length
  ma_node_get_output_bus_count heap node := UInt32.ofNat (layoutAt heap node).Outputs.length
  ma_node_get_input_channels heap node i := (layoutAt heap node).Inputs.getD i.toNat 0
  ma_node_get_output_channels heap node i := (layoutAt heap node).Outputs.getD i.toNat 0
  ma_node_attach_output_bus _ _ _ _ heap := (.success, heap)
where
  layoutAt (heap : Heap NodeLayout) (node : Option Pointer) : NodeLayout :=
    (node.bind heap.cells.get?).getD default

theorem NodeGraph.laidOut_readsLayouts : NodeGraph.laidOut.ReadsLayouts id := by
  have hlayout : ∀ heap p a, heap.cells.get? p = some a →
      NodeGraph.laidOut.layoutAt heap (some p) = a := by
    intro heap p a hcell
    rw [NodeGraph.laidOut.layoutAt, Option.bind_some, hcell, Option.getD_some]
  exact {
    null := ⟨fun _ => rfl, fun _ => rfl, fun _ _ => rfl, fun _ _ => rfl⟩
    input_bus_count := fun heap p a hcell => by
      simp only [NodeGraph.laidOut, hlayout heap p a hcell, id]
    output_bus_count := fun heap p a hcell => by
      simp only [NodeGraph.laidOut, hlayout heap p a hcell, id]
    input_channels := fun heap p a i hcell => by
      simp only [NodeGraph.laidOut, hlayout heap p a hcell, id]
    output_channels := fun heap p a i hcell => by
      simp only [NodeGraph.laidOut, hlayout heap p a hcell, id]
    attach := fun _ _ _ _ _ => ⟨rfl, rfl, fun _ => rfl⟩ }

/-- A node with two input buses that is attached to a filter and moved, and a
filter whose second initialisation fails. -/
theorem wrappers_report_layouts_moved :
    let engine : MaEngine := ⟨0, 48000⟩
    let calls : List (LayoutCall MaResult ℕ) := [.wrapper (.construct (.tBaseNode 0 0)),
      .wrapper (.init 0 .success engine (.tBaseNode ⟨[2, 1], [2]⟩ true)),
      .wrapper (.construct .lpfNode), .wrapper (.init 1 .success engine (.lpfNode 2 200 4 0)),
      .SetCutoffFrequency 1 300, .attach (.bus ⟨some 0, 0⟩ ⟨some 1, 0⟩),
      .wrapper (.moveConstruct 0), .wrapper (.init 1 .error engine (.lpfNode 1 200 4 0))]
    ∃ w answers, run (layoutStep .laidOut .laidOut) World.empty calls = some (w, answers) ∧
      w.noted (inits (calls.zip answers)) 0 = some ⟨[], []⟩ ∧
      w.noted (inits (calls.zip answers)) 1 = some ⟨[], []⟩ ∧
      w.noted (inits (calls.zip answers)) 2 = some ⟨[2, 1], [2]⟩ ∧
      LayoutsReported NodeGraph.laidOut w (inits (calls.zip answers)) := by
  intro engine calls
  refine ⟨_, _, rfl, rfl, rfl, rfl, ?_⟩
  exact wrappers_report_layouts Miniaudio.laidOut_laysOut NodeGraph.laidOut_readsLayouts rfl

end MiniaudioCpp
