import MiniaudioCpp.Foundation.Machine
import MiniaudioCpp.Wrappers.Settled

/-!
# `LPFNode`: the cached order and cutoff

An `LPFNode` keeps the order and the cutoff of its node in two members of its
own, which `SetCutoffFrequency` passes on to `ma_lpf_node_reinit`.  `Init` and
the moves keep the members in step with the node; the `swap` that is inherited
from `CResource` exchanges the nodes and leaves the members where they are.

So the wrappers stay coherent along a run exactly when each `swap` is between
two that own nothing or whose members agree (`coherent_iff_swaps_alike`).
-/

namespace MiniaudioCpp

open Foundation CResourceBase

variable {ε α F : Type*}

/-! ## The machine -/

/-- The calls on `LPFNode` objects. -/
inductive FilterCall (ε F : Type*)
  | construct
  | Init (self : ℕ) (env : ε) (GetMiniaudioEngine : Option MaEngine) (numChannels : UInt32)
      (cutoffFrequency : F) (order sampleRate : UInt32)
  | SetCutoffFrequency (self : ℕ) (newCutoffFrequency : F)
  | moveConstruct (other : ℕ)
  | moveAssign (self other : ℕ)
  | swap (self other : ℕ)
  | swapNamespace (lhs rhs : ℕ)
  | destroy (self : ℕ)

/-- What a call hands back.  `reinitialised` is the result that the assert in
`SetCutoffFrequency` is about, if it is reached. -/
inductive FilterAnswer
  | done
  | initialised (answer : Bool)
  | reinitialised (result : Option MaResult)
  deriving DecidableEq, Repr

/-- One call. -/
def lpfStep [Zero F] [Inhabited α] (M : Miniaudio ε α F) (w : World (LPFNode F) α) :
    FilterCall ε F → Option (World (LPFNode F) α × FilterAnswer)
  | .construct => some (w.construct { mOrder := 0, mCutoffFrequency := 0 }, .done)
  | .Init self env engine numChannels cutoffFrequency order sampleRate =>
      w.member self fun x heap =>
        let (answer, x, heap) :=
          x.Init M env engine numChannels cutoffFrequency order sampleRate heap
        (.initialised answer, x, heap)
  | .SetCutoffFrequency self newCutoffFrequency =>
      w.member self fun x heap =>
        let (result, x, heap) := x.SetCutoffFrequency M newCutoffFrequency heap
        (.reinitialised result, x, heap)
  | .moveConstruct other => (w.moveConstruct other).map fun w => (w, .done)
  | .moveAssign self other => (w.moveAssign self other).map fun w => (w, .done)
  | .swap self other => (w.swap self other).map fun w => (w, .done)
  | .swapNamespace lhs rhs => (w.swap lhs rhs).map fun w => (w, .done)
  | .destroy self => (w.destroy self).map fun w => (w, .done)

/-! ## Coherence -/

/-- What miniaudio documents about the order and the cutoff of a node. -/
structure LpfDocumented (M : Miniaudio ε α F) (order : α → UInt32) (cutoff : α → F) : Prop where
  /-- An initialisation that succeeds configures the node as it was told. -/
  init_success : ∀ env graph config x, (M.ma_lpf_node_init env graph config x).1 = .success →
    order (M.ma_lpf_node_init env graph config x).2 = config.order ∧
      cutoff (M.ma_lpf_node_init env graph config x).2 = config.cutoffFrequency
  /-- With the format, the channels and the sample rate that the node has, a
reinit is turned down if and only if it changes the order. -/
  reinit_success : ∀ config x, (config.format, config.channels, config.sampleRate) = M.lpf x →
    ((M.ma_lpf_node_reinit config x).1 = .success ↔ config.order = order x)
  reinit_applies : ∀ config x, (config.format, config.channels, config.sampleRate) = M.lpf x →
    config.order = order x →
      order (M.ma_lpf_node_reinit config x).2 = order x ∧
        cutoff (M.ma_lpf_node_reinit config x).2 = config.cutoffFrequency

/-- If the wrapper owns a node, its members are the order and the cutoff of that
node, and the order is in range. -/
def LPFNode.Coherent (M : Miniaudio ε α F) (order : α → UInt32) (cutoff : α → F)
    (self : LPFNode F) (heap : Heap α) : Prop :=
  ∀ p, self.resource_ = some p →
    (1 ≤ self.mOrder ∧ self.mOrder ≤ M.MA_MAX_FILTER_ORDER) ∧
      ∃ x, heap.cells.get? p = some x ∧ order x = self.mOrder ∧ cutoff x = self.mCutoffFrequency

/-- Every wrapper is coherent. -/
def World.Coherent (M : Miniaudio ε α F) (order : α → UInt32) (cutoff : α → F)
    (w : World (LPFNode F) α) : Prop :=
  ∀ i x, w.objects.get? i = some x → x.Coherent M order cutoff w.heap

/-- A step that leaves every wrapper coherent, and at which the assert on the
result of the reinit does not fail. -/
def StaysCoherent (M : Miniaudio ε α F) (order : α → UInt32) (cutoff : α → F)
    (_ : World (LPFNode F) α) (_ : FilterCall ε F) (answer : FilterAnswer)
    (w' : World (LPFNode F) α) : Prop :=
  w'.Coherent M order cutoff ∧ ∀ result, answer = .reinitialised (some result) → result = .success

/-- The wrappers own nothing, or their members agree. -/
def LPFNode.Alike (x y : LPFNode F) : Prop :=
  (x.resource_ = none ∧ y.resource_ = none) ∨
    (x.mOrder = y.mOrder ∧ x.mCutoffFrequency = y.mCutoffFrequency)

/-- If the call is a `swap`, it is between two wrappers that are alike. -/
def SwapsAlike (w : World (LPFNode F) α) (call : FilterCall ε F) (_ : FilterAnswer)
    (_ : World (LPFNode F) α) : Prop :=
  ∀ i j x y, call = .swap i j ∨ call = .swapNamespace i j → w.objects.get? i = some x →
    w.objects.get? j = some y → x.Alike y

/-! ## `Init` -/

/-- `Init` turns the call down, or it sets the members and initialises a node
with them. -/
theorem LPFNode.Init_cases [Inhabited α] (M : Miniaudio ε α F) (env : ε)
    (engine : Option MaEngine) (numChannels : UInt32) (cutoffFrequency : F)
    (order sampleRate : UInt32) (self : LPFNode F) (heap : Heap α) :
    self.Init M env engine numChannels cutoffFrequency order sampleRate heap =
        (false, self, heap) ∨
      ∃ graph rate,
        let mOrder := clamp order 1 M.MA_MAX_FILTER_ORDER
        let out := self.toCResource.emplaceEnsured
          (M.ma_lpf_node_init env graph ⟨numChannels, rate, cutoffFrequency, mOrder⟩) heap
        self.Init M env engine numChannels cutoffFrequency order sampleRate heap =
          (out.1, ⟨out.2.1, mOrder, cutoffFrequency⟩, out.2.2) := by
  unfold LPFNode.Init
  by_cases hchannels : numChannels = 0
  · exact Or.inl (if_pos hchannels)
  · rw [if_neg hchannels]
    cases engine with
    | none => exact Or.inl rfl
    | some engine => exact Or.inr ⟨_, _, rfl⟩

theorem clamp_bounds {order hi : UInt32} (hhi : 1 ≤ hi) :
    1 ≤ clamp order 1 hi ∧ clamp order 1 hi ≤ hi := by
  unfold clamp
  split
  · exact ⟨UInt32.le_refl 1, hhi⟩
  next hlo =>
    split
    · exact ⟨hhi, UInt32.le_refl hi⟩
    next hle => exact ⟨UInt32.not_lt.mp hlo, UInt32.not_lt.mp hle⟩

/-! ## Steps -/

section Steps

variable {M : Miniaudio ε α F} {order : α → UInt32} {cutoff : α → F} {w w' : World (LPFNode F) α}

/-- A wrapper is coherent as long as its node is as before. -/
theorem LPFNode.Coherent.congr {x : LPFNode F} {heap heap' : Heap α}
    (h : x.Coherent M order cutoff heap)
    (hcell : ∀ p, x.resource_ = some p → heap'.cells.get? p = heap.cells.get? p) :
    x.Coherent M order cutoff heap' := by
  intro p hp
  rw [hcell p hp]
  exact h p hp

/-- An empty wrapper is coherent. -/
theorem LPFNode.Coherent.of_empty {x : LPFNode F} {heap : Heap α} (hx : x.resource_ = none) :
    x.Coherent M order cutoff heap := by
  intro p hp
  rw [hx] at hp
  simp at hp

/-- Two wrappers own two nodes. -/
theorem resource_ne_of_ne (h : Custody w.slots w.heap) {i j : ℕ} {x y : LPFNode F}
    (hx : w.objects.get? i = some x) (hy : w.objects.get? j = some y) (hij : i ≠ j) {p : Pointer}
    (hp : y.resource_ = some p) : x.resource_ ≠ some p := fun heq =>
  hij (h.exclusive i j p ((World.slots_of_get? hx).trans heq) ((World.slots_of_get? hy).trans hp))

theorem lt_size_of_resource (h : Custody w.slots w.heap) {i : ℕ} {x : LPFNode F}
    (hx : w.objects.get? i = some x) {p : Pointer} (hp : x.resource_ = some p) :
    p < w.heap.cells.size :=
  h.lt_size_of_slot ((World.slots_of_get? hx).trans hp)

/-- A step at one wrapper that leaves the nodes of the others alone. -/
theorem World.Coherent.put (h : w.Coherent M order cutoff) {i : ℕ} {x y : LPFNode F}
    {heap : Heap α} (hx : w.objects.get? i = some x) (hy : y.Coherent M order cutoff heap)
    (hothers : ∀ j z, j ≠ i → w.objects.get? j = some z → ∀ p, z.resource_ = some p →
      heap.cells.get? p = w.heap.cells.get? p) :
    World.Coherent M order cutoff ⟨w.objects.put i y, heap⟩ := by
  intro j z hz
  rw [Arena.get?_put (Arena.lt_size_of_get? hx)] at hz
  split at hz
  next =>
    obtain rfl := Option.some.inj hz
    exact hy
  next hj => exact (h j z hz).congr (hothers j z hj hz)

theorem coherent_Init [Inhabited α] (hdoc : LpfDocumented M order cutoff) (hsettled : w.Settled)
    (h : w.Coherent M order cutoff) {self : ℕ} {x : LPFNode F}
    (hx : w.objects.get? self = some x) (env : ε) (engine : Option MaEngine)
    (numChannels : UInt32) (cutoffFrequency : F) (ord sampleRate : UInt32) :
    let out := x.Init M env engine numChannels cutoffFrequency ord sampleRate w.heap
    World.Coherent M order cutoff ⟨w.objects.put self out.2.1, out.2.2⟩ ∧
      World.Settled ⟨w.objects.put self out.2.1, out.2.2⟩ := by
  intro out
  rcases LPFNode.Init_cases M env engine numChannels cutoffFrequency ord sampleRate x w.heap with
    heq | ⟨graph, rate, heq⟩
  · -- turned down: nothing changed
    have hput : w.objects.put self x = w.objects := Arena.put_self hx
    simp only [out, heq, hput]
    exact ⟨h, hsettled⟩
  · have hspec := emplaceEnsured_initialised hsettled.custody hsettled.allSettled
      (World.slots_of_get? hx) ⟨[], (List.append_nil w.heap.log).symm⟩
      (M.ma_lpf_node_init env graph
        ⟨numChannels, rate, cutoffFrequency, clamp ord 1 M.MA_MAX_FILTER_ORDER⟩)
    simp only [out, heq]
    refine ⟨h.put hx ?_ ?_, World.Settled.initialised hx hspec⟩
    · intro p hp
      by_cases hresult : (M.ma_lpf_node_init env graph
          ⟨numChannels, rate, cutoffFrequency, clamp ord 1 M.MA_MAX_FILTER_ORDER⟩ default).1 =
            .success
      · obtain ⟨_, hself, hcell⟩ := x.toCResource.emplaceEnsured_of_success w.heap hresult
        obtain rfl := Option.some.inj ((congrArg CResource.resource_ hself).symm.trans hp)
        obtain ⟨horder, hcutoff⟩ := hdoc.init_success _ _ _ _ hresult
        exact ⟨clamp_bounds M.one_le_MA_MAX_FILTER_ORDER, _, hcell, horder, hcutoff⟩
      · have hself := (x.toCResource.emplaceEnsured_of_ne w.heap hresult).2
        exact absurd ((congrArg CResource.resource_ hself).symm.trans hp) (by simp)
    · intro j z hj hz p hp
      refine CResource.get?_emplaceEnsured_of_ne ?_ (lt_size_of_resource hsettled.custody hz hp)
      exact resource_ne_of_ne hsettled.custody hx hz (Ne.symm hj) hp

/-- Under coherence the order that `SetCutoffFrequency` passes on is the node's:
the reinit succeeds. -/
theorem coherent_SetCutoffFrequency [Inhabited α] (hdoc : LpfDocumented M order cutoff)
    (hsettled : w.Settled) (h : w.Coherent M order cutoff) {self : ℕ} {x : LPFNode F}
    (hx : w.objects.get? self = some x) (newCutoffFrequency : F) :
    let out := x.SetCutoffFrequency M newCutoffFrequency w.heap
    (∀ result, out.1 = some result → result = .success) ∧
      World.Coherent M order cutoff ⟨w.objects.put self out.2.1, out.2.2⟩ ∧
      World.Settled ⟨w.objects.put self out.2.1, out.2.2⟩ := by
  intro out
  cases hp : x.resource_ with
  | none =>
      have hput : w.objects.put self x = w.objects := Arena.put_self hx
      simp only [out, LPFNode.SetCutoffFrequency, hp, hput]
      exact ⟨by simp, h, hsettled⟩
  | some p =>
      obtain ⟨hrange, node, hnode, horder, _⟩ := h self x hx p hp
      simp only [out, LPFNode.SetCutoffFrequency, hp, Heap.load_of_get? hnode]
      refine ⟨?_, h.put hx ?_ ?_, hsettled.store hx hp ?_ _⟩
      · intro result hresult
        rw [← Option.some.inj hresult]
        exact (hdoc.reinit_success _ _ rfl).mpr horder.symm
      · -- the node takes the cutoff that the member takes
        intro q hq
        obtain rfl : p = q := Option.some.inj (hp.symm.trans hq)
        obtain ⟨hkept, happlied⟩ := hdoc.reinit_applies
          ⟨(M.lpf node).1, (M.lpf node).2.1, (M.lpf node).2.2, newCutoffFrequency, x.mOrder⟩ node
          rfl horder.symm
        refine ⟨hrange, _, ?_, hkept.trans horder, happlied⟩
        exact Arena.get?_put_self (Arena.lt_size_of_get? hnode) _
      · intro j z hj hz q hq
        have hne : q ≠ p := by
          rintro rfl
          exact resource_ne_of_ne hsettled.custody hx hz (Ne.symm hj) hq hp
        exact Arena.get?_put_of_ne (Arena.lt_size_of_get? hnode) hne _
      · exact hp

/-- Two wrappers that exchange their nodes. -/
theorem coherent_withBase_iff {x y : LPFNode F} {heap : Heap α}
    (hy : y.Coherent M order cutoff heap) :
    (withBase x (base y)).Coherent M order cutoff heap ↔
      y.resource_ = none ∨ (x.mOrder = y.mOrder ∧ x.mCutoffFrequency = y.mCutoffFrequency) := by
  constructor
  · intro hx
    cases hp : y.resource_ with
    | none => exact Or.inl rfl
    | some p =>
        obtain ⟨_, node, hnode, horder, hcutoff⟩ := hy p hp
        -- both read the members off one node
        obtain ⟨_, node', hnode', horder', hcutoff'⟩ := hx p hp
        obtain rfl := Option.some.inj (hnode.symm.trans hnode')
        exact Or.inr ⟨horder'.symm.trans horder, hcutoff'.symm.trans hcutoff⟩
  · rintro (hnone | ⟨horder, hcutoff⟩)
    · exact LPFNode.Coherent.of_empty hnone
    · intro p hp
      obtain ⟨hrange, node, hnode, horder', hcutoff'⟩ := hy p hp
      show (1 ≤ x.mOrder ∧ x.mOrder ≤ _) ∧ ∃ node, _ ∧ order node = x.mOrder ∧
        cutoff node = x.mCutoffFrequency
      rw [horder, hcutoff]
      exact ⟨hrange, node, hnode, horder', hcutoff'⟩

/-- A `swap` keeps coherence exactly when it is between two wrappers that are
alike. -/
theorem coherent_swap_iff (h : w.Coherent M order cutoff) {self other : ℕ} {x y : LPFNode F}
    (hx : w.objects.get? self = some x) (hy : w.objects.get? other = some y)
    (hw : w.swap self other = some w') : w'.Coherent M order cutoff ↔ x.Alike y := by
  simp only [World.swap, hx, hy, Option.bind_some, Option.map_some, Option.some.injEq] at hw
  subst hw
  have hxh := h self x hx
  have hyh := h other y hy
  have halike : x.Alike y ↔ (withBase x (base y)).Coherent M order cutoff w.heap ∧
      (withBase y (base x)).Coherent M order cutoff w.heap := by
    rw [coherent_withBase_iff hyh, coherent_withBase_iff hxh, LPFNode.Alike]
    grind
  rw [halike]
  have hself := Arena.lt_size_of_get? hx
  have hother : other < (w.objects.put self (withBase x (base y))).size := by
    rw [Arena.size_put]
    exact Arena.lt_size_of_get? hy
  constructor
  · intro h'
    have hsecond := h' other (withBase y (base x)) (Arena.get?_put_self hother _)
    refine ⟨?_, hsecond⟩
    -- a swap with itself puts one object back
    by_cases heq : self = other
    · subst heq
      obtain rfl := Option.some.inj (hx.symm.trans hy)
      exact hsecond
    · apply h' self (withBase x (base y))
      rw [Arena.get?_put_of_ne hother heq, Arena.get?_put_self hself]
  · rintro ⟨hfirst, hsecond⟩ j z hz
    rw [Arena.get?_put hother] at hz
    split at hz
    next => exact Option.some.inj hz ▸ hsecond
    next =>
      rw [Arena.get?_put hself] at hz
      split at hz
      next => exact Option.some.inj hz ▸ hfirst
      next => exact h j z hz

theorem coherent_moveConstruct (h : w.Coherent M order cutoff) {other : ℕ}
    (hw : w.moveConstruct other = some w') : w'.Coherent M order cutoff := by
  simp only [World.moveConstruct, Option.map_eq_some_iff] at hw
  obtain ⟨y, hy, rfl⟩ := hw
  intro j z hz
  rw [Arena.get?_alloc] at hz
  split at hz
  next => exact Option.some.inj hz ▸ h other y hy
  next =>
    rw [Arena.get?_put (Arena.lt_size_of_get? hy)] at hz
    split at hz
    next => exact Option.some.inj hz ▸ LPFNode.Coherent.of_empty rfl
    next => exact h j z hz

/-- `destruct` of one wrapper leaves the nodes of the others. -/
theorem coherent_destruct (hsettled : w.Settled) (h : w.Coherent M order cutoff) {self : ℕ}
    {x : LPFNode F} (hx : w.objects.get? self = some x) {j : ℕ} {z : LPFNode F} (hj : j ≠ self)
    (hz : w.objects.get? j = some z) :
    z.Coherent M order cutoff (x.toCResource.destruct w.heap) := by
  refine (h j z hz).congr fun p hp => CResource.get?_destruct_of_ne ?_
  exact resource_ne_of_ne hsettled.custody hx hz (Ne.symm hj) hp

theorem coherent_moveAssign (hsettled : w.Settled) (h : w.Coherent M order cutoff)
    {self other : ℕ} (hw : w.moveAssign self other = some w') : w'.Coherent M order cutoff := by
  simp only [World.moveAssign, Option.bind_eq_some_iff, Option.map_eq_some_iff] at hw
  obtain ⟨x, hx, y, hy, rfl⟩ := hw
  split
  next => exact h
  next hne =>
    intro j z hz
    have hother : other < (w.objects.put self (withBase y ⟨(base y).resource_⟩)).size := by
      rw [Arena.size_put]
      exact Arena.lt_size_of_get? hy
    simp only [CResource.moveAssign, CResource.reset] at hz
    rw [Arena.get?_put hother] at hz
    split at hz
    next => exact Option.some.inj hz ▸ LPFNode.Coherent.of_empty rfl
    next =>
      rw [Arena.get?_put (Arena.lt_size_of_get? hx)] at hz
      split at hz
      next => exact Option.some.inj hz ▸ coherent_destruct hsettled h hx (Ne.symm hne) hy
      next hj => exact coherent_destruct hsettled h hx hj hz

theorem coherent_destroy (hsettled : w.Settled) (h : w.Coherent M order cutoff) {self : ℕ}
    (hw : w.destroy self = some w') : w'.Coherent M order cutoff := by
  simp only [World.destroy, Option.map_eq_some_iff] at hw
  obtain ⟨x, hx, rfl⟩ := hw
  intro j z hz
  rw [Arena.get?_free] at hz
  split at hz
  next => simp at hz
  next hj => exact coherent_destruct hsettled h hx hj hz

theorem staysCoherent_swap (h : w.Coherent M order cutoff) {self other : ℕ}
    (hw : w.swap self other = some w') {call : FilterCall ε F}
    (hcall : call = .swap self other ∨ call = .swapNamespace self other) :
    StaysCoherent M order cutoff w call .done w' ↔ SwapsAlike w call .done w' := by
  obtain ⟨x, hx, y, hy, _⟩ : ∃ x, w.objects.get? self = some x ∧ ∃ y,
      w.objects.get? other = some y ∧ _ := by
    simpa [World.swap, Option.bind_eq_some_iff] using hw
  have hiff := coherent_swap_iff h hx hy hw
  constructor
  · rintro ⟨hcoherent, _⟩ i j x' y' hcall' hx' hy'
    obtain ⟨rfl, rfl⟩ : self = i ∧ other = j := by
      rcases hcall with rfl | rfl <;> simpa using hcall'
    obtain rfl := Option.some.inj (hx.symm.trans hx')
    obtain rfl := Option.some.inj (hy.symm.trans hy')
    exact hiff.mp hcoherent
  · intro hswaps
    refine ⟨hiff.mpr (hswaps self other x y hcall hx hy), by simp⟩

/-- A step other than a `swap` is right whatever it does, and a `swap` is when it
is between two wrappers that are alike. -/
theorem staysCoherent_iff [Zero F] [Inhabited α] (hdoc : LpfDocumented M order cutoff)
    (hsettled : w.Settled) (h : w.Coherent M order cutoff) {call : FilterCall ε F}
    {answer : FilterAnswer} (hstep : lpfStep M w call = some (w', answer)) :
    w'.Settled ∧
      (StaysCoherent M order cutoff w call answer w' ↔ SwapsAlike w call answer w') := by
  cases call with
  | construct =>
      simp only [lpfStep, Option.some.injEq, Prod.mk.injEq] at hstep
      obtain ⟨rfl, rfl⟩ := hstep
      refine ⟨hsettled.construct rfl, iff_of_true ⟨?_, by simp⟩ (by simp [SwapsAlike])⟩
      intro j z hz
      simp only [World.construct, Arena.get?_alloc] at hz
      split at hz
      next => exact Option.some.inj hz ▸ LPFNode.Coherent.of_empty rfl
      next => exact h j z hz
  | Init self env engine numChannels cutoffFrequency ord sampleRate =>
      simp only [lpfStep] at hstep
      obtain ⟨x, hx, rfl, rfl⟩ := World.member_eq_some.mp hstep
      obtain ⟨hcoherent, hsettled'⟩ := coherent_Init hdoc hsettled h hx env engine numChannels
        cutoffFrequency ord sampleRate
      exact ⟨hsettled', iff_of_true ⟨hcoherent, by simp⟩ (by simp [SwapsAlike])⟩
  | SetCutoffFrequency self newCutoffFrequency =>
      simp only [lpfStep] at hstep
      obtain ⟨x, hx, rfl, rfl⟩ := World.member_eq_some.mp hstep
      obtain ⟨hresult, hcoherent, hsettled'⟩ := coherent_SetCutoffFrequency hdoc hsettled h hx
        newCutoffFrequency
      refine ⟨hsettled', iff_of_true ⟨hcoherent, ?_⟩ (by simp [SwapsAlike])⟩
      intro result heq
      exact hresult result (FilterAnswer.reinitialised.inj heq)
  | moveConstruct other =>
      simp only [lpfStep, Option.map_eq_some_iff, Prod.mk.injEq] at hstep
      obtain ⟨_, hmove, rfl, rfl⟩ := hstep
      exact ⟨hsettled.moveConstruct hmove,
        iff_of_true ⟨coherent_moveConstruct h hmove, by simp⟩ (by simp [SwapsAlike])⟩
  | moveAssign self other =>
      simp only [lpfStep, Option.map_eq_some_iff, Prod.mk.injEq] at hstep
      obtain ⟨_, hmove, rfl, rfl⟩ := hstep
      exact ⟨hsettled.moveAssign hmove,
        iff_of_true ⟨coherent_moveAssign hsettled h hmove, by simp⟩ (by simp [SwapsAlike])⟩
  | swap self other =>
      simp only [lpfStep, Option.map_eq_some_iff, Prod.mk.injEq] at hstep
      obtain ⟨_, hswap, rfl, rfl⟩ := hstep
      exact ⟨hsettled.swap hswap, staysCoherent_swap h hswap (Or.inl rfl)⟩
  | swapNamespace self other =>
      simp only [lpfStep, Option.map_eq_some_iff, Prod.mk.injEq] at hstep
      obtain ⟨_, hswap, rfl, rfl⟩ := hstep
      exact ⟨hsettled.swap hswap, staysCoherent_swap h hswap (Or.inr rfl)⟩
  | destroy self =>
      simp only [lpfStep, Option.map_eq_some_iff, Prod.mk.injEq] at hstep
      obtain ⟨_, hdestroy, rfl, rfl⟩ := hstep
      exact ⟨hsettled.destroy hdestroy,
        iff_of_true ⟨coherent_destroy hsettled h hdestroy, by simp⟩ (by simp [SwapsAlike])⟩

end Steps

/-! ## Runs -/

/-- What holds of the world before each step of a run that is right so far. -/
structure CoherentInvariant (M : Miniaudio ε α F) (order : α → UInt32) (cutoff : α → F)
    (w : World (LPFNode F) α) : Prop where
  settled : w.Settled
  coherent : w.Coherent M order cutoff

theorem coherentInvariant_empty (M : Miniaudio ε α F) (order : α → UInt32) (cutoff : α → F) :
    CoherentInvariant M order cutoff World.empty where
  settled := World.Settled.empty
  coherent i x hx := by simp [World.empty] at hx

/-- The wrappers stay coherent along a run, and the assert on the reinit never
fails, if and only if each `swap` is between two wrappers that own nothing or
whose members agree. -/
theorem coherent_iff_swaps_alike [Zero F] [Inhabited α] {M : Miniaudio ε α F}
    {order : α → UInt32} {cutoff : α → F} (hdoc : LpfDocumented M order cutoff)
    (calls : List (FilterCall ε F)) :
    Along (lpfStep M) (StaysCoherent M order cutoff) World.empty calls ↔
      Along (lpfStep M) SwapsAlike World.empty calls := by
  refine along_iff_along ?_ calls (coherentInvariant_empty M order cutoff)
  intro w call answer w' hinv hstep
  obtain ⟨hsettled, hiff⟩ := staysCoherent_iff hdoc hinv.settled hinv.coherent hstep
  exact ⟨hiff, fun hstays => ⟨hsettled, hstays.1⟩⟩

/-- The documented behaviour, of the sample. -/
theorem lpfDocumented_sample :
    LpfDocumented .sample SampleNode.order SampleNode.cutoffFrequency where
  init_success env graph config x hsuccess := by
    simp only [Miniaudio.sample, SampleNode.init] at hsuccess ⊢
    split at hsuccess
    next => simp at hsuccess
    next hchannels =>
      split at hsuccess
      next henv => simp [hchannels, henv]
      next henv => exact absurd hsuccess henv
  reinit_success config x hsame := by
    obtain ⟨hformat, hchannels, _⟩ : config.format = 0 ∧ config.channels = x.channels ∧
        config.sampleRate = x.sampleRate := by
      simpa only [Miniaudio.sample, Prod.mk.injEq] using hsame
    simp only [Miniaudio.sample, SampleNode.reinit]
    split
    next hkept => exact iff_of_true rfl hkept.2.2
    next hkept => exact iff_of_false (by simp) fun horder => hkept ⟨hformat, hchannels, horder⟩
  reinit_applies config x hsame horder := by
    obtain ⟨hformat, hchannels, _⟩ : config.format = 0 ∧ config.channels = x.channels ∧
        config.sampleRate = x.sampleRate := by
      simpa only [Miniaudio.sample, Prod.mk.injEq] using hsame
    simp [Miniaudio.sample, SampleNode.reinit, hformat, hchannels, horder]

/-- Two wrappers whose nodes have the orders 2 and 4. -/
def twoFilters : List (FilterCall MaResult ℕ) :=
  [.construct, .construct, .Init 0 .success (some ⟨0, 48000⟩) 2 100 2 0,
    .Init 1 .success (some ⟨0, 48000⟩) 2 200 4 0]

/-- They exchange their nodes and keep their members: the reinit of the first
one then fails. -/
theorem swap_leaves_members :
    let calls := twoFilters ++ [.swap 0 1, .SetCutoffFrequency 0 300]
    (run (lpfStep .sample) World.empty calls).map Prod.snd =
        some [.done, .done, .initialised true, .initialised true, .done,
          .reinitialised (some .invalidArgs)] ∧
      ¬ Along (lpfStep .sample)
        (StaysCoherent .sample SampleNode.order SampleNode.cutoffFrequency) World.empty calls := by
  intro calls
  refine ⟨rfl, ?_⟩
  intro halong
  have hassert := (((((((halong _ _ rfl).2 _ _ rfl).2 _ _ rfl).2 _ _ rfl).2 _ _ rfl).2 _ _ rfl).1).2
  exact absurd (hassert .invalidArgs rfl) (by decide)

/-- An `Init`, a `SetCutoffFrequency` and a move. -/
theorem coherent_two_filters :
    let calls := twoFilters ++ [.SetCutoffFrequency 0 300, .moveConstruct 0]
    Along (lpfStep .sample)
        (StaysCoherent .sample SampleNode.order SampleNode.cutoffFrequency) World.empty calls ↔
      Along (lpfStep .sample) SwapsAlike World.empty calls :=
  coherent_iff_swaps_alike lpfDocumented_sample _

end MiniaudioCpp
