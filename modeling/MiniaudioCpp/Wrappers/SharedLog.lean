import MiniaudioCpp.CResource.History
import MiniaudioCpp.CResource.Runs
import MiniaudioCpp.Wrappers.Init

/-!
# The shared log

`g_maLog` is one object, and every engine that `Engine::Init` makes keeps a
pointer to it.  `Engine::Init` applies `ma_log_init` to it each time, before it
has replaced the engine it had and whatever other engines there are.  So the log
is never initialised again under a live engine exactly when `Engine::Init` is
called only while no wrapper owns an engine that an earlier call initialised
(`log_init_safe_iff`).
-/

namespace MiniaudioCpp

open Foundation

variable {ε α F : Type*}

/-! ## The machine -/

/-- The calls on `Engine` wrappers.  `newElement` is the client making an
`ma_engine` itself, to pass it to `reset`. -/
inductive EngineCall (ε α : Type*)
  | newElement (x : α)
  | construct
  | init (self : ℕ) (env : ε) (numChannels : UInt32) (vfs : Option ℕ)
  | reset (self : ℕ) (ptr : Option Pointer)
  | destroy (self : ℕ)

/-- What a call hands back. -/
inductive EngineAnswer
  | owner (answer : OwnerAnswer)
  | initialised (answer : Bool)
  deriving DecidableEq, Repr

/-- A call that `Engine` inherits. -/
def inheritedStep [Inhabited α] (w : World CResource α) (call : OwnerCall α) :
    Option (World CResource α × EngineAnswer) :=
  (ownerStep w call).map fun (w, answer) => (w, .owner answer)

/-- One call. -/
def engineStep [Inhabited α] (M : Miniaudio ε α F) (w : World CResource α) :
    EngineCall ε α → Option (World CResource α × EngineAnswer)
  | .newElement x => inheritedStep w (.newElement x)
  | .construct => inheritedStep w .construct
  | .init self env numChannels vfs =>
      w.member self fun c heap =>
        let (answer, c, heap) := Engine.Init M env numChannels vfs c heap
        (.initialised answer, c, heap)
  | .reset self ptr => inheritedStep w (.reset self ptr)
  | .destroy self => inheritedStep w (.destroy self)

/-! ## The promise and the condition -/

/-- Wherever the log says that `g_maLog` was initialised, each engine that had
been initialised by then had been uninitialised too. -/
def LogInitSafe (log : List Event) : Prop :=
  ∀ before, before ++ [.logInit] <+: log → ∀ p, .init p .success ∈ before → .uninit p ∈ before

/-- The promise of a step is about the log it leaves. -/
def SharedLogSafe (_ : World CResource α) (_ : EngineCall ε α) (_ : EngineAnswer)
    (w' : World CResource α) : Prop :=
  LogInitSafe w'.heap.log

/-- An `Init` comes when no wrapper owns an engine that was initialised. -/
def NoEngineOwned (w : World CResource α) (call : EngineCall ε α) (_ : EngineAnswer)
    (_ : World CResource α) : Prop :=
  ∀ self env numChannels vfs, call = .init self env numChannels vfs →
    ∀ i p, w.slots i = some p → .init p .success ∉ w.heap.log

/-! ## Logs -/

section Logs

variable {log fresh : List Event} {event : Event} {p : Pointer}

theorem logInitSafe_nil : LogInitSafe [] := by
  intro before hbefore
  have hnil := List.prefix_nil.mp hbefore
  simp at hnil

/-- One more event: only another `ma_log_init` has to be looked at. -/
theorem logInitSafe_append_singleton :
    LogInitSafe (log ++ [event]) ↔
      LogInitSafe log ∧ (event = .logInit → ∀ p, .init p .success ∈ log → .uninit p ∈ log) := by
  unfold LogInitSafe
  simp only [List.prefix_concat_iff]
  constructor
  · intro h
    refine ⟨fun before hbefore => h before (Or.inr hbefore), ?_⟩
    intro hevent
    exact h log (Or.inl (by rw [hevent]))
  · intro ⟨hearlier, hlast⟩ before hbefore
    rcases hbefore with heq | hbefore
    · obtain ⟨rfl, hevent⟩ := List.append_inj' heq rfl
      exact hlast (List.singleton_inj.mp hevent).symm
    · exact hearlier before hbefore

theorem logInitSafe_append (hfresh : .logInit ∉ fresh) :
    LogInitSafe (log ++ fresh) ↔ LogInitSafe log := by
  induction fresh generalizing log with
  | nil => rw [List.append_nil]
  | cons event fresh ih =>
      rw [List.mem_cons, not_or] at hfresh
      have hsplit : log ++ event :: fresh = log ++ [event] ++ fresh := by simp
      rw [hsplit, ih hfresh.2, logInitSafe_append_singleton]
      exact and_iff_left fun hevent => absurd hevent.symm hfresh.1

/-- An element that was initialised with success is owned, or it went through
`UninitFunction`: these are the stages it can be in. -/
def Stage.Kept : Stage → Prop
  | .loose result | .gone result false => result ≠ some .success
  | _ => True

/-- Every element is kept. -/
def Kept (log : List Event) : Prop :=
  ∀ p stage, resourceLifecycle.stageOf Event.subject log p = some stage → stage.Kept

theorem kept_nil : Kept [] := by
  intro p stage hstage
  rw [Lifecycle.stageOf_nil] at hstage
  obtain rfl := Option.some.inj hstage
  trivial

/-- Only handing out an initialised element would lose it. -/
theorem Kept.append (h : Kept log)
    (hrelease : ∀ p, event = .release p →
      resourceLifecycle.stageOf Event.subject log p ≠ some (.held (some .success))) :
    Kept (log ++ [event]) := by
  intro p stage hstage
  rw [Lifecycle.stageOf_append] at hstage
  split at hstage
  · rename_i hsubject
    obtain ⟨before, hbefore, hnext⟩ := Option.bind_eq_some_iff.mp hstage
    have hkept := h p before hbefore
    rcases resourceLifecycle_cases hnext with ⟨q, rfl, rfl, rfl⟩ | ⟨q, r, rfl, rfl, rfl⟩ |
      ⟨q, r, rfl, rfl, rfl⟩ | ⟨q, r, rfl, rfl, rfl⟩ | ⟨q, r, rfl, rfl, rfl⟩ |
      ⟨q, r, rfl, rfl, rfl⟩ | ⟨q, r, rfl, rfl, rfl⟩
    · simp [Stage.Kept]
    · trivial
    · trivial
    · intro hresult
      obtain rfl : q = p := by simpa [Event.subject] using hsubject
      exact hrelease q rfl (hresult ▸ hbefore)
    · trivial
    · trivial
    · exact hkept
  · exact h p stage hstage

theorem Kept.append_list (h : Kept log) (hfresh : ∀ p, .release p ∉ fresh) :
    Kept (log ++ fresh) := by
  induction fresh generalizing log with
  | nil => rwa [List.append_nil]
  | cons event fresh ih =>
      have hsplit : log ++ event :: fresh = log ++ [event] ++ fresh := by simp
      rw [hsplit]
      refine ih (h.append ?_) fun p hp => hfresh p (List.mem_cons_of_mem event hp)
      intro p hevent
      exact absurd (hevent ▸ List.mem_cons_self) (hfresh p)

/-- An element whose initialisation failed may be handed out. -/
theorem Kept.append_release {result : MaResult} (h : Kept log) (hinit : .init p result ∈ log)
    (hresult : result ≠ .success) : Kept (log ++ [.release p]) := by
  refine h.append fun q hq hheld => ?_
  obtain rfl := Event.release.inj hq
  have hstage : (⟨Arena.empty, log⟩ : Heap Unit).stage p = some (.held (some .success)) := hheld
  have hrecord := (Heap.init_mem_log_iff hstage result).mp hinit
  exact hresult (Option.some.inj hrecord).symm

end Logs

/-! ## One call -/

section Step

variable [Inhabited α] {M : Miniaudio ε α F} {w w' : World CResource α} {call : EngineCall ε α}
  {answer : EngineAnswer}

/-- What an inherited call logs. -/
def Harmless (fresh : List Event) : Prop := .logInit ∉ fresh ∧ ∀ p, .release p ∉ fresh

theorem harmless_destroyed (c : CResource) (ptr : Option Pointer) :
    Harmless (c.destroyed ++ (ptr.map Event.adopt).toList) := by
  obtain ⟨resource⟩ := c
  cases resource <;> cases ptr <;> simp [Harmless, CResource.destroyed]

theorem ownerStep_of_inheritedStep {inherited : OwnerCall α}
    (hstep : inheritedStep w inherited = some (w', answer)) :
    ∃ answer', ownerStep w inherited = some (w', answer') := by
  obtain ⟨⟨_, answer'⟩, howner, heq⟩ := Option.map_eq_some_iff.mp hstep
  obtain ⟨rfl, _⟩ := Prod.mk.inj heq
  exact ⟨answer', howner⟩

/-- A call is an `Init`, or an inherited call that logs nothing of note. -/
theorem engineStep_cases (hstep : engineStep M w call = some (w', answer)) :
    (∃ self env numChannels vfs c, call = .init self env numChannels vfs ∧
        w.objects.get? self = some c ∧
        w' = ⟨w.objects.put self (Engine.Init M env numChannels vfs c w.heap).2.1,
          (Engine.Init M env numChannels vfs c w.heap).2.2⟩) ∨
      (∀ self env numChannels vfs, call ≠ .init self env numChannels vfs) ∧
        (∃ inherited answer, ownerStep w inherited = some (w', answer)) ∧
        ∃ fresh, w'.heap.log = w.heap.log ++ fresh ∧ Harmless fresh := by
  cases call with
  | newElement x =>
      obtain ⟨answer', howner⟩ := ownerStep_of_inheritedStep hstep
      refine Or.inr ⟨by simp, ⟨_, _, howner⟩, [.new w.heap.cells.size], ?_, by simp [Harmless]⟩
      simp only [ownerStep, Option.some.injEq, Prod.mk.injEq] at howner
      exact howner.1 ▸ rfl
  | construct =>
      obtain ⟨answer', howner⟩ := ownerStep_of_inheritedStep hstep
      refine Or.inr ⟨by simp, ⟨_, _, howner⟩, [], ?_, by simp [Harmless]⟩
      simp only [ownerStep, Option.some.injEq, Prod.mk.injEq] at howner
      exact howner.1 ▸ (List.append_nil _).symm
  | init self env numChannels vfs =>
      simp only [engineStep] at hstep
      obtain ⟨c, hc, rfl, _⟩ := World.member_eq_some.mp hstep
      exact Or.inl ⟨self, env, numChannels, vfs, c, rfl, hc, rfl⟩
  | reset self ptr =>
      obtain ⟨answer', howner⟩ := ownerStep_of_inheritedStep hstep
      refine Or.inr ⟨by simp, ⟨_, _, howner⟩, ?_⟩
      simp only [ownerStep, Option.ite_none_right_eq_some] at howner
      obtain ⟨c, _, rfl, _⟩ := World.member_eq_some.mp howner.2
      refine ⟨_, ?_, harmless_destroyed c ptr⟩
      rw [← List.append_assoc, ← CResource.log_destruct]
      exact Heap.log_adopt _ ptr
  | destroy self =>
      obtain ⟨answer', howner⟩ := ownerStep_of_inheritedStep hstep
      refine Or.inr ⟨by simp, ⟨_, _, howner⟩, ?_⟩
      simp only [ownerStep, Option.map_eq_some_iff, Prod.mk.injEq] at howner
      obtain ⟨_, hdestroy, rfl, _⟩ := howner
      obtain ⟨c, _, heq⟩ := World.heap_destroy hdestroy
      refine ⟨_, ?_, harmless_destroyed c none⟩
      rw [heq]
      simp [base_cResource, CResource.log_destruct]

/-- The log of an `Init`: first the `ma_log_init`, then what `emplace` and its
check log. -/
theorem log_Engine_Init (M : Miniaudio ε α F) (env : ε) (numChannels : UInt32) (vfs : Option ℕ)
    (c : CResource) (heap : Heap α) :
    ∃ result fresh, (Engine.Init M env numChannels vfs c heap).2.2.log =
        heap.log ++ [.logInit] ++ fresh ++
          (if result = .success then []
            else [.release heap.cells.size, .delete heap.cells.size]) ∧
      Harmless fresh ∧ .init heap.cells.size result ∈ fresh := by
  have hlog := CResource.log_emplaceEnsured (M.ma_engine_init env
    { channels := numChannels, pLog := true, noDevice := false, pResourceManagerVFS := vfs }) c
    (heap.record .logInit)
  rw [Heap.log_record, Heap.cells_record, List.append_assoc _ c.destroyed] at hlog
  refine ⟨_, _, hlog, ?_, by simp⟩
  obtain ⟨resource⟩ := c
  cases resource <;> simp [Harmless, CResource.destroyed]

/-- The invariant of the runs. -/
structure EngineInvariant (w : World CResource α) : Prop where
  custody : Custody w.slots w.heap
  kept : Kept w.heap.log
  safe : LogInitSafe w.heap.log

omit [Inhabited α] in
theorem EngineInvariant.empty : EngineInvariant (World.empty : World CResource α) where
  custody := OwnerInvariant.empty.custody
  kept := kept_nil
  safe := logInitSafe_nil

omit [Inhabited α] in
/-- An engine that was initialised is owned, or it was uninitialised. -/
theorem EngineInvariant.holds_or_uninit (h : EngineInvariant w) {p : Pointer}
    (hinit : .init p .success ∈ w.heap.log) : Holds w.slots p ∨ .uninit p ∈ w.heap.log := by
  obtain ⟨stage, hstage⟩ := h.custody.exists_stage p
  have hresult := (Heap.init_mem_log_iff hstage .success).mp hinit
  have hkept := h.kept p stage hstage
  rcases h.custody.stage_cases p with hs | ⟨r, hs⟩ | ⟨r, hs⟩ | ⟨r, b, hs⟩
  all_goals obtain rfl := Option.some.inj (hstage.symm.trans hs)
  · simp [Stage.result] at hresult
  · exact absurd hresult hkept
  · exact Or.inl ((h.custody.holds_iff p).mpr ⟨r, hs⟩)
  · cases b with
    | false => exact absurd hresult hkept
    | true =>
        have hcount := (Heap.counts_of_stage hs).1
        exact Or.inr (List.count_pos_iff.mp (by rw [hcount]; exact Nat.one_pos))

omit [Inhabited α] in
/-- An engine that is owned was not uninitialised. -/
theorem EngineInvariant.not_uninit (h : EngineInvariant w) {i : ℕ} {p : Pointer}
    (hi : w.slots i = some p) : .uninit p ∉ w.heap.log := by
  obtain ⟨r, hr⟩ := h.custody.held_of_slot hi
  exact List.count_eq_zero.mp (Heap.counts_of_stage hr).1

omit [Inhabited α] in
/-- Every engine that was initialised was uninitialised, exactly when no wrapper
owns one. -/
theorem EngineInvariant.all_uninit_iff (h : EngineInvariant w) :
    (∀ p, .init p .success ∈ w.heap.log → .uninit p ∈ w.heap.log) ↔
      ∀ i p, w.slots i = some p → .init p .success ∉ w.heap.log := by
  constructor
  · intro hall i p hi hinit
    exact h.not_uninit hi (hall p hinit)
  · intro hnone p hinit
    rcases h.holds_or_uninit hinit with ⟨i, hi⟩ | huninit
    · exact absurd hinit (hnone i p hi)
    · exact huninit

/-- An `Init` keeps the account of engines, whatever it answers. -/
theorem Kept.engineInit {log fresh : List Event} {p : Pointer} {result : MaResult} (h : Kept log)
    (hfresh : Harmless fresh) (hinit : .init p result ∈ fresh) :
    Kept (log ++ [.logInit] ++ fresh ++
      if result = .success then [] else [.release p, .delete p]) := by
  have hlogged : Kept (log ++ [.logInit] ++ fresh) :=
    (h.append (by simp)).append_list hfresh.2
  by_cases hresult : result = .success
  · rwa [if_pos hresult, List.append_nil]
  · have hreleased := hlogged.append_release (List.mem_append_right _ hinit) hresult
    rw [if_neg hresult, List.append_cons _ (Event.release p)]
    exact hreleased.append (by simp)

/-- The `ma_log_init` of an `Init` is safe exactly when no wrapper owns an
initialised engine. -/
theorem EngineInvariant.logInitSafe_init (h : EngineInvariant w) (env : ε) (numChannels : UInt32)
    (vfs : Option ℕ) (c : CResource) :
    LogInitSafe (Engine.Init M env numChannels vfs c w.heap).2.2.log ↔
      ∀ i p, w.slots i = some p → .init p .success ∉ w.heap.log := by
  obtain ⟨result, fresh, hlog, hharmless, _⟩ := log_Engine_Init M env numChannels vfs c w.heap
  have htail : .logInit ∉ fresh ++ (if result = .success then []
      else [.release w.heap.cells.size, .delete w.heap.cells.size]) := by
    rw [List.mem_append, not_or]
    exact ⟨hharmless.1, by split <;> simp⟩
  calc LogInitSafe (Engine.Init M env numChannels vfs c w.heap).2.2.log
      ↔ LogInitSafe (w.heap.log ++ [.logInit]) := by
        rw [hlog, List.append_assoc _ fresh, logInitSafe_append htail]
    _ ↔ ∀ p, .init p .success ∈ w.heap.log → .uninit p ∈ w.heap.log := by
        rw [logInitSafe_append_singleton]
        exact ⟨fun hboth => hboth.2 rfl, fun hall => ⟨h.safe, fun _ => hall⟩⟩
    _ ↔ ∀ i p, w.slots i = some p → .init p .success ∉ w.heap.log := h.all_uninit_iff

/-- A safe `Init` keeps the invariant, whether or not the engine could be
initialised. -/
theorem EngineInvariant.init (h : EngineInvariant w) {self : ℕ} {c : CResource}
    (hc : w.objects.get? self = some c) (env : ε) (numChannels : UInt32) (vfs : Option ℕ)
    (hsafe : LogInitSafe (Engine.Init M env numChannels vfs c w.heap).2.2.log) :
    EngineInvariant ⟨w.objects.put self (Engine.Init M env numChannels vfs c w.heap).2.1,
      (Engine.Init M env numChannels vfs c w.heap).2.2⟩ := by
  obtain ⟨result, fresh, hlog, hharmless, hinit⟩ :=
    log_Engine_Init M env numChannels vfs c w.heap
  have hlogged : Custody w.slots (w.heap.record .logInit) := h.custody.record_none rfl
  have hcustody := hlogged.emplaceEnsured (World.slots_of_get? hc) (M.ma_engine_init env
    { channels := numChannels, pLog := true, noDevice := false, pResourceManagerVFS := vfs })
  refine ⟨World.custody_put hc hcustody, ?_, hsafe⟩
  rw [hlog]
  exact h.kept.engineInit hharmless hinit

/-- One call: the promise is kept exactly when no wrapper owns an initialised
engine at an `Init`. -/
theorem sharedLogSafe_iff (h : EngineInvariant w)
    (hstep : engineStep M w call = some (w', answer)) :
    (SharedLogSafe w call answer w' ↔ NoEngineOwned w call answer w') ∧
      (SharedLogSafe w call answer w' → EngineInvariant w') := by
  rcases engineStep_cases hstep with ⟨self, env, numChannels, vfs, c, rfl, hc, rfl⟩ |
    ⟨hcall, ⟨_, _, howner⟩, fresh, hlog, hharmless⟩
  · have hsafe := h.logInitSafe_init (M := M) env numChannels vfs c
    refine ⟨⟨fun hlogSafe => ?_, fun hnone => ?_⟩, h.init hc env numChannels vfs⟩
    · intro _ _ _ _ _
      exact hsafe.mp hlogSafe
    · exact hsafe.mpr (hnone self env numChannels vfs rfl)
  · have hsafe : LogInitSafe w'.heap.log := by
      rw [hlog, logInitSafe_append hharmless.1]
      exact h.safe
    refine ⟨iff_of_true hsafe fun self env numChannels vfs heq =>
      absurd heq (hcall self env numChannels vfs), fun _ => ⟨?_, ?_, hsafe⟩⟩
    · exact ownerStep_custody h.custody howner
    · rw [hlog]
      exact h.kept.append_list hharmless.2

end Step

/-! ## Runs -/

/-- In every run of `Engine` wrappers, `g_maLog` is never initialised under an
engine that still uses it if and only if each `Init` comes when no wrapper owns
an initialised engine. -/
theorem log_init_safe_iff [Inhabited α] (M : Miniaudio ε α F) (calls : List (EngineCall ε α)) :
    Along (engineStep M) SharedLogSafe World.empty calls ↔
      Along (engineStep M) NoEngineOwned World.empty calls :=
  along_iff_along (fun _ _ _ _ => sharedLogSafe_iff) calls EngineInvariant.empty

/-- Two engines, one after the other: the log of the first is initialised
again. -/
theorem log_init_under_engine :
    let calls : List (EngineCall MaResult SampleNode) :=
      [.construct, .init 0 .success 2 none, .construct, .init 1 .success 2 none]
    ((run (engineStep Miniaudio.sample) World.empty calls).map fun (w, _) => w.heap.log) =
        some [.logInit, .new 0, .adopt 0, .init 0 .success, .logInit, .new 1, .adopt 1,
          .init 1 .success] ∧
      ¬ Along (engineStep Miniaudio.sample) SharedLogSafe World.empty calls := by
  intro calls
  refine ⟨rfl, ?_⟩
  intro h
  have hsafe := ((((h _ _ rfl).2 _ _ rfl).2 _ _ rfl).2 _ _ rfl).1
  have huninit := hsafe [.logInit, .new 0, .adopt 0, .init 0 .success]
    ⟨[.new 1, .adopt 1, .init 1 .success], rfl⟩ 0 (by simp)
  simp at huninit

end MiniaudioCpp
