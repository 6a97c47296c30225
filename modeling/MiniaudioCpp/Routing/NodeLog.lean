import MiniaudioCpp.Routing.BusValues
import MiniaudioCpp.Wrappers.Typestate

/-!
# What a call logs of the nodes

The node graph learns of the nodes through two functions only, one that
initialises a node and one that uninitialises it.  `Logged` is what a call on
the wrappers logs of them: a node that was live before the call is
uninitialised exactly where it is gone afterwards, and the only node that is
initialised is the one that the call makes.

It holds of every path of an `Init` (`InitPath.nodeLog`), whether the new node
stays or not, and of every call that moves nodes (`transferWorld_logged`).
-/

namespace MiniaudioCpp

open Foundation CResourceBase

variable {α ω : Type*} {w w' : World ω α}

/-- What a call logs of the nodes. -/
structure Logged (w : World ω α) (events : List Event) (w' : World ω α) : Prop where
  log : w'.heap.log = w.heap.log ++ events
  ended : ∀ p, (∃ x, w.heap.cells.get? p = some x) →
    (.uninit p ∈ events ↔ w'.heap.cells.get? p = none)
  initialised : ∀ p result, .init p result ∈ events → p = w.heap.cells.size

/-- `destruct`, among events that end no life and begin none but the new one. -/
theorem Logged.of_destruct (c : CResource) (before : List Event) {after : List Event}
    (hlog : w'.heap.log = w.heap.log ++ (before ++ (c.destroyed ++ after)))
    (hcells : ∀ p < w.heap.cells.size,
      w'.heap.cells.get? p = (c.destruct w.heap).cells.get? p)
    (huninit : ∀ p, .uninit p ∉ before ++ after)
    (hinit : ∀ p result, .init p result ∈ before ++ after → p = w.heap.cells.size) :
    Logged w (before ++ (c.destroyed ++ after)) w' where
  log := hlog
  ended p hlive := by
    obtain ⟨x, hx⟩ := hlive
    have hplain := huninit p
    rw [List.mem_append, not_or] at hplain
    rw [List.mem_append, List.mem_append, or_iff_right hplain.1, or_iff_left hplain.2,
      hcells p (Arena.lt_size_of_get? hx)]
    obtain ⟨resource⟩ := c
    cases resource with
    | none => simp [CResource.destroyed, CResource.destruct, hx]
    | some q =>
        by_cases hpq : p = q <;>
          simp [CResource.destroyed, CResource.destruct, Arena.get?_free, hpq, hx]
  initialised p result hmem := by
    apply hinit p result
    rw [List.mem_append]
    rcases List.mem_append.mp hmem with hbefore | hmem
    · exact Or.inl hbefore
    rcases List.mem_append.mp hmem with hdestroyed | hafter
    · obtain ⟨resource⟩ := c
      cases resource <;> simp [CResource.destroyed] at hdestroyed
    · exact Or.inr hafter

/-- Nodes that are only handed around. -/
theorem Logged.of_cells_eq {events : List Event} (hlog : w'.heap.log = w.heap.log ++ events)
    (hcells : w'.heap.cells = w.heap.cells) (huninit : ∀ p, .uninit p ∉ events)
    (hinit : ∀ p result, .init p result ∉ events) : Logged w events w' :=
  .of_destruct ⟨none⟩ [] hlog (fun _ _ => by rw [hcells]; rfl) huninit
    fun p result hmem => absurd hmem (hinit p result)

/-- A node that an object drops. -/
theorem Logged.of_heap_eq {c : CResource} (hheap : w'.heap = c.destruct w.heap) :
    ∃ events, Logged w events w' := by
  have hlog : w'.heap.log = w.heap.log ++ ([] ++ (c.destroyed ++ [])) := by
    rw [hheap, CResource.log_destruct, List.append_nil, List.nil_append]
  exact ⟨_, .of_destruct c [] hlog (fun p _ => by rw [hheap]) (by simp) (by simp)⟩

/-! ## Initialisations -/

section Init

variable [Inhabited α] {f : MaInit α} {c : CResource} {out : Bool × CResource × Heap α}

theorem Logged.of_emplaceEnsured (hheap : w'.heap = (c.emplaceEnsured f w.heap).2.2) :
    ∃ events, Logged w events w' := by
  have hlog := CResource.log_emplaceEnsured f c w.heap
  rw [← hheap, List.append_assoc, List.append_assoc] at hlog
  refine ⟨_, .of_destruct c [] hlog (fun p hp => ?_) (fun p => ?_) fun p result hmem => ?_⟩
  · rw [hheap, CResource.get?_emplaceEnsured_of_lt hp]
  · by_cases hresult : (f default).1 = .success <;> simp [hresult]
  · by_cases hresult : (f default).1 = .success <;> simp [hresult] at hmem
    · exact hmem.1
    · exact hmem.1

/-- The new element is made before the old one goes. -/
theorem Logged.of_resetEnsured (hheap : w'.heap = (c.resetEnsured f w.heap).2.2) :
    ∃ events, Logged w events w' := by
  have hlog := CResource.log_resetEnsured c w.heap f
  rw [← hheap, List.append_assoc, List.append_assoc, List.append_assoc] at hlog
  refine ⟨_, .of_destruct c [.new w.heap.cells.size] hlog (fun p hp => ?_) (fun p => ?_)
    fun p result hmem => ?_⟩
  · rw [hheap, CResource.get?_resetEnsured_of_lt hp]
  · by_cases hresult : (f default).1 = .success <;> simp [hresult]
  · by_cases hresult : (f default).1 = .success <;> simp [hresult] at hmem
    · exact hmem.1
    · exact hmem.1

omit [Inhabited α] in
/-- The log of the engine is no node. -/
theorem Logged.of_logInit {events : List Event}
    (h : Logged ⟨w.objects, w.heap.record .logInit⟩ events w') :
    Logged w (.logInit :: events) w' where
  log := by rw [h.log, Heap.log_record, List.append_assoc, List.singleton_append]
  ended p hlive := by simpa using h.ended p hlive
  initialised p result hmem := h.initialised p result (by simpa using hmem)

/-- Each path of an `Init`, whether or not the new node stays. -/
theorem InitPath.nodeLog (hpath : InitPath c w.heap out) (hheap : w'.heap = out.2.2) :
    ∃ events, Logged w events w' := by
  cases hpath with
  | reject =>
      exact ⟨[], .of_cells_eq (by rw [hheap, List.append_nil]) (by rw [hheap]) (by simp) (by simp)⟩
  | emplace f => exact Logged.of_emplaceEnsured hheap
  | reset f => exact Logged.of_resetEnsured hheap
  | logged f =>
      obtain ⟨events, hlogged⟩ :=
        Logged.of_emplaceEnsured (w := ⟨w.objects, w.heap.record .logInit⟩) hheap
      exact ⟨_, hlogged.of_logInit⟩

/-- An `Init` that answers `true` leaves the node that it made in the wrapper. -/
theorem InitPath.resource_of_true {heap : Heap α} (hpath : InitPath c heap out)
    (htrue : out.1 = true) : out.2.1.resource_ = some heap.cells.size := by
  cases hpath with
  | reject => simp at htrue
  | emplace f =>
      simp only [CResource.emplaceEnsured, CResource.emplace_eq] at htrue ⊢
      rw [CResource.ensureInit_self_of_true htrue]
  | reset f =>
      rw [CResource.resetEnsured_eq] at htrue ⊢
      rw [CResource.ensureInit_self_of_true htrue]
  | logged f =>
      simp only [CResource.emplaceEnsured, CResource.emplace_eq] at htrue ⊢
      rw [CResource.ensureInit_self_of_true htrue]
      rfl

/-- No freed node is live again. -/
theorem InitPath.later {heap : Heap α} (hpath : InitPath c heap out) :
    heap.cells.Later out.2.2.cells := by
  cases hpath with
  | reject => exact .refl _
  | emplace f => exact CResource.later_emplaceEnsured f c heap
  | reset f => exact CResource.later_resetEnsured f c heap
  | logged f => exact CResource.later_emplaceEnsured f c (heap.record .logInit)

end Init

/-! ## The other calls on wrappers -/

/-- Every call. -/
theorem transferWorld_logged [CResourceBase ω] [Inhabited α] {call : TransferCall ω α}
    {answer : TransferAnswer} (hstep : transferWorld w call = some (w', answer)) :
    ∃ events, Logged w events w' := by
  cases call with
  | construct x =>
      simp only [transferWorld, Option.ite_none_right_eq_some, Option.some.injEq,
        Prod.mk.injEq] at hstep
      obtain ⟨_, rfl, _⟩ := hstep
      exact ⟨[], .of_cells_eq (List.append_nil _).symm rfl (by simp) (by simp)⟩
  | init self InitFunction =>
      simp only [transferWorld] at hstep
      obtain ⟨x, _, rfl, _⟩ := World.member_eq_some.mp hstep
      exact Logged.of_emplaceEnsured rfl
  | moveConstruct other =>
      simp only [transferWorld, Option.map_eq_some_iff, Prod.mk.injEq] at hstep
      obtain ⟨_, hmove, rfl, _⟩ := hstep
      have hheap := World.heap_moveConstruct hmove
      exact ⟨[], .of_cells_eq (by simp [hheap]) (by rw [hheap]) (by simp) (by simp)⟩
  | moveAssign self other =>
      simp only [transferWorld, Option.map_eq_some_iff, Prod.mk.injEq] at hstep
      obtain ⟨_, hmove, rfl, _⟩ := hstep
      rcases World.heap_moveAssign hmove with hheap | ⟨x, _, hheap⟩
      · exact ⟨[], .of_cells_eq (by simp [hheap]) (by rw [hheap]) (by simp) (by simp)⟩
      · exact Logged.of_heap_eq hheap
  | swap self other =>
      simp only [transferWorld, Option.map_eq_some_iff, Prod.mk.injEq] at hstep
      obtain ⟨_, hswap, rfl, _⟩ := hstep
      have hheap := World.heap_swap hswap
      exact ⟨[], .of_cells_eq (by simp [hheap]) (by rw [hheap]) (by simp) (by simp)⟩
  | release self =>
      simp only [transferWorld] at hstep
      obtain ⟨x, _, rfl, _⟩ := World.member_eq_some.mp hstep
      have hlog : ((base x).release w.heap).2.2.log = w.heap.log ++
          ((base x).resource_.map Event.release).toList := by
        cases hx : (base x).resource_ <;> simp [CResource.release, hx]
      refine ⟨_, .of_cells_eq hlog (CResource.cells_release _ _) ?_ ?_⟩ <;>
        cases (base x).resource_ <;> simp
  | reset self ptr =>
      simp only [transferWorld, Option.ite_none_right_eq_some] at hstep
      obtain ⟨x, _, rfl, _⟩ := World.member_eq_some.mp hstep.2
      have hlog : ((base x).reset ptr w.heap).2.log =
          w.heap.log ++ ([] ++ ((base x).destroyed ++ (ptr.map Event.adopt).toList)) := by
        rw [CResource.reset, Heap.log_adopt, CResource.log_destruct, List.append_assoc,
          List.nil_append]
      have hcells : ((base x).reset ptr w.heap).2.cells = ((base x).destruct w.heap).cells :=
        Heap.cells_adopt _ ptr
      refine ⟨_, .of_destruct (base x) [] hlog (fun p _ => ?_) ?_ ?_⟩
      · show ((base x).reset ptr w.heap).2.cells.get? p = _
        rw [hcells]
      · cases ptr <;> simp
      · cases ptr <;> simp
  | destroy self =>
      simp only [transferWorld, Option.map_eq_some_iff, Prod.mk.injEq] at hstep
      obtain ⟨_, hdestroy, rfl, _⟩ := hstep
      obtain ⟨x, _, hheap⟩ := World.heap_destroy hdestroy
      exact Logged.of_heap_eq hheap

end MiniaudioCpp
