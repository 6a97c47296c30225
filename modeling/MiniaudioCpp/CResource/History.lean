import MiniaudioCpp.CResource.Heap

/-!
# What the stage of an element says about its history

The stage is computed from the log; these are the converses.  From the stage
alone: how often `UninitFunction` and `delete` were applied to the element and
in which order, what its initialisation function answered, and whether the
last thing a `CResource` did with a loose element was to hand it out.
-/

namespace MiniaudioCpp

open Foundation

/-- The shape of the history of `p` in each stage: neither `uninit` nor
`delete` while it is live, and each at most once, at the end, afterwards. -/
def Stage.Shape (p : Pointer) (history : List Event) : Stage → Prop
  | .unborn | .loose _ | .held _ => .uninit p ∉ history ∧ .delete p ∉ history
  | .dying _ => ∃ before, history = before ++ [.uninit p] ∧
      .uninit p ∉ before ∧ .delete p ∉ before
  | .gone _ true => ∃ before, history = before ++ [.uninit p, .delete p] ∧
      .uninit p ∉ before ∧ .delete p ∉ before
  | .gone _ false => ∃ before, history = before ++ [.delete p] ∧
      .uninit p ∉ before ∧ .delete p ∉ before

/-- The answer on record in a stage. -/
def Stage.result : Stage → Option MaResult
  | .unborn => none
  | .loose r | .held r | .dying r | .gone r _ => r

/-- The last thing a `CResource` did with `p` was to hand it out. -/
def HandedOut (p : Pointer) (history : List Event) : Prop :=
  ∃ before after, history = before ++ .release p :: after ∧ .adopt p ∉ after

/-- Which stages an element is in after it was adopted: if it is loose again it
was handed out. -/
def Stage.Adopted (p : Pointer) (history : List Event) : Stage → Prop
  | .unborn => False
  | .loose _ => HandedOut p history
  | .held _ | .dying _ => True
  | .gone _ uninited => uninited = true ∨ HandedOut p history

section Walk

variable {p : Pointer}

/-- The five moves of the automaton. -/
theorem resourceLifecycle_cases {stage stage' : Stage} {event : Event}
    (h : resourceLifecycle.next stage event = some stage') :
    (∃ q, stage = .unborn ∧ event = .new q ∧ stage' = .loose none) ∨
      (∃ q r, stage = .loose r ∧ event = .adopt q ∧ stage' = .held r) ∨
      (∃ q r, stage = .held none ∧ event = .init q r ∧ stage' = .held (some r)) ∨
      (∃ q r, stage = .held r ∧ event = .release q ∧ stage' = .loose r) ∨
      (∃ q r, stage = .held r ∧ event = .uninit q ∧ stage' = .dying r) ∨
      (∃ q r, stage = .dying r ∧ event = .delete q ∧ stage' = .gone r true) ∨
      ∃ q r, stage = .loose r ∧ event = .delete q ∧ stage' = .gone r false := by
  cases stage <;> cases event <;> simp_all [resourceLifecycle]

theorem shape_of_walk {history : List Event} {stage : Stage}
    (hsubject : ∀ event ∈ history, event.subject = some p)
    (hwalk : resourceLifecycle.walk history = some stage) : stage.Shape p history := by
  refine Lifecycle.walk_induction
    (P := fun word stage => (∀ event ∈ word, event.subject = some p) → stage.Shape p word)
    (fun _ => by simp [resourceLifecycle, Stage.Shape]) ?_ hwalk hsubject
  intro word stage event stage' ih hnext hall
  have hevent : event.subject = some p := hall event (by simp)
  have hshape := ih fun e he => hall e (List.mem_append_left _ he)
  rcases resourceLifecycle_cases hnext with ⟨q, rfl, rfl, rfl⟩ | ⟨q, r, rfl, rfl, rfl⟩ |
    ⟨q, r, rfl, rfl, rfl⟩ | ⟨q, r, rfl, rfl, rfl⟩ | ⟨q, r, rfl, rfl, rfl⟩ |
    ⟨q, r, rfl, rfl, rfl⟩ | ⟨q, r, rfl, rfl, rfl⟩ <;>
    obtain rfl : q = p := by simpa [Event.subject] using hevent
  -- the element stays live: the new event is neither `uninit` nor `delete`
  iterate 4 simpa [Stage.Shape] using hshape
  · exact ⟨word, rfl, hshape⟩
  · obtain ⟨before, rfl, hbefore⟩ := hshape
    exact ⟨before, by simp, hbefore⟩
  · exact ⟨word, rfl, hshape⟩

theorem result_of_walk {history : List Event} {stage : Stage}
    (hsubject : ∀ event ∈ history, event.subject = some p)
    (hwalk : resourceLifecycle.walk history = some stage) (r : MaResult) :
    .init p r ∈ history ↔ stage.result = some r := by
  refine Lifecycle.walk_induction
    (P := fun word stage => (∀ event ∈ word, event.subject = some p) →
      (.init p r ∈ word ↔ stage.result = some r))
    (fun _ => by simp [resourceLifecycle, Stage.result]) ?_ hwalk hsubject
  intro word stage event stage' ih hnext hall
  have hevent : event.subject = some p := hall event (by simp)
  have hmem := ih fun e he => hall e (List.mem_append_left _ he)
  rcases resourceLifecycle_cases hnext with ⟨q, rfl, rfl, rfl⟩ | ⟨q, r, rfl, rfl, rfl⟩ |
    ⟨q, r, rfl, rfl, rfl⟩ | ⟨q, r, rfl, rfl, rfl⟩ | ⟨q, r, rfl, rfl, rfl⟩ |
    ⟨q, r, rfl, rfl, rfl⟩ | ⟨q, r, rfl, rfl, rfl⟩ <;>
    obtain rfl : q = p := by simpa [Event.subject] using hevent
  all_goals simp_all [Stage.result]
  exact eq_comm

theorem adopted_of_walk {history : List Event} {stage : Stage}
    (hsubject : ∀ event ∈ history, event.subject = some p)
    (hwalk : resourceLifecycle.walk history = some stage) (hadopt : .adopt p ∈ history) :
    stage.Adopted p history := by
  refine Lifecycle.walk_induction
    (P := fun word stage => (∀ event ∈ word, event.subject = some p) → .adopt p ∈ word →
      stage.Adopted p word)
    (fun _ h => by simp at h) ?_ hwalk hsubject hadopt
  intro word stage event stage' ih hnext hall hmem
  have hevent : event.subject = some p := hall event (by simp)
  have hadopted := ih fun e he => hall e (List.mem_append_left _ he)
  rcases resourceLifecycle_cases hnext with ⟨q, rfl, rfl, rfl⟩ | ⟨q, r, rfl, rfl, rfl⟩ |
    ⟨q, r, rfl, rfl, rfl⟩ | ⟨q, r, rfl, rfl, rfl⟩ | ⟨q, r, rfl, rfl, rfl⟩ |
    ⟨q, r, rfl, rfl, rfl⟩ | ⟨q, r, rfl, rfl, rfl⟩ <;>
    obtain rfl : q = p := by simpa [Event.subject] using hevent
  · exact (hadopted (by simpa using hmem)).elim
  · trivial
  · trivial
  · exact ⟨word, [], rfl, by simp⟩
  · trivial
  · exact Or.inl rfl
  · obtain ⟨before, after, rfl, hafter⟩ := hadopted (by simpa using hmem)
    exact Or.inr ⟨before, after ++ [.delete q], by simp, by simpa using hafter⟩

end Walk

namespace Heap

variable {α : Type*} {heap : Heap α} {p : Pointer} {stage : Stage}

theorem subject_of_mem_history (event : Event) (h : event ∈ heap.history p) :
    event.subject = some p := by
  simpa using (List.mem_filter.mp h).2

theorem mem_history {event : Event} (h : event.subject = some p) :
    event ∈ heap.history p ↔ event ∈ heap.log :=
  Lifecycle.mem_history h

theorem count_history {event : Event} (h : event.subject = some p) :
    (heap.history p).count event = heap.log.count event :=
  Lifecycle.count_history h

theorem shape_of_stage (h : heap.stage p = some stage) : stage.Shape p (heap.history p) :=
  shape_of_walk subject_of_mem_history h

/-- The answer on record is the one the initialisation function gave. -/
theorem init_mem_log_iff (h : heap.stage p = some stage) (r : MaResult) :
    .init p r ∈ heap.log ↔ stage.result = some r := by
  have hmem : .init p r ∈ heap.history p ↔ .init p r ∈ heap.log := mem_history rfl
  rw [← hmem]
  exact result_of_walk subject_of_mem_history h r

theorem adopted_of_stage (h : heap.stage p = some stage) (hadopt : .adopt p ∈ heap.log) :
    stage.Adopted p (heap.history p) :=
  adopted_of_walk subject_of_mem_history h ((mem_history rfl).mpr hadopt)

/-- How often each of the two is applied, by stage. -/
theorem counts_of_stage (h : heap.stage p = some stage) :
    heap.log.count (.uninit p) =
        (match stage with | .dying _ | .gone _ true => 1 | _ => 0) ∧
      heap.log.count (.delete p) = (match stage with | .gone _ _ => 1 | _ => 0) := by
  have huninit : (heap.history p).count (.uninit p) = heap.log.count (.uninit p) :=
    count_history rfl
  have hdelete : (heap.history p).count (.delete p) = heap.log.count (.delete p) :=
    count_history rfl
  rw [← huninit, ← hdelete]
  have hshape := shape_of_stage h
  cases stage with
  | unborn => exact ⟨List.count_eq_zero.mpr hshape.1, List.count_eq_zero.mpr hshape.2⟩
  | loose r => exact ⟨List.count_eq_zero.mpr hshape.1, List.count_eq_zero.mpr hshape.2⟩
  | held r => exact ⟨List.count_eq_zero.mpr hshape.1, List.count_eq_zero.mpr hshape.2⟩
  | dying r =>
      obtain ⟨before, heq, hu, hd⟩ := hshape
      rw [heq]
      simp [List.count_append, List.count_eq_zero.mpr hu, List.count_eq_zero.mpr hd]
  | gone r uninited =>
      cases uninited <;>
      · obtain ⟨before, heq, hu, hd⟩ := hshape
        rw [heq]
        simp [List.count_append, List.count_eq_zero.mpr hu, List.count_eq_zero.mpr hd]

theorem gone_of_delete (h : heap.stage p = some stage) (hdelete : .delete p ∈ heap.log) :
    ∃ r uninited, stage = .gone r uninited := by
  have hpos := List.count_pos_iff.mpr hdelete
  rw [(counts_of_stage h).2] at hpos
  cases stage with
  | gone r uninited => exact ⟨r, uninited, rfl⟩
  | _ => simp at hpos

end Heap

end MiniaudioCpp
