import Mathlib.Data.List.Basic

/-!
# Guarded machines and their runs

A machine is a step function `State → Call → Option (State × Answer)`: `none`
says that the call is not allowed in that state.  One definition is executed on
concrete calls and reasoned about over every run.

Four rules carry the developments built on it:

* `run_invariant`: what holds initially and is kept by each step holds after
  every run, and `run_recorded` sees what was called and answered as well;
* `along_of_invariant` and `along_iff_along`: a property of single steps holds
  at each step of a run, or holds at each step exactly when another one does;
  `run_invariant_of_along` is `run_invariant` for runs with such a property;
* `run_simulates`: a step-by-step simulation carries over to runs, with equal
  answers;
* `run_project`: a component that some calls touch and the others leave alone
  goes through a run of its own.
-/

namespace Foundation

variable {State Call Answer : Type*}

/-- The run of `calls` from `state`: the last state and the answers in order,
or `none` when some call was not allowed. -/
def run (step : State → Call → Option (State × Answer)) :
    State → List Call → Option (State × List Answer)
  | state, [] => some (state, [])
  | state, call :: calls =>
      (step state call).bind fun (next, answer) =>
        (run step next calls).map fun (last, answers) => (last, answer :: answers)

/-- Every step of the run of `calls` from `state` satisfies `P`, which sees the
state before the step, the call, the answer and the state after it. -/
def Along (step : State → Call → Option (State × Answer))
    (P : State → Call → Answer → State → Prop) : State → List Call → Prop
  | _, [] => True
  | state, call :: calls => ∀ next answer, step state call = some (next, answer) →
      P state call answer next ∧ Along step P next calls

variable {step : State → Call → Option (State × Answer)}

/-! ## Runs -/

@[simp] theorem run_nil (state : State) : run step state [] = some (state, []) := rfl

/-- A run that goes through has a first step and a run of the rest. -/
theorem run_cons_eq_some {state last : State} {call : Call} {calls : List Call}
    {answers : List Answer} :
    run step state (call :: calls) = some (last, answers) ↔
      ∃ next answer rest, step state call = some (next, answer) ∧
        run step next calls = some (last, rest) ∧ answers = answer :: rest := by
  simp only [run, Option.bind_eq_some_iff, Option.map_eq_some_iff, Prod.exists, Prod.mk.injEq]
  constructor
  · rintro ⟨next, answer, hstep, final, rest, hrest, rfl, rfl⟩
    exact ⟨next, answer, rest, hstep, hrest, rfl⟩
  · rintro ⟨next, answer, rest, hstep, hrest, rfl⟩
    exact ⟨next, answer, hstep, last, rest, hrest, rfl, rfl⟩

theorem run_singleton {state next : State} {call : Call} {answer : Answer}
    (h : step state call = some (next, answer)) :
    run step state [call] = some (next, [answer]) :=
  run_cons_eq_some.mpr ⟨next, answer, [], h, rfl, rfl⟩

/-- What every step keeps, every run keeps. -/
theorem run_invariant {Inv : State → Prop}
    (hstep : ∀ state call answer next, Inv state → step state call = some (next, answer) →
      Inv next) :
    ∀ {calls : List Call} {state last : State} {answers : List Answer}, Inv state →
      run step state calls = some (last, answers) → Inv last := by
  intro calls
  induction calls with
  | nil =>
      intro state last answers hinv hrun
      simp only [run_nil, Option.some.injEq, Prod.mk.injEq] at hrun
      exact hrun.1 ▸ hinv
  | cons call calls ih =>
      intro state last answers hinv hrun
      obtain ⟨next, answer, rest, hfirst, hrest, _⟩ := run_cons_eq_some.mp hrun
      exact ih (hstep state call answer next hinv hfirst) hrest

/-- What is recorded of the calls and their answers, next to the state. -/
theorem run_recorded {Record : Type*} {keep : Record → Call × Answer → Record}
    {Inv : State → Record → Prop}
    (hstep : ∀ state kept call answer next, Inv state kept →
      step state call = some (next, answer) → Inv next (keep kept (call, answer))) :
    ∀ {calls : List Call} {state last : State} {answers : List Answer} {kept : Record},
      Inv state kept → run step state calls = some (last, answers) →
        Inv last ((calls.zip answers).foldl keep kept) := by
  intro calls
  induction calls with
  | nil =>
      intro state last answers kept hinv hrun
      simp only [run_nil, Option.some.injEq, Prod.mk.injEq] at hrun
      exact hrun.1 ▸ hinv
  | cons call calls ih =>
      intro state last answers kept hinv hrun
      obtain ⟨next, answer, rest, hfirst, hrest, rfl⟩ := run_cons_eq_some.mp hrun
      rw [List.zip_cons_cons, List.foldl_cons]
      exact ih (hstep state kept call answer next hinv hfirst) hrest

/-- The run of two lists of calls one after the other. -/
theorem run_append_eq_some {state last : State} {first second : List Call}
    {answers : List Answer} :
    run step state (first ++ second) = some (last, answers) ↔
      ∃ middle before after, run step state first = some (middle, before) ∧
        run step middle second = some (last, after) ∧ answers = before ++ after := by
  induction first generalizing state answers with
  | nil => simp
  | cons call calls ih =>
      simp only [List.cons_append, run_cons_eq_some, ih]
      constructor
      · rintro ⟨next, answer, _, hstep, ⟨middle, before, after, hfirst, hsecond, rfl⟩, rfl⟩
        exact ⟨middle, answer :: before, after, ⟨next, answer, before, hstep, hfirst, rfl⟩,
          hsecond, rfl⟩
      · rintro ⟨middle, _, after, ⟨next, answer, before, hstep, hfirst, rfl⟩, hsecond, rfl⟩
        exact ⟨next, answer, before ++ after, hstep, ⟨middle, before, after, hfirst, hsecond, rfl⟩,
          rfl⟩

/-! ## Properties of the single steps of a run -/

@[simp] theorem along_nil (P : State → Call → Answer → State → Prop) (state : State) :
    Along step P state [] := trivial

/-- An invariant that lets every step satisfy `P` gives `P` along every run. -/
theorem along_of_invariant {Inv : State → Prop} {P : State → Call → Answer → State → Prop}
    (hstep : ∀ state call answer next, Inv state → step state call = some (next, answer) →
      P state call answer next ∧ Inv next) (calls : List Call) :
    ∀ {state : State}, Inv state → Along step P state calls := by
  induction calls with
  | nil => exact fun _ => trivial
  | cons call calls ih =>
      intro state hinv next answer hfirst
      obtain ⟨hP, hnext⟩ := hstep state call answer next hinv hfirst
      exact ⟨hP, ih hnext⟩

/-- A property of every step with the calls of a run. -/
theorem along_of_mem {P : State → Call → Answer → State → Prop} {calls : List Call}
    (h : ∀ call ∈ calls, ∀ state answer next, P state call answer next) (state : State) :
    Along step P state calls := by
  induction calls generalizing state with
  | nil => trivial
  | cons call calls ih =>
      intro next answer _
      exact ⟨h call List.mem_cons_self state answer next,
        ih (fun later hlater => h later (List.mem_cons_of_mem call hlater)) next⟩

/-- Steps with one property have another, where an invariant holds that they
keep. -/
theorem along_of_along {Inv : State → Prop} {P C : State → Call → Answer → State → Prop}
    (hstep : ∀ state call answer next, Inv state → step state call = some (next, answer) →
      C state call answer next → P state call answer next ∧ Inv next) {calls : List Call} :
    ∀ {state : State}, Inv state → Along step C state calls → Along step P state calls := by
  induction calls with
  | nil => exact fun _ _ => trivial
  | cons call calls ih =>
      intro state hinv hC next answer hfirst
      obtain ⟨hCfirst, hCrest⟩ := hC next answer hfirst
      obtain ⟨hP, hnext⟩ := hstep state call answer next hinv hfirst hCfirst
      exact ⟨hP, ih hnext hCrest⟩

/-- Each answer of a run is that of a step with the property. -/
theorem mem_answers_of_along {P : State → Call → Answer → State → Prop} {calls : List Call}
    {state last : State} {answers : List Answer} (h : Along step P state calls)
    (hrun : run step state calls = some (last, answers)) {answer : Answer}
    (hanswer : answer ∈ answers) : ∃ before call after, P before call answer after := by
  induction calls generalizing state answers with
  | nil =>
      simp only [run_nil, Option.some.injEq, Prod.mk.injEq] at hrun
      simp [← hrun.2] at hanswer
  | cons call calls ih =>
      obtain ⟨next, first, rest, hfirst, hrest, rfl⟩ := run_cons_eq_some.mp hrun
      obtain ⟨hP, hlater⟩ := h next first hfirst
      rcases List.mem_cons.mp hanswer with rfl | hmem
      · exact ⟨state, call, next, hP⟩
      · exact ih hlater hrest hmem

/-- `P` at each step against `C` at each step.  The invariant needs to be kept
only by the steps that satisfy `P`: a run is followed up to its first step
where both fail. -/
theorem along_iff_along {Inv : State → Prop} {P C : State → Call → Answer → State → Prop}
    (hstep : ∀ state call answer next, Inv state → step state call = some (next, answer) →
      (P state call answer next ↔ C state call answer next) ∧
        (P state call answer next → Inv next)) (calls : List Call) :
    ∀ {state : State}, Inv state → (Along step P state calls ↔ Along step C state calls) := by
  induction calls with
  | nil => exact fun _ => Iff.rfl
  | cons call calls ih =>
      intro state hinv
      constructor
      · intro hP next answer hfirst
        obtain ⟨hPfirst, hPrest⟩ := hP next answer hfirst
        obtain ⟨hiff, hkeep⟩ := hstep state call answer next hinv hfirst
        exact ⟨hiff.mp hPfirst, (ih (hkeep hPfirst)).mp hPrest⟩
      · intro hC next answer hfirst
        obtain ⟨hCfirst, hCrest⟩ := hC next answer hfirst
        obtain ⟨hiff, hkeep⟩ := hstep state call answer next hinv hfirst
        have hPfirst := hiff.mpr hCfirst
        exact ⟨hPfirst, (ih (hkeep hPfirst)).mpr hCrest⟩

/-- What every step that satisfies `P` keeps, every run of such steps keeps. -/
theorem run_invariant_of_along {Inv : State → Prop} {P : State → Call → Answer → State → Prop}
    (hstep : ∀ state call answer next, Inv state → step state call = some (next, answer) →
      P state call answer next → Inv next) :
    ∀ {calls : List Call} {state last : State} {answers : List Answer}, Inv state →
      Along step P state calls → run step state calls = some (last, answers) → Inv last := by
  intro calls
  induction calls with
  | nil =>
      intro state last answers hinv _ hrun
      simp only [run_nil, Option.some.injEq, Prod.mk.injEq] at hrun
      exact hrun.1 ▸ hinv
  | cons call calls ih =>
      intro state last answers hinv halong hrun
      obtain ⟨next, answer, rest, hfirst, hrest, _⟩ := run_cons_eq_some.mp hrun
      obtain ⟨hP, hlater⟩ := halong next answer hfirst
      exact ih (hstep state call answer next hinv hfirst hP) hlater hrest

/-! ## Simulation -/

section Simulation

variable {Abstract : Type*} {spec : Abstract → Call → Option (Abstract × Answer)}

/-- If `R` relates the states before a step to states after equal answers, then
it does so over every run. -/
theorem run_simulates {R : State → Abstract → Prop}
    (hstep : ∀ state abstract call answer next, R state abstract →
      step state call = some (next, answer) →
        ∃ abstract', spec abstract call = some (abstract', answer) ∧ R next abstract') :
    ∀ {calls : List Call} {state last : State} {abstract : Abstract} {answers : List Answer},
      R state abstract → run step state calls = some (last, answers) →
        ∃ abstract', run spec abstract calls = some (abstract', answers) ∧ R last abstract' := by
  intro calls
  induction calls with
  | nil =>
      intro state last abstract answers hR hrun
      simp only [run_nil, Option.some.injEq, Prod.mk.injEq] at hrun
      obtain ⟨rfl, rfl⟩ := hrun
      exact ⟨abstract, rfl, hR⟩
  | cons call calls ih =>
      intro state last abstract answers hR hrun
      obtain ⟨next, answer, rest, hfirst, hrest, rfl⟩ := run_cons_eq_some.mp hrun
      obtain ⟨middle, hspec, hmiddle⟩ := hstep state abstract call answer next hR hfirst
      obtain ⟨final, hrun', hfinal⟩ := ih hmiddle hrest
      exact ⟨final, run_cons_eq_some.mpr ⟨middle, answer, rest, hspec, hrun', rfl⟩, hfinal⟩

end Simulation

/-! ## Projection -/

/-- The answers to the calls that `mine` picks, in order. -/
def answersTo (mine : Call → Bool) : List Call → List Answer → List Answer
  | call :: calls, answer :: answers =>
      if mine call then answer :: answersTo mine calls answers else answersTo mine calls answers
  | _, _ => []

section Projection

variable {Local : Type*} {component : Local → Call → Option (Local × Answer)}

/-- A component of the state that only the calls picked by `mine` touch, and
that these touch as a machine of its own: in every run it goes through the run
of its own calls, with its own answers. -/
theorem run_project (Inv : State → Prop) (view : State → Local) (mine : Call → Bool)
    (hkeep : ∀ state call answer next, Inv state → step state call = some (next, answer) →
      Inv next)
    (hmine : ∀ state call answer next, Inv state → step state call = some (next, answer) →
      mine call = true → component (view state) call = some (view next, answer))
    (hother : ∀ state call answer next, Inv state → step state call = some (next, answer) →
      mine call = false → view next = view state) :
    ∀ {calls : List Call} {state last : State} {answers : List Answer}, Inv state →
      run step state calls = some (last, answers) →
        run component (view state) (calls.filter mine) =
          some (view last, answersTo mine calls answers) := by
  intro calls
  induction calls with
  | nil =>
      intro state last answers _ hrun
      simp only [run_nil, Option.some.injEq, Prod.mk.injEq] at hrun
      obtain ⟨rfl, rfl⟩ := hrun
      rfl
  | cons call calls ih =>
      intro state last answers hinv hrun
      obtain ⟨next, answer, rest, hfirst, hrest, rfl⟩ := run_cons_eq_some.mp hrun
      have hlater := ih (hkeep state call answer next hinv hfirst) hrest
      cases hcall : mine call with
      | true =>
          -- the first step is the component's own
          rw [List.filter_cons_of_pos hcall, answersTo, if_pos hcall, run_cons_eq_some]
          exact ⟨_, _, _, hmine state call answer next hinv hfirst hcall, hlater, rfl⟩
      | false =>
          -- the component stands still, and the call is not in its run
          rw [List.filter_cons_of_neg (by simp [hcall]), answersTo, if_neg (by simp [hcall]),
            ← hother state call answer next hinv hfirst hcall]
          exact hlater

end Projection

end Foundation
