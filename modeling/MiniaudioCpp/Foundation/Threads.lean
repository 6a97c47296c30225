import Mathlib.Data.List.ReduceOption
import Mathlib.Logic.Function.Basic
import MiniaudioCpp.Foundation.Machine

/-!
# Threads that share an object

Several threads call the operations of one object.  A call goes through steps
that each act on the shared state at once, and between two steps of one thread
the others may take theirs.  `threadStep` is the machine of all interleavings:
an event lets one thread call, take a step, or return.

An operation can be given as code, a tree of atomic actions (`codeOperation`),
or as one step of a sequential machine (`atomicOperation`).  An object whose
every history is one of the atomic object behaves as if each call took effect
at one instant between its call and its return, in an order that agrees with
real time.  `run_weakly_simulates` is the rule that proves it.
-/

namespace Foundation

/-! ## Code -/

/-- Code that acts on a shared state, one atomic action at a time: each action
leaves another state, and what follows depends on the state it met. -/
inductive Code (State Answer : Type*)
  | ret (answer : Answer)
  | act (effect : State → State) (next : State → Code State Answer)

/-- The code from start to end, with nothing in between. -/
def Code.exec {State Answer : Type*} : Code State Answer → State → Answer × State
  | .ret answer, state => (answer, state)
  | .act effect next, state => (next state).exec (effect state)

/-! ## Objects and their clients -/

/-- What a call goes through: `none` where there is no step to take, or no
answer yet. -/
structure Operation (State Local Call Answer : Type*) where
  start : Call → Local
  act : State → Local → Option (State × Local)
  result : Local → Option Answer

/-- Each call runs its code. -/
def codeOperation {State Call Answer : Type*} (code : Call → Code State Answer) :
    Operation State (Code State Answer) Call Answer where
  start := code
  act
    | state, .act effect next => some (effect state, next state)
    | _, .ret _ => none
  result
    | .ret answer => some answer
    | .act _ _ => none

/-- Each call is one step of a sequential machine. -/
def atomicOperation {State Call Answer : Type*}
    (step : State → Call → Option (State × Answer)) :
    Operation State (Call ⊕ Answer) Call Answer where
  start := .inl
  act
    | state, .inl call => (step state call).map fun (next, answer) => (next, .inr answer)
    | _, .inr _ => none
  result
    | .inr answer => some answer
    | .inl _ => none

/-- The account that the clients keep, and the calls it allows.  It changes only
when a call is made or returns. -/
structure Client (Account Call Answer : Type*) where
  may : Account → Call → Bool
  called : Account → Call → Account
  returned : Account → Call → Answer → Account

/-! ## The machine -/

/-- The shared state, the clients' account, and where each thread is in the call
it has made. -/
structure Threads (ι State Account Local Call : Type*) where
  state : State
  account : Account
  pending : ι → Option (Call × Local)

/-- A thread calls, takes a step, or returns. -/
inductive Event (ι Call : Type*)
  | call (i : ι) (call : Call)
  | act (i : ι)
  | ret (i : ι)

/-- What is seen of an event from outside. -/
inductive Mark (ι Call Answer : Type*)
  | called (i : ι) (call : Call)
  | returned (i : ι) (answer : Answer)
  deriving DecidableEq

section Machine

variable {ι State Account Local Call Answer : Type*}

/-- No thread has called. -/
def Threads.idle (state : State) (account : Account) : Threads ι State Account Local Call :=
  ⟨state, account, fun _ => none⟩

/-- No call is under way. -/
def Threads.Quiet (threads : Threads ι State Account Local Call) : Prop :=
  ∀ i, threads.pending i = none

/-- One event. -/
def threadStep [DecidableEq ι] (operation : Operation State Local Call Answer)
    (client : Client Account Call Answer) (threads : Threads ι State Account Local Call) :
    Event ι Call → Option (Threads ι State Account Local Call × Option (Mark ι Call Answer))
  | .call i call =>
      if (threads.pending i).isNone && client.may threads.account call then
        some (⟨threads.state, client.called threads.account call,
          Function.update threads.pending i (some (call, operation.start call))⟩,
          some (.called i call))
      else none
  | .act i =>
      (threads.pending i).bind fun (call, here) =>
        (operation.act threads.state here).map fun (state, next) =>
          (⟨state, threads.account, Function.update threads.pending i (some (call, next))⟩, none)
  | .ret i =>
      (threads.pending i).bind fun (call, here) =>
        (operation.result here).map fun answer =>
          (⟨threads.state, client.returned threads.account call answer,
            Function.update threads.pending i none⟩, some (.returned i answer))

variable [DecidableEq ι] {operation : Operation State Local Call Answer}
  {client : Client Account Call Answer} {threads : Threads ι State Account Local Call}
  {next : Threads ι State Account Local Call} {mark : Option (Mark ι Call Answer)} {i : ι}

theorem threadStep_call_eq_some {call : Call} :
    threadStep operation client threads (.call i call) = some (next, mark) ↔
      threads.pending i = none ∧ client.may threads.account call = true ∧
        next = ⟨threads.state, client.called threads.account call,
          Function.update threads.pending i (some (call, operation.start call))⟩ ∧
        mark = some (.called i call) := by
  simp only [threadStep, Option.ite_none_right_eq_some, Option.some.injEq, Prod.mk.injEq,
    Bool.and_eq_true, Option.isNone_iff_eq_none, and_assoc]
  constructor
  · rintro ⟨hidle, hmay, rfl, rfl⟩
    exact ⟨hidle, hmay, rfl, rfl⟩
  · rintro ⟨hidle, hmay, rfl, rfl⟩
    exact ⟨hidle, hmay, rfl, rfl⟩

theorem threadStep_act_eq_some :
    threadStep operation client threads (.act i) = some (next, mark) ↔
      ∃ call here state later, threads.pending i = some (call, here) ∧
        operation.act threads.state here = some (state, later) ∧
        next = ⟨state, threads.account,
          Function.update threads.pending i (some (call, later))⟩ ∧ mark = none := by
  simp only [threadStep, Option.bind_eq_some_iff, Option.map_eq_some_iff, Prod.exists,
    Prod.mk.injEq]
  constructor
  · rintro ⟨call, here, hpending, state, later, hact, rfl, rfl⟩
    exact ⟨call, here, state, later, hpending, hact, rfl, rfl⟩
  · rintro ⟨call, here, state, later, hpending, hact, rfl, rfl⟩
    exact ⟨call, here, hpending, state, later, hact, rfl, rfl⟩

theorem threadStep_ret_eq_some :
    threadStep operation client threads (.ret i) = some (next, mark) ↔
      ∃ call here answer, threads.pending i = some (call, here) ∧
        operation.result here = some answer ∧
        next = ⟨threads.state, client.returned threads.account call answer,
          Function.update threads.pending i none⟩ ∧ mark = some (.returned i answer) := by
  simp only [threadStep, Option.bind_eq_some_iff, Option.map_eq_some_iff, Prod.exists,
    Prod.mk.injEq]
  constructor
  · rintro ⟨call, here, hpending, answer, hresult, rfl, rfl⟩
    exact ⟨call, here, answer, hpending, hresult, rfl, rfl⟩
  · rintro ⟨call, here, answer, hpending, hresult, rfl, rfl⟩
    exact ⟨call, here, hpending, answer, hresult, rfl, rfl⟩

theorem codeOperation_act_eq_some {code : Call → Code State Answer} {state state' : State}
    {running running' : Code State Answer} :
    (codeOperation code).act state running = some (state', running') ↔
      ∃ effect after, running = .act effect after ∧ state' = effect state ∧
        running' = after state := by
  cases running with
  | ret answer => simp [codeOperation]
  | act effect after => simp [codeOperation, eq_comm]

theorem codeOperation_result_eq_some {code : Call → Code State Answer}
    {running : Code State Answer} {answer : Answer} :
    (codeOperation code).result running = some answer ↔ running = .ret answer := by
  cases running with
  | ret answer' => simp [codeOperation]
  | act effect after => simp [codeOperation]

end Machine

/-! ## Simulation up to hidden events -/

/-- The marks of a run, hidden events left out. -/
def history {M : Type*} (marks : List (Option M)) : List M := marks.reduceOption

@[simp] theorem history_append {M : Type*} (first second : List (Option M)) :
    history (first ++ second) = history first ++ history second := List.filterMap_append

theorem mem_history {M : Type*} {mark : M} {marks : List (Option M)} :
    mark ∈ history marks ↔ some mark ∈ marks := List.reduceOption_mem_iff

/-- The calls that are made are seen. -/
theorem called_mem_history {ι State Account Local Call Answer : Type*} [DecidableEq ι]
    {operation : Operation State Local Call Answer} {client : Client Account Call Answer}
    {events : List (Event ι Call)} {threads last : Threads ι State Account Local Call}
    {marks : List (Option (Mark ι Call Answer))}
    (hrun : run (threadStep operation client) threads events = some (last, marks)) (i : ι)
    (call : Call) : .called i call ∈ history marks ↔ .call i call ∈ events := by
  induction events generalizing threads marks with
  | nil =>
      simp only [run_nil, Option.some.injEq, Prod.mk.injEq] at hrun
      simp [← hrun.2, history]
  | cons event events ih =>
      obtain ⟨next, mark, rest, hfirst, hrest, rfl⟩ := run_cons_eq_some.mp hrun
      have hlater := ih hrest
      rw [mem_history] at hlater ⊢
      rw [List.mem_cons, List.mem_cons, hlater]
      refine or_congr_left ?_
      cases event with
      | call k made =>
          obtain ⟨_, _, _, rfl⟩ := threadStep_call_eq_some.mp hfirst
          simp
      | act k =>
          obtain ⟨_, _, _, _, _, _, _, rfl⟩ := threadStep_act_eq_some.mp hfirst
          simp
      | ret k =>
          obtain ⟨_, _, _, _, _, _, rfl⟩ := threadStep_ret_eq_some.mp hfirst
          simp

section Answers

variable {ι State Account Call Answer : Type*} {P : Answer → Prop}

/-- The answers that threads of the atomic object have yet to return have a
property. -/
def Threads.Answered (P : Answer → Prop) (threads : Threads ι State Account (Call ⊕ Answer) Call) :
    Prop := ∀ i call answer, threads.pending i = some (call, .inr answer) → P answer

variable [DecidableEq ι] {step : State → Call → Option (State × Answer)}
  {client : Client Account Call Answer}

theorem Threads.Answered.update {threads : Threads ι State Account (Call ⊕ Answer) Call}
    (h : threads.Answered P) (i : ι) {entry : Option (Call × (Call ⊕ Answer))}
    (hentry : ∀ call answer, entry = some (call, .inr answer) → P answer) (state : State)
    (account : Account) :
    Threads.Answered P ⟨state, account, Function.update threads.pending i entry⟩ := by
  intro k call answer hpending
  by_cases hk : k = i
  · subst hk
    exact hentry call answer (by simpa using hpending)
  · exact h k call answer (by simpa [Function.update_of_ne hk] using hpending)

theorem Threads.Answered.event
    (hP : ∀ state call next answer, step state call = some (next, answer) → P answer)
    {threads next : Threads ι State Account (Call ⊕ Answer) Call} {event : Event ι Call}
    {mark : Option (Mark ι Call Answer)} (h : threads.Answered P)
    (hstep : threadStep (atomicOperation step) client threads event = some (next, mark)) :
    (∀ i answer, mark = some (.returned i answer) → P answer) ∧ next.Answered P := by
  cases event with
  | call i call =>
      obtain ⟨_, _, rfl, rfl⟩ := threadStep_call_eq_some.mp hstep
      exact ⟨by simp, h.update i (by simp [atomicOperation]) _ _⟩
  | act i =>
      obtain ⟨call, here, state, later, _, hact, rfl, rfl⟩ := threadStep_act_eq_some.mp hstep
      refine ⟨by simp, h.update i (fun call' answer hlater => ?_) _ _⟩
      obtain ⟨rfl, rfl⟩ : call = call' ∧ later = .inr answer := by simpa using hlater
      cases here with
      | inl made =>
          simp only [atomicOperation, Option.map_eq_some_iff, Prod.exists, Prod.mk.injEq,
            Sum.inr.injEq] at hact
          obtain ⟨_, _, hmade, _, rfl⟩ := hact
          exact hP _ _ _ _ hmade
      | inr answer' => simp [atomicOperation] at hact
  | ret i =>
      obtain ⟨call, here, answer, hpending, hresult, rfl, rfl⟩ := threadStep_ret_eq_some.mp hstep
      cases here with
      | inl made => simp [atomicOperation] at hresult
      | inr answer' =>
          obtain rfl := Option.some.inj hresult
          refine ⟨fun k answer hmark => ?_, h.update i (by simp) _ _⟩
          obtain ⟨rfl, rfl⟩ : i = k ∧ _ = answer := by simpa using hmark
          exact h i call _ hpending

/-- Where each answer of the atomic object has a property, those that its calls
return have it. -/
theorem answer_of_returned_mem
    (hP : ∀ state call next answer, step state call = some (next, answer) → P answer)
    {state : State} {account : Account} {events : List (Event ι Call)}
    {last : Threads ι State Account (Call ⊕ Answer) Call}
    {marks : List (Option (Mark ι Call Answer))}
    (hrun : run (threadStep (atomicOperation step) client) (Threads.idle state account) events =
      some (last, marks))
    {i : ι} {answer : Answer} (hreturned : .returned i answer ∈ history marks) : P answer := by
  have halong : Along (threadStep (atomicOperation step) client)
      (fun _ _ mark _ => ∀ i answer, mark = some (.returned i answer) → P answer)
      (Threads.idle state account) events :=
    along_of_invariant (fun _ _ _ _ h hstep => Threads.Answered.event hP h hstep) events
      (by simp [Threads.Answered, Threads.idle])
  obtain ⟨_, _, _, h⟩ := mem_answers_of_along halong hrun (mem_history.mp hreturned)
  exact h i answer rfl

end Answers

section Simulation

variable {State Call M Abstract Call' : Type*} {step : State → Call → Option (State × Option M)}
  {spec : Abstract → Call' → Option (Abstract × Option M)}

/-- If each step of a machine is matched by a run of another with the same
visible marks, so is each run. -/
theorem run_weakly_simulates {R : State → Abstract → Prop}
    (hstep : ∀ state abstract call mark next, R state abstract →
      step state call = some (next, mark) →
        ∃ events marks abstract', run spec abstract events = some (abstract', marks) ∧
          history marks = history [mark] ∧ R next abstract') :
    ∀ {calls : List Call} {state last : State} {abstract : Abstract} {marks : List (Option M)},
      R state abstract → run step state calls = some (last, marks) →
        ∃ events marks' abstract', run spec abstract events = some (abstract', marks') ∧
          history marks' = history marks ∧ R last abstract' := by
  intro calls
  induction calls with
  | nil =>
      intro state last abstract marks hR hrun
      simp only [run_nil, Option.some.injEq, Prod.mk.injEq] at hrun
      obtain ⟨rfl, rfl⟩ := hrun
      exact ⟨[], [], abstract, rfl, rfl, hR⟩
  | cons call calls ih =>
      intro state last abstract marks hR hrun
      obtain ⟨next, mark, rest, hfirst, hrest, rfl⟩ := run_cons_eq_some.mp hrun
      obtain ⟨events, first, middle, hspec, hmarks, hmiddle⟩ :=
        hstep state abstract call mark next hR hfirst
      obtain ⟨later, second, final, hspec', hmarks', hfinal⟩ := ih hmiddle hrest
      refine ⟨events ++ later, first ++ second, final,
        run_append_eq_some.mpr ⟨middle, first, second, hspec, hspec', rfl⟩, ?_, hfinal⟩
      calc history (first ++ second)
          = history [mark] ++ history rest := by rw [history_append, hmarks, hmarks']
        _ = history (mark :: rest) := (history_append [mark] rest).symm

end Simulation

end Foundation
