import Mathlib.Data.List.Induction

/-!
# Lifecycles of the subjects of an event log

One log records events about many subjects.  The `history` of a subject is the
sublist of the log about it, and a `Lifecycle` is an automaton that says which
histories are allowed and in which stage each of them leaves its subject.

`stageOf_append` computes the stages after one more event: only the event's own
subject moves.  `walk_induction` proves a fact about every allowed history by
one case per move of the automaton.
-/

namespace Foundation

/-- The stages of a subject, and the stage an event takes it to; `none` where
the event is not allowed. -/
structure Lifecycle (Stage Event : Type*) where
  start : Stage
  next : Stage → Event → Option Stage

namespace Lifecycle

variable {Stage Event Subject : Type*} [DecidableEq Subject]

/-- The stage after a history, if the history is allowed. -/
def walk (life : Lifecycle Stage Event) (history : List Event) : Option Stage :=
  history.foldl (fun stage event => stage.bind fun stage => life.next stage event)
    (some life.start)

/-- The events of the log about one subject, in order. -/
def history (subject : Event → Option Subject) (log : List Event) (s : Subject) : List Event :=
  log.filter fun event => subject event = some s

/-- The stage of a subject after the log. -/
def stageOf (life : Lifecycle Stage Event) (subject : Event → Option Subject) (log : List Event)
    (s : Subject) : Option Stage :=
  life.walk (history subject log s)

variable {life : Lifecycle Stage Event} {subject : Event → Option Subject}

omit [DecidableEq Subject] in
@[simp] theorem walk_nil : life.walk [] = some life.start := rfl

omit [DecidableEq Subject] in
theorem walk_append_singleton (word : List Event) (event : Event) :
    life.walk (word ++ [event]) = (life.walk word).bind fun stage => life.next stage event := by
  simp [walk]

omit [DecidableEq Subject] in
/-- Induction over the allowed histories, by the last event. -/
theorem walk_induction {P : List Event → Stage → Prop} (hstart : P [] life.start)
    (hnext : ∀ word stage event stage', P word stage → life.next stage event = some stage' →
      P (word ++ [event]) stage') :
    ∀ {word : List Event} {stage : Stage}, life.walk word = some stage → P word stage := by
  intro word
  induction word using List.reverseRecOn with
  | nil =>
      intro stage hwalk
      simp only [walk_nil, Option.some.injEq] at hwalk
      exact hwalk ▸ hstart
  | append_singleton word event ih =>
      intro stage hwalk
      rw [walk_append_singleton, Option.bind_eq_some_iff] at hwalk
      obtain ⟨before, hbefore, hstep⟩ := hwalk
      exact hnext word before event stage (ih hbefore) hstep

theorem history_append (log : List Event) (event : Event) (s : Subject) :
    history subject (log ++ [event]) s =
      if subject event = some s then history subject log s ++ [event]
      else history subject log s := by
  by_cases h : subject event = some s <;> simp [history, h]

theorem mem_history {log : List Event} {event : Event} {s : Subject} (h : subject event = some s) :
    event ∈ history subject log s ↔ event ∈ log := by
  simp [history, h]

/-- An event is counted in its subject's history as often as in the log. -/
theorem count_history [DecidableEq Event] {log : List Event} {event : Event} {s : Subject}
    (h : subject event = some s) :
    (history subject log s).count event = log.count event := by
  unfold history
  rw [List.count_filter]
  simpa using h

@[simp] theorem stageOf_nil (s : Subject) : life.stageOf subject [] s = some life.start := rfl

/-- One more event moves its own subject and no other. -/
theorem stageOf_append (log : List Event) (event : Event) (s : Subject) :
    life.stageOf subject (log ++ [event]) s =
      if subject event = some s then
        (life.stageOf subject log s).bind fun stage => life.next stage event
      else life.stageOf subject log s := by
  unfold stageOf
  rw [history_append]
  by_cases h : subject event = some s
  · rw [if_pos h, if_pos h, walk_append_singleton]
  · rw [if_neg h, if_neg h]

end Lifecycle

end Foundation
