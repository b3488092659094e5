import Mathlib.Data.List.Induction

/-! Labelled transition systems: finite runs, invariants over a run and its label
history, and simulation by another system with stuttering steps.
-/

namespace DummyDrivers.Transition

variable {State Label Abstract Action : Type*}

/-- A finite run, extended at its end, with the labels of its steps in order. -/
inductive Run (step : State → Label → State → Prop) (start : State)
    : List Label → State → Prop where
  | nil : Run step start [] start
  | snoc {history before label after} (run : Run step start history before)
    (next : step before label after)
    : Run step start (history ++ [label]) after

/-- A single step is a run of one label. -/
theorem Run.single {step : State → Label → State → Prop} {start label after}
    (next : step start label after)
    : Run step start [label] after :=
  .snoc .nil next

/-- Runs compose end to start, by induction on the second run. -/
theorem Run.append {step : State → Label → State → Prop} {start middle finish first second}
    (left : Run step start first middle) (right : Run step middle second finish)
    : Run step start (first ++ second) finish := by
  induction right with
  | nil => simpa using left
  | snoc _ next ih => simpa only [List.append_assoc] using ih.snoc next

/-- The last label of a run comes from a step out of a state the shorter run reaches. -/
theorem Run.last {step : State → Label → State → Prop} {start finish history label}
    (run : Run step start (history ++ [label]) finish)
    : ∃ before, Run step start history before ∧ step before label finish := by
  generalize whole : history ++ [label] = labels at run
  cases run with
  | nil => simp at whole
  | snoc run next =>
      obtain ⟨rfl, same⟩ := List.append_inj' whole rfl
      obtain rfl := List.singleton_inj.mp same
      exact ⟨_, run, next⟩

/-- A run splits at every position of its history, by induction on the later labels. -/
theorem Run.split {step : State → Label → State → Prop} {start finish}
    (first second : List Label) (run : Run step start (first ++ second) finish)
    : ∃ middle, Run step start first middle ∧ Run step middle second finish := by
  induction second using List.reverseRecOn generalizing finish with
  | nil => exact ⟨finish, by simpa using run, .nil⟩
  | append_singleton rest label ih =>
      rw [← List.append_assoc] at run
      obtain ⟨before, run, next⟩ := run.last
      obtain ⟨middle, left, right⟩ := ih run
      exact ⟨middle, left, right.snoc next⟩

/-- Every label of a run comes from a step out of a state that the labels before it reach. -/
theorem Run.step_at {step : State → Label → State → Prop} {start finish label}
    {earlier later : List Label} (run : Run step start (earlier ++ label :: later) finish)
    : ∃ before after, Run step start earlier before ∧ step before label after := by
  rw [List.append_cons] at run
  obtain ⟨after, front, _⟩ := run.split (earlier ++ [label]) later
  obtain ⟨before, front, next⟩ := front.last
  exact ⟨before, after, front, next⟩

/-- Where a label determines the next state, a history determines the last one, by
induction on the run.
-/
theorem Run.unique {step : State → Label → State → Prop} {start finish other history}
    (run : Run step start history finish) (run' : Run step start history other)
    (functional
      : ∀ {before label after after'},
          step before label after → step before label after' → after = after')
    : finish = other := by
  induction run generalizing other with
  | nil =>
      generalize none : ([] : List Label) = labels at run'
      cases run' with
      | nil => rfl
      | snoc => simp at none
  | snoc earlier next ih =>
      obtain ⟨before, earlier', next'⟩ := run'.last
      obtain rfl := ih earlier'
      exact functional next next'

/-- A property of the history and the state that every step of a run keeps holds at
its end. The step premise may use the run that leads to the step.
-/
theorem Run.invariant {step : State → Label → State → Prop} {start finish history}
    (property : List Label → State → Prop) (run : Run step start history finish)
    (initial : property [] start)
    (keep
      : ∀ {past before label after},
          Run step start past before
          → property past before
          → step before label after
          → property (past ++ [label]) after)
    : property history finish := by
  induction run with
  | nil => exact initial
  | snoc earlier next ih => exact keep earlier ih next

/-- A run is simulated by an abstract run when each of its steps is: the abstract
labels of one step may be none, one or several.
-/
theorem Run.simulate {step : State → Label → State → Prop}
    {abstractStep : Abstract → Action → Abstract → Prop} {start finish history}
    (view : State → Abstract) (actions : Label → List Action)
    (run : Run step start history finish)
    (each
      : ∀ {past before label after},
          Run step start past before
          → step before label after
          → Run abstractStep (view before) (actions label) (view after))
    : Run abstractStep (view start) (history.flatMap actions) (view finish) := by
  induction run with
  | nil => exact .nil
  | snoc earlier next ih =>
      simpa only [List.flatMap_append, List.flatMap_cons, List.flatMap_nil, List.append_nil]
        using ih.append (each earlier next)

end DummyDrivers.Transition
