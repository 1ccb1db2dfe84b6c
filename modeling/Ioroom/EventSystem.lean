import Mathlib.Data.List.Basic
import Mathlib.Logic.Relation

/-!
# Event systems and their histories

A system changes state only by labelled events.  A run keeps its history, newest event first,
each event paired with the state it was applied to, so that conditions on the past of a run are
ordinary list predicates.  The rules below turn facts about one event into facts about runs.
-/

/-- A system whose state changes only by labelled events. -/
structure EventSystem (State Event : Type*) where
  /-- Admissible initial states. -/
  Start : State → Prop
  /-- Events which can occur in a state. -/
  Enabled : State → Event → Prop
  /-- The state after an event. -/
  next : State → Event → State

namespace EventSystem

variable {State Event α : Type*}

/-- Finite runs, indexed by the history which led to the current state. -/
inductive Run (system : EventSystem State Event) : List (State × Event) → State → Prop
  | start {state : State} : system.Start state → Run system [] state
  | step {history : List (State × Event)} {state : State} {event : Event} :
      Run system history state →
      system.Enabled state event →
      Run system ((state, event) :: history) (system.next state event)

/-- States which some run reaches. -/
def Reachable (system : EventSystem State Event) (state : State) : Prop :=
  ∃ history, system.Run history state

/-- A property of the current state and of every earlier state of the run. -/
def Along (Holds : State → Prop) (history : List (State × Event)) (state : State) : Prop :=
  Holds state ∧ ∀ past ∈ history, Holds past.1

/-- Every event of the history was taken in a state which allowed it. -/
def Guarded (Allowed : State → Event → Prop) (history : List (State × Event)) : Prop :=
  ∀ past ∈ history, Allowed past.1 past.2

/-- The newest event of the history for which `select` yields a value. -/
def latest (select : State → Event → Option α) (history : List (State × Event)) : Option α :=
  history.findSome? fun past => select past.1 past.2

@[simp]
theorem latest_nil (select : State → Event → Option α) :
    latest select ([] : List (State × Event)) = none := rfl

theorem latest_cons (select : State → Event → Option α) (state : State) (event : Event)
    (history : List (State × Event)) :
    latest select ((state, event) :: history) =
      (select state event).or (latest select history) := by
  cases selected : select state event <;> simp [latest, selected]

@[simp]
theorem guarded_nil (Allowed : State → Event → Prop) :
    Guarded Allowed ([] : List (State × Event)) := by
  simp [Guarded]

@[simp]
theorem guarded_cons {Allowed : State → Event → Prop} {state : State} {event : Event}
    {history : List (State × Event)} :
    Guarded Allowed ((state, event) :: history) ↔
      Allowed state event ∧ Guarded Allowed history := by
  simp [Guarded]

theorem along_cons {Holds : State → Prop} {before after : State} {event : Event}
    {history : List (State × Event)} :
    Along Holds ((before, event) :: history) after ↔
      Holds after ∧ Along Holds history before := by
  simp [Along]

namespace Run

variable {system : EventSystem State Event} {history : List (State × Event)} {state : State}

/-- An invariant kept by every enabled event holds at the end of every run. -/
theorem invariant {Inv : State → Prop} (run : system.Run history state)
    (start : ∀ state, system.Start state → Inv state)
    (step : ∀ state event, Inv state → system.Enabled state event →
      Inv (system.next state event)) :
    Inv state := by
  induction run with
  | start initial => exact start _ initial
  | step _ enabled induction => exact step _ _ induction enabled

/-- What an invariant implies about every enabled event is true of every event of a run. -/
theorem guarded_of_invariant {Inv : State → Prop} {Allowed : State → Event → Prop}
    (run : system.Run history state)
    (start : ∀ state, system.Start state → Inv state)
    (step : ∀ state event, Inv state → system.Enabled state event →
      Inv (system.next state event))
    (allowed : ∀ state event, Inv state → system.Enabled state event → Allowed state event) :
    Guarded Allowed history := by
  induction run with
  | start => exact guarded_nil Allowed
  | step earlier enabled induction =>
      have inv := earlier.invariant start step
      exact guarded_cons.mpr ⟨allowed _ _ inv enabled, induction⟩

/-- An invariant kept by every allowed event holds all along a guarded run. -/
theorem guarded_along {Inv : State → Prop} {Allowed : State → Event → Prop}
    (run : system.Run history state) (guarded : Guarded Allowed history)
    (start : ∀ state, system.Start state → Inv state)
    (step : ∀ state event, Inv state → system.Enabled state event → Allowed state event →
      Inv (system.next state event)) :
    Along Inv history state := by
  induction run with
  | start initial => exact ⟨start _ initial, by simp⟩
  | step earlier enabled induction =>
      obtain ⟨allowed, older⟩ := guarded_cons.mp guarded
      have before := induction older
      exact along_cons.mpr ⟨step _ _ before.1 enabled allowed, before⟩

/-- A register which every event either overwrites with the selected value or keeps holds the
newest selected value, and its initial value when no event selected one. -/
theorem register_eq_latest (run : system.Run history state) (read : State → α) (initial : α)
    (select : State → Event → Option α)
    (start : ∀ state, system.Start state → read state = initial)
    (step : ∀ state event, system.Reachable state → system.Enabled state event →
      read (system.next state event) = (select state event).getD (read state)) :
    read state = (latest select history).getD initial := by
  induction run with
  | start started => simpa using start _ started
  | @step history state event earlier enabled induction =>
      rw [step state event ⟨history, earlier⟩ enabled, latest_cons, induction]
      cases select state event <;> rfl

/-- In a phase which is entered only by selecting a value, and whose other events keep the relation
to the value, the newest selected value is related to the current state. -/
theorem phase_latest (run : system.Run history state) (InPhase : State → Prop)
    (Rel : State → α → Prop) (select : State → Event → Option α)
    (start : ∀ state, system.Start state → ¬InPhase state)
    (step : ∀ state event, system.Reachable state → system.Enabled state event →
      InPhase (system.next state event) →
      (∃ value, select state event = some value ∧ Rel (system.next state event) value) ∨
        (InPhase state ∧ select state event = none ∧
          ∀ value, Rel state value → Rel (system.next state event) value))
    (inPhase : InPhase state) :
    ∃ value, latest select history = some value ∧ Rel state value := by
  induction run with
  | start started => exact absurd inPhase (start _ started)
  | @step history state event earlier enabled induction =>
      rw [latest_cons]
      rcases step state event ⟨history, earlier⟩ enabled inPhase with
        ⟨value, selected, related⟩ | ⟨before, selected, keeps⟩
      · exact ⟨value, by simp [selected], related⟩
      · obtain ⟨value, newest, related⟩ := induction before
        exact ⟨value, by simp [selected, newest], keeps value related⟩

/-- Suppose allowed events keep an invariant which implies the property, and every other event
of a state satisfying the invariant leads out of the property.  Then the property holds along a
run exactly when all events of the run were allowed. -/
theorem along_iff_guarded {Inv Holds : State → Prop} {Allowed : State → Event → Prop}
    (run : system.Run history state)
    (start : ∀ state, system.Start state → Inv state)
    (holds : ∀ state, Inv state → Holds state)
    (keep : ∀ state event, Inv state → system.Enabled state event → Allowed state event →
      Inv (system.next state event))
    (violate : ∀ state event, Inv state → system.Enabled state event → ¬Allowed state event →
      ¬Holds (system.next state event)) :
    Along Holds history state ↔ Guarded Allowed history := by
  constructor
  · intro along
    induction run with
    | start => simp
    | @step history state event earlier enabled induction =>
        obtain ⟨after, before⟩ := along_cons.mp along
        have guarded : Guarded Allowed history := induction before
        have inv : Inv state := (earlier.guarded_along guarded start keep).1
        refine guarded_cons.mpr ⟨?_, guarded⟩
        by_contra forbidden
        exact violate state event inv enabled forbidden after
  · intro guarded
    obtain ⟨inv, past⟩ := run.guarded_along guarded start keep
    exact ⟨holds _ inv, fun older member => holds _ (past older member)⟩

end Run

/-- Reachable states satisfy every invariant kept by enabled events. -/
theorem Reachable.invariant {system : EventSystem State Event} {Inv : State → Prop}
    {state : State} (reachable : system.Reachable state)
    (start : ∀ state, system.Start state → Inv state)
    (step : ∀ state event, Inv state → system.Enabled state event →
      Inv (system.next state event)) :
    Inv state := by
  obtain ⟨_, run⟩ := reachable
  exact run.invariant start step

/-- The state after a sequence of events. -/
def replay (system : EventSystem State Event) (state : State) (events : List Event) : State :=
  events.foldl system.next state

/-- The history which a sequence of events adds. -/
def record (system : EventSystem State Event) :
    List (State × Event) → State → List Event → List (State × Event)
  | history, _, [] => history
  | history, state, event :: events =>
      system.record ((state, event) :: history) (system.next state event) events

/-- Every event of the sequence is enabled when its turn comes. -/
def Legal (system : EventSystem State Event) : State → List Event → Prop
  | _, [] => True
  | state, event :: events =>
      system.Enabled state event ∧ system.Legal (system.next state event) events

instance decidableLegal (system : EventSystem State Event)
    [∀ state event, Decidable (system.Enabled state event)] :
    (state : State) → (events : List Event) → Decidable (system.Legal state events)
  | _, [] => isTrue trivial
  | state, event :: events =>
      have := decidableLegal system (system.next state event) events
      inferInstanceAs (Decidable (system.Enabled state event ∧ _))

/-- A legal sequence of events continues a run. -/
theorem Run.replay {system : EventSystem State Event} {history : List (State × Event)}
    {state : State} (run : system.Run history state) {events : List Event}
    (legal : system.Legal state events) :
    system.Run (system.record history state events) (system.replay state events) := by
  induction events generalizing history state with
  | nil => exact run
  | cons event events induction => exact induction (run.step legal.1) legal.2

/-- A system simulates into an abstract relation when every event of a reachable state maps to an
abstract step or leaves the abstract state unchanged; whole runs then map to abstract runs. -/
theorem Run.simulates {system : EventSystem State Event} {Abstract : Type*}
    {history : List (State × Event)} {state : State} (run : system.Run history state)
    (Rel : State → Abstract → Prop) (Step : Abstract → Abstract → Prop) (initial : Abstract)
    (start : ∀ state, system.Start state → Rel state initial)
    (step : ∀ state event abstract, system.Enabled state event → Rel state abstract →
      ∃ after, Relation.ReflTransGen Step abstract after ∧
        Rel (system.next state event) after) :
    ∃ abstract, Relation.ReflTransGen Step initial abstract ∧ Rel state abstract := by
  induction run with
  | start started => exact ⟨initial, .refl, start _ started⟩
  | @step history state event _ enabled induction =>
      obtain ⟨abstract, reach, related⟩ := induction
      obtain ⟨after, later, relatedAfter⟩ := step state event abstract enabled related
      exact ⟨after, reach.trans later, relatedAfter⟩

end EventSystem
