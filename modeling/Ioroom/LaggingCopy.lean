import Ioroom.EventSystem

/-!
# Lagging copies

A copy of a value follows it by snapshots which arrive in the order in which they were taken; a
snapshot which never arrives is as good as none.  All that the copy has had and what is on its way
to it are then values of the original in their order, and with no snapshot on its way it has the one
taken last.
-/

namespace EventSystem

variable {State Event α : Type*}

/-- The values along a run, oldest first. -/
def timeline (read : State → α) : List (State × Event) → State → List α
  | [], state => [read state]
  | (before, _) :: history, state => timeline read history before ++ [read state]

/-- A property of the current state or of some earlier state of the run. -/
def Once (Holds : State → Prop) (history : List (State × Event)) (state : State) : Prop :=
  Holds state ∨ ∃ past ∈ history, Holds past.1

theorem once_cons {Holds : State → Prop} {before after : State} {event : Event}
    {history : List (State × Event)} :
    Once Holds ((before, event) :: history) after ↔ Holds after ∨ Once Holds history before := by
  simp [Once]

theorem mem_timeline {read : State → α} {history : List (State × Event)} {state : State}
    {value : α} :
    value ∈ timeline read history state ↔
      Once (fun state => read state = value) history state := by
  induction history generalizing state with
  | nil => simp [timeline, Once, eq_comm]
  | cons past history induction =>
      obtain ⟨before, event⟩ := past
      rw [timeline, List.mem_append, induction, once_cons, List.mem_singleton, or_comm,
        eq_comm (a := value)]

/-- The values which events of the history yield, oldest first. -/
def collected (select : State → Event → Option α) : List (State × Event) → List α
  | [] => []
  | (state, event) :: history => collected select history ++ (select state event).toList

theorem getLastD_collected (select : State → Event → Option α) (history : List (State × Event))
    (initial : α) :
    (collected select history).getLastD initial = (latest select history).getD initial := by
  induction history with
  | nil => rfl
  | cons past history induction =>
      obtain ⟨state, event⟩ := past
      rw [collected, latest_cons]
      cases selected : select state event with
      | none => simpa using induction
      | some value => exact List.getLastD_concat

/-- A copy and the snapshots on their way to it, oldest first. -/
structure LaggingCopy (α : Type*) where
  copy : α
  snapshots : List α

namespace LaggingCopy

/-- A snapshot of the value is taken, or one is received, or neither. -/
inductive Step (value : α) : LaggingCopy α → Option α → Option α → LaggingCopy α → Prop
  | idle (lagging : LaggingCopy α) : Step value lagging none none lagging
  | take (lagging : LaggingCopy α) :
      Step value lagging (some value) none
        { lagging with snapshots := lagging.snapshots ++ [value] }
  | arrive (copy newest : α) (later : List α) :
      Step value ⟨copy, newest :: later⟩ none (some newest) ⟨newest, later⟩

variable {value : α} {before after : LaggingCopy α} {taken received : Option α} {had past : List α}

/-- What the copy has had and what is on its way stay values of the original in their order. -/
theorem Step.sublist (step : Step value before taken received after)
    (ordered : (had ++ before.snapshots).Sublist past) :
    (had ++ received.toList ++ after.snapshots).Sublist (past ++ [value]) := by
  cases step with
  | idle =>
      rw [Option.toList_none, List.append_nil]
      exact ordered.trans (List.sublist_append_left _ _)
  | take =>
      rw [Option.toList_none, List.append_nil, ← List.append_assoc]
      exact ordered.append (List.Sublist.refl [value])
  | arrive copy newest later =>
      rw [Option.toList_some, List.append_assoc, List.singleton_append]
      exact ordered.trans (List.sublist_append_left _ _)

theorem Step.copy_eq (step : Step value before taken received after) :
    after.copy = received.getD before.copy := by
  cases step <;> rfl

theorem Step.getLast (step : Step value before taken received after) :
    after.snapshots.getLastD after.copy = taken.getD (before.snapshots.getLastD before.copy) := by
  cases step with
  | idle => rfl
  | take => exact List.getLastD_concat
  | arrive copy newest later => rw [Option.getD_none, List.getLastD_cons]

end LaggingCopy

section Runs

variable {system : EventSystem State Event} {history : List (State × Event)} {state : State}
  {lagging : State → LaggingCopy α} {takes receives : State → Event → Option α} {initial : α}

/-- The initial value, what the copy has received since and what is on its way to it are values of
the original, in their order. -/
theorem Run.sublist_timeline (run : system.Run history state) (read : State → α)
    (start : ∀ state, system.Start state → read state = initial ∧ lagging state = ⟨initial, []⟩)
    (step : ∀ state event, system.Enabled state event → LaggingCopy.Step
      (read (system.next state event)) (lagging state) (takes state event) (receives state event)
      (lagging (system.next state event))) :
    (initial :: collected receives history ++ (lagging state).snapshots).Sublist
      (timeline read history state) := by
  induction run with
  | start started =>
      obtain ⟨value, none⟩ := start _ started
      simp [collected, timeline, value, none]
  | step _ enabled induction =>
      rw [collected, ← List.cons_append]
      exact (step _ _ enabled).sublist induction

/-- The copy has the snapshot which it received last. -/
theorem Run.copy_eq_received (run : system.Run history state) (read : State → α)
    (start : ∀ state, system.Start state → lagging state = ⟨initial, []⟩)
    (step : ∀ state event, system.Enabled state event → LaggingCopy.Step
      (read (system.next state event)) (lagging state) (takes state event) (receives state event)
      (lagging (system.next state event))) :
    (lagging state).copy = (collected receives history).getLastD initial := by
  rw [getLastD_collected]
  refine run.register_eq_latest (fun state => (lagging state).copy) initial receives ?_ ?_
  · exact fun first started => congrArg LaggingCopy.copy (start first started)
  · exact fun before event _ enabled => (step before event enabled).copy_eq

/-- The snapshot taken last is the newest on its way, or the copy has it. -/
theorem Run.newest_eq_latest (run : system.Run history state) (read : State → α)
    (start : ∀ state, system.Start state → lagging state = ⟨initial, []⟩)
    (step : ∀ state event, system.Enabled state event → LaggingCopy.Step
      (read (system.next state event)) (lagging state) (takes state event) (receives state event)
      (lagging (system.next state event))) :
    (lagging state).snapshots.getLastD (lagging state).copy =
      (latest takes history).getD initial := by
  refine run.register_eq_latest
    (fun state => (lagging state).snapshots.getLastD (lagging state).copy) initial takes ?_ ?_
  · intro first started
    simp only [start first started, List.getLastD_nil]
  · exact fun before event _ enabled => (step before event enabled).getLast

end Runs

end EventSystem
