import Ioroom.EventSystem
import Ioroom.TransformLink

/-!
# Nudges over the link

A nudge moves the client's copy by one grid step and sends the resulting location, while older
updates pull that copy back.  Client and server end up at the last location sent, which is off the
sum of the steps by what the nudges slipped: the distance, at each nudge, between the location shown
and the location the calls in flight lead to.
-/

namespace Ioroom

open EventSystem LocalWorld FurnitureActor

namespace TransformLink

variable {F R : Type*} [DecidableEq F] [Field R] [EngineMath R]

inductive NudgeEvent
  | nudge (handle : ManipulatorHandle)
  | execute
  | apply
deriving DecidableEq

/-- The client after `NudgeSelectedFurniture`, whatever it returns. -/
def nudged (handle : ManipulatorHandle) (client : LocalWorld F R) : LocalWorld F R :=
  (client.nudgeSelectedFurniture handle).getD client

/-- The server answers every executed call. -/
def answersAlways (_before _after : RepMovement R) : Bool := true

/-- The nudges of a client which keeps its selection, over a link which loses nothing and delivers
in order. -/
def nudging (initial : TransformLink F R) : EventSystem (TransformLink F R) NudgeEvent where
  Start link := link = initial ∧ link.Settled
  Enabled link
    | .nudge _ => True
    | .execute => link.calls ≠ []
    | .apply => link.updates ≠ []
  next link
    | .nudge handle => link.act (nudged handle)
    | .execute => link.execute answersAlways
    | .apply => link.apply 0

/-- The step an event asks for. -/
def nudgeStep (link : TransformLink F R) : NudgeEvent → Option (FVector R)
  | .nudge handle =>
      (nudgeDirection handle (link.client.furniture link.held)).map (link.client.gridStep • ·)
  | .execute => none
  | .apply => none

omit [Field R] [EngineMath R] in
theorem answersAlways_honest (old new : RepMovement R)
    (silent : answersAlways old new = false) : new = old := by
  simp [answersAlways] at silent

/-- How far a nudge starts from where the calls in flight lead. -/
def slip (link : TransformLink F R) (event : NudgeEvent) : FVector R :=
  if (link.nudgeStep event).isSome then
    link.shown.location - link.final.location
  else 0

/-- The sum of all slips of a history. -/
def slipped (history : List (TransformLink F R × NudgeEvent)) : FVector R :=
  (history.map fun past => past.1.slip past.2).sum

/-- The sum of all steps of a history. -/
def travelled (history : List (TransformLink F R × NudgeEvent)) : FVector R :=
  (history.map fun past => (past.1.nudgeStep past.2).getD 0).sum

/-- The number of nudges on a handle. -/
def clicks (handle : ManipulatorHandle) (history : List (TransformLink F R × NudgeEvent)) : Nat :=
  history.countP fun past => past.2 = .nudge handle

/-- The sum of the nudges in the frame of the furniture. -/
def path (initial : TransformLink F R) (history : List (TransformLink F R × NudgeEvent)) :
    FVector R :=
  initial.client.gridStep •
    (((clicks .moveXPlus history : R) - clicks .moveXMinus history) •
        initial.shown.rotation.vector +
      ((clicks .moveYPlus history : R) - clicks .moveYMinus history) •
        initial.shown.rotation.rightVector)

/-- No step is lost: the server's furniture has made all steps and the client shows it there. -/
structure Lands (initial : TransformLink F R) (history : List (TransformLink F R × NudgeEvent))
    (link : TransformLink F R) : Prop where
  stored : link.stored.location = initial.shown.location + path initial history
  shown : link.shown.location = link.stored.location

/-- A nudge starts from where the calls in flight lead. -/
def NudgesFromNewest (link : TransformLink F R) (event : NudgeEvent) : Prop :=
  ∀ handle, event = .nudge handle →
    link.shown.location = link.final.location

variable {initial link : TransformLink F R}

theorem nudged_effect (handle : ManipulatorHandle) (client : LocalWorld F R) :
    GestureEffect client (nudged handle client) := by
  rw [nudged]
  cases result : client.nudgeSelectedFurniture handle with
  | none => exact .refl _
  | some after => exact nudge_effect result

theorem Holding.nudge_wrote (holding : link.Holding) {handle : ManipulatorHandle}
    {step : FVector R} (steps : link.nudgeStep (.nudge handle) = some step) :
    ((nudged handle link.client).furniture link.held).replicatedMovement =
        { link.shown with location := link.shown.location + step } ∧
      (nudged handle link.client).sent = [.dragFurniture (link.shown.location + step)] := by
  obtain ⟨direction, towards, rfl⟩ := Option.map_eq_some_iff.mp steps
  simp [towards, nudged, nudgeSelectedFurniture, holding.selected, holding.flushed,
    holding.remote, shown, call, modify_furniture, replicatedMovement, setActorLocation]

theorem Holding.nudge_idle (holding : link.Holding) {handle : ManipulatorHandle}
    (idle : link.nudgeStep (.nudge handle) = none) : nudged handle link.client = link.client := by
  have undirected := Option.map_eq_none_iff.mp idle
  simp [nudged, nudgeSelectedFurniture, holding.selected, undirected]

theorem Holding.register_nudge (holding : link.Holding) (handle : ManipulatorHandle) :
    (link.act (nudged handle)).register =
      match link.nudgeStep (.nudge handle) with
      | some step => link.register.write ServerCall.transform
          (.dragFurniture (link.shown.location + step))
      | none => link.register := by
  cases steps : link.nudgeStep (.nudge handle) with
  | none =>
      have idle := holding.nudge_idle steps
      exact register_act_kept (by rw [idle]; rfl) (by rw [idle]; exact holding.flushed)
  | some step =>
      obtain ⟨movement, sent⟩ := holding.nudge_wrote steps
      exact register_act_wrote movement sent

/-- The invariant of a run of nudges. -/
structure Nudging (initial link : TransformLink F R) : Prop where
  holding : link.Holding
  coherent : link.register.Coherent ServerCall.transform
  rotation : link.register.Constant ServerCall.transform RepMovement.rotation
    initial.shown.rotation
  playerState : link.client.playerState = initial.client.playerState

omit [DecidableEq F] [EngineMath R] in
theorem Nudging.start (settled : initial.Settled) : Nudging initial initial := by
  refine ⟨settled.holding, settled.coherent, ?_, rfl⟩
  constructor
  · rfl
  · exact congrArg RepMovement.rotation settled.same.symm
  · simp [register, settled.calls]
  · simp [register, settled.updates]

theorem Nudging.next (sound : Nudging initial link) {event : NudgeEvent}
    (enabled : (nudging initial).Enabled link event) :
    Nudging initial ((nudging initial).next link event) := by
  obtain ⟨holding, coherent, rotation, playerState⟩ := sound
  cases event with
  | nudge handle =>
      have gesture := nudged_effect handle link.client
      have effect := holding.gesture_effect gesture
      refine ⟨holding.act effect gesture.frame.hasAuthority ?_, coherent_act coherent effect, ?_,
        gesture.frame.playerState.trans playerState⟩
      · exact gesture.selected.trans holding.selected
      · simp only [nudging, holding.register_nudge handle]
        cases link.nudgeStep (.nudge handle) with
        | none => exact rotation
        | some step => exact rotation.write fun _ => rfl
  | execute =>
      have delivery := holding.delivery_execute answersAlways enabled
      refine ⟨holding.execute answersAlways, coherent.delivery delivery answersAlways_honest,
        rotation.delivery delivery, ?_⟩
      exact (congrArg LocalWorld.playerState (execute_client answersAlways)).trans playerState
  | apply =>
      have delivery := delivery_apply answersAlways enabled
      exact ⟨holding.apply 0, coherent.delivery delivery answersAlways_honest,
        rotation.delivery delivery, (apply_playerState 0).trans playerState⟩

theorem nudging_of_run {history : List (TransformLink F R × NudgeEvent)}
    (run : (nudging initial).Run history link) : Nudging initial link := by
  refine run.invariant ?_ fun before event sound enabled => sound.next enabled
  rintro start ⟨rfl, settled⟩
  exact .start settled

/-- One step moves the end of the calls in flight by its step and its slip. -/
theorem Nudging.final_next (sound : Nudging initial link) {event : NudgeEvent}
    (enabled : (nudging initial).Enabled link event) :
    ((nudging initial).next link event).final.location =
      link.final.location + (link.nudgeStep event).getD 0 + link.slip event := by
  have idle : ∀ after : TransformLink F R, link.nudgeStep event = none →
      after.final = link.final → after.final.location =
        link.final.location + (link.nudgeStep event).getD 0 + link.slip event := by
    intro after noStep same
    rw [same, slip, noStep]
    simp
  cases event with
  | nudge handle =>
      have registered := sound.holding.register_nudge handle
      cases steps : link.nudgeStep (.nudge handle) with
      | none =>
          rw [steps] at registered
          have same := idle (link.act (nudged handle)) steps
            (congrArg (·.final ServerCall.transform) registered)
          rwa [steps] at same
      | some step =>
          rw [steps] at registered
          have moved : (link.act (nudged handle)).final.location =
              link.shown.location + step := by
            rw [final, registered, PredictedRegister.final_write]
            rfl
          simp only [nudging, moved, slip, steps, Option.getD_some, Option.isSome_some, if_true]
          abel
  | execute =>
      exact idle _ rfl (sound.holding.delivery_execute answersAlways enabled).final_eq
  | apply => exact idle _ rfl (delivery_apply answersAlways enabled).final_eq

omit [DecidableEq F] [EngineMath R] in
theorem final_of_calls (calls : link.calls = []) : link.final = link.stored := by
  simp [final, PredictedRegister.final, register, calls]

/-- The calls in flight lead to the start, moved by all steps and all slips. -/
theorem final_eq {history : List (TransformLink F R × NudgeEvent)}
    (run : (nudging initial).Run history link) :
    link.final.location = initial.shown.location + travelled history + slipped history := by
  induction run with
  | @start start started =>
      obtain ⟨rfl, settled⟩ := started
      rw [final_of_calls settled.calls, ← settled.same]
      simp [travelled, slipped]
  | @step history before event earlier enabled induction =>
      rw [(nudging_of_run earlier).final_next enabled, induction]
      simp only [travelled, slipped, List.map_cons, List.sum_cons]
      abel

/-- The step of an arrow handle, in the frame of the furniture. -/
def arrowStep (initial : TransformLink F R) (handle : ManipulatorHandle) : FVector R :=
  match handle with
  | .moveXPlus => initial.client.gridStep • initial.shown.rotation.vector
  | .moveXMinus => initial.client.gridStep • -initial.shown.rotation.vector
  | .moveYPlus => initial.client.gridStep • initial.shown.rotation.rightVector
  | .moveYMinus => initial.client.gridStep • -initial.shown.rotation.rightVector
  | .none => 0
  | .rotate => 0

omit [DecidableEq F] in
theorem Nudging.nudgeStep_eq (sound : Nudging initial link) (handle : ManipulatorHandle) :
    (link.nudgeStep (.nudge handle)).getD 0 = arrowStep initial handle := by
  have rotation : (link.client.furniture link.held).rotation = initial.shown.rotation :=
    sound.rotation.shown
  have gridStep : link.client.gridStep = initial.client.gridStep := by
    rw [LocalWorld.gridStep, LocalWorld.gridStep, sound.playerState]
  cases handle <;> simp [nudgeStep, nudgeDirection, arrowStep, rotation, gridStep]

theorem travelled_eq {history : List (TransformLink F R × NudgeEvent)}
    (run : (nudging initial).Run history link) : travelled history = path initial history := by
  induction run with
  | start => ext <;> simp [travelled, path, clicks]
  | @step history before event earlier enabled induction =>
      have cons : travelled ((before, event) :: history) =
          (before.nudgeStep event).getD 0 + travelled history := by
        simp [travelled]
      rw [cons, induction]
      cases event with
      | nudge handle =>
          rw [(nudging_of_run earlier).nudgeStep_eq]
          cases handle <;> ext <;> simp [arrowStep, path, clicks] <;> ring
      | execute => simp [nudgeStep, path, clicks]
      | apply => simp [nudgeStep, path, clicks]

omit [DecidableEq F] in
/-- Nudges which start where the calls in flight lead do not slip. -/
theorem slipped_eq_zero {history : List (TransformLink F R × NudgeEvent)}
    (guarded : Guarded NudgesFromNewest history) : slipped history = 0 := by
  induction history with
  | nil => rfl
  | cons past history induction =>
      obtain ⟨fromNewest, older⟩ := guarded_cons.mp guarded
      have none : past.1.slip past.2 = 0 := by
        rw [slip]
        split
        · rename_i steps
          cases event : past.2 with
          | nudge handle => rw [fromNewest handle event, sub_self]
          | execute => simp [event, nudgeStep] at steps
          | apply => simp [event, nudgeStep] at steps
        · rfl
      rw [slipped, List.map_cons, List.sum_cons, none, zero_add]
      exact induction older

/-- Once nothing is in flight, no step has been lost if every nudge of the run started where the
calls in flight led, and exactly when what the nudges started away from there adds up to nothing. -/
theorem lands_iff_slipped {history : List (TransformLink F R × NudgeEvent)}
    (run : (nudging initial).Run history link) (calls : link.calls = [])
    (updates : link.updates = []) :
    (Guarded NudgesFromNewest history → Lands initial history link) ∧
      (Lands initial history link ↔ slipped history = 0) := by
  have agreed : link.shown = link.stored :=
    (PredictedRegister.coherent_iff_settled calls updates).mp (nudging_of_run run).coherent
  have final : link.stored.location =
      initial.shown.location + path initial history + slipped history := by
    rw [← travelled_eq run, ← final_eq run, final_of_calls calls]
  have lands : Lands initial history link ↔ slipped history = 0 := by
    constructor
    · intro landed
      have stored := landed.stored
      rw [final] at stored
      exact add_eq_left.mp stored
    · intro cancelled
      refine ⟨?_, congrArg RepMovement.location agreed⟩
      rw [final, cancelled, add_zero]
  exact ⟨fun guarded => lands.mpr (slipped_eq_zero guarded), lands⟩

section ThreeNudges

local instance nudgeMath : EngineMath ℚ := quarterTurnMath

/-- Two nudges before anything arrives. -/
theorem lands_iff_slipped_two_nudges :
    ∃ (history : List (TransformLink Nat ℚ × NudgeEvent)) (link : TransformLink Nat ℚ),
      history.length = 6 ∧ Lands chair history link := by
  have legal : (nudging chair).Legal chair
      [.nudge .moveXPlus, .nudge .moveYMinus, .execute, .execute, .apply, .apply] :=
    ⟨trivial, trivial, List.cons_ne_nil _ _, List.cons_ne_nil _ _, List.cons_ne_nil _ _,
      List.cons_ne_nil _ _, trivial⟩
  have start : (nudging chair).Run [] chair := .start ⟨rfl, chair_settled⟩
  refine ⟨_, _, rfl, (lands_iff_slipped (start.replay legal) rfl rfl).1 ?_⟩
  have first : NudgesFromNewest chair (.nudge .moveXPlus) := fun _ _ => rfl
  have second : NudgesFromNewest (chair.act (nudged .moveXPlus)) (.nudge .moveYMinus) :=
    fun _ _ => rfl
  simp only [record, guarded_cons, guarded_nil, and_true]
  refine ⟨?_, ?_, ?_, ?_, second, first⟩ <;> simp [NudgesFromNewest]

/-- Three nudges, the update of the first arriving before the third: the second step is lost. -/
theorem stale_update_swallows_step :
    ¬∀ (history : List (TransformLink Nat ℚ × NudgeEvent)) (link : TransformLink Nat ℚ),
      (nudging chair).Run history link → link.calls = [] → link.updates = [] →
      Lands chair history link := by
  intro claim
  have legal : (nudging chair).Legal chair
      [.nudge .moveXPlus, .nudge .moveXPlus, .execute, .apply, .nudge .moveXPlus, .execute,
        .execute, .apply, .apply] :=
    ⟨trivial, trivial, List.cons_ne_nil _ _, List.cons_ne_nil _ _, trivial,
      List.cons_ne_nil _ _, List.cons_ne_nil _ _, List.cons_ne_nil _ _, List.cons_ne_nil _ _,
      trivial⟩
  have start : (nudging chair).Run [] chair := .start ⟨rfl, chair_settled⟩
  have lands := claim _ _ (start.replay legal) rfl rfl
  exact absurd (congrArg (·.x) lands.stored) (by decide +kernel)

end ThreeNudges

end TransformLink

end Ioroom
