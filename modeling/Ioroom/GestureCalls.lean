import Ioroom.GestureMachine

/-!
# The calls of one gesture

`handle_calls` lists which calls the handler of an event makes in which state of the left button.
From one press of the button to the next all calls are therefore of one kind: one selection, one
nudge, or any number of drags, of rotations or of orbits.
-/

namespace Ioroom

open LocalWorld

/-- What a call is about. -/
inductive CallKind
  | selection
  | drag
  | rotation
  | orbit
deriving DecidableEq, Repr

def ServerCall.kind {F R : Type*} : ServerCall F R → CallKind
  | .selectFurniture _ | .deselectFurniture => .selection
  | .dragFurniture _ => .drag
  | .rotateFurniture _ => .rotation
  | .orbitTransform _ _ => .orbit

/-- What the handler of an event can do to the state of the left button, and the calls which it
makes. -/
inductive CallStep {F R : Type*} :
    PawnEvent F R → LMBState → LMBState → List (ServerCall F R) → Prop
  | keep (event : PawnEvent F R) (state : LMBState) (continues : event.endsGesture = false) :
      CallStep event state state []
  | nudge (view : PlayerView F R) (state : LMBState) (newLocation : FVector R) :
      CallStep (.leftClicking (some view)) state state [.dragFurniture newLocation]
  | press (view : PlayerView F R) (before after : LMBState)
      (begun : after = .pressed ∨ after = .rotating) :
      CallStep (.leftClicking (some view)) before after []
  | begin (view : PlayerView F R) (after : LMBState)
      (begun : after = .dragging ∨ after = .orbiting) :
      CallStep (.leftClickingHeld (some view)) .pressed after []
  | drag (view : PlayerView F R) (newLocation : FVector R) :
      CallStep (.leftClickingHeld (some view)) .dragging .dragging [.dragFurniture newLocation]
  | rotate (view : PlayerView F R) (newRotation : FRotator R) :
      CallStep (.leftClickingHeld (some view)) .rotating .rotating [.rotateFurniture newRotation]
  | orbit (view : PlayerView F R) (newLocation : FVector R) (newRotation : FRotator R) :
      CallStep (.leftClickingHeld (some view)) .orbiting .orbiting
        [.orbitTransform newLocation newRotation]
  | select (spawned : Bool) (target : F) :
      CallStep (.leftClickingReleased spawned) .pressed .idle [.selectFurniture (some target)]
  | deselect (spawned : Bool) :
      CallStep (.leftClickingReleased spawned) .pressed .idle [.deselectFurniture]
  | finish (event : PawnEvent F R) (state : LMBState) (ends : event.endsGesture = true) :
      CallStep event state .idle []

namespace LocalWorld

variable {F R : Type*} [DecidableEq F] [Field R]

/-- A client's copy of the pawn, which has sent nothing yet. -/
def asClient (world : LocalWorld F R) : LocalWorld F R :=
  { world with hasAuthority := false, sent := [] }

theorem call_client {world : LocalWorld F R} (remote : world.hasAuthority = false)
    (serverCall : ServerCall F R) :
    world.call serverCall = { world with sent := world.sent ++ [serverCall] } := by
  simp [call, remote]

theorem call_sent_client {world : LocalWorld F R} (remote : world.hasAuthority = false)
    (serverCall : ServerCall F R) : (world.call serverCall).sent = world.sent ++ [serverCall] := by
  rw [call_client remote]

variable [LinearOrder R] [FloorRing R] [EngineMath R]

theorem calls_eq (event : PawnEvent F R) (world : LocalWorld F R) :
    world.calls event = (world.asClient.handle event).sent := rfl

theorem leftClicking_calls (playerController : Option (PlayerView F R)) (world : LocalWorld F R) :
    CallStep (.leftClicking playerController) world.pawn.leftClickState
      (world.leftClicking playerController).pawn.leftClickState
      (world.calls (.leftClicking playerController)) := by
  rw [calls_eq, handle]
  cases playerController with
  | none =>
      have still : ∀ before : LocalWorld F R, before.leftClicking none = before := by
        simp [leftClicking]
      rw [still, still]
      exact .keep _ _ rfl
  | some view =>
      cases active : world.pawn.bCameraControlActive with
      | true =>
          simp only [leftClicking, asClient, active, if_true]
          exact .keep _ _ rfl
      | false =>
        simp only [leftClicking, asClient, active, Bool.false_eq_true, if_false, clickManipulator]
        split
        · rename_i manipulator selected component _ _ _
          split
          · simp only [Option.getD_some, grabRing]
            split
            · exact .keep _ _ rfl
            · exact .press view _ _ (Or.inr rfl)
          · simp only [nudgeSelectedFurniture]
            split
            · exact .press view _ _ (Or.inl rfl)
            · rename_i held holds
              split
              · exact .press view _ _ (Or.inl rfl)
              · rename_i direction _
                simp only [Option.getD_some]
                have pawn := move_pawn held (.dragFurniture ((world.furniture held).location +
                  world.gridStep • direction)) rfl holds
                simp only [ServerCall.move] at pawn
                rw [pawn]
                exact .nudge view _ _
        · exact .press view _ _ (Or.inl rfl)

theorem leftClickingHeld_calls (playerController : Option (PlayerView F R))
    (world : LocalWorld F R) :
    CallStep (.leftClickingHeld playerController) world.pawn.leftClickState
      (world.leftClickingHeld playerController).pawn.leftClickState
      (world.calls (.leftClickingHeld playerController)) := by
  rw [calls_eq, handle]
  cases playerController with
  | none => exact .keep _ _ rfl
  | some view =>
      simp only [leftClickingHeld, asClient]
      cases state : world.pawn.leftClickState with
      | idle =>
          rw [state]
          exact .keep _ _ rfl
      | pressed =>
          simp only [heldPressed]
          split
          · split
            · split
              · simp only [beginDrag]
                split
                · rw [state]
                  exact .keep _ _ rfl
                · exact .begin view _ (Or.inl rfl)
              · exact .begin view _ (Or.inr rfl)
            · exact .begin view _ (Or.inr rfl)
          · rw [state]
            exact .keep _ _ rfl
      | rotating =>
          rw [handleRotate_pawn, state]
          rcases handleRotate_cases view world.asClient with same | ⟨held, newRotation, _, turned⟩
          · rw [asClient] at same
            rw [same]
            exact .keep _ _ rfl
          · rw [asClient] at turned
            rw [turned, call_sent_client (by rfl)]
            exact .rotate view newRotation
      | orbiting =>
          have control := congrArg PawnControl.leftClickState
            (handleOrbit_control view.mousePosition world).1
          change (world.handleOrbit view.mousePosition).pawn.leftClickState = _ at control
          rw [control, DesktopPawn.control, state, handleOrbit, call_sent_client (by rfl)]
          exact .orbit view _ _
      | dragging =>
          have control := congrArg PawnControl.leftClickState (handleDrag_control view world).1
          change (world.handleDrag view).pawn.leftClickState = _ at control
          rw [control, DesktopPawn.control, state]
          rcases handleDrag_cases view world.asClient with same |
            ⟨held, newLocation, dragOffset, _, moved⟩
          · rw [asClient] at same
            rw [same]
            exact .keep _ _ rfl
          · rw [asClient] at moved
            rw [moved, call_sent_client (by rfl)]
            exact .drag view newLocation

theorem leftClickingReleased_calls (spawned : Bool) (world : LocalWorld F R) :
    CallStep (.leftClickingReleased spawned) world.pawn.leftClickState .idle
      (world.calls (.leftClickingReleased spawned)) := by
  rw [calls_eq, handle]
  by_cases state : world.pawn.leftClickState = .pressed
  · rw [state]
    cases press : world.pawn.pressedFurniture with
    | some pressed =>
        simp only [leftClickingReleased, asClient, state, press, selectPressed, modify_sent]
        rw [call_sent_client (by rfl)]
        exact .select spawned pressed
    | none =>
        cases holds : world.pawn.selectedFurniture with
        | some held =>
            simp only [leftClickingReleased, asClient, state, press, deselectOnEmpty, holds,
              Option.isSome_some, if_true]
            rw [call_sent_client (by rfl)]
            exact .deselect spawned
        | none =>
            simp only [leftClickingReleased, asClient, state, press, deselectOnEmpty, holds,
              Option.isSome_none, Bool.false_eq_true, if_false]
            exact .finish _ _ rfl
  · have silent : (world.asClient.leftClickingReleased spawned).sent = [] := by
      simp only [leftClickingReleased]
      split
      · rename_i pressed _
        exact absurd pressed state
      · rename_i pressed _
        exact absurd pressed state
      · rfl
    rw [silent]
    exact .finish _ _ rfl

/-- Which calls an input handler makes, and what it does to the state of the left button. -/
theorem handle_calls (event : PawnEvent F R) (world : LocalWorld F R) :
    CallStep event world.pawn.leftClickState (world.handle event).pawn.leftClickState
      (world.calls event) := by
  cases event with
  | leftClicking playerController => exact leftClicking_calls playerController world
  | leftClickingHeld playerController => exact leftClickingHeld_calls playerController world
  | leftClickingReleased spawned => exact leftClickingReleased_calls spawned world
  | panStarted => exact .finish _ _ rfl
  | panStopped => exact .keep _ _ rfl
  | cameraControlStarted playerController => cases playerController <;> exact .keep _ _ rfl
  | cameraControlStopped playerController => cases playerController <;> exact .keep _ _ rfl
  | tick playerController =>
      have control := congrArg PawnControl.leftClickState (tick_control playerController world).1
      change (world.tick playerController).pawn.leftClickState = _ at control
      have sent := (tick_overlays playerController world.asClient).sent
      simp only [calls_eq, handle, sent, control]
      exact .keep _ _ rfl

end LocalWorld

/-- The calls are of one kind, and a selection is the only call. -/
structure OneKind {F R : Type*} (calls : List (ServerCall F R)) : Prop where
  kind : ∃ kind, ∀ serverCall ∈ calls, serverCall.kind = kind
  once : ∀ serverCall ∈ calls, serverCall.kind = .selection → calls = [serverCall]

/-- The calls which the current gesture has made fit the state of the left button. -/
def FitsState {F R : Type*} (calls : List (ServerCall F R)) : LMBState → Prop
  | .idle => OneKind calls
  | .pressed => calls = []
  | .dragging => ∀ serverCall ∈ calls, serverCall.kind = .drag
  | .rotating => ∀ serverCall ∈ calls, serverCall.kind = .rotation
  | .orbiting => ∀ serverCall ∈ calls, serverCall.kind = .orbit

section FitsState

variable {F R : Type*} {calls made : List (ServerCall F R)} {event : PawnEvent F R}
  {before after : LMBState}

theorem OneKind.nil : OneKind ([] : List (ServerCall F R)) := ⟨⟨.drag, by simp⟩, by simp⟩

theorem OneKind.single (serverCall : ServerCall F R) : OneKind [serverCall] :=
  ⟨⟨serverCall.kind, by simp⟩, by simp⟩

theorem OneKind.many {kind : CallKind} (same : ∀ serverCall ∈ calls, serverCall.kind = kind)
    (transform : kind ≠ .selection) : OneKind calls := by
  refine ⟨⟨kind, same⟩, fun serverCall member selection => ?_⟩
  rw [same serverCall member] at selection
  exact absurd selection transform

/-- Whatever the state, the calls made so far are of one kind. -/
theorem FitsState.oneKind (fits : FitsState calls before) : OneKind calls := by
  cases before with
  | idle => exact fits
  | pressed =>
      rw [fits]
      exact .nil
  | dragging => exact .many fits (by decide)
  | rotating => exact .many fits (by decide)
  | orbiting => exact .many fits (by decide)

theorem fitsState_nil (state : LMBState) : FitsState ([] : List (ServerCall F R)) state := by
  cases state with
  | idle => exact .nil
  | pressed => rfl
  | dragging => simp [FitsState]
  | rotating => simp [FitsState]
  | orbiting => simp [FitsState]

theorem CallStep.fits_press {playerController : Option (PlayerView F R)}
    (step : CallStep (.leftClicking playerController) before after made) (idle : before = .idle) :
    FitsState made after := by
  cases step with
  | keep _ _ continues => exact fitsState_nil _
  | nudge view _ newLocation =>
      rw [idle]
      exact OneKind.single _
  | press view _ _ begun => exact fitsState_nil _
  | finish _ _ ends => exact fitsState_nil _

theorem CallStep.fits_continue (step : CallStep event before after made)
    (noPress : ∀ playerController, event ≠ .leftClicking playerController)
    (fits : FitsState calls before) : FitsState (calls ++ made) after := by
  cases step with
  | keep _ _ continues => simpa using fits
  | nudge view _ newLocation => exact absurd rfl (noPress (some view))
  | press view _ _ begun => exact absurd rfl (noPress (some view))
  | begin view _ begun =>
      have silent : calls = [] := fits
      rw [silent]
      exact fitsState_nil _
  | drag view newLocation =>
      intro serverCall member
      rcases List.mem_append.mp member with earlier | newest
      · exact fits serverCall earlier
      · rw [List.mem_singleton.mp newest, ServerCall.kind]
  | rotate view newRotation =>
      intro serverCall member
      rcases List.mem_append.mp member with earlier | newest
      · exact fits serverCall earlier
      · rw [List.mem_singleton.mp newest, ServerCall.kind]
  | orbit view newLocation newRotation =>
      intro serverCall member
      rcases List.mem_append.mp member with earlier | newest
      · exact fits serverCall earlier
      · rw [List.mem_singleton.mp newest, ServerCall.kind]
  | select spawned target =>
      have silent : calls = [] := fits
      rw [silent]
      exact OneKind.single _
  | deselect spawned =>
      have silent : calls = [] := fits
      rw [silent]
      exact OneKind.single _
  | finish _ _ ends =>
      rw [List.append_nil]
      exact fits.oneKind

end FitsState

namespace PawnInput

variable {F R : Type*} [DecidableEq F] [Field R] [LinearOrder R] [FloorRing R] [EngineMath R]
  {input : PawnInput F R} {history : List (PawnInput F R × InputEvent F R)}

/-- The calls made since the left button was last pressed, oldest first. -/
def gestureCalls : List (PawnInput F R × InputEvent F R) → List (ServerCall F R)
  | [] => []
  | (_, .outside _ _ _ _) :: older => gestureCalls older
  | (input, .handler (.leftClicking playerController)) :: _ =>
      input.world.calls (.leftClicking playerController)
  | (input, .handler event) :: older => gestureCalls older ++ input.world.calls event

theorem gestureCalls_handler {event : PawnEvent F R}
    (noPress : ∀ playerController, event ≠ .leftClicking playerController) :
    gestureCalls ((input, .handler event) :: history) =
      gestureCalls history ++ input.world.calls event := by
  cases event with
  | leftClicking playerController => exact absurd rfl (noPress playerController)
  | leftClickingHeld playerController => rfl
  | leftClickingReleased spawned => rfl
  | panStarted => rfl
  | panStopped => rfl
  | cameraControlStarted playerController => rfl
  | cameraControlStopped playerController => rfl
  | tick playerController => rfl

/-- The calls of a gesture fit the state of the left button. -/
theorem run_fits (run : (runs HeldButtons.LeftCycles).Run history input) :
    FitsState (gestureCalls history) input.world.pawn.leftClickState := by
  induction run with
  | start => exact fitsState_nil _
  | @step history input event earlier enabled fits =>
      cases event with
      | outside furniture playerState location controlRotation => exact fits
      | handler event =>
          have step := handle_calls event input.world
          by_cases press : ∃ playerController, event = .leftClicking playerController
          · obtain ⟨playerController, rfl⟩ := press
            obtain ⟨gesture, _, shown⟩ := exists_gesture earlier
            exact step.fits_press (shown.idle enabled)
          · have noPress := not_exists.mp press
            rw [gestureCalls_handler noPress]
            exact step.fits_continue noPress fits

/-- All calls from one press of the left button to the next are of one kind, the kind of the gesture
while it lasts, and a selection is the only one of them. -/
theorem gestureCalls_oneKind (run : (runs HeldButtons.LeftCycles).Run history input) :
    OneKind (gestureCalls history) ∧
      FitsState (gestureCalls history) input.world.pawn.leftClickState :=
  ⟨(run_fits run).oneKind, run_fits run⟩

section Click

local instance clickMath : EngineMath ℚ := quarterTurnMath

/-- A press on furniture 5, which ends where it began. -/
def clickOnFive : List (InputEvent Nat ℚ) :=
  [.handler (.leftClicking (some (.overhead none (some 5)))),
    .handler (.leftClickingHeld (some (.overhead none (some 5)))),
    .handler (.leftClickingReleased true), .handler (.tick none)]

/-- A click makes no call but its selection. -/
theorem gestureCalls_oneKind_click :
    let calls := gestureCalls ((runs HeldButtons.LeftCycles).record [] (atOrigin Nat ℚ) clickOnFive)
    calls = [.selectFurniture (some 5)] ∧ OneKind calls := by
  have legal : (runs HeldButtons.LeftCycles).Legal (atOrigin Nat ℚ) clickOnFive :=
    ⟨rfl, rfl, rfl, trivial, trivial⟩
  exact ⟨by decide +kernel,
    (gestureCalls_oneKind ((run_atOrigin HeldButtons.LeftCycles).replay legal)).1⟩

end Click

end PawnInput

end Ioroom
