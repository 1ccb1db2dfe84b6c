import Ioroom.PawnInput

/-!
# Camera control and the left button

Panning and looking around share one flag, which shuts the left button and hides the cursor.
Starting to pan also cancels whatever gesture is in progress, and nothing of it is left to act.
-/

namespace Ioroom

namespace PawnInput

open EventSystem LocalWorld

variable {F R : Type*} [DecidableEq F] [Field R] [LinearOrder R] [FloorRing R] [EngineMath R]
  {history : List (PawnInput F R × InputEvent F R)} {input : PawnInput F R}

/-- The pan button or the look button is held. -/
def HoldsCamera (buttons : HeldButtons) : Prop := buttons.pan = true ∨ buttons.look = true

/-- The camera-control flag is set exactly while a camera button is held, and while one is held no
press of the left button does anything and no tick shows the cursor. -/
structure ReflectsButtons (input : PawnInput F R) : Prop where
  flag : input.world.pawn.bCameraControlActive = true ↔ HoldsCamera input.buttons
  leftClicking : HoldsCamera input.buttons →
    ∀ playerController, input.world.leftClicking playerController = input.world
  tick : HoldsCamera input.buttons →
    ∀ view, (input.world.tick (some view)).pawn.bShowMouseCursor = false

/-- A camera button is released while the other one is still held. -/
def StopsWhileOtherHeld (input : PawnInput F R) : InputEvent F R → Prop
  | .handler .panStopped => input.buttons.look = true
  | .handler (.cameraControlStopped _) => input.buttons.pan = true
  | _ => False

omit [FloorRing R] in
theorem leftClicking_rejected {world : LocalWorld F R}
    (active : world.pawn.bCameraControlActive = true)
    (playerController : Option (PlayerView F R)) :
    world.leftClicking playerController = world := by
  simp [LocalWorld.leftClicking, active]

omit [FloorRing R] in
theorem reflectsButtons_of_flag
    (flag : input.world.pawn.bCameraControlActive = true ↔ HoldsCamera input.buttons) :
    input.ReflectsButtons :=
  ⟨flag, fun holds => leftClicking_rejected (flag.mpr holds),
    fun holds => tick_hides_cursor (flag.mpr holds)⟩

/-- As long as no button is released while the other one is held, the flag follows the buttons. -/
theorem ReflectsButtons.next (reflects : input.ReflectsButtons) {event : InputEvent F R}
    (enabled : (runs HeldButtons.CameraButtonsAlternate).Enabled input event)
    (alone : ¬input.StopsWhileOtherHeld event) : (input.next event).ReflectsButtons := by
  refine reflectsButtons_of_flag ?_
  have flag := reflects.flag
  cases event with
  | outside furniture playerState location controlRotation => exact flag
  | handler event =>
      simp only [PawnInput.next, handle_cameraControl]
      cases event with
      | leftClicking playerController => exact flag
      | leftClickingHeld playerController => exact flag
      | leftClickingReleased spawned => exact flag
      | tick playerController => exact flag
      | panStarted => simp [PawnEvent.cameraControl, HoldsCamera, HeldButtons.after]
      | panStopped =>
          have look : input.buttons.look = false := by simpa [StopsWhileOtherHeld] using alone
          simp [PawnEvent.cameraControl, HoldsCamera, HeldButtons.after, look]
      | cameraControlStarted playerController =>
          obtain ⟨present, _⟩ := enabled
          simp [PawnEvent.cameraControl, HoldsCamera, HeldButtons.after, present]
      | cameraControlStopped playerController =>
          obtain ⟨present, _⟩ := enabled
          have pan : input.buttons.pan = false := by simpa [StopsWhileOtherHeld] using alone
          simp [PawnEvent.cameraControl, HoldsCamera, HeldButtons.after, present, pan]

/-- Releasing one button while the other one is held clears the flag all the same. -/
theorem not_reflectsButtons_stop {event : InputEvent F R}
    (enabled : (runs HeldButtons.CameraButtonsAlternate).Enabled input event)
    (overlap : input.StopsWhileOtherHeld event) : ¬(input.next event).ReflectsButtons := by
  intro reflects
  have flag := reflects.flag
  match event, overlap with
  | .handler .panStopped, look =>
      have held : HoldsCamera (input.buttons.after (.panStopped : PawnEvent F R)) := Or.inr look
      simpa [PawnInput.next, handle_cameraControl, PawnEvent.cameraControl] using flag.mpr held
  | .handler (.cameraControlStopped playerController), pan =>
      obtain ⟨present, _⟩ := enabled
      have held : HoldsCamera
          (input.buttons.after (.cameraControlStopped playerController : PawnEvent F R)) :=
        Or.inl pan
      simpa [PawnInput.next, handle_cameraControl, PawnEvent.cameraControl, present] using
        flag.mpr held

/-- The camera-control flag reflects both buttons, all along a run in which either button's starts
and stops alternate, if and only if neither was ever released while the other was held. -/
theorem reflectsButtons_iff_noStopWhileOtherHeld
    (run : (runs HeldButtons.CameraButtonsAlternate).Run history input) :
    Along ReflectsButtons history input ↔
      Guarded (fun input event => ¬StopsWhileOtherHeld input event) history := by
  refine run.along_iff_guarded ?_ (fun _ reflects => reflects)
    (fun _ _ reflects enabled alone => ReflectsButtons.next reflects enabled alone)
    (fun _ _ _ enabled overlap => not_reflectsButtons_stop enabled (not_not.mp overlap))
  rintro initial ⟨fresh, released⟩
  refine reflectsButtons_of_flag ?_
  simp [fresh.bCameraControlActive, released, HoldsCamera]

section OverlappingHolds

local instance overlappingHoldsMath : EngineMath ℚ := quarterTurnMath

/-- Panning and then looking around, one after the other. -/
theorem reflectsButtons_iff_noStopWhileOtherHeld_apart :
    ((runs HeldButtons.CameraButtonsAlternate).replay (atOrigin Nat ℚ)
      [.handler .panStarted, .handler .panStopped,
        .handler (.cameraControlStarted true)]).ReflectsButtons := by
  have legal : (runs HeldButtons.CameraButtonsAlternate).Legal (atOrigin Nat ℚ)
      [.handler .panStarted, .handler .panStopped, .handler (.cameraControlStarted true)] :=
    ⟨rfl, rfl, ⟨rfl, rfl⟩, trivial⟩
  have run := (run_atOrigin HeldButtons.CameraButtonsAlternate).replay legal
  refine ((reflectsButtons_iff_noStopWhileOtherHeld run).mpr ?_).1
  refine guarded_cons.mpr ⟨id, guarded_cons.mpr ⟨?_, guarded_cons.mpr ⟨id, guarded_nil _⟩⟩⟩
  exact Bool.false_ne_true

/-- Releasing the pan button while looking around lets the next press through. -/
theorem pan_released_while_looking :
    ∃ (history : List (PawnInput Nat ℚ × InputEvent Nat ℚ)) (input : PawnInput Nat ℚ),
      (runs HeldButtons.CameraButtonsAlternate).Run history input ∧
        input.buttons.look = true ∧ input.world.pawn.bCameraControlActive = false ∧
        (input.world.leftClicking (some (.overhead none none))).pawn.leftClickState = .pressed ∧
        ¬input.ReflectsButtons := by
  have legal : (runs HeldButtons.CameraButtonsAlternate).Legal (atOrigin Nat ℚ)
      [.handler .panStarted, .handler (.cameraControlStarted true), .handler .panStopped] :=
    ⟨rfl, ⟨rfl, rfl⟩, rfl, trivial⟩
  refine ⟨_, _, (run_atOrigin HeldButtons.CameraButtonsAlternate).replay legal, rfl, rfl, rfl, ?_⟩
  intro reflects
  exact absurd (reflects.flag.mpr (Or.inr rfl)) Bool.false_ne_true

end OverlappingHolds

/-- What may follow a pan which begins in a given state: anything, but a press of the left button
only while it is rejected. -/
def afterPanStarted (before : PawnInput F R) : EventSystem (PawnInput F R) (InputEvent F R) where
  Start input := input = before.next (.handler .panStarted)
  Enabled input
    | .handler (.leftClicking _) => input.world.pawn.bCameraControlActive = true
    | _ => True
  next := next

/-- The three handlers of the left button. -/
def IsLeftButton : PawnEvent F R → Prop
  | .leftClicking _ | .leftClickingHeld _ | .leftClickingReleased _ => True
  | .panStarted | .panStopped | .cameraControlStarted _ | .cameraControlStopped _ | .tick _ => False

/-- Nothing of a gesture is left. -/
structure Cancelled (control : PawnControl F) : Prop where
  leftClickState : control.leftClickState = .idle
  pressedFurniture : control.pressedFurniture = none

theorem handle_cancelled {world : LocalWorld F R} (cancelled : Cancelled world.pawn.control)
    (event : PawnEvent F R) (left : IsLeftButton event)
    (rejected : ∀ playerController, event = .leftClicking playerController →
      world.pawn.bCameraControlActive = true) : world.handle event = world := by
  have state : world.pawn.leftClickState = .idle := cancelled.leftClickState
  have press : world.pawn.pressedFurniture = none := cancelled.pressedFurniture
  match event, left with
  | .leftClicking playerController, _ =>
      exact leftClicking_rejected (rejected playerController rfl) playerController
  | .leftClickingHeld playerController, _ =>
      cases playerController <;> simp [handle, leftClickingHeld, state]
  | .leftClickingReleased spawned, _ =>
      obtain ⟨hasAuthority, furniture, pawn, playerState, sent⟩ := world
      obtain ⟨⟩ := pawn
      simp_all [handle, leftClickingReleased]

/-- Whatever may follow a cancelled gesture leaves it cancelled and says nothing to the server. -/
theorem Cancelled.handle {world : LocalWorld F R} (cancelled : Cancelled world.pawn.control)
    (event : PawnEvent F R)
    (rejected : ∀ playerController, event = .leftClicking playerController →
      world.pawn.bCameraControlActive = true) :
    (world.handle event).pawn.control = world.pawn.control ∧
      (world.handle event).sent = world.sent := by
  cases event with
  | leftClicking playerController =>
      rw [handle_cancelled cancelled (.leftClicking playerController) trivial rejected]
      exact ⟨rfl, rfl⟩
  | leftClickingHeld playerController =>
      rw [handle_cancelled cancelled (.leftClickingHeld playerController) trivial rejected]
      exact ⟨rfl, rfl⟩
  | leftClickingReleased spawned =>
      rw [handle_cancelled cancelled (.leftClickingReleased spawned) trivial rejected]
      exact ⟨rfl, rfl⟩
  | panStarted =>
      have state := cancelled.leftClickState.symm
      exact ⟨PawnControl.ext state cancelled.pressedFurniture.symm rfl rfl rfl, rfl⟩
  | panStopped => exact ⟨rfl, rfl⟩
  | cameraControlStarted playerController => cases playerController <;> exact ⟨rfl, rfl⟩
  | cameraControlStopped playerController => cases playerController <;> exact ⟨rfl, rfl⟩
  | tick playerController =>
      exact ⟨(tick_control playerController world).1, (tick_overlays playerController world).sent⟩

theorem Cancelled.calls {world : LocalWorld F R} (cancelled : Cancelled world.pawn.control)
    (event : PawnEvent F R)
    (rejected : ∀ playerController, event = .leftClicking playerController →
      world.pawn.bCameraControlActive = true) : world.calls event = [] := by
  have copied : Cancelled
      ({ world with hasAuthority := false, sent := [] } : LocalWorld F R).pawn.control := cancelled
  exact (copied.handle event rejected).2

/-- The control state and the calls in flight stay what the start of the pan left. -/
structure SinceCancelled (before input : PawnInput F R) : Prop where
  cancelled : Cancelled input.world.pawn.control
  selected : input.world.pawn.selectedFurniture = before.world.pawn.selectedFurniture
  manipulator : input.world.pawn.control.manipulator = before.world.pawn.control.manipulator
  sent : input.world.sent = before.world.sent

theorem SinceCancelled.next {before : PawnInput F R} (since : SinceCancelled before input)
    {event : InputEvent F R} (enabled : (afterPanStarted before).Enabled input event) :
    SinceCancelled before (input.next event) := by
  cases event with
  | outside furniture playerState location controlRotation =>
      exact ⟨since.cancelled, since.selected, since.manipulator, since.sent⟩
  | handler event =>
      obtain ⟨control, sent⟩ := since.cancelled.handle event (by
        rintro playerController rfl
        exact enabled)
      refine ⟨?_, ?_, ?_, sent.trans since.sent⟩
      · rw [PawnInput.next, control]
        exact since.cancelled
      · exact (congrArg PawnControl.selectedFurniture control).trans since.selected
      · exact (congrArg PawnControl.manipulator control).trans since.manipulator

/-- A gesture cancelled by panning stays cancelled: whatever follows, the left button stays idle,
the selection and the manipulator stay what they were, no call is made, and the handlers of the
left button do nothing at all. -/
theorem cancelledGesture_inert (before : PawnInput F R)
    (run : (afterPanStarted before).Run history input) :
    input.world.pawn.leftClickState = .idle ∧
    input.world.pawn.selectedFurniture = before.world.pawn.selectedFurniture ∧
    input.world.pawn.control.manipulator = before.world.pawn.control.manipulator ∧
    input.world.sent = before.world.sent ∧
    ∀ past event, (past, InputEvent.handler event) ∈ history →
      past.world.calls event = [] ∧
        (IsLeftButton event → past.world.handle event = past.world) := by
  have start : ∀ initial, (afterPanStarted before).Start initial →
      SinceCancelled before initial := by
    rintro initial rfl
    exact ⟨⟨rfl, rfl⟩, rfl, rfl, rfl⟩
  have step : ∀ current event, SinceCancelled before current →
      (afterPanStarted before).Enabled current event →
      SinceCancelled before ((afterPanStarted before).next current event) :=
    fun _ _ since enabled => since.next enabled
  have since := run.invariant start step
  have inert : Guarded (fun past event => ∀ handled, event = .handler handled →
      past.world.calls handled = [] ∧
        (IsLeftButton handled → past.world.handle handled = past.world)) history := by
    refine run.guarded_of_invariant start step ?_
    rintro past _ since enabled event rfl
    have rejected : ∀ playerController, event = .leftClicking playerController →
        past.world.pawn.bCameraControlActive = true := by
      rintro playerController rfl
      exact enabled
    exact ⟨since.cancelled.calls event rejected, fun left =>
      handle_cancelled since.cancelled event left rejected⟩
  exact ⟨since.cancelled.leftClickState, since.selected, since.manipulator, since.sent,
    fun past event member => inert _ member event rfl⟩

section CancelledDrag

local instance cancelledDragMath : EngineMath ℚ := quarterTurnMath

/-- A pawn which drags furniture 5. -/
def draggingFive : PawnInput Nat ℚ where
  world :=
    { (atOrigin Nat ℚ).world with
      pawn :=
        { DesktopPawn.spawn 0 with
          pressedFurniture := some 5
          selectedFurniture := some 5
          leftClickState := .dragging } }
  buttons := { left := true }

/-- The button is held and released after a pan began. -/
def heldOn : List (InputEvent Nat ℚ) :=
  [.handler (.leftClickingHeld (some (.overhead none (some 7)))), .handler .panStopped,
    .handler (.leftClickingReleased true)]

/-- Holding and releasing the button after a pan began neither drags nor selects. -/
theorem cancelledGesture_inert_drag :
    let input := (afterPanStarted draggingFive).replay
      (draggingFive.next (.handler .panStarted)) heldOn
    input.world.pawn.leftClickState = .idle ∧ input.world.pawn.selectedFurniture = some 5 ∧
      input.world.sent = [] := by
  have legal : (afterPanStarted draggingFive).Legal (draggingFive.next (.handler .panStarted))
      heldOn := ⟨trivial, trivial, trivial, trivial⟩
  have start : (afterPanStarted draggingFive).Run []
      (draggingFive.next (.handler .panStarted)) := .start rfl
  obtain ⟨idle, selected, _, sent, _⟩ :=
    cancelledGesture_inert draggingFive (start.replay legal)
  exact ⟨idle, selected, sent⟩

end CancelledDrag

end PawnInput

end Ioroom
