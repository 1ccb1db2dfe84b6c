import Ioroom.HandlerEffects

/-!
# The control state of a pawn

The fields which decide what the left button does next.  `handle_control` lists what a handler
can do to them, `handle_cameraControl` what it does to the camera-control flag.
-/

namespace Ioroom

/-- The pawn fields which the left-button handlers share.  Of the manipulator it keeps the furniture
it is attached to and whether it is hidden. -/
@[ext]
structure PawnControl (F : Type*) where
  leftClickState : LMBState
  pressedFurniture : Option F
  selectedFurniture : Option F
  furnitureManipulatorClass : Bool
  manipulator : Option (Option F × Bool)

def DesktopPawn.control {F R : Type*} (pawn : DesktopPawn F R) : PawnControl F where
  leftClickState := pawn.leftClickState
  pressedFurniture := pawn.pressedFurniture
  selectedFurniture := pawn.selectedFurniture
  furnitureManipulatorClass := pawn.furnitureManipulatorClass
  manipulator := pawn.activeManipulator.map fun manipulator =>
    (manipulator.attachedTo, manipulator.hiddenInGame)

/-- The two events which end every gesture. -/
def PawnEvent.endsGesture {F R : Type*} : PawnEvent F R → Bool
  | .leftClickingReleased _ => true
  | .panStarted => true
  | .leftClicking _ | .leftClickingHeld _ | .panStopped | .cameraControlStarted _
  | .cameraControlStopped _ | .tick _ => false

/-- What the handler of an event can do to the control state. -/
inductive ControlStep {F R : Type*} : PawnEvent F R → PawnControl F → PawnControl F → Prop
  | kept {event : PawnEvent F R} (control : PawnControl F)
      (continues : event.endsGesture = false) :
      ControlStep event control control
  | press (view : PlayerView F R) (control : PawnControl F) :
      ControlStep (.leftClicking (some view)) control
        { control with leftClickState := .pressed, pressedFurniture := view.hitActor }
  | grab (view : PlayerView F R) (control : PawnControl F) (held : F)
      (selected : control.selectedFurniture = some held)
      (manipulator : control.manipulator.isSome = true) :
      ControlStep (.leftClicking (some view)) control
        { control with leftClickState := .rotating }
  | drag (view : PlayerView F R) (control : PawnControl F) (held : F)
      (state : control.leftClickState = .pressed)
      (pressed : control.pressedFurniture = some held)
      (selected : control.selectedFurniture = some held) :
      ControlStep (.leftClickingHeld (some view)) control
        { control with
          leftClickState := .dragging
          manipulator := control.manipulator.map fun manipulator => (manipulator.1, true) }
  | orbit (view : PlayerView F R) (control : PawnControl F)
      (state : control.leftClickState = .pressed) :
      ControlStep (.leftClickingHeld (some view)) control
        { control with leftClickState := .orbiting }
  | select (spawned : Bool) (control : PawnControl F) (target : F)
      (state : control.leftClickState = .pressed)
      (pressed : control.pressedFurniture = some target) :
      ControlStep (.leftClickingReleased spawned) control
        { control with
          leftClickState := .idle
          pressedFurniture := none
          selectedFurniture := some target
          manipulator :=
            if control.furnitureManipulatorClass && spawned then some (some target, false)
            else none }
  | deselect (spawned : Bool) (control : PawnControl F)
      (state : control.leftClickState = .pressed)
      (pressed : control.pressedFurniture = none) :
      ControlStep (.leftClickingReleased spawned) control
        { control with
          leftClickState := .idle
          pressedFurniture := none
          selectedFurniture := none
          manipulator := none }
  | finish (spawned : Bool) (control : PawnControl F)
      (state : control.leftClickState ≠ .pressed) :
      ControlStep (.leftClickingReleased spawned) control
        { control with
          leftClickState := .idle
          pressedFurniture := none
          manipulator :=
            if control.leftClickState = .dragging then
              control.manipulator.map fun manipulator => (manipulator.1, false)
            else control.manipulator }
  | cancel (control : PawnControl F) :
      ControlStep .panStarted control
        { control with leftClickState := .idle, pressedFurniture := none }

namespace LocalWorld

variable {F R : Type*} [DecidableEq F] [Field R]

theorem execute_pawn (serverCall : ServerCall F R) (world : LocalWorld F R) :
    ∃ selectedFurniture location controlRotation, (world.execute serverCall).pawn =
      { world.pawn with selectedFurniture, location, controlRotation } := by
  cases serverCall with
  | selectFurniture furniture =>
      cases furniture with
      | none => exact ⟨_, _, _, rfl⟩
      | some target =>
          simp only [execute, serverSelectFurnitureImplementation]
          split
          · split
            · exact ⟨_, _, _, modifyOpt_pawn _ _ world⟩
            · exact ⟨_, _, _, rfl⟩
          · exact ⟨_, _, _, rfl⟩
  | deselectFurniture =>
      simp only [execute, serverDeselectFurnitureImplementation]
      split <;> exact ⟨_, _, _, rfl⟩
  | dragFurniture newLocation => exact ⟨_, _, _, modifyOpt_pawn _ _ world⟩
  | rotateFurniture newRotation => exact ⟨_, _, _, modifyOpt_pawn _ _ world⟩
  | orbitTransform newLocation newRotation => exact ⟨_, _, _, rfl⟩

theorem call_pawn (serverCall : ServerCall F R) (world : LocalWorld F R) :
    ∃ selectedFurniture location controlRotation, (world.call serverCall).pawn =
      { world.pawn with selectedFurniture, location, controlRotation } := by
  rw [call]
  split
  · exact execute_pawn serverCall world
  · exact ⟨_, _, _, rfl⟩

@[simp]
theorem call_furnitureManipulatorClass (serverCall : ServerCall F R) (world : LocalWorld F R) :
    (world.call serverCall).pawn.furnitureManipulatorClass =
      world.pawn.furnitureManipulatorClass := by
  obtain ⟨_, _, _, pawn⟩ := call_pawn serverCall world
  rw [pawn]

@[simp]
theorem call_bCameraControlActive (serverCall : ServerCall F R) (world : LocalWorld F R) :
    (world.call serverCall).pawn.bCameraControlActive = world.pawn.bCameraControlActive := by
  obtain ⟨_, _, _, pawn⟩ := call_pawn serverCall world
  rw [pawn]

theorem call_control {serverCall : ServerCall F R} {world : LocalWorld F R}
    (selected : (world.call serverCall).pawn.selectedFurniture =
      world.pawn.selectedFurniture) :
    (world.call serverCall).pawn.control = world.pawn.control := by
  obtain ⟨_, _, _, pawn⟩ := call_pawn serverCall world
  rw [pawn] at selected ⊢
  exact PawnControl.ext rfl rfl selected rfl rfl

theorem unhover_pawn (world : LocalWorld F R) :
    world.unhover.pawn = { world.pawn with hoveredFurniture := none } := by
  simp [unhover]

theorem hover_pawn (hitActor : F) (world : LocalWorld F R) :
    (world.hover hitActor).pawn = { world.pawn with hoveredFurniture := some hitActor } := by
  simp [hover]

theorem dropLockedHover_pawn (world : LocalWorld F R) :
    ∃ hoveredFurniture, world.dropLockedHover.pawn = { world.pawn with hoveredFurniture } := by
  rw [dropLockedHover]
  split
  · exact ⟨_, rfl⟩
  · split
    · exact ⟨_, rfl⟩
    · exact ⟨_, unhover_pawn world⟩

theorem updateHover_pawn (view : PlayerView F R) (world : LocalWorld F R) :
    ∃ hoveredFurniture, (world.updateHover view).pawn =
      { world.pawn with hoveredFurniture } := by
  obtain ⟨kept, dropped⟩ := dropLockedHover_pawn world
  simp only [updateHover]
  split
  · exact ⟨_, unhover_pawn world⟩
  · split
    · exact ⟨none, by rw [unhover_pawn, dropped]⟩
    · rename_i hitActor _
      split
      · split
        · exact ⟨kept, dropped⟩
        · exact ⟨some hitActor, by rw [hover_pawn, dropped]⟩
      · exact ⟨none, by rw [unhover_pawn, dropped]⟩

theorem tick_control (playerController : Option (PlayerView F R)) (world : LocalWorld F R) :
    (world.tick playerController).pawn.control = world.pawn.control ∧
      (world.tick playerController).pawn.bCameraControlActive =
        world.pawn.bCameraControlActive := by
  cases playerController with
  | none => exact ⟨rfl, rfl⟩
  | some view =>
      obtain ⟨hoveredFurniture, hovered⟩ := updateHover_pawn view world
      simp only [tick, updateManipulatorHover, updateCursor, hovered]
      split <;> simp [DesktopPawn.control, Function.comp_def]

theorem tick_hides_cursor {world : LocalWorld F R}
    (active : world.pawn.bCameraControlActive = true) (view : PlayerView F R) :
    (world.tick (some view)).pawn.bShowMouseCursor = false := by
  obtain ⟨hoveredFurniture, hovered⟩ := updateHover_pawn view world
  simp [tick, updateManipulatorHover, updateCursor, hovered, active]

theorem move_pawn (held : F) (serverCall : ServerCall F R)
    (transform : serverCall.isTransform = true) {world : LocalWorld F R}
    (holds : world.pawn.selectedFurniture = some held) :
    ((world.modify held serverCall.move).call serverCall).pawn = world.pawn :=
  (move_call_furniture held serverCall transform world holds).2

section Gestures

variable [LinearOrder R] [FloorRing R] [EngineMath R]

omit [FloorRing R] [EngineMath R] in
theorem handleDrag_control (view : PlayerView F R) (world : LocalWorld F R) :
    (world.handleDrag view).pawn.control = world.pawn.control ∧
      (world.handleDrag view).pawn.bCameraControlActive = world.pawn.bCameraControlActive := by
  rcases handleDrag_cases view world with same | ⟨held, newLocation, dragOffset, holds, moved⟩
  · rw [same]
    exact ⟨rfl, rfl⟩
  · have pawn := move_pawn held (.dragFurniture newLocation) rfl holds
    simp only [ServerCall.move] at pawn
    simp only [moved, pawn, DesktopPawn.control, and_self]

theorem handleRotate_pawn (view : PlayerView F R) (world : LocalWorld F R) :
    (world.handleRotate view).pawn = world.pawn := by
  rcases handleRotate_cases view world with same | ⟨held, newRotation, holds, turned⟩
  · rw [same]
  · rw [turned]
    exact move_pawn held (.rotateFurniture newRotation) rfl holds

omit [FloorRing R] in
theorem handleOrbit_control (currentMousePosition : FVector2D R) (world : LocalWorld F R) :
    (world.handleOrbit currentMousePosition).pawn.control = world.pawn.control ∧
      (world.handleOrbit currentMousePosition).pawn.bCameraControlActive =
        world.pawn.bCameraControlActive := by
  rw [handleOrbit]
  exact ⟨call_control (orbit_call _ _ _).2, call_bCameraControlActive _ _⟩

omit [LinearOrder R] [FloorRing R] in
theorem nudge_pawn {handle : ManipulatorHandle} {world after : LocalWorld F R}
    (nudged : world.nudgeSelectedFurniture handle = some after) : after.pawn = world.pawn := by
  obtain ⟨held, newLocation, holds, rfl⟩ := nudge_cases nudged
  exact move_pawn held (.dragFurniture newLocation) rfl holds

omit [FloorRing R] in
theorem clickManipulator_control {view : PlayerView F R} {world after : LocalWorld F R}
    (clicked : world.clickManipulator view = some after) :
    ControlStep (.leftClicking (some view)) world.pawn.control after.pawn.control ∧
      after.pawn.bCameraControlActive = world.pawn.bCameraControlActive := by
  rcases clickManipulator_cases clicked with ⟨held, active, holds, rfl⟩ | ⟨_, nudged⟩
  · rw [grabRing]
    split
    · exact ⟨.kept _ rfl, rfl⟩
    · exact ⟨.grab view _ held holds (by simpa [DesktopPawn.control] using active), rfl⟩
  · rw [nudge_pawn nudged]
    exact ⟨.kept _ rfl, rfl⟩

omit [FloorRing R] in
theorem leftClicking_control (playerController : Option (PlayerView F R))
    (world : LocalWorld F R) :
    ControlStep (.leftClicking playerController) world.pawn.control
        (world.leftClicking playerController).pawn.control ∧
      (world.leftClicking playerController).pawn.bCameraControlActive =
        world.pawn.bCameraControlActive := by
  cases playerController with
  | none =>
      simp only [leftClicking, ite_self, and_true]
      exact .kept _ rfl
  | some view =>
      simp only [leftClicking]
      split
      · exact ⟨.kept _ rfl, rfl⟩
      · cases clicked : world.clickManipulator view with
        | none => exact ⟨.press view _, rfl⟩
        | some after => exact clickManipulator_control clicked

omit [FloorRing R] in
theorem heldPressed_control (view : PlayerView F R) {world : LocalWorld F R}
    (state : world.pawn.leftClickState = .pressed) :
    ControlStep (.leftClickingHeld (some view)) world.pawn.control
        (world.heldPressed view).pawn.control ∧
      (world.heldPressed view).pawn.bCameraControlActive =
        world.pawn.bCameraControlActive := by
  rcases heldPressed_cases view world with same | ⟨pressed, press, selected, begun⟩ | begun
  · rw [same]
    exact ⟨.kept _ rfl, rfl⟩
  · rw [begun, beginDrag]
    split
    · exact ⟨.kept _ rfl, rfl⟩
    · have started := ControlStep.drag view world.pawn.control pressed state press selected
      refine ⟨?_, rfl⟩
      simpa [DesktopPawn.control, Function.comp_def] using started
  · rw [begun]
    exact ⟨.orbit view world.pawn.control state, rfl⟩

theorem leftClickingHeld_control (playerController : Option (PlayerView F R))
    (world : LocalWorld F R) :
    ControlStep (.leftClickingHeld playerController) world.pawn.control
        (world.leftClickingHeld playerController).pawn.control ∧
      (world.leftClickingHeld playerController).pawn.bCameraControlActive =
        world.pawn.bCameraControlActive := by
  cases playerController with
  | none => exact ⟨.kept _ rfl, rfl⟩
  | some view =>
      simp only [leftClickingHeld]
      cases state : world.pawn.leftClickState with
      | idle => exact ⟨.kept _ rfl, rfl⟩
      | pressed => exact heldPressed_control view state
      | rotating =>
          simp only [handleRotate_pawn, and_true]
          exact .kept _ rfl
      | orbiting =>
          obtain ⟨control, active⟩ := handleOrbit_control view.mousePosition world
          rw [control]
          exact ⟨.kept _ rfl, active⟩
      | dragging =>
          obtain ⟨control, active⟩ := handleDrag_control view world
          rw [control]
          exact ⟨.kept _ rfl, active⟩

omit [LinearOrder R] [FloorRing R] [EngineMath R] in
theorem leftClickingReleased_control (spawned : Bool) (world : LocalWorld F R) :
    ControlStep (.leftClickingReleased spawned : PawnEvent F R) world.pawn.control
        (world.leftClickingReleased spawned).pawn.control ∧
      (world.leftClickingReleased spawned).pawn.bCameraControlActive =
        world.pawn.bCameraControlActive := by
  by_cases state : world.pawn.leftClickState = .pressed
  · cases press : world.pawn.pressedFurniture with
    | some pressed =>
        have selected := ControlStep.select (R := R) spawned world.pawn.control pressed state press
        refine ⟨?_, ?_⟩
        · convert selected using 1
          simp only [leftClickingReleased, state, press, selectPressed, DesktopPawn.control]
          by_cases spawns : (world.pawn.furnitureManipulatorClass && spawned) = true <;>
            simp [spawns]
        · simp [leftClickingReleased, state, press, selectPressed]
    | none =>
        have deselected := ControlStep.deselect (R := R) spawned world.pawn.control state press
        refine ⟨?_, ?_⟩
        · convert deselected using 1
          simp only [leftClickingReleased, state, press, deselectOnEmpty, DesktopPawn.control]
          split <;> simp
        · simp only [leftClickingReleased, state, press, deselectOnEmpty]
          split <;> simp
  · have finished := ControlStep.finish (R := R) spawned world.pawn.control state
    cases gesture : world.pawn.leftClickState with
    | pressed => exact absurd gesture state
    | idle =>
        simp_all [leftClickingReleased, DesktopPawn.control]
    | orbiting => simp_all [leftClickingReleased, DesktopPawn.control]
    | rotating => simp_all [leftClickingReleased, DesktopPawn.control]
    | dragging => simp_all [leftClickingReleased, DesktopPawn.control, Function.comp_def]

/-- Everything an input handler can do to the control state. -/
theorem handle_control (event : PawnEvent F R) (world : LocalWorld F R) :
    ControlStep event world.pawn.control (world.handle event).pawn.control := by
  cases event with
  | leftClicking playerController => exact (leftClicking_control playerController world).1
  | leftClickingHeld playerController =>
      exact (leftClickingHeld_control playerController world).1
  | leftClickingReleased spawned => exact (leftClickingReleased_control spawned world).1
  | panStarted => exact .cancel world.pawn.control
  | panStopped => exact .kept world.pawn.control rfl
  | cameraControlStarted playerController =>
      cases playerController <;> exact .kept world.pawn.control rfl
  | cameraControlStopped playerController =>
      cases playerController <;> exact .kept world.pawn.control rfl
  | tick playerController =>
      rw [handle, (tick_control playerController world).1]
      exact .kept world.pawn.control rfl

end Gestures

/-- The camera-control flag after an event. -/
def PawnEvent.cameraControl {F R : Type*} (active : Bool) : PawnEvent F R → Bool
  | .panStarted => true
  | .panStopped => false
  | .cameraControlStarted playerController => playerController || active
  | .cameraControlStopped playerController => !playerController && active
  | .leftClicking _ | .leftClickingHeld _ | .leftClickingReleased _ | .tick _ => active

/-- Only the pan and camera-control handlers write the camera-control flag. -/
theorem handle_cameraControl [LinearOrder R] [FloorRing R] [EngineMath R]
    (event : PawnEvent F R) (world : LocalWorld F R) :
    (world.handle event).pawn.bCameraControlActive =
      PawnEvent.cameraControl world.pawn.bCameraControlActive event := by
  cases event with
  | leftClicking playerController => exact (leftClicking_control playerController world).2
  | leftClickingHeld playerController =>
      exact (leftClickingHeld_control playerController world).2
  | leftClickingReleased spawned => exact (leftClickingReleased_control spawned world).2
  | panStarted => rfl
  | panStopped => rfl
  | cameraControlStarted playerController => cases playerController <;> rfl
  | cameraControlStopped playerController => cases playerController <;> rfl
  | tick playerController => exact (tick_control playerController world).2

end LocalWorld

end Ioroom
