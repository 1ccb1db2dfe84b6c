import Ioroom.PawnInput
import Ioroom.TransformLink

/-!
# The host plays as a client does

On the host a handler first acts on the furniture or the pawn and then calls the server, which is
the same object and acts at once.  The calls of the left button carry the place they lead to, so
acting twice does nothing more than acting once, and a host and a client with the same input get the
same pawn and the same transforms.
-/

namespace Ioroom

namespace LocalWorld

variable {F R : Type*} [DecidableEq F] [Field R]

/-- Two machines agree in the transforms of the furniture, the player state and the pawn, up to what
the pawn hovers. -/
structure SamePlay (left right : LocalWorld F R) : Prop where
  pawn : ∃ hoveredFurniture currentMouseCursor,
    left.pawn = { right.pawn with hoveredFurniture, currentMouseCursor }
  playerState : left.playerState = right.playerState
  movement : ∀ furniture, (left.furniture furniture).replicatedMovement =
    (right.furniture furniture).replicatedMovement

theorem rel_getD {α : Type*} {Related : α → α → Prop} {left right : Option α}
    (values : Option.Rel Related left right) {leftDefault rightDefault : α}
    (defaults : Related leftDefault rightDefault) :
    Related (left.getD leftDefault) (right.getD rightDefault) := by
  cases values with
  | none => exact defaults
  | some related => exact related

theorem call_reliable {serverCall : ServerCall F R} (reliable : serverCall.isReliable = true)
    (world : LocalWorld F R) :
    (∃ selectedFurniture, (world.call serverCall).pawn = { world.pawn with selectedFurniture }) ∧
      ∀ furniture, ((world.call serverCall).furniture furniture).replicatedMovement =
        (world.furniture furniture).replicatedMovement := by
  rw [call]
  split
  · exact execute_reliable reliable world
  · exact ⟨⟨_, rfl⟩, fun _ => rfl⟩

theorem call_orbit_pawn {world : LocalWorld F R} {newLocation : FVector R}
    {newRotation : FRotator R} (location : world.pawn.location = newLocation)
    (controlRotation : world.pawn.controlRotation = newRotation) :
    (world.call (.orbitTransform newLocation newRotation)).pawn = world.pawn := by
  subst location controlRotation
  rw [call]
  split <;> rfl

theorem tick_pawn (view : PlayerView F R) (world : LocalWorld F R) :
    ∃ hoveredFurniture currentMouseCursor, (world.tick (some view)).pawn =
      { world.pawn with
        hoveredFurniture
        currentMouseCursor
        bShowMouseCursor := !world.pawn.bCameraControlActive
        activeManipulator := world.pawn.activeManipulator.map fun manipulator =>
          { manipulator with
            hoveredHandle :=
              if world.pawn.bCameraControlActive || LMBState.inGesture world.pawn.leftClickState then
                .none
              else match view.handleHit with
                | some component => resolveHandle component
                | none => .none } } := by
  obtain ⟨hoveredFurniture, hovered⟩ := updateHover_pawn view world
  simp only [tick, updateManipulatorHover, updateCursor, hovered]
  cases world.pawn.bCameraControlActive <;> exact ⟨_, _, rfl⟩

theorem selectPressed_eq (pressed : F) (spawned : Bool) (world : LocalWorld F R) :
    world.selectPressed pressed spawned =
      { world.call (.selectFurniture (some pressed)) with
        pawn := { (world.call (.selectFurniture (some pressed))).pawn with
          selectedFurniture := some pressed
          activeManipulator :=
            if world.pawn.furnitureManipulatorClass && spawned then
              some { attachedTo := some pressed }
            else none } }.modify pressed (·.onUnHovered) := by
  rw [← call_furnitureManipulatorClass (.selectFurniture (some pressed)) world]
  rfl

theorem heldPressed_other [LinearOrder R] [EngineMath R] {world : LocalWorld F R}
    (other : ∀ pressed, world.pawn.pressedFurniture = some pressed →
      world.pawn.selectedFurniture ≠ some pressed) (view : PlayerView F R) :
    world.heldPressed view =
      if world.pawn.orbitDragThreshold <
          view.mousePosition.distance world.pawn.mousePositionOnClick then
        { world with pawn := { world.pawn with
            lastMousePosition := view.mousePosition } }.beginOrbit
      else world := by
  simp only [heldPressed]
  split
  · split
    · rename_i pressed press
      rw [if_neg (other pressed press)]
    · rfl
  · rfl

theorem heldPressed_own [LinearOrder R] [EngineMath R] {world : LocalWorld F R} {pressed : F}
    (press : world.pawn.pressedFurniture = some pressed)
    (selected : world.pawn.selectedFurniture = some pressed) (view : PlayerView F R) :
    world.heldPressed view =
      if world.pawn.orbitDragThreshold <
          view.mousePosition.distance world.pawn.mousePositionOnClick then
        { world with pawn := { world.pawn with
            lastMousePosition := view.mousePosition } }.beginDrag pressed view
      else world := by
  simp only [heldPressed]
  split
  · split
    · rename_i current isPressed
      obtain rfl := Option.some.inj (press.symm.trans isPressed)
      rw [if_pos selected]
    · rename_i absent
      exact absurd (press.symm.trans absent) (Option.some_ne_none pressed)
  · rfl

namespace SamePlay

variable {left right : LocalWorld F R}

omit [DecidableEq F] in
theorem location (same : SamePlay left right) (furniture : F) :
    (left.furniture furniture).location = (right.furniture furniture).location :=
  congrArg RepMovement.location (same.movement furniture)

omit [DecidableEq F] in
theorem rotation (same : SamePlay left right) (furniture : F) :
    (left.furniture furniture).rotation = (right.furniture furniture).rotation :=
  congrArg RepMovement.rotation (same.movement furniture)

omit [DecidableEq F] in
theorem selected (same : SamePlay left right) :
    left.pawn.selectedFurniture = right.pawn.selectedFurniture := by
  obtain ⟨_, _, pawn⟩ := same.pawn
  rw [pawn]

omit [DecidableEq F] in
/-- Both pawns change in a way which does not look at what they hover. -/
theorem withPawn (same : SamePlay left right) (change : DesktopPawn F R → DesktopPawn F R)
    (blind : ∀ pawn hoveredFurniture currentMouseCursor,
      change { pawn with hoveredFurniture, currentMouseCursor } =
        { change pawn with hoveredFurniture, currentMouseCursor }) :
    SamePlay { left with pawn := change left.pawn } { right with pawn := change right.pawn } := by
  obtain ⟨⟨hoveredFurniture, currentMouseCursor, pawn⟩, playerState, movement⟩ := same
  refine ⟨⟨hoveredFurniture, currentMouseCursor, ?_⟩, playerState, movement⟩
  rw [pawn]
  exact blind right.pawn hoveredFurniture currentMouseCursor

theorem move (same : SamePlay left right) {held : F}
    (holds : right.pawn.selectedFurniture = some held) (serverCall : ServerCall F R)
    (transform : serverCall.isTransform = true) :
    SamePlay ((left.modify held serverCall.move).call serverCall)
      ((right.modify held serverCall.move).call serverCall) := by
  obtain ⟨leftFurniture, leftPawn⟩ :=
    move_call_furniture held serverCall transform left (same.selected.trans holds)
  obtain ⟨rightFurniture, rightPawn⟩ := move_call_furniture held serverCall transform right holds
  constructor
  · rw [leftPawn, rightPawn]
    exact same.pawn
  · have leftState := (call_frame serverCall (left.modify held serverCall.move)).playerState
    have rightState := (call_frame serverCall (right.modify held serverCall.move)).playerState
    exact leftState.trans (same.playerState.trans rightState.symm)
  · intro furniture
    rw [leftFurniture, rightFurniture, modify_furniture, modify_furniture]
    rcases eq_or_ne furniture held with rfl | other
    · simp only [Function.update_self, ServerCall.replicatedMovement_move, same.movement]
    · simp only [Function.update_of_ne other, same.movement]

theorem click (same : SamePlay left right) {serverCall : ServerCall F R}
    (reliable : serverCall.isReliable = true) (selectedFurniture : Option F)
    (activeManipulator : Option (FurnitureManipulator F)) :
    SamePlay
      { left.call serverCall with
        pawn := { (left.call serverCall).pawn with selectedFurniture, activeManipulator } }
      { right.call serverCall with
        pawn := { (right.call serverCall).pawn with selectedFurniture, activeManipulator } } := by
  obtain ⟨⟨_, leftPawn⟩, leftMovement⟩ := call_reliable reliable left
  obtain ⟨⟨_, rightPawn⟩, rightMovement⟩ := call_reliable reliable right
  obtain ⟨hoveredFurniture, currentMouseCursor, pawn⟩ := same.pawn
  refine ⟨⟨hoveredFurniture, currentMouseCursor, ?_⟩, ?_, fun furniture => ?_⟩
  · simp only [leftPawn, rightPawn, pawn]
  · exact (call_frame serverCall _).playerState.trans
      (same.playerState.trans (call_frame serverCall _).playerState.symm)
  · exact (leftMovement furniture).trans
      ((same.movement furniture).trans (rightMovement furniture).symm)

theorem orbitCall (same : SamePlay left right) {newLocation : FVector R}
    {newRotation : FRotator R} (location : right.pawn.location = newLocation)
    (controlRotation : right.pawn.controlRotation = newRotation) :
    SamePlay (left.call (.orbitTransform newLocation newRotation))
      (right.call (.orbitTransform newLocation newRotation)) := by
  obtain ⟨hoveredFurniture, currentMouseCursor, pawn⟩ := same.pawn
  have leftLocation : left.pawn.location = newLocation := by rw [pawn, ← location]
  have leftRotation : left.pawn.controlRotation = newRotation := by rw [pawn, ← controlRotation]
  refine ⟨⟨hoveredFurniture, currentMouseCursor, ?_⟩, ?_, fun furniture => ?_⟩
  · rw [call_orbit_pawn leftLocation leftRotation, call_orbit_pawn location controlRotation, pawn]
  · exact (call_frame _ left).playerState.trans
      (same.playerState.trans (call_frame _ right).playerState.symm)
  · rw [(orbit_call newLocation newRotation left).1, (orbit_call newLocation newRotation right).1,
      same.movement]

section Gestures

variable [LinearOrder R] [FloorRing R] [EngineMath R]

omit [DecidableEq F] [LinearOrder R] [FloorRing R] in
theorem nudgeDirection (same : SamePlay left right) (handle : ManipulatorHandle) (held : F) :
    LocalWorld.nudgeDirection handle (left.furniture held) =
      LocalWorld.nudgeDirection handle (right.furniture held) := by
  cases handle <;> simp only [LocalWorld.nudgeDirection, same.rotation]

omit [LinearOrder R] [FloorRing R] in
theorem nudge (same : SamePlay left right) (handle : ManipulatorHandle) :
    Option.Rel SamePlay (left.nudgeSelectedFurniture handle)
      (right.nudgeSelectedFurniture handle) := by
  simp only [nudgeSelectedFurniture, same.selected]
  cases holds : right.pawn.selectedFurniture with
  | none => exact .none
  | some held =>
      simp only [same.nudgeDirection, same.location, gridStep, same.playerState]
      cases LocalWorld.nudgeDirection handle (right.furniture held) with
      | none => exact .none
      | some direction => exact .some (same.move holds (.dragFurniture _) rfl)

omit [FloorRing R] [EngineMath R] in
theorem handleDrag (same : SamePlay left right) (view : PlayerView F R) :
    SamePlay (left.handleDrag view) (right.handleDrag view) := by
  obtain ⟨_, _, pawn⟩ := same.pawn
  simp only [LocalWorld.handleDrag, pawn]
  cases holds : right.pawn.selectedFurniture with
  | none => exact same
  | some held =>
      simp only
      split
      · exact same
      · exact (same.move holds (.dragFurniture _) rfl).withPawn
          (fun pawn => { pawn with dragOffset := _, dragPlaneZ := _ }) fun _ _ _ => rfl

theorem handleRotate (same : SamePlay left right) (view : PlayerView F R) :
    SamePlay (left.handleRotate view) (right.handleRotate view) := by
  obtain ⟨_, _, pawn⟩ := same.pawn
  simp only [LocalWorld.handleRotate, pawn, same.location, same.rotation, rotationSnap,
    same.playerState]
  cases holds : right.pawn.selectedFurniture with
  | none => exact same
  | some held =>
      simp only
      split
      · exact same
      · exact same.move holds (.rotateFurniture _) rfl

omit [FloorRing R] in
theorem handleOrbit (same : SamePlay left right) (position : FVector2D R) :
    SamePlay (left.handleOrbit position) (right.handleOrbit position) := by
  obtain ⟨hasAuthority, furniture, leftPawn, playerState, sent⟩ := left
  obtain ⟨_, _, pawn⟩ := same.pawn
  simp only at pawn
  subst pawn
  exact (same.withPawn (fun pawn => { pawn with
    orbitEntryAlpha := _, location := _, controlRotation := _,
    lastMousePosition := position }) fun _ _ _ => rfl).orbitCall rfl rfl

omit [DecidableEq F] [FloorRing R] in
theorem grabRing (same : SamePlay left right) (held : F) (view : PlayerView F R) :
    SamePlay (left.grabRing held view) (right.grabRing held view) := by
  simp only [LocalWorld.grabRing, same.location, same.rotation]
  split
  · exact same
  · exact same.withPawn (fun pawn => { pawn with
      rotationStartYaw := _, rotationGrabAngle := _, rotationPlaneZ := _,
      leftClickState := .rotating }) fun _ _ _ => rfl

omit [FloorRing R] in
theorem clickManipulator (same : SamePlay left right) (view : PlayerView F R) :
    Option.Rel SamePlay (left.clickManipulator view) (right.clickManipulator view) := by
  obtain ⟨_, _, pawn⟩ := same.pawn
  simp only [LocalWorld.clickManipulator, pawn]
  split
  · rename_i manipulator selected component _ _ _
    split
    · exact .some (same.grabRing selected view)
    · exact same.nudge (resolveHandle component)
  · exact .none

omit [DecidableEq F] [LinearOrder R] [FloorRing R] [EngineMath R] in
theorem pressScene (same : SamePlay left right) (view : PlayerView F R) :
    SamePlay (left.pressScene view) (right.pressScene view) :=
  same.withPawn (fun pawn => { pawn with
    pressedFurniture := view.hitActor, mousePositionOnClick := view.mousePosition,
    orbitPivot := view.impactPoint, leftClickState := .pressed }) fun _ _ _ => rfl

omit [FloorRing R] in
theorem leftClicking (same : SamePlay left right)
    (playerController : Option (PlayerView F R)) :
    SamePlay (left.leftClicking playerController) (right.leftClicking playerController) := by
  obtain ⟨_, _, pawn⟩ := same.pawn
  simp only [LocalWorld.leftClicking, pawn]
  split
  · exact same
  · cases playerController with
    | none => exact same
    | some view =>
        change SamePlay ((left.clickManipulator view).getD (left.pressScene view))
          ((right.clickManipulator view).getD (right.pressScene view))
        exact rel_getD (same.clickManipulator view) (same.pressScene view)

omit [DecidableEq F] [FloorRing R] [EngineMath R] in
theorem beginDrag (same : SamePlay left right) (pressed : F) (view : PlayerView F R) :
    SamePlay (left.beginDrag pressed view) (right.beginDrag pressed view) := by
  simp only [LocalWorld.beginDrag, same.location]
  split
  · exact same
  · exact same.withPawn (fun pawn => { pawn with
      dragPlaneZ := _, dragOffset := _, leftClickState := .dragging,
      activeManipulator := pawn.activeManipulator.map
        fun manipulator => { manipulator with hiddenInGame := true } }) fun _ _ _ => rfl

omit [DecidableEq F] [LinearOrder R] [FloorRing R] in
theorem beginOrbit (same : SamePlay left right) :
    SamePlay left.beginOrbit right.beginOrbit :=
  same.withPawn (fun pawn => { pawn with
    orbitRadius := FVector.dist pawn.location pawn.orbitPivot
    orbitEntryStartPivot := pawn.location +
      FVector.dist pawn.location pawn.orbitPivot • pawn.controlRotation.vector
    orbitEntryAlpha := 0
    leftClickState := .orbiting }) fun _ _ _ => rfl

omit [FloorRing R] in
theorem heldPressed (same : SamePlay left right) (view : PlayerView F R) :
    SamePlay (left.heldPressed view) (right.heldPressed view) := by
  have tracked := same.withPawn
    (fun pawn => { pawn with lastMousePosition := view.mousePosition }) fun _ _ _ => rfl
  obtain ⟨_, _, pawn⟩ := same.pawn
  have threshold : left.pawn.orbitDragThreshold = right.pawn.orbitDragThreshold := by rw [pawn]
  have mouse : left.pawn.mousePositionOnClick = right.pawn.mousePositionOnClick := by rw [pawn]
  have press : left.pawn.pressedFurniture = right.pawn.pressedFurniture := by rw [pawn]
  by_cases own : ∃ pressed, right.pawn.pressedFurniture = some pressed ∧
      right.pawn.selectedFurniture = some pressed
  · obtain ⟨pressed, isPressed, holds⟩ := own
    rw [heldPressed_own (press.trans isPressed) (same.selected.trans holds),
      heldPressed_own isPressed holds, threshold, mouse]
    split
    · exact tracked.beginDrag pressed view
    · exact same
  · have other : ∀ pressed, right.pawn.pressedFurniture = some pressed →
        right.pawn.selectedFurniture ≠ some pressed :=
      fun pressed isPressed holds => own ⟨pressed, isPressed, holds⟩
    have leftOther : ∀ pressed, left.pawn.pressedFurniture = some pressed →
        left.pawn.selectedFurniture ≠ some pressed := by
      rwa [press, same.selected]
    rw [heldPressed_other leftOther, heldPressed_other other, threshold, mouse]
    split
    · exact tracked.beginOrbit
    · exact same

theorem leftClickingHeld (same : SamePlay left right)
    (playerController : Option (PlayerView F R)) :
    SamePlay (left.leftClickingHeld playerController)
      (right.leftClickingHeld playerController) := by
  obtain ⟨_, _, pawn⟩ := same.pawn
  have state : left.pawn.leftClickState = right.pawn.leftClickState := by rw [pawn]
  simp only [LocalWorld.leftClickingHeld, state]
  cases playerController with
  | none => exact same
  | some view =>
      cases right.pawn.leftClickState with
      | idle => exact same
      | pressed => exact same.heldPressed view
      | orbiting => exact same.handleOrbit view.mousePosition
      | dragging => exact same.handleDrag view
      | rotating => exact same.handleRotate view

end Gestures

theorem unhovered (same : SamePlay left right) (furniture : F) :
    SamePlay (left.modify furniture (·.onUnHovered)) (right.modify furniture (·.onUnHovered)) := by
  refine ⟨same.pawn, same.playerState, fun other => ?_⟩
  have kept := modify_movement
    (fun actor : FurnitureActor R => (rfl : actor.onUnHovered.replicatedMovement = _)) furniture
  exact (kept left other).trans ((same.movement other).trans (kept right other).symm)

theorem selectPressed (same : SamePlay left right) (pressed : F) (spawned : Bool) :
    SamePlay (left.selectPressed pressed spawned) (right.selectPressed pressed spawned) := by
  obtain ⟨_, _, pawn⟩ := same.pawn
  have manipulatorClass : left.pawn.furnitureManipulatorClass =
      right.pawn.furnitureManipulatorClass := by rw [pawn]
  rw [selectPressed_eq, selectPressed_eq, manipulatorClass]
  have reliable : (ServerCall.selectFurniture (some pressed) : ServerCall F R).isReliable = true :=
    rfl
  exact (same.click reliable (some pressed) _).unhovered pressed

theorem deselectOnEmpty (same : SamePlay left right) :
    SamePlay left.deselectOnEmpty right.deselectOnEmpty := by
  simp only [LocalWorld.deselectOnEmpty, same.selected]
  split
  · exact same.click rfl none none
  · exact same.withPawn (fun pawn => { pawn with
      selectedFurniture := none, activeManipulator := none }) fun _ _ _ => rfl

theorem leftClickingReleased (same : SamePlay left right) (spawned : Bool) :
    SamePlay (left.leftClickingReleased spawned) (right.leftClickingReleased spawned) := by
  obtain ⟨_, _, pawn⟩ := same.pawn
  have state : left.pawn.leftClickState = right.pawn.leftClickState := by rw [pawn]
  have press : left.pawn.pressedFurniture = right.pawn.pressedFurniture := by rw [pawn]
  have finish : ∀ {leftClicked rightClicked : LocalWorld F R}, SamePlay leftClicked rightClicked →
      ∀ dragging : Prop, ∀ _ : Decidable dragging, SamePlay
        { leftClicked with pawn := { leftClicked.pawn with
            activeManipulator :=
              if dragging then leftClicked.pawn.activeManipulator.map
                fun manipulator => { manipulator with hiddenInGame := false }
              else leftClicked.pawn.activeManipulator
            pressedFurniture := none
            leftClickState := .idle } }
        { rightClicked with pawn := { rightClicked.pawn with
            activeManipulator :=
              if dragging then rightClicked.pawn.activeManipulator.map
                fun manipulator => { manipulator with hiddenInGame := false }
              else rightClicked.pawn.activeManipulator
            pressedFurniture := none
            leftClickState := .idle } } := by
    intro leftClicked rightClicked clicked dragging _
    exact clicked.withPawn (fun pawn => { pawn with
      activeManipulator :=
        if dragging then pawn.activeManipulator.map
          fun manipulator => { manipulator with hiddenInGame := false }
        else pawn.activeManipulator
      pressedFurniture := none
      leftClickState := .idle }) fun _ _ _ => rfl
  simp only [LocalWorld.leftClickingReleased, state, press]
  refine finish ?_ _ _
  split
  · exact same.selectPressed _ spawned
  · exact same.deselectOnEmpty
  · exact same

theorem tick (same : SamePlay left right) (playerController : Option (PlayerView F R)) :
    SamePlay (left.tick playerController) (right.tick playerController) := by
  have leftOverlays := tick_overlays playerController left
  have rightOverlays := tick_overlays playerController right
  refine ⟨?_, ?_, fun furniture => ?_⟩
  · cases playerController with
    | none => exact same.pawn
    | some view =>
        obtain ⟨hoveredFurniture, currentMouseCursor, leftPawn⟩ := tick_pawn view left
        obtain ⟨_, _, rightPawn⟩ := tick_pawn view right
        obtain ⟨_, _, pawn⟩ := same.pawn
        exact ⟨hoveredFurniture, currentMouseCursor, by rw [leftPawn, rightPawn, pawn]⟩
  · exact leftOverlays.frame.playerState.trans
      (same.playerState.trans rightOverlays.frame.playerState.symm)
  · exact (leftOverlays.furniture furniture).replicatedMovement.trans
      ((same.movement furniture).trans (rightOverlays.furniture furniture).replicatedMovement.symm)

variable [LinearOrder R] [FloorRing R] [EngineMath R]

/-- Every handler does the same on a host as on a client. -/
theorem handle (same : SamePlay left right) (event : PawnEvent F R) :
    SamePlay (left.handle event) (right.handle event) := by
  cases event with
  | leftClicking playerController => exact same.leftClicking playerController
  | leftClickingHeld playerController => exact same.leftClickingHeld playerController
  | leftClickingReleased spawned => exact same.leftClickingReleased spawned
  | tick playerController => exact same.tick playerController
  | panStarted =>
      exact same.withPawn (fun pawn => { pawn with
        bIsPanning := true, bCameraControlActive := true, leftClickState := .idle,
        pressedFurniture := none }) fun _ _ _ => rfl
  | panStopped =>
      exact same.withPawn (fun pawn => { pawn with
        bIsPanning := false, bCameraControlActive := false }) fun _ _ _ => rfl
  | cameraControlStarted playerController =>
      cases playerController with
      | false => exact same
      | true =>
          exact same.withPawn (fun pawn => { pawn with bCameraControlActive := true })
            fun _ _ _ => rfl
  | cameraControlStopped playerController =>
      cases playerController with
      | false => exact same
      | true =>
          exact same.withPawn (fun pawn => { pawn with bCameraControlActive := false })
            fun _ _ _ => rfl

end SamePlay

end LocalWorld

namespace PawnInput

open LocalWorld

variable {F R : Type*} [DecidableEq F] [Field R] [LinearOrder R] [FloorRing R] [EngineMath R]

/-- What the rest of the game writes on both machines leaves them the same. -/
theorem samePlay_next {left right : PawnInput F R} (same : SamePlay left.world right.world)
    (event : InputEvent F R) : SamePlay (left.next event).world (right.next event).world := by
  cases event with
  | handler event => exact same.handle event
  | outside furniture playerState location controlRotation =>
      have placed := same.withPawn (fun pawn => { pawn with location, controlRotation })
        fun _ _ _ => rfl
      exact ⟨placed.pawn, rfl, fun _ => rfl⟩

/-- A host and a client who begin with the same pawn and the same transforms have the same ones
after any input, although the host executes its calls itself and the client only sends them. -/
theorem host_plays_as_client {host client : PawnInput F R}
    (same : SamePlay host.world client.world) (events : List (InputEvent F R)) :
    SamePlay ((runs HeldButtons.LeftCycles).replay host events).world
      ((runs HeldButtons.LeftCycles).replay client events).world := by
  induction events generalizing host client with
  | nil => exact same
  | cons event events induction => exact induction (samePlay_next same event)

section QuarterTurn

local instance hostMath : EngineMath ℚ := quarterTurnMath

/-- The pawn over the origin on the host. -/
def hostAtOrigin : PawnInput Nat ℚ :=
  { atOrigin Nat ℚ with world := { (atOrigin Nat ℚ).world with hasAuthority := true } }

/-- A click on furniture 5 and one on the arrow before it. -/
def nudging : List (InputEvent Nat ℚ) :=
  [.handler (.leftClicking (some (.overhead none (some 5)))),
    .handler (.leftClickingReleased true),
    .handler (.leftClicking (some (.overhead (some .arrowXPlus) none)))]

/-- The host nudges the furniture once, as the client does. -/
theorem host_plays_as_client_nudging :
    let host := (runs HeldButtons.LeftCycles).replay hostAtOrigin nudging
    let client := (runs HeldButtons.LeftCycles).replay (atOrigin Nat ℚ) nudging
    host.world.sent = [] ∧ client.world.sent.length = 2 ∧
      (host.world.furniture 5).location = (client.world.furniture 5).location := by
  intro host client
  have begin : SamePlay hostAtOrigin.world (atOrigin Nat ℚ).world :=
    ⟨⟨_, _, rfl⟩, rfl, fun _ => rfl⟩
  have same := host_plays_as_client begin nudging
  exact ⟨by decide +kernel, by decide +kernel, same.location 5⟩

end QuarterTurn

end PawnInput

end Ioroom
