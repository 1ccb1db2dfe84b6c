import Ioroom.GestureMachine

/-!
# Dragging

A drag keeps the furniture at a fixed offset from the cursor's ray, taken in a horizontal plane
which follows the surface under the furniture.  Whenever the plane changes, the offset is taken
anew.
-/

namespace Ioroom

open EventSystem

namespace LocalWorld

variable {F R : Type*} [DecidableEq F] [Field R] [LinearOrder R]

/-- The location to which `HandleDrag` moves the selected furniture. -/
def dragTarget (view : PlayerView F R) (pawn : DesktopPawn F R) : FVector R :=
  let worldPoint := rayAtPlane view.rayOrigin view.rayDirection pawn.dragPlaneZ
  let newX := worldPoint.x + pawn.dragOffset.x
  let newY := worldPoint.y + pawn.dragOffset.y
  match view.lineTrace ⟨newX, newY, pawn.dragPlaneZ + (500 : ℕ)⟩ ⟨newX, newY, -(10000 : ℕ)⟩ with
  | some impactPoint => ⟨newX, newY, impactPoint.z⟩
  | none => ⟨newX, newY, pawn.dragPlaneZ⟩

/-- The offset which keeps a location on the ray, in the plane at its own height. -/
def offsetFrom (view : PlayerView F R) (location : FVector R) (z : R) : FVector R :=
  let worldPoint := rayAtPlane view.rayOrigin view.rayDirection location.z
  ⟨location.x - worldPoint.x, location.y - worldPoint.y, z⟩

variable {world : LocalWorld F R} {view : PlayerView F R} {held : F}

omit [DecidableEq F] [LinearOrder R] in
theorem dragTarget_x (pawn : DesktopPawn F R) : (dragTarget view pawn).x =
    (rayAtPlane view.rayOrigin view.rayDirection pawn.dragPlaneZ).x + pawn.dragOffset.x := by
  simp only [dragTarget]
  split <;> rfl

omit [DecidableEq F] [LinearOrder R] in
theorem dragTarget_y (pawn : DesktopPawn F R) : (dragTarget view pawn).y =
    (rayAtPlane view.rayOrigin view.rayDirection pawn.dragPlaneZ).y + pawn.dragOffset.y := by
  simp only [dragTarget]
  split <;> rfl

theorem handleDrag_eq (holds : world.pawn.selectedFurniture = some held)
    (steep : isNearlyZero view.rayDirection.z = false) :
    world.handleDrag view =
      let target := dragTarget view world.pawn
      let moved := (world.modify held (·.setActorLocation target)).call (.dragFurniture target)
      { moved with
        pawn := { moved.pawn with
          dragOffset := offsetFrom view target world.pawn.dragOffset.z
          dragPlaneZ := target.z } } := by
  simp only [handleDrag, holds, steep, dragTarget, offsetFrom]
  cases view.lineTrace _ _ <;> rfl

/-- A drag step with a steep ray: move the furniture, take the offset anew, and say so. -/
theorem handleDrag_spec (holds : world.pawn.selectedFurniture = some held)
    (steep : isNearlyZero view.rayDirection.z = false) :
    (world.handleDrag view).furniture = Function.update world.furniture held
        ((world.furniture held).setActorLocation (dragTarget view world.pawn)) ∧
      (world.handleDrag view).pawn =
        { world.pawn with
          dragOffset := offsetFrom view (dragTarget view world.pawn) world.pawn.dragOffset.z
          dragPlaneZ := (dragTarget view world.pawn).z } ∧
      (world.handleDrag view).sent =
        world.sentAfter (.dragFurniture (dragTarget view world.pawn)) := by
  obtain ⟨furniture, pawn⟩ := move_call_furniture held
    (.dragFurniture (dragTarget view world.pawn)) rfl world holds
  simp only [ServerCall.move] at furniture pawn
  rw [handleDrag_eq holds steep]
  refine ⟨furniture, ?_, call_sent _ _⟩
  simp only [pawn]

/-- The furniture is on the ray in the drag plane, up to the offset. -/
structure FollowsRay (view : PlayerView F R) (pawn : DesktopPawn F R) (location : FVector R) :
    Prop where
  x : location.x =
    (rayAtPlane view.rayOrigin view.rayDirection pawn.dragPlaneZ).x + pawn.dragOffset.x
  y : location.y =
    (rayAtPlane view.rayOrigin view.rayDirection pawn.dragPlaneZ).y + pawn.dragOffset.y
  z : location.z = pawn.dragPlaneZ

omit [DecidableEq F] [LinearOrder R] in
/-- A pawn whose plane and offset were just taken at a location follows the ray there. -/
theorem followsRay_offsetFrom {pawn : DesktopPawn F R} {location : FVector R} {z : R}
    (plane : pawn.dragPlaneZ = location.z) (offset : pawn.dragOffset = offsetFrom view location z) :
    FollowsRay view pawn location := by
  constructor
  · rw [plane, offset, offsetFrom]
    ring
  · rw [plane, offset, offsetFrom]
    ring
  · exact plane.symm

/-- A drag step leaves the furniture on the ray, at the location it commands. -/
theorem handleDrag_follows (holds : world.pawn.selectedFurniture = some held)
    (steep : isNearlyZero view.rayDirection.z = false) :
    ((world.handleDrag view).furniture held).location = dragTarget view world.pawn ∧
      FollowsRay view (world.handleDrag view).pawn
        ((world.handleDrag view).furniture held).location := by
  obtain ⟨furniture, pawn, _⟩ := handleDrag_spec holds steep
  have placed : ((world.handleDrag view).furniture held).location =
      dragTarget view world.pawn := by
    rw [furniture, Function.update_self]
    rfl
  refine ⟨placed, ?_⟩
  rw [placed, pawn]
  exact followsRay_offsetFrom rfl rfl

omit [DecidableEq F] in
theorem beginDrag_follows (steep : isNearlyZero view.rayDirection.z = false) :
    (world.beginDrag held view).furniture = world.furniture ∧
      FollowsRay view (world.beginDrag held view).pawn (world.furniture held).location := by
  simp only [beginDrag, steep]
  exact ⟨rfl, followsRay_offsetFrom rfl rfl⟩

/-- The drag plane and the offset of a pawn. -/
def dragFrame (pawn : DesktopPawn F R) : R × FVector R := (pawn.dragPlaneZ, pawn.dragOffset)

omit [LinearOrder R] in
theorem tick_dragFrame (playerController : Option (PlayerView F R)) (world : LocalWorld F R) :
    dragFrame (world.tick playerController).pawn = dragFrame world.pawn := by
  cases playerController with
  | none => rfl
  | some view =>
      obtain ⟨hoveredFurniture, hovered⟩ := updateHover_pawn view world
      simp only [tick, updateManipulatorHover, updateCursor, hovered]
      split <;> rfl

section Handlers

variable [FloorRing R] [EngineMath R]

theorem handle_keeps_drag {event : PawnEvent F R}
    (pressedWhileIdle : ∀ playerController, event = .leftClicking playerController →
      world.pawn.leftClickState = .idle)
    (notHeld : ∀ view, event ≠ .leftClickingHeld (some view))
    (dragging : (world.handle event).pawn.leftClickState = .dragging) :
    world.pawn.leftClickState = .dragging ∧
      dragFrame (world.handle event).pawn = dragFrame world.pawn := by
  cases event with
  | leftClicking playerController =>
      have idle := pressedWhileIdle playerController rfl
      have step := (leftClicking_control playerController world).1
      generalize after_eq : (world.leftClicking playerController).pawn.control = after at step
      have state : after.leftClickState = .dragging := by
        rw [← after_eq]
        exact dragging
      cases step with
      | kept => exact absurd (idle.symm.trans state) (by decide)
      | press view => exact absurd state (by simp)
      | grab view => exact absurd state (by simp)
  | leftClickingHeld playerController =>
      cases playerController with
      | none => exact ⟨dragging, rfl⟩
      | some view => exact absurd rfl (notHeld view)
  | leftClickingReleased spawned => exact absurd dragging (by simp [handle, leftClickingReleased])
  | panStarted => exact absurd dragging (by simp [handle, onPanStarted])
  | panStopped => exact ⟨dragging, rfl⟩
  | cameraControlStarted playerController => cases playerController <;> exact ⟨dragging, rfl⟩
  | cameraControlStopped playerController => cases playerController <;> exact ⟨dragging, rfl⟩
  | tick playerController =>
      have control := (tick_control playerController world).1
      have state := congrArg PawnControl.leftClickState control
      exact ⟨state.symm.trans dragging, tick_dragFrame playerController world⟩

omit [FloorRing R] in
/-- A press turns into a drag only of the selected furniture and only with a steep ray. -/
theorem heldPressed_drag (state : world.pawn.leftClickState = .pressed)
    (dragging : (world.heldPressed view).pawn.leftClickState = .dragging) :
    ∃ pressed, world.pawn.selectedFurniture = some pressed ∧
      isNearlyZero view.rayDirection.z = false ∧
      world.heldPressed view =
        beginDrag pressed view
          { world with pawn := { world.pawn with lastMousePosition := view.mousePosition } } := by
  rcases heldPressed_cases view world with same | ⟨pressed, _, selected, begun⟩ | begun
  · rw [same, state] at dragging
    exact absurd dragging (by decide)
  · cases steep : isNearlyZero view.rayDirection.z with
    | true => simp [begun, beginDrag, steep, state] at dragging
    | false => exact ⟨pressed, selected, rfl, begun⟩
  · simp [begun, beginOrbit] at dragging

/-- A hold of the button after which the pawn drags was either cut short, or it has put the selected
furniture on the ray. -/
theorem leftClickingHeld_drag
    (holding : world.pawn.leftClickState = .dragging → world.pawn.selectedFurniture.isSome = true)
    (dragging : (world.leftClickingHeld (some view)).pawn.leftClickState = .dragging) :
    (isNearlyZero view.rayDirection.z = true ∧ world.pawn.leftClickState = .dragging ∧
        world.leftClickingHeld (some view) = world) ∨
      (isNearlyZero view.rayDirection.z = false ∧ ∃ held,
        (world.leftClickingHeld (some view)).pawn.selectedFurniture = some held ∧
        FollowsRay view (world.leftClickingHeld (some view)).pawn
          ((world.leftClickingHeld (some view)).furniture held).location) := by
  simp only [leftClickingHeld] at dragging ⊢
  cases state : world.pawn.leftClickState with
  | idle => simp [state] at dragging
  | rotating => simp [state, handleRotate_pawn] at dragging
  | orbiting =>
      have control := congrArg PawnControl.leftClickState
        (handleOrbit_control view.mousePosition world).1
      simp only [state, DesktopPawn.control] at dragging control
      exact absurd (dragging.symm.trans control) (by decide)
  | dragging =>
      obtain ⟨held, holds⟩ := Option.isSome_iff_exists.mp (holding state)
      cases steep : isNearlyZero view.rayDirection.z with
      | true =>
          refine Or.inl ⟨rfl, rfl, ?_⟩
          simp [handleDrag, holds, steep]
      | false =>
          refine Or.inr ⟨rfl, held, ?_, (handleDrag_follows holds steep).2⟩
          exact (handleDrag_effect view world).selected.trans holds
  | pressed =>
      simp only [state] at dragging ⊢
      obtain ⟨pressed, selected, steep, begun⟩ := heldPressed_drag state dragging
      refine Or.inr ⟨steep, pressed, ?_, ?_⟩
      · exact (heldPressed_effect view world).selected.trans selected
      · rw [begun, (beginDrag_follows steep).1]
        exact (beginDrag_follows steep).2

theorem handleDrag_calls (state : world.pawn.leftClickState = .dragging)
    (holds : world.pawn.selectedFurniture = some held)
    (steep : isNearlyZero view.rayDirection.z = false) :
    world.calls (.leftClickingHeld (some view)) =
      [.dragFurniture ((world.leftClickingHeld (some view)).furniture held).location] := by
  have target : ((world.leftClickingHeld (some view)).furniture held).location =
      dragTarget view world.pawn := by
    simp only [leftClickingHeld, state]
    exact (handleDrag_follows holds steep).1
  rw [target]
  have copied := @handleDrag_spec F R _ _ _ { world with hasAuthority := false, sent := [] } view
    held holds steep
  simp only [calls, handle, leftClickingHeld, state]
  exact copied.2.2

end Handlers

end LocalWorld

namespace PawnInput

open LocalWorld

variable {F R : Type*} [DecidableEq F] [Field R] [LinearOrder R] [FloorRing R] [EngineMath R]
  {history : List (PawnInput F R × InputEvent F R)} {input : PawnInput F R}

/-- The ray of a hold which begins or continues a drag without being cut short, and the location of
the furniture after it. -/
def draggedBy (input : PawnInput F R) : InputEvent F R → Option (PlayerView F R × FVector R)
  | .handler (.leftClickingHeld (some view)) =>
      let after := input.world.leftClickingHeld (some view)
      if after.pawn.leftClickState = .dragging ∧ isNearlyZero view.rayDirection.z = false then
        after.pawn.selectedFurniture.map fun held => (view, (after.furniture held).location)
      else none
  | _ => none

theorem draggedBy_of_not_held {event : PawnEvent F R}
    (notHeld : ∀ view, event ≠ .leftClickingHeld (some view)) :
    input.draggedBy (.handler event) = none := by
  match event, notHeld with
  | .leftClickingHeld (some view), notHeld => exact absurd rfl (notHeld view)
  | .leftClickingHeld none, _ => rfl
  | .leftClicking _, _ => rfl
  | .leftClickingReleased _, _ => rfl
  | .panStarted, _ => rfl
  | .panStopped, _ => rfl
  | .cameraControlStarted _, _ => rfl
  | .cameraControlStopped _, _ => rfl
  | .tick _, _ => rfl

omit [DecidableEq F] [LinearOrder R] [FloorRing R] [EngineMath R] in
theorem FollowsRay_congr {view : PlayerView F R} {pawn other : DesktopPawn F R}
    {location : FVector R} (frame : dragFrame other = dragFrame pawn)
    (follows : FollowsRay view pawn location) : FollowsRay view other location := by
  obtain ⟨plane, offset⟩ := Prod.mk.inj frame
  exact ⟨by rw [plane, offset]; exact follows.x, by rw [plane, offset]; exact follows.y,
    by rw [plane]; exact follows.z⟩

theorem selected_of_dragging (run : (runs HeldButtons.LeftCycles).Run history input)
    (dragging : input.world.pawn.leftClickState = .dragging) :
    input.world.pawn.selectedFurniture.isSome = true := by
  have holds : input.world.pawn.leftClickState.holdsFurniture = true := by
    rw [dragging]
    rfl
  obtain ⟨held, selected⟩ := selected_of_holdsFurniture run holds
  simp [selected]

/-- All through a drag the location last given to the furniture follows the ray which gave it. -/
theorem latest_draggedBy (run : (runs HeldButtons.LeftCycles).Run history input)
    (dragging : input.world.pawn.leftClickState = .dragging) :
    ∃ dragged, latest draggedBy history = some dragged ∧
      FollowsRay dragged.1 input.world.pawn dragged.2 := by
  refine run.phase_latest (fun input => input.world.pawn.leftClickState = .dragging)
    (fun input dragged => FollowsRay dragged.1 input.world.pawn dragged.2) draggedBy ?_ ?_ dragging
  · rintro initial ⟨fresh, _⟩
    simp [fresh.leftClickState]
  · rintro before event ⟨earlier, reached⟩ enabled after
    cases event with
    | outside furniture playerState location controlRotation =>
        exact Or.inr ⟨after, rfl, fun _ follows => ⟨follows.x, follows.y, follows.z⟩⟩
    | handler event =>
        by_cases isHeld : ∃ view, event = .leftClickingHeld (some view)
        · obtain ⟨view, rfl⟩ := isHeld
          rcases leftClickingHeld_drag (selected_of_dragging reached) after with
            ⟨flat, state, same⟩ | ⟨steep, held, selected, follows⟩
          · refine Or.inr ⟨state, by simp [draggedBy, flat], fun dragged follows => ?_⟩
            change FollowsRay dragged.1 (before.world.leftClickingHeld (some view)).pawn dragged.2
            rw [same]
            exact follows
          · have state : (before.world.leftClickingHeld (some view)).pawn.leftClickState =
                .dragging := after
            exact Or.inl
              ⟨(view, ((before.world.leftClickingHeld (some view)).furniture held).location),
                by simp [draggedBy, state, steep, selected], follows⟩
        · have notHeld : ∀ view, event ≠ .leftClickingHeld (some view) := by
            simpa using isHeld
          obtain ⟨state, frame⟩ := handle_keeps_drag (by
            rintro playerController rfl
            obtain ⟨gesture, _, shown⟩ := exists_gesture reached
            exact shown.idle enabled) notHeld after
          exact Or.inr ⟨state, draggedBy_of_not_held notHeld,
            fun _ follows => FollowsRay_congr frame follows⟩

/-- Dragging does not jump.  All through a drag, the location which the last effective ray gave to
the furniture is that ray's point in the drag plane plus the offset.  The next steep ray puts it on
its own point plus the new offset and at the height of the new plane, sends exactly that location,
and has moved it by the distance of the two rays' points in the old plane. -/
theorem drag_does_not_jump (run : (runs HeldButtons.LeftCycles).Run history input)
    (dragging : input.world.pawn.leftClickState = .dragging) :
    ∃ view location held, latest draggedBy history = some (view, location) ∧
      input.world.pawn.selectedFurniture = some held ∧
      FollowsRay view input.world.pawn location ∧
      ∀ nextView : PlayerView F R, isNearlyZero nextView.rayDirection.z = false →
        let after := input.world.leftClickingHeld (some nextView)
        let placed := (after.furniture held).location
        let planePoint (view : PlayerView F R) :=
          rayAtPlane view.rayOrigin view.rayDirection input.world.pawn.dragPlaneZ
        FollowsRay nextView after.pawn placed ∧
          input.world.calls (.leftClickingHeld (some nextView)) = [.dragFurniture placed] ∧
          placed.x - location.x = (planePoint nextView).x - (planePoint view).x ∧
          placed.y - location.y = (planePoint nextView).y - (planePoint view).y := by
  obtain ⟨⟨view, location⟩, newest, follows⟩ := latest_draggedBy run dragging
  obtain ⟨held, holds⟩ := Option.isSome_iff_exists.mp (selected_of_dragging run dragging)
  refine ⟨view, location, held, newest, holds, follows, fun nextView steep => ?_⟩
  have stepped : input.world.leftClickingHeld (some nextView) =
      input.world.handleDrag nextView := by
    simp only [LocalWorld.leftClickingHeld, dragging]
  obtain ⟨placed, followsNext⟩ := handleDrag_follows holds steep
  refine ⟨?_, handleDrag_calls dragging holds steep, ?_, ?_⟩
  · rw [stepped]
    exact followsNext
  · rw [stepped, placed, dragTarget_x, follows.x]
    ring
  · rw [stepped, placed, dragTarget_y, follows.y]
    ring

section DraggedAlong

local instance draggedAlongMath : EngineMath ℚ := quarterTurnMath

/-- The cursor straight above a table of height 80. -/
def tableView : PlayerView Nat ℚ :=
  { PlayerView.overhead none none with
    rayOrigin := ⟨7, 0, 110⟩
    lineTrace := fun start _ => some ⟨start.x, start.y, 80⟩ }

/-- A slanted ray, which meets the table farther east. -/
def slantView : PlayerView Nat ℚ :=
  { PlayerView.overhead none none with rayOrigin := ⟨0, 0, 100⟩, rayDirection := ⟨1, 0, -1⟩ }

/-- Begin a drag of furniture 5 on the floor and drag it onto the table. -/
def tableRun : List (InputEvent Nat ℚ) :=
  dragRun ++ [.handler (.leftClickingHeld (some tableView))]

theorem tableRun_legal : (runs HeldButtons.LeftCycles).Legal (atOrigin Nat ℚ) tableRun :=
  ⟨rfl, rfl, rfl, rfl, rfl, trivial⟩

/-- On the table the furniture follows the ray which put it there, and a slanted ray moves it as far
as the two rays are apart on the table. -/
theorem drag_does_not_jump_tableRun :
    let input := (runs HeldButtons.LeftCycles).replay (atOrigin Nat ℚ) tableRun
    let placed := ((input.world.leftClickingHeld (some slantView)).furniture 5).location
    input.world.pawn.dragPlaneZ = 80 ∧ ∃ view : PlayerView Nat ℚ,
      FollowsRay view input.world.pawn ⟨7, 0, 80⟩ ∧
        input.world.calls (.leftClickingHeld (some slantView)) = [.dragFurniture placed] ∧
        placed.x - 7 = 20 - 7 := by
  intro input placed
  have run := (run_atOrigin HeldButtons.LeftCycles).replay tableRun_legal
  obtain ⟨view, location, held, newest, holds, follows, next⟩ :=
    drag_does_not_jump run (by decide +kernel)
  obtain rfl : held = 5 := Option.some.inj (holds.symm.trans (by decide +kernel))
  have seen := congrArg (Option.map fun dragged =>
    (dragged.1.rayOrigin, dragged.1.rayDirection, dragged.2)) newest
  have rays : some (view.rayOrigin, view.rayDirection, location) =
      some (⟨7, 0, 110⟩, ⟨0, 0, -1⟩, ⟨7, 0, 80⟩) := seen.symm.trans (by decide +kernel)
  simp only [Option.some.injEq, Prod.mk.injEq] at rays
  obtain ⟨rayOrigin, rayDirection, rfl⟩ := rays
  obtain ⟨_, called, moved, _⟩ := next slantView (by decide +kernel)
  refine ⟨by decide +kernel, view, follows, called, moved.trans ?_⟩
  simp only [rayOrigin, rayDirection]
  decide +kernel

end DraggedAlong

end PawnInput

end Ioroom
