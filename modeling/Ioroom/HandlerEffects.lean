import Ioroom.LeftClick
import Ioroom.ServerCalls

/-!
# What handlers can do

`handle_effect` lists what a handler can do to the selection, to the furniture and to the calls
sent, `handle_machine` and `handle_manipulates` what it keeps.  Nothing above this file unfolds a
handler.
-/

namespace Ioroom

open FurnitureActor

namespace LocalWorld

variable {F R : Type*} [DecidableEq F] [Field R]

/-- Two families of furniture agree in everything but the hover overlays. -/
def SameFurniture (left right : F → FurnitureActor R) : Prop :=
  ∀ furniture, SameActor (left furniture) (right furniture)

omit [DecidableEq F] [Field R] in
theorem SameFurniture.refl (furniture : F → FurnitureActor R) :
    SameFurniture furniture furniture :=
  fun _ => .refl _

omit [DecidableEq F] [Field R] in
theorem SameFurniture.trans {first second third : F → FurnitureActor R}
    (left : SameFurniture first second) (right : SameFurniture second third) :
    SameFurniture first third :=
  fun furniture => (left furniture).trans (right furniture)

theorem modify_same (furniture : F) {method : FurnitureActor R → FurnitureActor R}
    (same : ∀ actor, SameActor (method actor) actor) (world : LocalWorld F R) :
    SameFurniture (world.modify furniture method).furniture world.furniture := by
  intro other
  by_cases equal : other = furniture
  · subst equal
    rw [modify_furniture, Function.update_self]
    exact same _
  · rw [modify_furniture, Function.update_of_ne equal]

theorem modifyOpt_same (pointer : Option F) {method : FurnitureActor R → FurnitureActor R}
    (same : ∀ actor, SameActor (method actor) actor) (world : LocalWorld F R) :
    SameFurniture (world.modifyOpt pointer method).furniture world.furniture := by
  cases pointer with
  | none => exact .refl _
  | some furniture => exact modify_same furniture same world

/-- Nothing changes but hover overlays and the state of the input. -/
structure OnlyOverlays (world after : LocalWorld F R) : Prop where
  frame : KeepsFrame world after
  selected : after.pawn.selectedFurniture = world.pawn.selectedFurniture
  furniture : SameFurniture after.furniture world.furniture
  sent : after.sent = world.sent

namespace OnlyOverlays

omit [DecidableEq F] in
theorem refl (world : LocalWorld F R) : OnlyOverlays world world :=
  ⟨.refl world, rfl, .refl _, rfl⟩

omit [DecidableEq F] in
theorem trans {first second third : LocalWorld F R} (left : OnlyOverlays first second)
    (right : OnlyOverlays second third) : OnlyOverlays first third :=
  ⟨left.frame.trans right.frame, right.selected.trans left.selected,
    right.furniture.trans left.furniture, right.sent.trans left.sent⟩

omit [DecidableEq F] in
/-- A change of the pawn which keeps its selection and its manipulator in place. -/
theorem pawn {world : LocalWorld F R} {pawn : DesktopPawn F R}
    (selected : pawn.selectedFurniture = world.pawn.selectedFurniture)
    (attached : pawn.activeManipulator.map (·.attachedTo) = world.attachment) :
    OnlyOverlays world { world with pawn } :=
  ⟨.of_attachment rfl rfl attached, selected, .refl _, rfl⟩

end OnlyOverlays

/-- What a gesture can do to the furniture and to the calls sent: nothing, or move the selected
furniture and say so.  It never changes the selection. -/
inductive GestureEffect (world after : LocalWorld F R) : Prop
  | kept (same : OnlyOverlays world after)
  | moved (serverCall : ServerCall F R)
      (unreliable : serverCall.isReliable = false)
      (holds : serverCall.isTransform = true → world.pawn.selectedFurniture.isSome = true)
      (frame : KeepsFrame world after)
      (selected : after.pawn.selectedFurniture = world.pawn.selectedFurniture)
      (furniture : SameFurniture after.furniture
        (world.modifyOpt world.pawn.selectedFurniture serverCall.move).furniture)
      (sent : after.sent = world.sentAfter serverCall)

/-- What the handler of an event can do to the selection, to the furniture and to the calls
sent. -/
inductive Effect (event : PawnEvent F R) (world after : LocalWorld F R) : Prop
  | gesture (effect : GestureEffect world after)
  | selecting (spawned : Bool) (pressed : F)
      (released : event = .leftClickingReleased spawned)
      (state : world.pawn.leftClickState = .pressed)
      (press : world.pawn.pressedFurniture = some pressed)
      (selected : after.pawn.selectedFurniture = some pressed)
      (furniture : SameFurniture after.furniture
        (world.call (.selectFurniture (some pressed))).furniture)
      (sent : after.sent = world.sentAfter (.selectFurniture (some pressed)))
  | deselecting (spawned : Bool) (held : F)
      (released : event = .leftClickingReleased spawned)
      (state : world.pawn.leftClickState = .pressed)
      (press : world.pawn.pressedFurniture = none)
      (holds : world.pawn.selectedFurniture = some held)
      (selected : after.pawn.selectedFurniture = none)
      (furniture : SameFurniture after.furniture (world.call .deselectFurniture).furniture)
      (sent : after.sent = world.sentAfter .deselectFurniture)

variable {world after : LocalWorld F R}

theorem GestureEffect.refl (world : LocalWorld F R) : GestureEffect world world :=
  .kept (.refl world)

theorem GestureEffect.pawn {pawn : DesktopPawn F R}
    (selected : pawn.selectedFurniture = world.pawn.selectedFurniture)
    (attached : pawn.activeManipulator.map (·.attachedTo) = world.attachment) :
    GestureEffect world { world with pawn } :=
  .kept (.pawn selected attached)

theorem GestureEffect.frame (effect : GestureEffect world after) : KeepsFrame world after := by
  cases effect with
  | kept same => exact same.frame
  | moved serverCall unreliable holds frame selected furniture sent => exact frame

theorem GestureEffect.selected (effect : GestureEffect world after) :
    after.pawn.selectedFurniture = world.pawn.selectedFurniture := by
  cases effect with
  | kept same => exact same.selected
  | moved serverCall unreliable holds frame selected furniture sent => exact selected

theorem GestureEffect.manipulates (effect : GestureEffect world after)
    (manipulates : world.ManipulatesSelection) : after.ManipulatesSelection := by
  intro furniture attached
  rw [effect.selected, manipulates furniture (effect.frame.attachment furniture attached)]

/-- The local move and the immediate execution of its call on the authority agree. -/
theorem move_call_furniture (held : F) (serverCall : ServerCall F R)
    (transform : serverCall.isTransform = true) (world : LocalWorld F R)
    (holds : world.pawn.selectedFurniture = some held) :
    ((world.modify held serverCall.move).call serverCall).furniture =
        (world.modify held serverCall.move).furniture ∧
      ((world.modify held serverCall.move).call serverCall).pawn = world.pawn := by
  by_cases authority : world.hasAuthority = true
  · cases serverCall with
    | dragFurniture newLocation =>
        simp [call, authority, execute, serverDragFurnitureImplementation, holds,
          modify_furniture, ServerCall.move, setActorLocation]
    | rotateFurniture newRotation =>
        simp [call, authority, execute, serverRotateFurnitureImplementation, holds,
          modify_furniture, ServerCall.move, setActorRotation]
    | selectFurniture furniture => simp [ServerCall.isTransform] at transform
    | deselectFurniture => simp [ServerCall.isTransform] at transform
    | orbitTransform newLocation newRotation => simp [ServerCall.isTransform] at transform
  · simp [call, authority]

theorem move_effect (held : F) (serverCall : ServerCall F R)
    (transform : serverCall.isTransform = true)
    (holds : world.pawn.selectedFurniture = some held)
    (same : OnlyOverlays ((world.modify held serverCall.move).call serverCall) after) :
    GestureEffect world after := by
  obtain ⟨moved, pawn⟩ := move_call_furniture held serverCall transform world holds
  have unreliable : serverCall.isReliable = false := by
    cases serverCall <;> simp_all [ServerCall.isTransform, ServerCall.isReliable]
  refine .moved serverCall unreliable (by simp [holds]) ?_ ?_ ?_ ?_
  · have placed := modifyOpt_frame (some held) serverCall.move world
    exact (placed.call serverCall).trans same.frame
  · rw [same.selected, pawn]
  · rw [holds, modifyOpt_some, ← moved]
    exact same.furniture
  · rw [same.sent, call_sent]
    rfl

theorem orbit_call (newLocation : FVector R) (newRotation : FRotator R)
    (world : LocalWorld F R) :
    (world.call (.orbitTransform newLocation newRotation)).furniture = world.furniture ∧
      (world.call (.orbitTransform newLocation newRotation)).pawn.selectedFurniture =
        world.pawn.selectedFurniture := by
  by_cases authority : world.hasAuthority = true <;>
    simp [call, authority, execute, serverOrbitTransformImplementation]

theorem selectPressed_effect {pressed : F}
    (state : world.pawn.leftClickState = .pressed)
    (press : world.pawn.pressedFurniture = some pressed) (spawned : Bool)
    (selected : after.pawn.selectedFurniture = some pressed)
    (furniture : after.furniture = (world.selectPressed pressed spawned).furniture)
    (sent : after.sent = (world.selectPressed pressed spawned).sent) :
    Effect (.leftClickingReleased spawned) world after := by
  refine .selecting spawned pressed rfl state press selected ?_ ?_
  · rw [furniture]
    exact modify_same pressed onUnHovered_same _
  · rw [sent]
    exact call_sent _ world

theorem leftClickingReleased_idle (spawned : Bool)
    (state : world.pawn.leftClickState ≠ .pressed) :
    GestureEffect world (world.leftClickingReleased spawned) := by
  cases gesture : world.pawn.leftClickState with
  | pressed => exact absurd gesture state
  | idle =>
      simp only [leftClickingReleased, gesture]
      exact .pawn rfl rfl
  | orbiting =>
      simp only [leftClickingReleased, gesture]
      exact .pawn rfl rfl
  | rotating =>
      simp only [leftClickingReleased, gesture]
      exact .pawn rfl rfl
  | dragging =>
      simp only [leftClickingReleased, gesture]
      exact .pawn rfl (by simp [attachment, Function.comp_def])

theorem leftClickingReleased_effect (spawned : Bool) (world : LocalWorld F R) :
    Effect (.leftClickingReleased spawned) world (world.leftClickingReleased spawned) := by
  by_cases state : world.pawn.leftClickState = .pressed
  · cases press : world.pawn.pressedFurniture with
    | some pressed =>
        refine selectPressed_effect state press spawned ?_ ?_ ?_ <;>
          simp [leftClickingReleased, state, press, selectPressed]
    | none =>
        cases holds : world.pawn.selectedFurniture with
        | none =>
            refine .gesture (.kept ⟨⟨?_, ?_, ?_⟩, ?_, ?_, ?_⟩) <;>
              simp only [leftClickingReleased, state, press, deselectOnEmpty, holds]
            · rfl
            · rfl
            · simp [attachment]
            · exact .refl _
            · rfl
        | some held =>
            refine .deselecting spawned held rfl state press holds ?_ ?_ ?_
            · simp [leftClickingReleased, state, press, deselectOnEmpty, holds]
            · simp only [leftClickingReleased, state, press, deselectOnEmpty, holds]
              exact .refl _
            · simp [leftClickingReleased, state, press, deselectOnEmpty, holds, call_sent]
  · exact .gesture (leftClickingReleased_idle spawned state)

theorem unhover_overlays (world : LocalWorld F R) : OnlyOverlays world world.unhover := by
  have cleared := modifyOpt_frame world.pawn.hoveredFurniture (·.onUnHovered) world
  refine ⟨⟨cleared.hasAuthority, cleared.playerState, cleared.attachment⟩, ?_, ?_, ?_⟩
  · simp [unhover]
  · exact modifyOpt_same _ onUnHovered_same world
  · simp [unhover]

theorem hover_overlays (hitActor : F) (world : LocalWorld F R) :
    OnlyOverlays world (world.hover hitActor) := by
  have cleared := modifyOpt_frame world.pawn.hoveredFurniture (·.onUnHovered) world
  refine ⟨⟨cleared.hasAuthority, cleared.playerState, cleared.attachment⟩, ?_, ?_, ?_⟩
  · simp [hover]
  · exact (modify_same hitActor (onHovered_same _) _).trans
      (modifyOpt_same _ onUnHovered_same world)
  · simp [hover]

theorem dropLockedHover_overlays (world : LocalWorld F R) :
    OnlyOverlays world world.dropLockedHover := by
  rw [dropLockedHover]
  split
  · exact .refl world
  · split
    · exact .refl world
    · exact unhover_overlays world

theorem updateHover_overlays (view : PlayerView F R) (world : LocalWorld F R) :
    OnlyOverlays world (world.updateHover view) := by
  have dropped := dropLockedHover_overlays world
  simp only [updateHover]
  split
  · exact unhover_overlays world
  · split
    · exact dropped.trans (unhover_overlays _)
    · split
      · split
        · exact dropped
        · exact dropped.trans (hover_overlays _ _)
      · exact dropped.trans (unhover_overlays _)

omit [DecidableEq F] in
theorem updateCursor_overlays (world : LocalWorld F R) :
    OnlyOverlays world world.updateCursor := by
  rw [updateCursor]
  split <;> exact .pawn rfl rfl

omit [DecidableEq F] in
theorem updateManipulatorHover_overlays (view : PlayerView F R) (world : LocalWorld F R) :
    OnlyOverlays world (world.updateManipulatorHover view) :=
  .pawn rfl (by simp [attachment, Function.comp_def])

theorem tick_overlays (playerController : Option (PlayerView F R)) (world : LocalWorld F R) :
    OnlyOverlays world (world.tick playerController) := by
  cases playerController with
  | none => exact .refl world
  | some view =>
      refine (updateHover_overlays view world).trans ?_
      exact (updateCursor_overlays _).trans (updateManipulatorHover_overlays view _)

theorem tick_effect (playerController : Option (PlayerView F R)) (world : LocalWorld F R) :
    GestureEffect world (world.tick playerController) :=
  .kept (tick_overlays playerController world)

section Gestures

variable [LinearOrder R] [FloorRing R] [EngineMath R]

omit [LinearOrder R] [FloorRing R] in
theorem nudge_cases {handle : ManipulatorHandle}
    (nudged : world.nudgeSelectedFurniture handle = some after) :
    ∃ selected newLocation, world.pawn.selectedFurniture = some selected ∧
      after = (world.modify selected (·.setActorLocation newLocation)).call
        (.dragFurniture newLocation) := by
  cases holds : world.pawn.selectedFurniture with
  | none => simp [nudgeSelectedFurniture, holds] at nudged
  | some selected =>
      cases towards : nudgeDirection handle (world.furniture selected) with
      | none => simp [nudgeSelectedFurniture, holds, towards] at nudged
      | some direction =>
          simp only [nudgeSelectedFurniture, holds, towards, Option.some.injEq] at nudged
          exact ⟨selected, _, rfl, nudged.symm⟩

omit [LinearOrder R] [FloorRing R] in
theorem nudge_effect {handle : ManipulatorHandle}
    (nudged : world.nudgeSelectedFurniture handle = some after) : GestureEffect world after := by
  obtain ⟨selected, newLocation, holds, rfl⟩ := nudge_cases nudged
  exact move_effect selected (.dragFurniture newLocation) rfl holds (.refl _)

omit [FloorRing R] [EngineMath R] in
/-- A drag step does nothing, or moves the selected furniture, tells the server and takes the plane
and the offset anew. -/
theorem handleDrag_cases (view : PlayerView F R) (world : LocalWorld F R) :
    world.handleDrag view = world ∨
      ∃ selected newLocation dragOffset, world.pawn.selectedFurniture = some selected ∧
        world.handleDrag view =
          let moved := (world.modify selected (·.setActorLocation newLocation)).call
            (.dragFurniture newLocation)
          { moved with pawn := { moved.pawn with dragOffset, dragPlaneZ := newLocation.z } } := by
  cases holds : world.pawn.selectedFurniture with
  | none => exact Or.inl (by simp only [handleDrag, holds])
  | some selected =>
      simp only [handleDrag, holds]
      split
      · exact Or.inl rfl
      · exact Or.inr ⟨selected, _, _, rfl, rfl⟩

omit [FloorRing R] [EngineMath R] in
theorem handleDrag_effect (view : PlayerView F R) (world : LocalWorld F R) :
    GestureEffect world (world.handleDrag view) := by
  rcases handleDrag_cases view world with same | ⟨selected, newLocation, dragOffset, holds, moved⟩
  · rw [same]
    exact .refl world
  · rw [moved]
    exact move_effect selected (.dragFurniture newLocation) rfl holds (.pawn rfl rfl)

theorem handleRotate_cases (view : PlayerView F R) (world : LocalWorld F R) :
    world.handleRotate view = world ∨
      ∃ selected newRotation, world.pawn.selectedFurniture = some selected ∧
        world.handleRotate view =
          (world.modify selected (·.setActorRotation newRotation)).call
            (.rotateFurniture newRotation) := by
  cases holds : world.pawn.selectedFurniture with
  | none => exact Or.inl (by simp only [handleRotate, holds])
  | some selected =>
      simp only [handleRotate, holds]
      split
      · exact Or.inl rfl
      · exact Or.inr ⟨selected, _, rfl, rfl⟩

theorem handleRotate_effect (view : PlayerView F R) (world : LocalWorld F R) :
    GestureEffect world (world.handleRotate view) := by
  rcases handleRotate_cases view world with same | ⟨selected, newRotation, holds, turned⟩
  · rw [same]
    exact .refl world
  · rw [turned]
    exact move_effect selected (.rotateFurniture newRotation) rfl holds (.refl _)

omit [FloorRing R] in
theorem handleOrbit_effect (currentMousePosition : FVector2D R) (world : LocalWorld F R) :
    GestureEffect world (world.handleOrbit currentMousePosition) := by
  refine .moved (.orbitTransform _ _) rfl (by simp [ServerCall.isTransform]) ?_
    (orbit_call _ _ _).2 ?_ (call_sent _ _)
  · rw [handleOrbit]
    refine KeepsFrame.call ?_ _
    exact .of_attachment rfl rfl rfl
  · rw [handleOrbit, (orbit_call _ _ _).1]
    exact fun furniture => (modifyOpt_same _ (fun _ => .refl _) world furniture).symm

omit [FloorRing R] in
theorem clickManipulator_cases {view : PlayerView F R}
    (clicked : world.clickManipulator view = some after) :
    (∃ selected, world.pawn.activeManipulator.isSome = true ∧
        world.pawn.selectedFurniture = some selected ∧ after = world.grabRing selected view) ∨
      ∃ handle, world.nudgeSelectedFurniture handle = some after := by
  simp only [clickManipulator] at clicked
  split at clicked
  · rename_i manipulator selected component active holds hit
    split at clicked
    · exact Or.inl ⟨selected, by simp [active], holds, (Option.some.inj clicked).symm⟩
    · exact Or.inr ⟨_, clicked⟩
  · simp at clicked

omit [FloorRing R] in
theorem leftClicking_effect (playerController : Option (PlayerView F R))
    (world : LocalWorld F R) : GestureEffect world (world.leftClicking playerController) := by
  cases playerController with
  | none =>
      simp only [leftClicking, ite_self]
      exact .refl world
  | some view =>
      simp only [leftClicking]
      split
      · exact .refl world
      · cases clicked : world.clickManipulator view with
        | none => exact .pawn rfl rfl
        | some after =>
            rcases clickManipulator_cases clicked with ⟨selected, _, _, grabbed⟩ | ⟨_, nudged⟩
            · rw [Option.getD_some, grabbed, grabRing]
              split
              · exact .refl world
              · exact .pawn rfl rfl
            · exact nudge_effect nudged

omit [FloorRing R] in
theorem heldPressed_cases (view : PlayerView F R) (world : LocalWorld F R) :
    let tracked := { world with
      pawn := { world.pawn with lastMousePosition := view.mousePosition } }
    world.heldPressed view = world ∨
      (∃ pressed, world.pawn.pressedFurniture = some pressed ∧
        world.pawn.selectedFurniture = some pressed ∧
        world.heldPressed view = tracked.beginDrag pressed view) ∨
      world.heldPressed view = tracked.beginOrbit := by
  intro tracked
  simp only [heldPressed]
  split
  · split
    · rename_i pressed press
      split
      · rename_i selected
        exact Or.inr (Or.inl ⟨pressed, press, selected, rfl⟩)
      · exact Or.inr (Or.inr rfl)
    · exact Or.inr (Or.inr rfl)
  · exact Or.inl rfl

omit [FloorRing R] in
theorem heldPressed_effect (view : PlayerView F R) (world : LocalWorld F R) :
    GestureEffect world (world.heldPressed view) := by
  rcases heldPressed_cases view world with same | ⟨pressed, _, _, begun⟩ | begun
  · rw [same]
    exact .refl world
  · rw [begun, beginDrag]
    split
    · exact .pawn rfl rfl
    · exact .pawn rfl (by simp [attachment, Function.comp_def])
  · rw [begun]
    exact .pawn rfl rfl

theorem leftClickingHeld_effect (playerController : Option (PlayerView F R))
    (world : LocalWorld F R) : GestureEffect world (world.leftClickingHeld playerController) := by
  cases playerController with
  | none => exact .refl world
  | some view =>
      simp only [leftClickingHeld]
      cases world.pawn.leftClickState with
      | idle => exact .refl world
      | pressed => exact heldPressed_effect view world
      | orbiting => exact handleOrbit_effect _ world
      | dragging => exact handleDrag_effect view world
      | rotating => exact handleRotate_effect view world

/-- Everything an input handler can do: a release of the button may select or deselect, everything
else is a gesture. -/
theorem handle_cases (event : PawnEvent F R) (world : LocalWorld F R) :
    (∃ spawned, event = .leftClickingReleased spawned) ∨
      GestureEffect world (world.handle event) := by
  cases event with
  | leftClicking playerController => exact Or.inr (leftClicking_effect playerController world)
  | leftClickingHeld playerController =>
      exact Or.inr (leftClickingHeld_effect playerController world)
  | leftClickingReleased spawned => exact Or.inl ⟨spawned, rfl⟩
  | panStarted => exact Or.inr (.pawn rfl rfl)
  | panStopped => exact Or.inr (.pawn rfl rfl)
  | cameraControlStarted playerController =>
      cases playerController
      · exact Or.inr (.refl world)
      · exact Or.inr (.pawn rfl rfl)
  | cameraControlStopped playerController =>
      cases playerController
      · exact Or.inr (.refl world)
      · exact Or.inr (.pawn rfl rfl)
  | tick playerController => exact Or.inr (tick_effect playerController world)

theorem handle_effect (event : PawnEvent F R) (world : LocalWorld F R) :
    Effect event world (world.handle event) := by
  rcases handle_cases event world with ⟨spawned, rfl⟩ | gesture
  · exact leftClickingReleased_effect spawned world
  · exact .gesture gesture

end Gestures

theorem leftClickingReleased_machine (spawned : Bool) (world : LocalWorld F R) :
    (world.leftClickingReleased spawned).hasAuthority = world.hasAuthority ∧
      (world.leftClickingReleased spawned).playerState = world.playerState := by
  simp only [leftClickingReleased]
  split
  · exact ⟨(call_frame _ world).hasAuthority, (call_frame _ world).playerState⟩
  · simp only [deselectOnEmpty]
    split
    · exact ⟨(call_frame _ world).hasAuthority, (call_frame _ world).playerState⟩
    · exact ⟨rfl, rfl⟩
  · exact ⟨rfl, rfl⟩

theorem leftClickingReleased_manipulates (spawned : Bool)
    (manipulates : world.ManipulatesSelection) :
    (world.leftClickingReleased spawned).ManipulatesSelection := by
  by_cases state : world.pawn.leftClickState = .pressed
  · cases press : world.pawn.pressedFurniture with
    | some pressed =>
        simp only [ManipulatesSelection, attachment, leftClickingReleased, state, press,
          selectPressed]
        split
        · simp
        · split <;> simp
    | none =>
        simp [ManipulatesSelection, attachment, leftClickingReleased, state, press,
          deselectOnEmpty]
  · exact (leftClickingReleased_idle spawned state).manipulates manipulates

section Gestures

variable [LinearOrder R] [FloorRing R] [EngineMath R]

theorem handle_machine (event : PawnEvent F R) (world : LocalWorld F R) :
    (world.handle event).hasAuthority = world.hasAuthority ∧
      (world.handle event).playerState = world.playerState := by
  rcases handle_cases event world with ⟨spawned, rfl⟩ | gesture
  · exact leftClickingReleased_machine spawned world
  · exact ⟨gesture.frame.hasAuthority, gesture.frame.playerState⟩

theorem handle_manipulates (event : PawnEvent F R) (manipulates : world.ManipulatesSelection) :
    (world.handle event).ManipulatesSelection := by
  rcases handle_cases event world with ⟨spawned, rfl⟩ | gesture
  · exact leftClickingReleased_manipulates spawned manipulates
  · exact gesture.manipulates manipulates

end Gestures

end LocalWorld

end Ioroom
