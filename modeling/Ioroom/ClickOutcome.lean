import Ioroom.GestureMachine

/-!
# What the cursor foretells

After a tick the cursor is a hand exactly when a click at the same place would select another
furniture which nobody has locked.  A click is a press and a release between which the mouse stays
within the drag threshold and the player does not pan; whatever else happens meanwhile does not
change its outcome.
-/

namespace Ioroom

open EventSystem

namespace LocalWorld

variable {F R : Type*} [DecidableEq F] [Field R]

/-- The furniture under the cursor can be hovered: it is unlocked and not the selected one. -/
def Hoverable (view : PlayerView F R) (world : LocalWorld F R) (furniture : F) : Prop :=
  view.hitActor = some furniture ∧ world.pawn.selectedFurniture ≠ some furniture ∧
    (world.furniture furniture).isSelectableFurniture = true

/-- The cursor is on no handle of a manipulator. -/
def OffHandles (view : PlayerView F R) (world : LocalWorld F R) : Prop :=
  world.pawn.activeManipulator.isSome = true →
    ∀ component, view.handleHit = some component → resolveHandle component = .none

variable {world after : LocalWorld F R} {view : PlayerView F R}

omit [DecidableEq F] in
theorem OnlyOverlays.hoverable (overlays : OnlyOverlays world after) {furniture : F} :
    Hoverable view after furniture ↔ Hoverable view world furniture := by
  simp only [Hoverable, overlays.selected, FurnitureActor.isSelectableFurniture_iff,
    (overlays.furniture furniture).slot]

theorem updateHover_hovered (uncontrolled : world.pawn.bCameraControlActive = false)
    (quiet : LMBState.inGesture world.pawn.leftClickState = false) (furniture : F) :
    (world.updateHover view).pawn.hoveredFurniture = some furniture ↔
      Hoverable view world furniture := by
  rw [← (dropLockedHover_overlays world).hoverable, Hoverable]
  simp only [updateHover, uncontrolled, quiet, Bool.or_self, Bool.false_eq_true, if_false]
  cases hits : view.hitActor with
  | none => simp [unhover]
  | some hitActor =>
      by_cases hoverable : world.dropLockedHover.pawn.selectedFurniture ≠ some hitActor ∧
          (world.dropLockedHover.furniture hitActor).isSelectableFurniture = true
      · have hovered : (if world.dropLockedHover.pawn.hoveredFurniture = some hitActor then
            world.dropLockedHover else world.dropLockedHover.hover hitActor).pawn.hoveredFurniture =
              some hitActor := by
          split
          · assumption
          · rfl
        simp only [if_pos hoverable, hovered, Option.some.injEq]
        constructor
        · rintro rfl
          exact ⟨rfl, hoverable⟩
        · exact fun hoverable => hoverable.1
      · simp only [if_neg hoverable, unhover, Option.some.injEq]
        constructor
        · simp
        · rintro ⟨rfl, hovers⟩
          exact absurd hovers hoverable

theorem tick_cursor (view : PlayerView F R)
    (uncontrolled : world.pawn.bCameraControlActive = false)
    (quiet : LMBState.inGesture world.pawn.leftClickState = false) :
    (world.tick (some view)).pawn.currentMouseCursor = .hand ↔
      ∃ furniture, Hoverable view world furniture := by
  have hovers : (∃ furniture, Hoverable view world furniture) ↔
      (world.updateHover view).pawn.hoveredFurniture.isSome = true := by
    rw [Option.isSome_iff_exists]
    exact exists_congr fun furniture => (updateHover_hovered uncontrolled quiet furniture).symm
  obtain ⟨hoveredFurniture, hovered⟩ := updateHover_pawn view world
  rw [hovers, hovered]
  simp only [tick, updateManipulatorHover, updateCursor, hovered, uncontrolled, quiet,
    Bool.false_eq_true, if_false]
  cases hoveredFurniture <;> simp

/-- The pawn after a press on the scene. -/
structure Pressing (view : PlayerView F R) (threshold : R) (world : LocalWorld F R) : Prop where
  state : world.pawn.leftClickState = .pressed
  pressed : world.pawn.pressedFurniture = view.hitActor
  mouse : world.pawn.mousePositionOnClick = view.mousePosition
  threshold : world.pawn.orbitDragThreshold = threshold

theorem Pressing.tick {threshold : R} (pressing : Pressing view threshold world)
    (playerController : Option (PlayerView F R)) :
    Pressing view threshold (world.tick playerController) := by
  cases playerController with
  | none => exact pressing
  | some current =>
      obtain ⟨state, pressed, mouse, threshold⟩ := pressing
      obtain ⟨hoveredFurniture, hovered⟩ := updateHover_pawn current world
      simp only [LocalWorld.tick, updateManipulatorHover, updateCursor, hovered]
      split <;> exact ⟨state, pressed, mouse, threshold⟩

section Gestures

variable [LinearOrder R] [FloorRing R] [EngineMath R]

theorem Pressing.leftClickingHeld {threshold : R} (pressing : Pressing view threshold world)
    {current : PlayerView F R}
    (still : current.mousePosition.distance view.mousePosition ≤ threshold) :
    Pressing view threshold (world.leftClickingHeld (some current)) := by
  have near : ¬world.pawn.orbitDragThreshold <
      current.mousePosition.distance world.pawn.mousePositionOnClick := by
    rw [pressing.threshold, pressing.mouse]
    exact not_lt.mpr still
  have kept : world.leftClickingHeld (some current) = world := by
    simp only [LocalWorld.leftClickingHeld, pressing.state, heldPressed, if_neg near]
  rwa [kept]

omit [FloorRing R] in
theorem leftClicking_offHandles (uncontrolled : world.pawn.bCameraControlActive = false)
    (off : OffHandles view world) : world.leftClicking (some view) = world.pressScene view := by
  have scene : world.clickManipulator view = none := by
    rw [clickManipulator]
    split
    · rename_i manipulator selected component active holds hit
      have unresolved := off (by simp [active]) component hit
      simp [unresolved, nudgeSelectedFurniture, nudgeDirection, holds]
    · rfl
  rw [leftClicking, if_neg (by simp [uncontrolled])]
  simp [scene]

end Gestures

/-- A release of a press selects the pressed furniture, or nothing. -/
theorem Pressing.released {threshold : R} (pressing : Pressing view threshold world)
    (spawned : Bool) :
    (world.leftClickingReleased spawned).pawn.selectedFurniture = view.hitActor := by
  rw [← pressing.pressed]
  cases pressed : world.pawn.pressedFurniture <;>
    simp [leftClickingReleased, pressing.state, pressed, selectPressed, deselectOnEmpty]

end LocalWorld

namespace PawnInput

open LocalWorld

variable {F R : Type*} [DecidableEq F] [Field R] [LinearOrder R] [FloorRing R] [EngineMath R]

/-- Events between the press and the release of a click: the mouse stays where it is, up to the
threshold, and neither a pan starts nor another press or release comes. -/
def DuringClick (position : FVector2D R) (threshold : R) : InputEvent F R → Prop
  | .handler (.leftClickingHeld (some view)) => view.mousePosition.distance position ≤ threshold
  | .handler (.leftClickingHeld none) => True
  | .handler (.tick _) => True
  | .handler (.cameraControlStarted _) => True
  | .handler (.cameraControlStopped _) => True
  | .handler .panStopped => True
  | .handler .panStarted => False
  | .handler (.leftClicking _) => False
  | .handler (.leftClickingReleased _) => False
  | .outside _ _ _ _ => True

variable {input before : PawnInput F R} {view : PlayerView F R} {threshold : R}
  {events : List (InputEvent F R)} {history : List (PawnInput F R × InputEvent F R)}

theorem pressing_next (pressing : Pressing view threshold input.world) {event : InputEvent F R}
    (during : DuringClick view.mousePosition threshold event) :
    Pressing view threshold (input.next event).world := by
  obtain ⟨state, pressed, mouse, same⟩ := pressing
  cases event with
  | outside furniture playerState location controlRotation => exact ⟨state, pressed, mouse, same⟩
  | handler event =>
      cases event with
      | tick playerController => exact Pressing.tick ⟨state, pressed, mouse, same⟩ playerController
      | leftClickingHeld playerController =>
          cases playerController with
          | none => exact ⟨state, pressed, mouse, same⟩
          | some current => exact Pressing.leftClickingHeld ⟨state, pressed, mouse, same⟩ during
      | panStopped => exact ⟨state, pressed, mouse, same⟩
      | cameraControlStarted playerController =>
          cases playerController <;> exact ⟨state, pressed, mouse, same⟩
      | cameraControlStopped playerController =>
          cases playerController <;> exact ⟨state, pressed, mouse, same⟩
      | panStarted => exact during.elim
      | leftClicking playerController => exact during.elim
      | leftClickingReleased spawned => exact during.elim

theorem pressing_replay (pressing : Pressing view threshold input.world)
    (during : ∀ event ∈ events, DuringClick view.mousePosition threshold event) :
    Pressing view threshold ((runs HeldButtons.LeftCycles).replay input events).world := by
  induction events generalizing input with
  | nil => exact pressing
  | cons event events induction =>
      obtain ⟨first, later⟩ := List.forall_mem_cons.mp during
      exact induction (pressing_next pressing first) later

/-- The input after a press, some events and a release. -/
def click (view : PlayerView F R) (events : List (InputEvent F R)) (spawned : Bool)
    (input : PawnInput F R) : PawnInput F R :=
  (runs HeldButtons.LeftCycles).replay input
    (.handler (.leftClicking (some view)) :: events ++
      [.handler (.leftClickingReleased spawned)])

/-- A click off the handles selects what was under the cursor at the press. -/
theorem click_selects (uncontrolled : input.world.pawn.bCameraControlActive = false)
    (off : OffHandles view input.world)
    (during : ∀ event ∈ events,
      DuringClick view.mousePosition input.world.pawn.orbitDragThreshold event)
    (spawned : Bool) :
    (input.click view events spawned).world.pawn.selectedFurniture = view.hitActor := by
  have press : Pressing view input.world.pawn.orbitDragThreshold
      (input.next (.handler (.leftClicking (some view)))).world := by
    simp only [next, LocalWorld.handle, leftClicking_offHandles uncontrolled off]
    exact ⟨rfl, rfl, rfl, rfl⟩
  have pressing := pressing_replay press during
  rw [click, EventSystem.replay, List.foldl_append]
  exact pressing.released spawned

/-- After a tick of an idle pawn whose camera is not controlled, the cursor is a hand exactly when a
click off the handles selects another furniture than before, which is unlocked. -/
theorem hand_foretells_click
    (run : (runs HeldButtons.LeftCycles).Run
      ((before, .handler (.tick (some view))) :: history) input)
    (released : input.buttons.left = false)
    (uncontrolled : input.world.pawn.bCameraControlActive = false)
    (off : OffHandles view input.world)
    (during : ∀ event ∈ events,
      DuringClick view.mousePosition input.world.pawn.orbitDragThreshold event)
    (spawned : Bool) :
    input.world.pawn.currentMouseCursor = .hand ↔
      ∃ furniture,
        (input.click view events spawned).world.pawn.selectedFurniture = some furniture ∧
          input.world.pawn.selectedFurniture ≠ some furniture ∧
          (input.world.furniture furniture).isSelectableFurniture = true := by
  obtain ⟨_, _, gesture⟩ := exists_gesture run
  have idle := gesture.idle released
  have selects := click_selects uncontrolled off during spawned
  cases run with
  | step earlier enabled =>
      obtain ⟨control, cameraControl⟩ := tick_control (some view) before.world
      have idleBefore : before.world.pawn.leftClickState = .idle :=
        (congrArg PawnControl.leftClickState control).symm.trans idle
      have quiet : LMBState.inGesture before.world.pawn.leftClickState = false := by
        rw [idleBefore]
        rfl
      have cursor := tick_cursor view (cameraControl.symm.trans uncontrolled) quiet
      rw [selects]
      refine cursor.trans (exists_congr fun furniture => ?_)
      exact (tick_overlays (some view) before.world).hoverable.symm

section QuarterTurn

local instance cursorMath : EngineMath ℚ := quarterTurnMath

def overFurniture : PlayerView Nat ℚ := .overhead none (some 5)

/-- The camera is turned while the button is held. -/
def turning : List (InputEvent Nat ℚ) :=
  [.handler (.cameraControlStarted true), .handler (.leftClickingHeld (some overFurniture))]

/-- The cursor over furniture 5 is a hand, and the click selects it. -/
theorem hand_foretells_click_turning :
    let input := (runs HeldButtons.LeftCycles).replay (atOrigin Nat ℚ)
      [.handler (.tick (some overFurniture))]
    ∃ furniture, (input.click overFurniture turning true).world.pawn.selectedFurniture =
      some furniture := by
  intro input
  have run : (runs HeldButtons.LeftCycles).Run
      [(atOrigin Nat ℚ, .handler (.tick (some overFurniture)))] input :=
    (run_atOrigin HeldButtons.LeftCycles).step trivial
  have off : OffHandles overFurniture input.world := by
    intro active
    exact absurd active (by decide +kernel)
  have during : ∀ event ∈ turning, DuringClick overFurniture.mousePosition
      input.world.pawn.orbitDragThreshold event := by
    have near : overFurniture.mousePosition.distance overFurniture.mousePosition ≤
        input.world.pawn.orbitDragThreshold := by decide +kernel
    simpa [turning, DuringClick] using near
  obtain ⟨furniture, selects, _⟩ :=
    (hand_foretells_click run rfl rfl off during true).mp (by decide +kernel)
  exact ⟨furniture, selects⟩

end QuarterTurn

end PawnInput

end Ioroom
