import Ioroom.ClickOutcome
import Ioroom.MarkedPointer

/-!
# The highlighted handle

A manipulator shows the handle under the cursor by the material of its component.  It rewrites two
materials at most, and none when the handle is the old one; what it shows is nevertheless the handle
which the pawn's ticks have written last, and the one on which a press acts.
-/

namespace Ioroom

open EventSystem LocalWorld

/-- `ComponentForHandle`. -/
def componentForHandle : ManipulatorHandle → Option HandleComponent
  | .moveXPlus => some .arrowXPlus
  | .moveXMinus => some .arrowXMinus
  | .moveYPlus => some .arrowYPlus
  | .moveYMinus => some .arrowYMinus
  | .rotate => some .rotationRing
  | .none => none

/-- The materials of a manipulator class: those of its meshes and the two it sets. -/
structure HandleLook (M : Type*) where
  baseMaterial : M
  hoverMaterial : M
  native : HandleComponent → M
  base_ne_hover : baseMaterial ≠ hoverMaterial
  native_ne_hover : ∀ component, native component ≠ hoverMaterial

/-- `AFurnitureManipulator` as its components show it. -/
structure ShownManipulator {M : Type*} (look : HandleLook M) where
  hoveredHandle : ManipulatorHandle := .none
  /-- The material in slot 0 of each component. -/
  material : HandleComponent → M := look.native

namespace ShownManipulator

variable {M : Type*} {look : HandleLook M}

/-- `SetMaterial(0, …)` on a component, if there is one. -/
def setMaterial (component : Option HandleComponent) (material : M)
    (shown : ShownManipulator look) : ShownManipulator look :=
  match component with
  | none => shown
  | some component => { shown with material := Function.update shown.material component material }

/-- `SetHoveredHandle`. -/
def setHoveredHandle (handle : ManipulatorHandle) (shown : ShownManipulator look) :
    ShownManipulator look :=
  if handle = shown.hoveredHandle then shown
  else
    let restored := shown.setMaterial (componentForHandle shown.hoveredHandle) look.baseMaterial
    let marked := restored.setMaterial (componentForHandle handle) look.hoverMaterial
    { marked with hoveredHandle := handle }

@[simp]
theorem setHoveredHandle_hoveredHandle (handle : ManipulatorHandle)
    (shown : ShownManipulator look) :
    (shown.setHoveredHandle handle).hoveredHandle = handle := by
  unfold setHoveredHandle
  split
  · rename_i same
    exact same.symm
  · rfl

variable [DecidableEq M]

/-- The components with the hover material are marks, the one of the hovered handle the pointer. -/
def marks (shown : ShownManipulator look) : MarkedPointer HandleComponent where
  marked component := decide (shown.material component = look.hoverMaterial)
  pointer := componentForHandle shown.hoveredHandle

variable {shown : ShownManipulator look}

theorem exact_spawned : (({} : ShownManipulator look)).marks.Exact := by
  intro component
  simp [marks, look.native_ne_hover, componentForHandle]

theorem restored_iff (component : HandleComponent) :
    (shown.setMaterial (componentForHandle shown.hoveredHandle)
      look.baseMaterial).material component = look.hoverMaterial ↔
      shown.marks.drop.marked component = true := by
  cases old : componentForHandle shown.hoveredHandle with
  | none => simp only [setMaterial, MarkedPointer.drop, marks, old, decide_eq_true_eq]
  | some hovered =>
      by_cases same : component = hovered
      · simp [setMaterial, MarkedPointer.drop, MarkedPointer.erase, marks, old, same,
          look.base_ne_hover]
      · simp only [setMaterial, MarkedPointer.drop, MarkedPointer.erase, marks, old,
          Function.update_of_ne same, decide_eq_true_eq]

theorem marks_setHoveredHandle {handle : ManipulatorHandle} (fresh : handle ≠ shown.hoveredHandle) :
    (shown.setHoveredHandle handle).marks =
      match componentForHandle handle with
      | none => { shown.marks.drop with pointer := none }
      | some component => shown.marks.point component := by
  cases target : componentForHandle handle with
  | none =>
      simp only [setHoveredHandle, if_neg fresh, marks, target, setMaterial,
        MarkedPointer.mk.injEq, and_true]
      funext component
      rw [Bool.eq_iff_iff, decide_eq_true_eq]
      exact restored_iff component
  | some hovered =>
      simp only [setHoveredHandle, if_neg fresh, marks, target, MarkedPointer.point,
        MarkedPointer.mk.injEq, and_true]
      funext component
      rw [Bool.eq_iff_iff, decide_eq_true_eq]
      by_cases same : component = hovered
      · simp [setMaterial, same]
      · rw [Function.update_of_ne same]
        refine Iff.trans ?_ (restored_iff component)
        simp only [setMaterial, Function.update_of_ne same]

/-- Whatever handle is set, the hover material stays on the hovered handle's component alone. -/
theorem exact_setHoveredHandle (exact : shown.marks.Exact) (handle : ManipulatorHandle) :
    (shown.setHoveredHandle handle).marks.Exact := by
  by_cases fresh : handle = shown.hoveredHandle
  · rwa [setHoveredHandle, if_pos fresh]
  · rw [marks_setHoveredHandle fresh]
    cases componentForHandle handle with
    | none =>
        have dropped := exact.sound.drop_exact
        simpa [MarkedPointer.Exact] using dropped
    | some component => exact exact.sound.point_exact component

end ShownManipulator

namespace LocalWorld

variable {F R : Type*} [DecidableEq F] [Field R]

/-- The handle which a tick sets: the one under the cursor, and none during camera control and
gestures. -/
def handleUnderCursor (view : PlayerView F R) (world : LocalWorld F R) : ManipulatorHandle :=
  if world.pawn.bCameraControlActive || LMBState.inGesture world.pawn.leftClickState then .none
  else match view.handleHit with
    | some component => resolveHandle component
    | none => .none

/-- A release of the left button spawns a manipulator. -/
def spawnsManipulator (spawned : Bool) (world : LocalWorld F R) : Bool :=
  decide (world.pawn.leftClickState = .pressed) && world.pawn.pressedFurniture.isSome &&
    world.pawn.furnitureManipulatorClass && spawned

/-- The hovered handle of the active manipulator, if there is one. -/
def hoveredHandle (world : LocalWorld F R) : Option ManipulatorHandle :=
  world.pawn.activeManipulator.map (·.hoveredHandle)

theorem call_hoveredHandle (serverCall : ServerCall F R) (world : LocalWorld F R) :
    (world.call serverCall).hoveredHandle = world.hoveredHandle := by
  obtain ⟨_, _, _, pawn⟩ := call_pawn serverCall world
  rw [hoveredHandle, pawn]
  rfl

theorem tick_hoveredHandle (view : PlayerView F R) (world : LocalWorld F R) :
    (world.tick (some view)).hoveredHandle =
      world.hoveredHandle.map fun _ => world.handleUnderCursor view := by
  obtain ⟨hoveredFurniture, hovered⟩ := updateHover_pawn view world
  cases active : world.pawn.bCameraControlActive <;> cases hit : view.handleHit <;>
    simp [hoveredHandle, tick, updateManipulatorHover, updateCursor, hovered, handleUnderCursor,
      active, hit, Function.comp_def]

theorem leftClickingReleased_hoveredHandle (spawned : Bool) (world : LocalWorld F R) :
    (world.leftClickingReleased spawned).hoveredHandle =
      if world.spawnsManipulator spawned then some .none
      else if world.pawn.leftClickState = .pressed then none
      else world.hoveredHandle := by
  by_cases state : world.pawn.leftClickState = .pressed
  · cases press : world.pawn.pressedFurniture with
    | none =>
        simp [hoveredHandle, leftClickingReleased, spawnsManipulator, state, press,
          deselectOnEmpty]
    | some pressed =>
        cases hasClass : world.pawn.furnitureManipulatorClass <;> cases spawned <;>
          simp [hoveredHandle, leftClickingReleased, spawnsManipulator, state, press,
            selectPressed, hasClass]
  · have kept : world.spawnsManipulator spawned = false := by simp [spawnsManipulator, state]
    rw [kept, if_neg Bool.false_ne_true, if_neg state]
    cases gesture : world.pawn.leftClickState with
    | pressed => exact absurd gesture state
    | idle => simp [hoveredHandle, leftClickingReleased, gesture]
    | orbiting => simp [hoveredHandle, leftClickingReleased, gesture]
    | rotating => simp [hoveredHandle, leftClickingReleased, gesture]
    | dragging => simp [hoveredHandle, leftClickingReleased, gesture, Function.comp_def]

section Gestures

variable [LinearOrder R] [FloorRing R] [EngineMath R]

omit [FloorRing R] in
theorem leftClicking_hoveredHandle (playerController : Option (PlayerView F R))
    (world : LocalWorld F R) :
    (world.leftClicking playerController).hoveredHandle = world.hoveredHandle := by
  cases playerController with
  | none => simp only [leftClicking, ite_self]
  | some view =>
      simp only [leftClicking]
      split
      · rfl
      · cases clicked : world.clickManipulator view with
        | none => rfl
        | some after =>
            rcases clickManipulator_cases clicked with ⟨selected, _, _, grabbed⟩ | ⟨_, nudged⟩
            · rw [Option.getD_some, grabbed, grabRing]
              split <;> rfl
            · rw [Option.getD_some, hoveredHandle, nudge_pawn nudged]
              rfl

omit [DecidableEq F] [FloorRing R] [EngineMath R] in
theorem beginDrag_hoveredHandle (pressed : F) (view : PlayerView F R) (world : LocalWorld F R) :
    (world.beginDrag pressed view).hoveredHandle = world.hoveredHandle := by
  unfold beginDrag
  split
  · rfl
  · simp [hoveredHandle, Function.comp_def]

theorem leftClickingHeld_hoveredHandle (playerController : Option (PlayerView F R))
    (world : LocalWorld F R) :
    (world.leftClickingHeld playerController).hoveredHandle = world.hoveredHandle := by
  cases playerController with
  | none => rfl
  | some view =>
      simp only [leftClickingHeld]
      cases world.pawn.leftClickState with
      | idle => rfl
      | orbiting => exact call_hoveredHandle _ _
      | pressed =>
          rcases heldPressed_cases view world with same | ⟨pressed, _, _, begun⟩ | begun
          · rw [same]
          · rw [begun]
            exact beginDrag_hoveredHandle pressed view _
          · rw [begun]
            rfl
      | dragging =>
          rcases handleDrag_cases view world with same | ⟨held, newLocation, _, _, moved⟩
          · rw [same]
          · rw [moved]
            exact call_hoveredHandle _ _
      | rotating => rw [hoveredHandle, handleRotate_pawn, hoveredHandle]

omit [FloorRing R] in
theorem leftClicking_active (view : PlayerView F R) {world : LocalWorld F R} {selected : F}
    (uncontrolled : world.pawn.bCameraControlActive = false)
    (active : world.pawn.activeManipulator.isSome = true)
    (holds : world.pawn.selectedFurniture = some selected) :
    world.leftClicking (some view) =
      match view.handleHit with
      | none => world.pressScene view
      | some component =>
          if resolveHandle component = .rotate then world.grabRing selected view
          else (world.nudgeSelectedFurniture (resolveHandle component)).getD
            (world.pressScene view) := by
  obtain ⟨manipulator, isActive⟩ := Option.isSome_iff_exists.mp active
  rw [leftClicking, if_neg (by simp [uncontrolled])]
  cases hit : view.handleHit with
  | none => simp [clickManipulator, isActive, holds, hit]
  | some component =>
      by_cases ring : resolveHandle component = .rotate
      · simp [clickManipulator, isActive, holds, hit, ring]
      · simp [clickManipulator, isActive, holds, hit, ring]

omit [LinearOrder R] [FloorRing R] in
theorem nudge_arrow {world : LocalWorld F R} {selected : F} {component : HandleComponent}
    (holds : world.pawn.selectedFurniture = some selected)
    (resolves : resolveHandle component ≠ .none) (noRing : component ≠ .rotationRing) :
    ∃ after, world.nudgeSelectedFurniture (resolveHandle component) = some after := by
  cases component with
  | arrowXPlus => simp [nudgeSelectedFurniture, holds, nudgeDirection, resolveHandle]
  | arrowXMinus => simp [nudgeSelectedFurniture, holds, nudgeDirection, resolveHandle]
  | arrowYPlus => simp [nudgeSelectedFurniture, holds, nudgeDirection, resolveHandle]
  | arrowYMinus => simp [nudgeSelectedFurniture, holds, nudgeDirection, resolveHandle]
  | rotationRing => exact absurd rfl noRing
  | other => exact absurd rfl resolves

/-- Only ticks and releases touch the hovered handle. -/
theorem handle_hoveredHandle {event : PawnEvent F R} (notTick : ∀ view, event ≠ .tick (some view))
    (notReleased : ∀ spawned, event ≠ .leftClickingReleased spawned) (world : LocalWorld F R) :
    (world.handle event).hoveredHandle = world.hoveredHandle := by
  cases event with
  | leftClicking playerController => exact leftClicking_hoveredHandle playerController world
  | leftClickingHeld playerController =>
      exact leftClickingHeld_hoveredHandle playerController world
  | leftClickingReleased spawned => exact absurd rfl (notReleased spawned)
  | panStarted => rfl
  | panStopped => rfl
  | cameraControlStarted playerController => cases playerController <;> rfl
  | cameraControlStopped playerController => cases playerController <;> rfl
  | tick playerController =>
      cases playerController with
      | none => rfl
      | some view => exact absurd rfl (notTick view)

end Gestures

end LocalWorld

/-- There is no manipulator without a selected furniture. -/
def PawnControl.OnSelection {F : Type*} (control : PawnControl F) : Prop :=
  control.manipulator.isSome = true → control.selectedFurniture.isSome = true

theorem PawnControl.OnSelection.step {F R : Type*} {event : PawnEvent F R}
    {before after : PawnControl F} (selected : before.OnSelection)
    (step : ControlStep event before after) : after.OnSelection := by
  cases step with
  | kept => exact selected
  | press view => exact selected
  | grab view _ held holds manipulator => exact selected
  | drag view _ held state pressed holds => simp [OnSelection, holds]
  | orbit view _ state => exact selected
  | select spawned _ target state pressed => simp [OnSelection]
  | deselect spawned _ state pressed => simp [OnSelection]
  | finish spawned _ state =>
      intro active
      refine selected ?_
      simp only at active
      split at active
      · simpa using active
      · exact active
  | cancel => exact selected

theorem PawnInput.onSelection_run {F R : Type*} [DecidableEq F] [Field R] [LinearOrder R]
    [FloorRing R] [EngineMath R] {history : List (PawnInput F R × InputEvent F R)}
    {input : PawnInput F R} (run : (runs HeldButtons.LeftCycles).Run history input) :
    input.world.pawn.control.OnSelection := by
  induction run with
  | start started =>
      intro active
      simp [DesktopPawn.control, started.1.activeManipulator] at active
  | @step history before event _ _ induction =>
      cases event with
      | outside furniture playerState location controlRotation => exact induction
      | handler event => exact induction.step (handle_control event before.world)

/-- A pawn's input with its active manipulator as it is shown. -/
structure HandleDisplay (F R : Type*) [One R] {M : Type*} (look : HandleLook M) where
  input : PawnInput F R
  shown : ShownManipulator look

namespace HandleDisplay

variable {F R M : Type*} [DecidableEq F] [Field R] [LinearOrder R] [FloorRing R] [EngineMath R]
  {look : HandleLook M}

/-- A tick sets the hovered handle of the active manipulator, and a release which spawns a new
manipulator shows that one. -/
def next (display : HandleDisplay F R look) (event : InputEvent F R) : HandleDisplay F R look where
  input := display.input.next event
  shown :=
    match event with
    | .handler (.tick (some view)) =>
        if display.input.world.pawn.activeManipulator.isSome then
          display.shown.setHoveredHandle (display.input.world.handleUnderCursor view)
        else display.shown
    | .handler (.leftClickingReleased spawned) =>
        if display.input.world.spawnsManipulator spawned then {} else display.shown
    | _ => display.shown

/-- The runs of a fresh pawn with its display. -/
def displays (look : HandleLook M) : EventSystem (HandleDisplay F R look) (InputEvent F R) where
  Start display := (PawnInput.runs HeldButtons.LeftCycles).Start display.input
  Enabled display := (PawnInput.runs HeldButtons.LeftCycles).Enabled display.input
  next := next

/-- The handle which an event sets on the active manipulator. -/
def handleSet (display : HandleDisplay F R look) : InputEvent F R → Option ManipulatorHandle
  | .handler (.tick (some view)) => some (display.input.world.handleUnderCursor view)
  | .handler (.leftClickingReleased spawned) =>
      if display.input.world.spawnsManipulator spawned then some .none else none
  | _ => none

variable {display : HandleDisplay F R look}
  {history : List (HandleDisplay F R look × InputEvent F R)}

theorem run_input (run : (displays look).Run history display) :
    (PawnInput.runs HeldButtons.LeftCycles).Run
      (history.map fun past => (past.1.input, past.2)) display.input := by
  induction run with
  | start started => exact .start started
  | step _ enabled induction => exact induction.step enabled

theorem selected_of_active (run : (displays look).Run history display)
    (active : display.input.world.pawn.activeManipulator.isSome = true) :
    ∃ selected, display.input.world.pawn.selectedFurniture = some selected := by
  refine Option.isSome_iff_exists.mp (PawnInput.onSelection_run (run_input run) ?_)
  simpa [DesktopPawn.control] using active

/-- What an event does to the hovered handle and to what is shown: nothing, perhaps taking the
manipulator away, setting the handle of the active one, or showing a new one. -/
inductive ShowStep (display after : HandleDisplay F R look) : Option ManipulatorHandle → Prop
  | kept
      (hovered : after.input.world.hoveredHandle = display.input.world.hoveredHandle)
      (shown : after.shown = display.shown) : ShowStep display after none
  | gone (set : Option ManipulatorHandle)
      (hovered : after.input.world.hoveredHandle = none) : ShowStep display after set
  | hovers (old handle : ManipulatorHandle)
      (before : display.input.world.hoveredHandle = some old)
      (hovered : after.input.world.hoveredHandle = some handle)
      (shown : after.shown = display.shown.setHoveredHandle handle) :
      ShowStep display after (some handle)
  | spawns
      (hovered : after.input.world.hoveredHandle = some .none)
      (shown : after.shown = {}) : ShowStep display after (some .none)

theorem tick_showStep (display : HandleDisplay F R look) (view : PlayerView F R) :
    ShowStep display (display.next (.handler (.tick (some view))))
      (some (display.input.world.handleUnderCursor view)) := by
  have hovered := tick_hoveredHandle view display.input.world
  cases active : display.input.world.pawn.activeManipulator with
  | none =>
      refine .gone _ (hovered.trans ?_)
      simp [hoveredHandle, active]
  | some manipulator =>
      refine .hovers manipulator.hoveredHandle _ ?_ (hovered.trans ?_) ?_
      · simp [hoveredHandle, active]
      · simp [hoveredHandle, active]
      · simp [next, active]

theorem released_showStep (display : HandleDisplay F R look) (spawned : Bool) :
    ShowStep display (display.next (.handler (.leftClickingReleased spawned)))
      (handleSet display (.handler (.leftClickingReleased spawned))) := by
  have hovered := leftClickingReleased_hoveredHandle spawned display.input.world
  cases spawns : display.input.world.spawnsManipulator spawned with
  | true =>
      simp only [handleSet, spawns, if_true]
      rw [spawns, if_pos rfl] at hovered
      exact .spawns hovered (by simp [next, spawns])
  | false =>
      rw [spawns, if_neg Bool.false_ne_true] at hovered
      by_cases state : display.input.world.pawn.leftClickState = .pressed
      · exact .gone _ (hovered.trans (if_pos state))
      · simp only [handleSet, spawns]
        exact .kept (hovered.trans (if_neg state)) (by simp [next, spawns])

theorem next_showStep (display : HandleDisplay F R look) (event : InputEvent F R) :
    ShowStep display (display.next event) (handleSet display event) := by
  cases event with
  | outside furniture playerState location controlRotation => exact .kept rfl rfl
  | handler event =>
      cases event with
      | tick playerController =>
          cases playerController with
          | none => exact .kept rfl rfl
          | some view => exact tick_showStep display view
      | leftClickingReleased spawned => exact released_showStep display spawned
      | leftClicking playerController =>
          exact .kept (handle_hoveredHandle (by simp) (by simp) _) rfl
      | leftClickingHeld playerController =>
          exact .kept (handle_hoveredHandle (by simp) (by simp) _) rfl
      | panStarted => exact .kept rfl rfl
      | panStopped => exact .kept rfl rfl
      | cameraControlStarted playerController =>
          exact .kept (handle_hoveredHandle (by simp) (by simp) _) rfl
      | cameraControlStopped playerController =>
          exact .kept (handle_hoveredHandle (by simp) (by simp) _) rfl

variable [DecidableEq M]

/-- The active manipulator hovers the handle set last, and shows it. -/
def Shows (display : HandleDisplay F R look) (last : Option ManipulatorHandle) : Prop :=
  ∀ handle, display.input.world.hoveredHandle = some handle →
    handle = last.getD .none ∧ display.shown.hoveredHandle = handle ∧ display.shown.marks.Exact

omit [DecidableEq F] [LinearOrder R] [FloorRing R] [EngineMath R] in
theorem ShowStep.shows {after : HandleDisplay F R look} {set last : Option ManipulatorHandle}
    (step : ShowStep display after set) (shows : display.Shows last) :
    after.Shows (set.or last) := by
  intro handle hovers
  cases step with
  | kept hovered shown =>
      rw [hovered] at hovers
      rw [shown]
      exact shows handle hovers
  | gone _ hovered => simp [hovered] at hovers
  | hovers old _ before hovered shown =>
      obtain rfl := Option.some.inj (hovered.symm.trans hovers)
      obtain ⟨_, _, exact⟩ := shows old before
      rw [shown]
      exact ⟨rfl, ShownManipulator.setHoveredHandle_hoveredHandle _ _,
        ShownManipulator.exact_setHoveredHandle exact _⟩
  | spawns hovered shown =>
      obtain rfl := Option.some.inj (hovered.symm.trans hovers)
      rw [shown]
      exact ⟨rfl, rfl, ShownManipulator.exact_spawned⟩

theorem shows_of_run (run : (displays look).Run history display) :
    display.Shows (latest handleSet history) := by
  induction run with
  | start started =>
      intro handle hovers
      simp [hoveredHandle, started.1.activeManipulator] at hovers
  | @step history before event _ _ induction =>
      rw [latest_cons]
      exact (next_showStep before event).shows induction

/-- At every moment of every run the hover material of an active manipulator is exactly on the
component of the handle set last: the one under the cursor at the last tick, and none when the
manipulator is newer than that. -/
theorem highlight_exact (run : (displays look).Run history display)
    (active : display.input.world.pawn.activeManipulator.isSome = true)
    (component : HandleComponent) :
    display.shown.material component = look.hoverMaterial ↔
      componentForHandle ((latest handleSet history).getD .none) = some component := by
  obtain ⟨manipulator, isActive⟩ := Option.isSome_iff_exists.mp active
  obtain ⟨last, shown, exact⟩ := shows_of_run run manipulator.hoveredHandle
    (by simp [hoveredHandle, isActive])
  rw [← last, ← shown]
  simpa [ShownManipulator.marks] using exact component

/-- After a tick of an idle pawn whose camera is not controlled, the highlighted component is the
manipulator's component under the cursor. -/
theorem highlight_under_cursor {before : HandleDisplay F R look} {view : PlayerView F R}
    (run : (displays look).Run ((before, .handler (.tick (some view))) :: history) display)
    (active : display.input.world.pawn.activeManipulator.isSome = true)
    (released : display.input.buttons.left = false)
    (uncontrolled : display.input.world.pawn.bCameraControlActive = false)
    (component : HandleComponent) :
    display.shown.material component = look.hoverMaterial ↔
      view.handleHit = some component ∧ resolveHandle component ≠ .none := by
  obtain ⟨_, _, gesture⟩ := PawnInput.exists_gesture (run_input run)
  have idle := gesture.idle released
  have exact := highlight_exact run active component
  cases run with
  | step earlier enabled =>
      obtain ⟨control, cameraControl⟩ := tick_control (some view) before.input.world
      have idleBefore : before.input.world.pawn.leftClickState = .idle :=
        (congrArg PawnControl.leftClickState control).symm.trans idle
      have uncontrolledBefore : before.input.world.pawn.bCameraControlActive = false :=
        cameraControl.symm.trans uncontrolled
      rw [exact, latest_cons]
      simp only [handleSet, handleUnderCursor, uncontrolledBefore, idleBefore, LMBState.inGesture,
        Bool.or_self, Bool.false_eq_true, if_false, Option.some_or, Option.getD_some]
      cases view.handleHit with
      | none => simp [componentForHandle]
      | some hit => cases hit <;> cases component <;> simp [componentForHandle, resolveHandle]

/-- A press finds highlighted the component it acts on: the ring is grabbed or the arrow's nudge is
made, and without a manipulator or a highlighted component of it the press goes to the scene. -/
theorem press_acts_on_highlighted {before : HandleDisplay F R look} {view : PlayerView F R}
    (run : (displays look).Run ((before, .handler (.tick (some view))) :: history) display)
    (released : display.input.buttons.left = false)
    (uncontrolled : display.input.world.pawn.bCameraControlActive = false) :
    let world := display.input.world
    (world.pawn.activeManipulator.isSome = true → ∀ component,
      display.shown.material component = look.hoverMaterial →
      ∃ selected, world.pawn.selectedFurniture = some selected ∧
        if component = .rotationRing then
          world.leftClicking (some view) = world.grabRing selected view
        else world.nudgeSelectedFurniture (resolveHandle component) =
          some (world.leftClicking (some view))) ∧
      ((world.pawn.activeManipulator.isSome = true →
          ∀ component, display.shown.material component ≠ look.hoverMaterial) →
        world.leftClicking (some view) = world.pressScene view) := by
  intro world
  constructor
  · intro active component isHighlighted
    have highlighted := highlight_under_cursor run active released uncontrolled
    obtain ⟨selected, holds⟩ := selected_of_active run active
    have press := leftClicking_active view uncontrolled active holds
    obtain ⟨hit, resolves⟩ := (highlighted component).mp isHighlighted
    refine ⟨selected, holds, ?_⟩
    by_cases ring : component = .rotationRing
    · simp [world, press, hit, ring, resolveHandle]
    · obtain ⟨after, nudged⟩ := nudge_arrow holds resolves ring
      rw [if_neg ring, press, hit]
      have noRing : resolveHandle component ≠ .rotate := by
        cases component <;> simp_all [resolveHandle]
      simp [world, noRing, nudged]
  · intro unhighlighted
    refine leftClicking_offHandles uncontrolled fun active component hit => ?_
    have highlighted := highlight_under_cursor run active released uncontrolled
    by_contra resolves
    exact unhighlighted active component ((highlighted component).mpr ⟨hit, resolves⟩)

section QuarterTurn

local instance handleMath : EngineMath ℚ := quarterTurnMath

/-- A manipulator whose components have material 0, with the materials 1 and 2 to set. -/
def numberedLook : HandleLook Nat where
  baseMaterial := 1
  hoverMaterial := 2
  native _ := 0
  base_ne_hover := by decide
  native_ne_hover _ := by decide

theorem run_numbered :
    (displays numberedLook).Run [] (⟨PawnInput.atOrigin Nat ℚ, {}⟩ : HandleDisplay Nat ℚ _) :=
  .start ⟨DesktopPawn.fresh_spawn 0, rfl⟩

/-- A click on furniture 5, after which the cursor comes over the ring and then over an arrow. -/
def overArrow : List (InputEvent Nat ℚ) :=
  [.handler (.leftClicking (some (.overhead none (some 5)))),
    .handler (.leftClickingReleased true),
    .handler (.tick (some (.overhead (some .rotationRing) none))),
    .handler (.tick (some (.overhead (some .arrowXPlus) none)))]

theorem legal_overArrow :
    (displays numberedLook).Legal (⟨PawnInput.atOrigin Nat ℚ, {}⟩ : HandleDisplay Nat ℚ _)
      overArrow :=
  ⟨rfl, rfl, trivial, trivial, trivial⟩

theorem highlight_exact_overArrow :
    let display := (displays numberedLook).replay
      (⟨PawnInput.atOrigin Nat ℚ, {}⟩ : HandleDisplay Nat ℚ _) overArrow
    display.shown.material .arrowXPlus = 2 ∧ display.shown.material .rotationRing ≠ 2 := by
  intro display
  have exact := highlight_exact (run_numbered.replay legal_overArrow) (by decide +kernel)
  exact ⟨(exact .arrowXPlus).mpr (by decide +kernel),
    fun marked => absurd ((exact .rotationRing).mp marked) (by decide +kernel)⟩

/-- The press nudges furniture 5 along its forward vector. -/
theorem press_acts_on_highlighted_overArrow :
    let world := ((displays numberedLook).replay
      (⟨PawnInput.atOrigin Nat ℚ, {}⟩ : HandleDisplay Nat ℚ _) overArrow).input.world
    world.nudgeSelectedFurniture .moveXPlus =
      some (world.leftClicking (some (.overhead (some .arrowXPlus) none))) := by
  intro world
  have acts := press_acts_on_highlighted (run_numbered.replay legal_overArrow) (by decide +kernel)
    (by decide +kernel)
  obtain ⟨_, _, nudged⟩ := acts.1 (by decide +kernel) .arrowXPlus (by decide +kernel)
  exact nudged

end QuarterTurn

end HandleDisplay

end Ioroom
