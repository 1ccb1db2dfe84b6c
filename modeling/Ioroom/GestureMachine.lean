import Ioroom.PawnInput

/-!
# The gesture machine

What the left button is for: press on a furniture or on the background, then click, orbit, drag the
selected furniture or turn it by the ring.  A gesture which drags or turns carries the furniture
it is about, so the pawn's pointers cannot disagree with it.
-/

namespace Ioroom

/-- The state of the left button together with the pointers it is about. -/
inductive Gesture (F : Type*)
  | idle (selected : Option F)
  | pressed (selected target : Option F)
  | orbiting (selected target : Option F)
  | dragging (held : F)
  | rotating (held : F)
deriving DecidableEq, Repr

namespace Gesture

variable {F R : Type*}

def leftClickState : Gesture F → LMBState
  | idle _ => .idle
  | pressed _ _ => .pressed
  | orbiting _ _ => .orbiting
  | dragging _ => .dragging
  | rotating _ => .rotating

def selectedFurniture : Gesture F → Option F
  | idle selected | pressed selected _ | orbiting selected _ => selected
  | dragging held | rotating held => some held

def pressedFurniture : Gesture F → Option F
  | idle _ | rotating _ => none
  | pressed _ target | orbiting _ target => target
  | dragging held => some held

/-- One step of the left button. -/
inductive Step : Gesture F → Gesture F → Prop
  | press (selected target : Option F) : Step (idle selected) (pressed selected target)
  | grab (held : F) : Step (idle (some held)) (rotating held)
  | drag (held : F) : Step (pressed (some held) (some held)) (dragging held)
  | orbit (selected target : Option F) : Step (pressed selected target) (orbiting selected target)
  | select (selected : Option F) (target : F) :
      Step (pressed selected (some target)) (idle (some target))
  | deselect (selected : Option F) : Step (pressed selected none) (idle none)
  | finish (gesture : Gesture F) : Step gesture (idle gesture.selectedFurniture)

/-- The gesture of an untouched button. -/
def Resting (gesture : Gesture F) : Prop := ∃ selected, gesture = .idle selected

/-- The control state of a pawn implements a gesture. -/
structure Shows (gesture : Gesture F) (control : PawnControl F) : Prop where
  state : control.leftClickState = gesture.leftClickState
  pressed : control.pressedFurniture = gesture.pressedFurniture
  selected : control.selectedFurniture = gesture.selectedFurniture

theorem Shows.eq_pressed {gesture : Gesture F} {control : PawnControl F}
    (shown : gesture.Shows control) (state : control.leftClickState = .pressed) :
    gesture = .pressed control.selectedFurniture control.pressedFurniture := by
  obtain ⟨shownState, shownPressed, shownSelected⟩ := shown
  rw [state] at shownState
  rw [shownSelected, shownPressed]
  cases gesture with
  | pressed selected target => rfl
  | idle selected => simp [leftClickState] at shownState
  | orbiting selected target => simp [leftClickState] at shownState
  | dragging held => simp [leftClickState] at shownState
  | rotating held => simp [leftClickState] at shownState

/-- Whatever a handler does in its turn is a step of the gesture machine, which rests whenever the
left button is up. -/
theorem simulates {event : PawnEvent F R} {before after : PawnControl F} {gesture : Gesture F}
    {buttons : HeldButtons} (step : ControlStep event before after)
    (shown : gesture.Shows before) (enabled : buttons.LeftCycles event)
    (resting : buttons.left = false → gesture.Resting) :
    ∃ later, Relation.ReflTransGen Step gesture later ∧ later.Shows after ∧
      ((buttons.after event).left = false → later.Resting) := by
  cases step with
  | kept _ continues =>
      refine ⟨gesture, .refl, shown, fun released => ?_⟩
      cases event with
      | leftClicking playerController => simp [HeldButtons.after] at released
      | leftClickingReleased spawned => simp [PawnEvent.endsGesture] at continues
      | leftClickingHeld playerController => exact resting released
      | panStarted => exact resting released
      | panStopped => exact resting released
      | cameraControlStarted playerController => exact resting released
      | cameraControlStopped playerController => exact resting released
      | tick playerController => exact resting released
  | press view =>
      obtain ⟨selected, rfl⟩ := resting enabled
      exact ⟨.pressed selected view.hitActor, .single (.press selected view.hitActor),
        ⟨rfl, rfl, shown.selected⟩, by simp [HeldButtons.after]⟩
  | grab view _ held selected manipulator =>
      obtain ⟨current, rfl⟩ := resting enabled
      have current_eq : current = some held := shown.selected.symm.trans selected
      rw [current_eq] at shown ⊢
      exact ⟨.rotating held, .single (.grab held), ⟨rfl, shown.pressed, shown.selected⟩,
        by simp [HeldButtons.after]⟩
  | drag view _ held state pressed selected =>
      have isHeld : buttons.left = true := enabled
      rw [shown.eq_pressed state, pressed, selected]
      exact ⟨.dragging held, .single (.drag held), ⟨rfl, rfl, rfl⟩,
        by simp [HeldButtons.after, isHeld]⟩
  | orbit view _ state =>
      have isHeld : buttons.left = true := enabled
      rw [shown.eq_pressed state]
      exact ⟨.orbiting _ _, .single (.orbit _ _), ⟨rfl, rfl, rfl⟩,
        by simp [HeldButtons.after, isHeld]⟩
  | select spawned _ target state pressed =>
      rw [shown.eq_pressed state, pressed]
      exact ⟨.idle (some target), .single (.select _ target), ⟨rfl, rfl, rfl⟩,
        fun _ => ⟨_, rfl⟩⟩
  | deselect spawned _ state pressed =>
      rw [shown.eq_pressed state, pressed]
      exact ⟨.idle none, .single (.deselect _), ⟨rfl, rfl, rfl⟩, fun _ => ⟨_, rfl⟩⟩
  | finish spawned _ state =>
      exact ⟨.idle gesture.selectedFurniture, .single (.finish gesture),
        ⟨rfl, rfl, shown.selected⟩, fun _ => ⟨_, rfl⟩⟩
  | cancel =>
      exact ⟨.idle gesture.selectedFurniture, .single (.finish gesture),
        ⟨rfl, rfl, shown.selected⟩, fun _ => ⟨_, rfl⟩⟩

end Gesture

namespace PawnControl

variable {F R : Type*}

/-- There is a manipulator exactly on a selected furniture. -/
def Attached (control : PawnControl F) : Prop :=
  control.manipulator.map Prod.fst = control.selectedFurniture.map some

/-- The manipulator is hidden exactly while dragging. -/
def HiddenWhileDragging (control : PawnControl F) : Prop :=
  ∀ manipulator ∈ control.manipulator,
    manipulator.2 = true ↔ control.leftClickState = .dragging

variable {event : PawnEvent F R} {before after : PawnControl F}

/-- With a manipulator class and a spawn that succeeds, every handler keeps the manipulator on the
selected furniture. -/
theorem Attached.step (attached : before.Attached) (step : ControlStep event before after)
    (spawns : ∀ spawned, event = .leftClickingReleased spawned →
      before.furnitureManipulatorClass = true ∧ spawned = true) : after.Attached := by
  cases step with
  | kept => exact attached
  | press view => exact attached
  | grab view _ held selected manipulator => exact attached
  | drag view _ held state pressed selected =>
      simpa [Attached, Function.comp_def] using attached
  | orbit view _ state => exact attached
  | select spawned _ target state pressed =>
      obtain ⟨hasClass, success⟩ := spawns spawned rfl
      simp [Attached, hasClass, success]
  | deselect spawned _ state pressed => rfl
  | finish spawned _ state =>
      simp only [Attached]
      split
      · simpa [Attached, Function.comp_def] using attached
      · exact attached
  | cancel => exact attached

/-- While rotating there is a manipulator. -/
def RingGrabbed (control : PawnControl F) : Prop :=
  control.leftClickState = .rotating → control.manipulator.isSome = true

/-- A rotation only begins at the ring of a manipulator, and whatever replaces that ends it. -/
theorem RingGrabbed.step (grabbed : before.RingGrabbed) (step : ControlStep event before after) :
    after.RingGrabbed := by
  cases step with
  | kept => exact grabbed
  | grab view _ held selected manipulator => exact fun _ => manipulator
  | press | drag | orbit | select | deselect | finish | cancel =>
      intro rotating
      cases rotating

/-- Except for a pan which begins during a drag, every handler in its turn keeps the manipulator
hidden exactly while dragging. -/
theorem HiddenWhileDragging.step (hidden : before.HiddenWhileDragging)
    (step : ControlStep event before after)
    (pressedWhileIdle : ∀ playerController, event = .leftClicking playerController →
      before.leftClickState = .idle)
    (noPan : event = .panStarted → before.leftClickState = .dragging →
      before.manipulator = none) : after.HiddenWhileDragging := by
  cases step with
  | kept => exact hidden
  | press view =>
      have idle := pressedWhileIdle (some view) rfl
      simpa [HiddenWhileDragging, idle] using hidden
  | grab view _ held selected manipulator =>
      have idle := pressedWhileIdle (some view) rfl
      simpa [HiddenWhileDragging, idle] using hidden
  | drag view _ held state pressed selected => simp [HiddenWhileDragging]
  | orbit view _ state => simpa [HiddenWhileDragging, state] using hidden
  | select spawned _ target state pressed =>
      intro manipulator isActive
      simp only [Option.mem_def, Option.ite_none_right_eq_some, Option.some.injEq] at isActive
      simp [← isActive.2]
  | deselect spawned _ state pressed => simp [HiddenWhileDragging]
  | finish spawned _ state =>
      by_cases dragging : before.leftClickState = .dragging
      · simp [HiddenWhileDragging, dragging]
      · simpa [HiddenWhileDragging, dragging] using hidden
  | cancel =>
      by_cases dragging : before.leftClickState = .dragging
      · simp [HiddenWhileDragging, noPan rfl dragging]
      · simpa [HiddenWhileDragging, dragging] using hidden

theorem selected_of_not_pressed (step : ControlStep event before after)
    (state : before.leftClickState ≠ .pressed) :
    after.selectedFurniture = before.selectedFurniture := by
  cases step with
  | kept => rfl
  | press view => rfl
  | grab view _ held selected manipulator => rfl
  | drag view _ held pressed => rfl
  | orbit view _ pressed => rfl
  | select spawned _ target pressed => exact absurd pressed state
  | deselect spawned _ pressed => exact absurd pressed state
  | finish spawned => rfl
  | cancel => rfl

end PawnControl

/-- A gesture which acts on the selected furniture is in progress. -/
def LMBState.holdsFurniture : LMBState → Bool
  | .dragging | .rotating => true
  | .idle | .pressed | .orbiting => false

namespace PawnInput

open EventSystem LocalWorld

variable {F R : Type*} [DecidableEq F] [Field R] [LinearOrder R] [FloorRing R] [EngineMath R]

/-- The furniture on which an event begins a drag or a rotation. -/
def gestureBegan (input : PawnInput F R) (event : InputEvent F R) : Option F :=
  let after := (input.next event).world.pawn
  if input.world.pawn.leftClickState.holdsFurniture then none
  else if after.leftClickState.holdsFurniture then after.selectedFurniture
  else none

/-- The manipulator class is set and a manipulator spawned by the event is there. -/
def SpawnsManipulator (input : PawnInput F R) : InputEvent F R → Prop
  | .handler (.leftClickingReleased spawned) =>
      input.world.pawn.furnitureManipulatorClass = true ∧ spawned = true
  | _ => True

variable {history : List (PawnInput F R × InputEvent F R)} {input : PawnInput F R}

/-- The input implements a gesture, which rests whenever the left button is up. -/
structure Shows (input : PawnInput F R) (gesture : Gesture F) : Prop where
  control : gesture.Shows input.world.pawn.control
  resting : input.buttons.left = false → gesture.Resting

omit [LinearOrder R] [FloorRing R] [EngineMath R] [DecidableEq F] in
theorem shows_start (fresh : input.world.pawn.Fresh) : input.Shows (.idle none) :=
  ⟨⟨fresh.leftClickState, fresh.pressedFurniture, fresh.selectedFurniture⟩,
    fun _ => ⟨none, rfl⟩⟩

theorem Shows.next {gesture : Gesture F} (shown : input.Shows gesture) {event : InputEvent F R}
    (enabled : (runs HeldButtons.LeftCycles).Enabled input event) :
    ∃ later, Relation.ReflTransGen Gesture.Step gesture later ∧
      (input.next event).Shows later := by
  cases event with
  | handler event =>
      obtain ⟨later, steps, shownLater, resting⟩ :=
        Gesture.simulates (handle_control event input.world) shown.control enabled shown.resting
      exact ⟨later, steps, shownLater, resting⟩
  | outside furniture playerState location controlRotation =>
      exact ⟨gesture, .refl, shown.control, shown.resting⟩

omit [DecidableEq F] [LinearOrder R] [FloorRing R] [EngineMath R] in
theorem Shows.idle {gesture : Gesture F} (shown : input.Shows gesture)
    (released : input.buttons.left = false) : input.world.pawn.leftClickState = .idle := by
  obtain ⟨selected, isIdle⟩ := shown.resting released
  have state := shown.control.state
  rw [isIdle] at state
  exact state

/-- Every run of the left button follows a run of the gesture machine. -/
theorem exists_gesture (run : (runs HeldButtons.LeftCycles).Run history input) :
    ∃ gesture, Relation.ReflTransGen Gesture.Step (.idle none) gesture ∧
      input.Shows gesture := by
  refine run.simulates Shows Gesture.Step (.idle none) ?_ ?_
  · rintro initial ⟨fresh, _⟩
    exact shows_start fresh
  · intro before event gesture enabled shown
    exact shown.next enabled

theorem selected_of_holdsFurniture (run : (runs HeldButtons.LeftCycles).Run history input)
    (holds : input.world.pawn.leftClickState.holdsFurniture = true) :
    ∃ held, input.world.pawn.selectedFurniture = some held := by
  obtain ⟨gesture, _, shown⟩ := exists_gesture run
  have state : input.world.pawn.leftClickState = gesture.leftClickState := shown.control.state
  have selected : input.world.pawn.selectedFurniture = gesture.selectedFurniture :=
    shown.control.selected
  rw [state] at holds
  rw [selected]
  cases gesture with
  | dragging held => exact ⟨held, rfl⟩
  | rotating held => exact ⟨held, rfl⟩
  | idle selected => simp [Gesture.leftClickState, LMBState.holdsFurniture] at holds
  | pressed selected target => simp [Gesture.leftClickState, LMBState.holdsFurniture] at holds
  | orbiting selected target => simp [Gesture.leftClickState, LMBState.holdsFurniture] at holds

theorem selected_next (holds : input.world.pawn.leftClickState.holdsFurniture = true)
    (event : InputEvent F R) :
    (input.next event).world.pawn.selectedFurniture = input.world.pawn.selectedFurniture := by
  cases event with
  | outside furniture playerState location controlRotation => rfl
  | handler event =>
      refine PawnControl.selected_of_not_pressed (handle_control event input.world) ?_
      intro pressed
      have state : input.world.pawn.leftClickState = .pressed := pressed
      simp [state, LMBState.holdsFurniture] at holds

/-- A drag or rotation stays on the furniture on which it began. -/
theorem latest_gestureBegan (run : (runs HeldButtons.LeftCycles).Run history input)
    (holds : input.world.pawn.leftClickState.holdsFurniture = true) :
    ∃ held, latest gestureBegan history = some held ∧
      input.world.pawn.selectedFurniture = some held := by
  refine run.phase_latest (fun input => input.world.pawn.leftClickState.holdsFurniture = true)
    (fun input held => input.world.pawn.selectedFurniture = some held) gestureBegan ?_ ?_ holds
  · rintro initial ⟨fresh, _⟩
    simp [fresh.leftClickState, LMBState.holdsFurniture]
  · rintro before event ⟨earlier, reached⟩ enabled after
    by_cases already : before.world.pawn.leftClickState.holdsFurniture = true
    · refine Or.inr ⟨already, by simp [gestureBegan, already], fun held selected => ?_⟩
      exact (selected_next already event).trans selected
    · obtain ⟨held, selected⟩ := selected_of_holdsFurniture (reached.step enabled) after
      have began : gestureBegan before event = some held := by
        exact (if_neg already).trans ((if_pos after).trans selected)
      exact Or.inl ⟨held, began, selected⟩

theorem leftClickingHeld_other (playerController : Option (PlayerView F R))
    (world : LocalWorld F R) {other : F} (unselected : world.pawn.selectedFurniture ≠ some other) :
    ((world.leftClickingHeld playerController).furniture other).location =
        (world.furniture other).location ∧
      ((world.leftClickingHeld playerController).furniture other).rotation =
        (world.furniture other).rotation := by
  have same : FurnitureActor.SameActor
      ((world.leftClickingHeld playerController).furniture other) (world.furniture other) := by
    cases leftClickingHeld_effect playerController world with
    | kept same => exact same.furniture other
    | moved serverCall unreliable holds frame selected furniture sent =>
        rw [← modifyOpt_of_ne unselected serverCall.move world]
        exact furniture other
  exact ⟨same.location, same.rotation⟩

theorem attached_run (run : (runs HeldButtons.LeftCycles).Run history input)
    (spawns : Guarded SpawnsManipulator history) : input.world.pawn.control.Attached := by
  suffices along : Along (fun input => input.world.pawn.control.Attached) history input from
    along.1
  refine run.guarded_along spawns ?_ ?_
  · rintro initial ⟨fresh, _⟩
    simp [PawnControl.Attached, DesktopPawn.control, fresh.activeManipulator,
      fresh.selectedFurniture]
  · intro before event attached enabled allowed
    cases event with
    | outside furniture playerState location controlRotation => exact attached
    | handler event =>
        refine attached.step (handle_control event before.world) fun spawned released => ?_
        rw [released] at allowed
        exact allowed

theorem ringGrabbed_run (run : (runs HeldButtons.LeftCycles).Run history input) :
    input.world.pawn.control.RingGrabbed := by
  induction run with
  | start started =>
      obtain ⟨fresh, _⟩ := started
      intro rotating
      exact absurd (fresh.leftClickState.symm.trans rotating) (by decide)
  | @step history before event _ _ grabbed =>
      cases event with
      | outside furniture playerState location controlRotation => exact grabbed
      | handler event => exact grabbed.step (handle_control event before.world)

/-- The gesture state machine of the left button, at every moment of every run: which pointers each
state implies, that a drag or rotation acts on the furniture on which it began and on no other, and,
while manipulators can be spawned, on which furniture the manipulator is. -/
theorem gestureMachine_sound (run : (runs HeldButtons.LeftCycles).Run history input) :
    (input.world.pawn.leftClickState = .idle → input.world.pawn.pressedFurniture = none) ∧
    (input.world.pawn.leftClickState = .dragging →
      ∃ held, input.world.pawn.selectedFurniture = some held ∧
        input.world.pawn.pressedFurniture = some held) ∧
    (input.world.pawn.leftClickState = .rotating →
      input.world.pawn.selectedFurniture.isSome = true ∧
        input.world.pawn.activeManipulator.isSome = true ∧
        input.world.pawn.pressedFurniture = none) ∧
    (Guarded SpawnsManipulator history →
      input.world.pawn.activeManipulator.map (·.attachedTo) =
        input.world.pawn.selectedFurniture.map some) ∧
    (input.world.pawn.leftClickState = .dragging ∨
        input.world.pawn.leftClickState = .rotating →
      (∀ event, (input.next event).world.pawn.selectedFurniture =
        input.world.pawn.selectedFurniture) ∧
      ∃ held, latest gestureBegan history = some held ∧
        input.world.pawn.selectedFurniture = some held ∧
        ∀ playerController other, other ≠ held →
          ((input.world.leftClickingHeld playerController).furniture other).location =
              (input.world.furniture other).location ∧
            ((input.world.leftClickingHeld playerController).furniture other).rotation =
              (input.world.furniture other).rotation) := by
  obtain ⟨gesture, _, shown⟩ := exists_gesture run
  have state : input.world.pawn.leftClickState = gesture.leftClickState := shown.control.state
  have pressed : input.world.pawn.pressedFurniture = gesture.pressedFurniture :=
    shown.control.pressed
  have selected : input.world.pawn.selectedFurniture = gesture.selectedFurniture :=
    shown.control.selected
  refine ⟨?_, ?_, ?_, ?_, ?_⟩
  · intro isIdle
    rw [state] at isIdle
    rw [pressed]
    cases gesture <;> simp_all [Gesture.leftClickState, Gesture.pressedFurniture]
  · intro isDragging
    rw [state] at isDragging
    rw [pressed, selected]
    cases gesture <;>
      simp_all [Gesture.leftClickState, Gesture.pressedFurniture, Gesture.selectedFurniture]
  · intro isRotating
    have manipulator : input.world.pawn.activeManipulator.isSome = true := by
      simpa [DesktopPawn.control] using ringGrabbed_run run isRotating
    rw [state] at isRotating
    rw [pressed, selected]
    cases gesture <;>
      simp_all [Gesture.leftClickState, Gesture.pressedFurniture, Gesture.selectedFurniture]
  · intro spawns
    simpa [PawnControl.Attached, DesktopPawn.control, Function.comp_def] using
      attached_run run spawns
  · intro gestureState
    have holds : input.world.pawn.leftClickState.holdsFurniture = true := by
      rcases gestureState with isDragging | isRotating
      · rw [isDragging]
        rfl
      · rw [isRotating]
        rfl
    obtain ⟨held, began, isHeld⟩ := latest_gestureBegan run holds
    refine ⟨selected_next holds, held, began, isHeld, fun playerController other distinct => ?_⟩
    refine leftClickingHeld_other playerController input.world fun isSelected => distinct ?_
    exact Option.some.inj (isSelected.symm.trans isHeld)

section DragRun

local instance dragRunMath : EngineMath ℚ := quarterTurnMath

/-- Click furniture 5, press it again and move the mouse by ten pixels. -/
def dragRun : List (InputEvent Nat ℚ) :=
  [.handler (.leftClicking (some (.overhead none (some 5)))),
    .handler (.leftClickingReleased true),
    .handler (.leftClicking (some (.overhead none (some 5)))),
    .handler (.leftClickingHeld
      (some { PlayerView.overhead none (some 5) with mousePosition := ⟨10, 0⟩ }))]

theorem dragRun_legal : (runs HeldButtons.LeftCycles).Legal (atOrigin Nat ℚ) dragRun :=
  ⟨rfl, rfl, rfl, rfl, trivial⟩

/-- At the end of that run the pawn is dragging what it pressed, with the manipulator on it. -/
theorem gestureMachine_sound_dragRun :
    let input := (runs HeldButtons.LeftCycles).replay (atOrigin Nat ℚ) dragRun
    input.world.pawn.leftClickState = .dragging ∧
      (∃ held, input.world.pawn.selectedFurniture = some held ∧
        input.world.pawn.pressedFurniture = some held) ∧
      input.world.pawn.activeManipulator.map (·.attachedTo) =
        input.world.pawn.selectedFurniture.map some := by
  have run := (run_atOrigin HeldButtons.LeftCycles).replay dragRun_legal
  have dragging : ((runs HeldButtons.LeftCycles).replay (atOrigin Nat ℚ)
      dragRun).world.pawn.leftClickState = .dragging := by decide +kernel
  obtain ⟨_, drags, _, attached, _⟩ := gestureMachine_sound run
  refine ⟨dragging, drags dragging, attached ?_⟩
  exact guarded_cons.mpr ⟨trivial, guarded_cons.mpr ⟨trivial,
    guarded_cons.mpr ⟨⟨rfl, rfl⟩, guarded_cons.mpr ⟨trivial, guarded_nil _⟩⟩⟩⟩

end DragRun

/-- An event starts panning while a manipulator is dragged along. -/
def PansDuringDrag (input : PawnInput F R) : InputEvent F R → Prop
  | .handler .panStarted =>
      input.world.pawn.leftClickState = .dragging ∧
        input.world.pawn.activeManipulator.isSome = true
  | _ => False

/-- The manipulator, if there is one, is hidden exactly while dragging. -/
def HiddenWhileDragging (input : PawnInput F R) : Prop :=
  ∀ manipulator, input.world.pawn.activeManipulator = some manipulator →
    (manipulator.hiddenInGame = true ↔ input.world.pawn.leftClickState = .dragging)

omit [DecidableEq F] [LinearOrder R] [FloorRing R] [EngineMath R] in
theorem hiddenWhileDragging_iff :
    input.HiddenWhileDragging ↔ input.world.pawn.control.HiddenWhileDragging := by
  simp [HiddenWhileDragging, PawnControl.HiddenWhileDragging, DesktopPawn.control]

/-- The input implements a gesture and shows the manipulator accordingly. -/
structure ShowsManipulator (input : PawnInput F R) : Prop where
  gesture : ∃ gesture, input.Shows gesture
  hidden : input.HiddenWhileDragging

theorem ShowsManipulator.next (shown : input.ShowsManipulator) {event : InputEvent F R}
    (enabled : (runs HeldButtons.LeftCycles).Enabled input event)
    (noPan : ¬input.PansDuringDrag event) : (input.next event).ShowsManipulator := by
  obtain ⟨⟨gesture, shownGesture⟩, hidden⟩ := shown
  obtain ⟨later, _, shownLater⟩ := shownGesture.next enabled
  refine ⟨⟨later, shownLater⟩, ?_⟩
  cases event with
  | outside furniture playerState location controlRotation => exact hidden
  | handler event =>
      have before := hiddenWhileDragging_iff.mp hidden
      refine hiddenWhileDragging_iff.mpr (before.step (handle_control event input.world) ?_ ?_)
      · rintro playerController rfl
        exact shownGesture.idle enabled
      · rintro rfl dragging
        have noManipulator : input.world.pawn.activeManipulator = none := by
          simpa using fun active => noPan ⟨dragging, active⟩
        simp [DesktopPawn.control, noManipulator]

omit [DecidableEq F] [LinearOrder R] [FloorRing R] [EngineMath R] in
/-- Panning away from a drag leaves the manipulator hidden. -/
theorem not_hiddenWhileDragging_onPanStarted (hidden : input.HiddenWhileDragging)
    (dragging : input.world.pawn.leftClickState = .dragging)
    {manipulator : FurnitureManipulator F}
    (active : input.world.pawn.activeManipulator = some manipulator)
    (buttons : HeldButtons) :
    ¬HiddenWhileDragging { world := input.world.onPanStarted, buttons } := by
  intro after
  have isHidden : manipulator.hiddenInGame = true := (hidden manipulator active).mpr dragging
  have stillDragging := (after manipulator active).mp isHidden
  simp [onPanStarted] at stillDragging

/-- The manipulator is hidden exactly while dragging, all along a run of the left button, if and
only if no pan of the run began while the manipulator was dragged along. -/
theorem hiddenWhileDragging_iff_noPanDuringDrag
    (run : (runs HeldButtons.LeftCycles).Run history input) :
    Along HiddenWhileDragging history input ↔
      Guarded (fun input event => ¬PansDuringDrag input event) history := by
  refine run.along_iff_guarded ?_ (fun _ (shown : ShowsManipulator _) => shown.hidden)
    (fun _ _ shown enabled noPan => shown.next enabled noPan) ?_
  · rintro initial ⟨fresh, _⟩
    exact ⟨⟨.idle none, shows_start fresh⟩, by simp [HiddenWhileDragging, fresh.activeManipulator]⟩
  · intro before event shown _ pans
    rcases event with event | _
    · cases event with
      | panStarted =>
          obtain ⟨dragging, active⟩ := not_not.mp pans
          obtain ⟨manipulator, isActive⟩ := Option.isSome_iff_exists.mp active
          exact not_hiddenWhileDragging_onPanStarted shown.hidden dragging isActive _
      | leftClicking playerController => exact (pans id).elim
      | leftClickingHeld playerController => exact (pans id).elim
      | leftClickingReleased spawned => exact (pans id).elim
      | panStopped => exact (pans id).elim
      | cameraControlStarted playerController => exact (pans id).elim
      | cameraControlStopped playerController => exact (pans id).elim
      | tick playerController => exact (pans id).elim
    · exact (pans id).elim

section HiddenRuns

local instance hiddenRunMath : EngineMath ℚ := quarterTurnMath

/-- The run without a pan keeps the manipulator hidden exactly while dragging. -/
theorem hiddenWhileDragging_iff_noPanDuringDrag_dragRun :
    ((runs HeldButtons.LeftCycles).replay (atOrigin Nat ℚ) dragRun).HiddenWhileDragging := by
  have run := (run_atOrigin HeldButtons.LeftCycles).replay dragRun_legal
  refine ((hiddenWhileDragging_iff_noPanDuringDrag run).mpr ?_).1
  exact guarded_cons.mpr ⟨id, guarded_cons.mpr ⟨id, guarded_cons.mpr ⟨id,
    guarded_cons.mpr ⟨id, guarded_nil _⟩⟩⟩⟩

/-- Panning during that drag leaves a hidden manipulator on an idle pawn. -/
theorem pan_leaves_manipulator_hidden :
    ∃ (history : List (PawnInput Nat ℚ × InputEvent Nat ℚ)) (input : PawnInput Nat ℚ),
      (runs HeldButtons.LeftCycles).Run history input ∧
        input.world.pawn.activeManipulator.map (·.hiddenInGame) = some true ∧
        input.world.pawn.leftClickState = .idle ∧ ¬input.HiddenWhileDragging := by
  have legal : (runs HeldButtons.LeftCycles).Legal (atOrigin Nat ℚ)
      (dragRun ++ [.handler .panStarted]) := ⟨rfl, rfl, rfl, rfl, trivial, trivial⟩
  have isHidden : ((runs HeldButtons.LeftCycles).replay (atOrigin Nat ℚ)
      (dragRun ++ [.handler .panStarted])).world.pawn.activeManipulator.map (·.hiddenInGame) =
        some true := by decide +kernel
  refine ⟨_, _, (run_atOrigin HeldButtons.LeftCycles).replay legal, isHidden, rfl, ?_⟩
  obtain ⟨manipulator, active, hiddenInGame⟩ := Option.map_eq_some_iff.mp isHidden
  intro hidden
  have dragging := (hidden manipulator active).mp hiddenInGame
  exact absurd dragging (by decide +kernel)

end HiddenRuns

end PawnInput

end Ioroom
