import Ioroom.MarkedPointer
import Ioroom.PawnInput

/-!
# The hover highlight

The overlays of the furniture are marks, and the hovered furniture is the pointer to them.  Between
two ticks only a release of the left button touches an overlay, that of the furniture it selects;
the next tick never leaves the hover on the selected furniture, and so clears the difference.
-/

namespace Ioroom

open EventSystem

namespace LocalWorld

section Marks

variable {F R : Type*} [DecidableEq F] [Field R]

/-- The overlays with the hovered furniture, and whether `HoverMaterial` is set. -/
def highlight (world : LocalWorld F R) : MarkedPointer F × Bool where
  fst := { marked := fun furniture => (world.furniture furniture).overlayMaterial
           pointer := world.pawn.hoveredFurniture }
  snd := world.pawn.hoverMaterial.isSome

/-- The overlay of a furniture is no business of the method. -/
def KeepsOverlay (method : FurnitureActor R → FurnitureActor R) : Prop :=
  ∀ actor, (method actor).overlayMaterial = actor.overlayMaterial

omit [Field R] in
theorem setActorLocation_keepsOverlay (location : FVector R) :
    KeepsOverlay (FurnitureActor.setActorLocation location) := fun _ => rfl

omit [Field R] in
theorem setActorRotation_keepsOverlay (rotation : FRotator R) :
    KeepsOverlay (FurnitureActor.setActorRotation rotation) := fun _ => rfl

omit [Field R] in
theorem onSelected_keepsOverlay (hasAuthority : Bool) (stencilSlot : Int) :
    KeepsOverlay fun actor : FurnitureActor R => actor.onSelected hasAuthority stencilSlot := by
  intro actor
  cases hasAuthority <;> rfl

omit [Field R] in
theorem onDeselected_keepsOverlay (hasAuthority : Bool) :
    KeepsOverlay fun actor : FurnitureActor R => actor.onDeselected hasAuthority := by
  intro actor
  cases hasAuthority <;> rfl

variable {world : LocalWorld F R}

theorem modify_highlight (furniture : F) (method : FurnitureActor R → FurnitureActor R)
    (world : LocalWorld F R) :
    (world.modify furniture method).highlight =
      ({ world.highlight.1 with
          marked := Function.update world.highlight.1.marked furniture
            (method (world.furniture furniture)).overlayMaterial },
        world.highlight.2) := by
  have marks : (world.modify furniture method).highlight.1.marked =
      Function.update world.highlight.1.marked furniture
        (method (world.furniture furniture)).overlayMaterial := by
    funext other
    by_cases same : other = furniture
    · simp [highlight, modify_furniture, same]
    · simp [highlight, modify_furniture, same]
  exact Prod.ext (congrArg (MarkedPointer.mk · world.pawn.hoveredFurniture) marks) rfl

theorem modify_highlight_kept {method : FurnitureActor R → FurnitureActor R}
    (keeps : KeepsOverlay method) (furniture : F) (world : LocalWorld F R) :
    (world.modify furniture method).highlight = world.highlight := by
  rw [modify_highlight, keeps]
  have unchanged := Function.update_eq_self furniture world.highlight.1.marked
  exact Prod.ext (congrArg (MarkedPointer.mk · world.pawn.hoveredFurniture) unchanged) rfl

theorem modifyOpt_highlight {method : FurnitureActor R → FurnitureActor R}
    (keeps : KeepsOverlay method) (pointer : Option F) (world : LocalWorld F R) :
    (world.modifyOpt pointer method).highlight = world.highlight := by
  cases pointer with
  | none => rfl
  | some furniture => exact modify_highlight_kept keeps furniture world

theorem execute_highlight (serverCall : ServerCall F R) (world : LocalWorld F R) :
    (world.execute serverCall).highlight = world.highlight := by
  cases serverCall with
  | selectFurniture furniture =>
      cases furniture with
      | none => rfl
      | some target =>
          have released := modifyOpt_highlight (onDeselected_keepsOverlay world.hasAuthority)
            world.pawn.selectedFurniture world
          simp only [execute, serverSelectFurnitureImplementation]
          split
          · split
            · exact released
            · next playerState _ =>
                have locked := modify_highlight_kept
                  (onSelected_keepsOverlay world.hasAuthority playerState.stencilSlot) target
                  (world.modifyOpt world.pawn.selectedFurniture (·.onDeselected world.hasAuthority))
                refine Eq.trans ?_ (locked.trans released)
                simp [highlight]
          · rfl
  | deselectFurniture =>
      simp only [execute, serverDeselectFurnitureImplementation]
      split
      · rfl
      · next held _ =>
          exact modify_highlight_kept (onDeselected_keepsOverlay world.hasAuthority) held world
  | dragFurniture newLocation =>
      exact modifyOpt_highlight (setActorLocation_keepsOverlay newLocation) _ world
  | rotateFurniture newRotation =>
      exact modifyOpt_highlight (setActorRotation_keepsOverlay newRotation) _ world
  | orbitTransform newLocation newRotation => rfl

theorem call_highlight (serverCall : ServerCall F R) (world : LocalWorld F R) :
    (world.call serverCall).highlight = world.highlight := by
  unfold call
  split
  · exact execute_highlight serverCall world
  · rfl

theorem move_highlight {method : FurnitureActor R → FurnitureActor R}
    (keeps : KeepsOverlay method) (furniture : F) (serverCall : ServerCall F R)
    (world : LocalWorld F R) :
    ((world.modify furniture method).call serverCall).highlight = world.highlight :=
  (call_highlight _ _).trans (modify_highlight_kept keeps furniture world)

theorem onUnHovered_highlight (furniture : F) (world : LocalWorld F R) :
    (world.modify furniture (·.onUnHovered)).highlight =
      (world.highlight.1.erase furniture, world.highlight.2) :=
  modify_highlight furniture (·.onUnHovered) world

theorem leftClickingReleased_highlight (spawned : Bool) (world : LocalWorld F R) :
    (world.leftClickingReleased spawned).highlight = world.highlight ∨
      ∃ pressed, (world.leftClickingReleased spawned).pawn.selectedFurniture = some pressed ∧
        (world.leftClickingReleased spawned).highlight =
          (world.highlight.1.erase pressed, world.highlight.2) := by
  cases state : world.pawn.leftClickState with
  | pressed =>
      cases press : world.pawn.pressedFurniture with
      | some pressed =>
          refine Or.inr ⟨pressed, by simp [leftClickingReleased, state, press, selectPressed], ?_⟩
          have released : (world.leftClickingReleased spawned).highlight =
              (world.selectPressed pressed spawned).highlight := by
            simp [leftClickingReleased, state, press, highlight]
          have cleared : (world.selectPressed pressed spawned).highlight =
              ((world.call (.selectFurniture (some pressed))).modify pressed
                (·.onUnHovered)).highlight := rfl
          rw [released, cleared, onUnHovered_highlight, call_highlight]
      | none =>
          refine Or.inl ?_
          have released : (world.leftClickingReleased spawned).highlight =
              (if world.pawn.selectedFurniture.isSome then world.call .deselectFurniture
                else world).highlight := by
            simp [leftClickingReleased, state, press, highlight, deselectOnEmpty]
          rw [released]
          split
          · exact call_highlight _ world
          · rfl
  | idle => exact Or.inl (by simp [leftClickingReleased, state, highlight])
  | orbiting => exact Or.inl (by simp [leftClickingReleased, state, highlight])
  | dragging => exact Or.inl (by simp [leftClickingReleased, state, highlight])
  | rotating => exact Or.inl (by simp [leftClickingReleased, state, highlight])

theorem unhover_highlight (world : LocalWorld F R) :
    world.unhover.highlight = (world.highlight.1.drop, world.highlight.2) := by
  cases hovers : world.pawn.hoveredFurniture with
  | none => simp [unhover, highlight, MarkedPointer.drop, hovers]
  | some hovered =>
      have cleared := onUnHovered_highlight hovered world
      have forgotten : world.unhover.highlight =
          ({ ((world.modify hovered (·.onUnHovered)).highlight).1 with pointer := none },
            ((world.modify hovered (·.onUnHovered)).highlight).2) := by
        simp [unhover, highlight, hovers]
      rw [forgotten, cleared]
      simp [highlight, MarkedPointer.drop, hovers]

theorem hover_highlight (material : world.highlight.2 = true) (hitActor : F) :
    (world.hover hitActor).highlight = (world.highlight.1.point hitActor, true) := by
  have isSet : world.pawn.hoverMaterial.isSome = true := material
  have dropped : world.unhover.highlight.1.marked = world.highlight.1.drop.marked :=
    congrArg (fun pair => pair.1.marked) (unhover_highlight world)
  have marks : (world.hover hitActor).highlight.1.marked =
      Function.update world.highlight.1.drop.marked hitActor true := by
    rw [← dropped, ← isSet]
    exact congrArg (fun pair => pair.1.marked) (modify_highlight hitActor
      (·.onHovered world.pawn.hoverMaterial.isSome)
      (world.modifyOpt world.pawn.hoveredFurniture (·.onUnHovered)))
  have kept : (world.hover hitActor).highlight.2 = true := by
    rw [← isSet]
    simp [highlight, hover]
  exact Prod.ext (congrArg (MarkedPointer.mk · (some hitActor)) marks) kept

/-- The overlay is on the hovered furniture, which is free and not the selected one, and there is
none while the camera is controlled or a gesture is in progress. -/
structure HoverExact (world : LocalWorld F R) : Prop where
  overlay : ∀ furniture, (world.furniture furniture).overlayMaterial = true ↔
    world.pawn.hoveredFurniture = some furniture
  selectable : ∀ furniture, world.pawn.hoveredFurniture = some furniture →
    world.pawn.selectedFurniture ≠ some furniture ∧
      (world.furniture furniture).isSelectableFurniture = true
  idle : world.pawn.bCameraControlActive = true ∨
      LMBState.inGesture world.pawn.leftClickState = true →
    world.pawn.hoveredFurniture = none

/-- Between two ticks: no overlay but on the hovered furniture, and one there unless it has been
selected. -/
structure HoverDrifted (world : LocalWorld F R) : Prop where
  material : world.highlight.2 = true
  sound : world.highlight.1.Sound
  cleared : ∀ furniture, world.highlight.1.pointer = some furniture →
    world.highlight.1.marked furniture = true ∨ world.pawn.selectedFurniture = some furniture

theorem HoverDrifted.unhover (drifted : world.HoverDrifted) : world.unhover.HoverExact := by
  have hoverless : world.unhover.pawn.hoveredFurniture = none := rfl
  have exact : world.unhover.highlight.1.Exact := by
    rw [unhover_highlight]
    exact drifted.sound.drop_exact
  refine ⟨exact, fun furniture hovers => ?_, fun _ => hoverless⟩
  exact absurd (hoverless.symm.trans hovers) (Option.some_ne_none furniture).symm

theorem HoverDrifted.dropLockedHover (drifted : world.HoverDrifted) :
    world.dropLockedHover.HoverDrifted := by
  unfold LocalWorld.dropLockedHover
  split
  · exact drifted
  · split
    · exact drifted
    · refine ⟨?_, ?_, fun furniture hovers => ?_⟩
      · rw [unhover_highlight]
        exact drifted.material
      · rw [unhover_highlight]
        exact drifted.sound.drop_exact.sound
      · exact absurd hovers.symm (Option.some_ne_none furniture)

theorem HoverDrifted.hover (drifted : world.HoverDrifted) {hitActor : F}
    (other : world.pawn.selectedFurniture ≠ some hitActor)
    (free : (world.furniture hitActor).isSelectableFurniture = true) :
    (world.hover hitActor).highlight.1.Exact ∧
      ∀ furniture, (world.hover hitActor).pawn.hoveredFurniture = some furniture →
        (world.hover hitActor).pawn.selectedFurniture ≠ some furniture ∧
          ((world.hover hitActor).furniture furniture).isSelectableFurniture = true := by
  have overlays := hover_overlays hitActor world
  constructor
  · rw [hover_highlight drifted.material]
    exact drifted.sound.point_exact hitActor
  · intro furniture hovers
    obtain rfl := Option.some.inj hovers
    rw [overlays.selected]
    refine ⟨other, ?_⟩
    rw [FurnitureActor.isSelectableFurniture_iff] at free ⊢
    exact (overlays.furniture hitActor).slot.trans free

omit [DecidableEq F] in
theorem HoverDrifted.exact (drifted : world.HoverDrifted) {hovered : F}
    (hovers : world.pawn.hoveredFurniture = some hovered)
    (other : world.pawn.selectedFurniture ≠ some hovered) : world.highlight.1.Exact := by
  rcases drifted.cleared hovered hovers with marked | selected
  · exact drifted.sound.exact hovers marked
  · exact absurd selected other

/-- The hover update of a tick brings the overlays and the hovered furniture together. -/
theorem HoverDrifted.updateHover (drifted : world.HoverDrifted) (view : PlayerView F R) :
    (world.updateHover view).HoverExact := by
  cases busy : world.pawn.bCameraControlActive || LMBState.inGesture world.pawn.leftClickState with
  | true =>
      rw [LocalWorld.updateHover, if_pos busy]
      exact drifted.unhover
  | false =>
      have idle : (world.updateHover view).pawn.bCameraControlActive = true ∨
            LMBState.inGesture (world.updateHover view).pawn.leftClickState = true →
          (world.updateHover view).pawn.hoveredFurniture = none := by
        obtain ⟨hoveredFurniture, pawn⟩ := updateHover_pawn view world
        rw [pawn, ← Bool.or_eq_true]
        intro active
        exact absurd (busy.symm.trans active) Bool.false_ne_true
      suffices hovered : (world.updateHover view).highlight.1.Exact ∧
          ∀ furniture, (world.updateHover view).pawn.hoveredFurniture = some furniture →
            (world.updateHover view).pawn.selectedFurniture ≠ some furniture ∧
              ((world.updateHover view).furniture furniture).isSelectableFurniture = true from
        ⟨hovered.1, hovered.2, idle⟩
      have current := drifted.dropLockedHover
      simp only [LocalWorld.updateHover, busy]
      cases view.hitActor with
      | none => exact ⟨current.unhover.overlay, current.unhover.selectable⟩
      | some hitActor =>
          by_cases hoverable : world.dropLockedHover.pawn.selectedFurniture ≠ some hitActor ∧
              (world.dropLockedHover.furniture hitActor).isSelectableFurniture = true
          · by_cases hovers : world.dropLockedHover.pawn.hoveredFurniture = some hitActor
            · -- the hover stays, and a cleared overlay would be that of the selected furniture
              simp only [if_pos hoverable, if_pos hovers]
              refine ⟨current.exact hovers hoverable.1, fun furniture hovered => ?_⟩
              obtain rfl := Option.some.inj (hovers.symm.trans hovered)
              exact hoverable
            · simp only [if_pos hoverable, if_neg hovers]
              exact current.hover hoverable.1 hoverable.2
          · simp only [if_neg hoverable]
            exact ⟨current.unhover.overlay, current.unhover.selectable⟩

theorem HoverDrifted.tick (drifted : world.HoverDrifted) (view : PlayerView F R) :
    (world.tick (some view)).HoverExact := by
  have hovered := drifted.updateHover view
  have cursor : ((world.updateHover view).updateCursor).HoverExact := by
    unfold updateCursor
    split <;> exact ⟨hovered.overlay, hovered.selectable, hovered.idle⟩
  exact ⟨cursor.overlay, cursor.selectable, cursor.idle⟩

section Gestures

variable [LinearOrder R] [FloorRing R] [EngineMath R]

omit [FloorRing R] in
theorem leftClicking_highlight (playerController : Option (PlayerView F R))
    (world : LocalWorld F R) :
    (world.leftClicking playerController).highlight = world.highlight := by
  cases playerController with
  | none =>
      simp only [leftClicking, ite_self]
  | some view =>
      simp only [leftClicking]
      split
      · rfl
      · cases clicked : world.clickManipulator view with
        | none => rfl
        | some after =>
            rcases clickManipulator_cases clicked with ⟨selected, _, _, grabbed⟩ | ⟨_, nudged⟩
            · rw [Option.getD_some, grabbed, grabRing]
              split <;> rfl
            · obtain ⟨selected, newLocation, _, rfl⟩ := nudge_cases nudged
              exact move_highlight (setActorLocation_keepsOverlay newLocation) selected _ world

omit [DecidableEq F] [FloorRing R] [EngineMath R] in
theorem beginDrag_highlight (pressed : F) (view : PlayerView F R) (world : LocalWorld F R) :
    (world.beginDrag pressed view).highlight = world.highlight := by
  unfold beginDrag
  split <;> rfl

theorem leftClickingHeld_highlight (playerController : Option (PlayerView F R))
    (world : LocalWorld F R) :
    (world.leftClickingHeld playerController).highlight = world.highlight := by
  cases playerController with
  | none => rfl
  | some view =>
      simp only [leftClickingHeld]
      cases world.pawn.leftClickState with
      | idle => rfl
      | orbiting => exact call_highlight _ _
      | pressed =>
          rcases heldPressed_cases view world with same | ⟨pressed, _, _, begun⟩ | begun
          · rw [same]
          · rw [begun]
            exact beginDrag_highlight pressed view _
          · rw [begun]
            rfl
      | dragging =>
          rcases handleDrag_cases view world with same | ⟨held, newLocation, _, _, moved⟩
          · rw [same]
          · rw [moved]
            exact move_highlight (setActorLocation_keepsOverlay newLocation) held _ world
      | rotating =>
          rcases handleRotate_cases view world with same | ⟨held, newRotation, _, turned⟩
          · rw [same]
          · rw [turned]
            exact move_highlight (setActorRotation_keepsOverlay newRotation) held _ world

/-- Between two ticks only a release of the left button touches the highlight. -/
theorem handle_highlight {event : PawnEvent F R} (notTick : ∀ view, event ≠ .tick view)
    (notReleased : ∀ spawned, event ≠ .leftClickingReleased spawned) (world : LocalWorld F R) :
    (world.handle event).highlight = world.highlight ∧
      (world.handle event).pawn.selectedFurniture = world.pawn.selectedFurniture := by
  constructor
  · cases event with
    | leftClicking playerController => exact leftClicking_highlight playerController world
    | leftClickingHeld playerController => exact leftClickingHeld_highlight playerController world
    | leftClickingReleased spawned => exact absurd rfl (notReleased spawned)
    | panStarted => rfl
    | panStopped => rfl
    | cameraControlStarted playerController => cases playerController <;> rfl
    | cameraControlStopped playerController => cases playerController <;> rfl
    | tick playerController => exact absurd rfl (notTick playerController)
  · rcases handle_cases event world with ⟨spawned, released⟩ | gesture
    · exact absurd released (notReleased spawned)
    · exact gesture.selected

end Gestures

theorem tick_material (playerController : Option (PlayerView F R)) (world : LocalWorld F R) :
    (world.tick playerController).highlight.2 = world.highlight.2 := by
  cases playerController with
  | none => rfl
  | some view =>
      obtain ⟨hoveredFurniture, pawn⟩ := updateHover_pawn view world
      simp only [highlight, tick, updateManipulatorHover, updateCursor, pawn]
      split <;> rfl

end Marks

end LocalWorld

section Frames

variable {F R : Type*} [DecidableEq F] [Field R] [LinearOrder R] [FloorRing R] [EngineMath R]

/-- A press or a release of the left button. -/
def InputEvent.isLeftEdge : InputEvent F R → Bool
  | .handler (.leftClicking _) => true
  | .handler (.leftClickingReleased _) => true
  | _ => false

/-- What happens in a frame, and what the player controller reports to its tick. -/
structure HoverFrame (F R : Type*) [One R] where
  events : List (InputEvent F R)
  view : PlayerView F R

namespace PawnInput

/-- The events between two ticks: handlers as the left button allows, and replicated changes of the
furniture, which never reach the overlays. -/
def betweenTicks : EventSystem (PawnInput F R) (InputEvent F R) where
  Start _ := True
  Enabled input
    | .handler (.tick _) => False
    | .handler event => input.buttons.LeftCycles event
    | .outside furniture _ _ _ => ∀ other,
        (furniture other).overlayMaterial = (input.world.furniture other).overlayMaterial
  next := next

/-- Frames of a pawn whose hover material is set, with at most one press or release of the left
button before the tick of each. -/
def frames : EventSystem (PawnInput F R) (HoverFrame F R) where
  Start input :=
    (∀ furniture, (input.world.furniture furniture).overlayMaterial = false) ∧
      input.world.pawn.hoveredFurniture = none ∧
      input.world.pawn.hoverMaterial.isSome = true ∧ input.buttons = {}
  Enabled input frame :=
    betweenTicks.Legal input frame.events ∧ frame.events.countP (·.isLeftEdge) ≤ 1
  next input frame :=
    (betweenTicks.replay input frame.events).next (.handler (.tick (some frame.view)))

variable {input : PawnInput F R} {event : InputEvent F R} {events : List (InputEvent F R)}

theorem betweenTicks_kept (enabled : betweenTicks.Enabled input event)
    (notReleased : ∀ spawned, event ≠ .handler (.leftClickingReleased spawned)) :
    (input.next event).world.highlight = input.world.highlight ∧
      (input.next event).world.pawn.selectedFurniture = input.world.pawn.selectedFurniture := by
  cases event with
  | handler event =>
      refine LocalWorld.handle_highlight ?_ ?_ input.world
      · rintro view rfl
        exact enabled
      · rintro spawned rfl
        exact notReleased spawned rfl
  | outside furniture playerState location controlRotation =>
      refine ⟨?_, rfl⟩
      have overlays : (fun other => (furniture other).overlayMaterial) =
          fun other => (input.world.furniture other).overlayMaterial := funext enabled
      simp only [next, LocalWorld.highlight, overlays]

/-- The overlays and the hovered furniture agree. -/
def HoverMarked (input : PawnInput F R) : Prop :=
  input.world.highlight.1.Exact ∧ input.world.highlight.2 = true

omit [DecidableEq F] [LinearOrder R] [FloorRing R] [EngineMath R] in
theorem HoverMarked.drifted (marked : input.HoverMarked) : input.world.HoverDrifted :=
  ⟨marked.2, marked.1.sound, fun furniture hovers => Or.inl ((marked.1 furniture).mpr hovers)⟩

omit [LinearOrder R] [FloorRing R] [EngineMath R] in
/-- A release lets them drift apart at the selected furniture only. -/
theorem HoverMarked.released (marked : input.HoverMarked) (spawned : Bool) :
    (input.world.leftClickingReleased spawned).HoverDrifted := by
  rcases LocalWorld.leftClickingReleased_highlight spawned input.world with
    same | ⟨pressed, selected, erased⟩
  · constructor
    · exact (congrArg Prod.snd same).trans marked.2
    · rw [same]
      exact marked.1.sound
    · intro furniture hovers
      rw [same] at hovers ⊢
      exact Or.inl ((marked.1 furniture).mpr hovers)
  · constructor
    · exact (congrArg Prod.snd erased).trans marked.2
    · rw [erased]
      exact marked.1.sound.erase pressed
    · intro furniture hovers
      rw [erased] at hovers ⊢
      by_cases same : furniture = pressed
      · exact Or.inr (same ▸ selected)
      · refine Or.inl (MarkedPointer.erase_marked_iff.mpr ⟨?_, same⟩)
        exact (marked.1 furniture).mpr hovers

theorem HoverMarked.next (marked : input.HoverMarked)
    (enabled : betweenTicks.Enabled input event) : (input.next event).world.HoverDrifted := by
  by_cases release : ∃ spawned, event = .handler (.leftClickingReleased spawned)
  · obtain ⟨spawned, rfl⟩ := release
    exact marked.released spawned
  · have kept : (input.next event).world.highlight = input.world.highlight :=
      (betweenTicks_kept enabled fun spawned released => release ⟨spawned, released⟩).1
    have still : (input.next event).HoverMarked := by
      unfold HoverMarked
      rw [kept]
      exact marked
    exact still.drifted

theorem replay_drifted (legal : betweenTicks.Legal input events)
    (quiet : events.countP (·.isLeftEdge) = 0) (drifted : input.world.HoverDrifted) :
    (betweenTicks.replay input events).world.HoverDrifted := by
  induction events generalizing input with
  | nil => exact drifted
  | cons event events induction =>
      obtain ⟨enabled, later⟩ := legal
      obtain ⟨highlight, selected⟩ := betweenTicks_kept enabled (by
        rintro spawned rfl
        simp [InputEvent.isLeftEdge] at quiet)
      refine induction later ?_ ?_
      · rw [List.countP_cons] at quiet
        omega
      · refine ⟨?_, ?_, ?_⟩
        · exact (congrArg Prod.snd highlight).trans drifted.material
        · exact highlight ▸ drifted.sound
        · exact highlight ▸ selected ▸ drifted.cleared

/-- The events of a frame, with at most one press or release among them. -/
theorem replay_marked (legal : betweenTicks.Legal input events)
    (once : events.countP (·.isLeftEdge) ≤ 1) (marked : input.HoverMarked) :
    (betweenTicks.replay input events).world.HoverDrifted := by
  induction events generalizing input with
  | nil => exact marked.drifted
  | cons event events induction =>
      obtain ⟨enabled, later⟩ := legal
      rw [List.countP_cons] at once
      cases edge : event.isLeftEdge with
      | true =>
          rw [edge, if_pos rfl] at once
          have quiet : events.countP (·.isLeftEdge) = 0 := by omega
          have drifted := replay_drifted later quiet (marked.next enabled)
          exact drifted
      | false =>
          rw [edge, if_neg Bool.false_ne_true] at once
          have kept := (betweenTicks_kept enabled (by
            rintro spawned rfl
            exact absurd edge Bool.noConfusion)).1
          refine induction later once ?_
          unfold HoverMarked
          change (input.next event).world.highlight.1.Exact ∧
            (input.next event).world.highlight.2 = true
          rw [kept]
          exact marked

/-- Frames keep the highlight exact, and the hover material. -/
theorem frame_exact {frame : HoverFrame F R} (exact : input.world.HoverExact)
    (material : input.world.highlight.2 = true) (enabled : frames.Enabled input frame) :
    (frames.next input frame).world.HoverExact ∧
      (frames.next input frame).world.highlight.2 = true := by
  have drifted := replay_marked enabled.1 enabled.2 ⟨exact.overlay, material⟩
  refine ⟨drifted.tick frame.view, ?_⟩
  exact (LocalWorld.tick_material (some frame.view) _).trans drifted.material

/-- After every frame of every run the highlight is exact. -/
theorem hover_exact {history : List (PawnInput F R × HoverFrame F R)}
    (run : frames.Run history input) : input.world.HoverExact := by
  have start : ∀ initial : PawnInput F R, frames.Start initial →
      initial.world.HoverExact ∧ initial.world.highlight.2 = true := by
    rintro initial ⟨bare, hoverless, material, -⟩
    refine ⟨⟨?_, ?_, fun _ => hoverless⟩, material⟩
    · intro furniture
      simp [bare furniture, hoverless]
    · intro furniture hovers
      exact absurd (hoverless.symm.trans hovers) (Option.some_ne_none furniture).symm
  exact (run.invariant start fun _ _ inv enabled => frame_exact inv.1 inv.2 enabled).1

end PawnInput

end Frames

namespace PawnInput

section QuarterTurn

local instance hoverMath : EngineMath ℚ := quarterTurnMath

/-- A pawn with its colours, before its first frame. -/
def colored : PawnInput Nat ℚ :=
  { atOrigin Nat ℚ with
    world :=
      { (atOrigin Nat ℚ).world with pawn := (DesktopPawn.spawn 0).applyPlayerVisuals .white } }

theorem run_colored : frames.Run [] colored := .start ⟨fun _ => rfl, rfl, rfl, rfl⟩

/-- The cursor comes over furniture 5, and the left button is pressed and released there. -/
def clickFive : List (HoverFrame Nat ℚ) :=
  let view := PlayerView.overhead none (some 5)
  [⟨[], view⟩, ⟨[.handler (.leftClicking (some view))], view⟩,
    ⟨[.handler (.leftClickingReleased true)], view⟩]

/-- After the click furniture 5 is selected, and it has lost its overlay. -/
theorem hover_exact_clickFive :
    let clicked := (frames.replay colored clickFive).world
    (frames.replay colored (clickFive.take 1)).world.pawn.hoveredFurniture = some 5 ∧
      clicked.pawn.selectedFurniture = some 5 ∧
      (clicked.furniture 5).overlayMaterial = false := by
  intro clicked
  have legal : frames.Legal colored clickFive := by
    refine ⟨⟨trivial, ?_⟩, ⟨⟨rfl, trivial⟩, ?_⟩, ⟨⟨rfl, trivial⟩, ?_⟩, trivial⟩ <;>
      simp [InputEvent.isLeftEdge]
  have exact : clicked.HoverExact := hover_exact (run_colored.replay legal)
  have selected : clicked.pawn.selectedFurniture = some 5 := by decide +kernel
  refine ⟨by decide +kernel, selected, ?_⟩
  rw [← Bool.not_eq_true, exact.overlay]
  exact fun hovers => (exact.selectable 5 hovers).1 selected

end QuarterTurn

end PawnInput

end Ioroom
