import Ioroom.DesktopPawn

/-!
# What calls can do

The inversion theorems for the calls of a pawn.  `execute_lock` lists what a call can do to the
locks on the authority, `execute_untouched` and `execute_frame` what it leaves alone.
-/

namespace Ioroom

open FurnitureActor

/-- The transform a call carries, applied to a furniture. -/
def ServerCall.move {F R : Type*} : ServerCall F R → FurnitureActor R → FurnitureActor R
  | .dragFurniture newLocation => setActorLocation newLocation
  | .rotateFurniture newRotation => setActorRotation newRotation
  | .selectFurniture _ => id
  | .deselectFurniture => id
  | .orbitTransform _ _ => id

/-- Drag and rotate calls carry a furniture transform. -/
def ServerCall.isTransform {F R : Type*} : ServerCall F R → Bool
  | .dragFurniture _ => true
  | .rotateFurniture _ => true
  | .selectFurniture _ => false
  | .deselectFurniture => false
  | .orbitTransform _ _ => false

namespace LocalWorld

variable {F R : Type*} [DecidableEq F] [Field R]

@[simp]
theorem modify_pawn (furniture : F) (method : FurnitureActor R → FurnitureActor R)
    (world : LocalWorld F R) : (world.modify furniture method).pawn = world.pawn := rfl

@[simp]
theorem modify_sent (furniture : F) (method : FurnitureActor R → FurnitureActor R)
    (world : LocalWorld F R) : (world.modify furniture method).sent = world.sent := rfl

@[simp]
theorem modify_hasAuthority (furniture : F) (method : FurnitureActor R → FurnitureActor R)
    (world : LocalWorld F R) :
    (world.modify furniture method).hasAuthority = world.hasAuthority := rfl

@[simp]
theorem modify_playerState (furniture : F) (method : FurnitureActor R → FurnitureActor R)
    (world : LocalWorld F R) :
    (world.modify furniture method).playerState = world.playerState := rfl

theorem modify_furniture (furniture : F) (method : FurnitureActor R → FurnitureActor R)
    (world : LocalWorld F R) :
    (world.modify furniture method).furniture =
      Function.update world.furniture furniture (method (world.furniture furniture)) := rfl

@[simp]
theorem modifyOpt_none (method : FurnitureActor R → FurnitureActor R) (world : LocalWorld F R) :
    world.modifyOpt none method = world := rfl

@[simp]
theorem modifyOpt_some (furniture : F) (method : FurnitureActor R → FurnitureActor R)
    (world : LocalWorld F R) :
    world.modifyOpt (some furniture) method = world.modify furniture method := rfl

@[simp]
theorem modifyOpt_pawn (pointer : Option F) (method : FurnitureActor R → FurnitureActor R)
    (world : LocalWorld F R) : (world.modifyOpt pointer method).pawn = world.pawn := by
  cases pointer <;> rfl

@[simp]
theorem modifyOpt_sent (pointer : Option F) (method : FurnitureActor R → FurnitureActor R)
    (world : LocalWorld F R) : (world.modifyOpt pointer method).sent = world.sent := by
  cases pointer <;> rfl

@[simp]
theorem modifyOpt_hasAuthority (pointer : Option F)
    (method : FurnitureActor R → FurnitureActor R) (world : LocalWorld F R) :
    (world.modifyOpt pointer method).hasAuthority = world.hasAuthority := by
  cases pointer <;> rfl

@[simp]
theorem modifyOpt_playerState (pointer : Option F)
    (method : FurnitureActor R → FurnitureActor R) (world : LocalWorld F R) :
    (world.modifyOpt pointer method).playerState = world.playerState := by
  cases pointer <;> rfl

theorem modifyOpt_of_ne {pointer : Option F} {other : F} (distinct : pointer ≠ some other)
    (method : FurnitureActor R → FurnitureActor R) (world : LocalWorld F R) :
    (world.modifyOpt pointer method).furniture other = world.furniture other := by
  cases pointer with
  | none => rfl
  | some furniture =>
      have other_ne : other ≠ furniture := fun equal => distinct (by rw [equal])
      rw [modifyOpt_some, modify_furniture, Function.update_of_ne other_ne]

theorem modifyOpt_self (held : F) (method : FurnitureActor R → FurnitureActor R)
    (world : LocalWorld F R) :
    (world.modifyOpt (some held) method).furniture held = method (world.furniture held) := by
  rw [modifyOpt_some, modify_furniture, Function.update_self]

/-- What an event of one pawn can do to its selection and to the lock numbers, when the pawn has a
player state: nothing, releasing the held furniture, or switching to an unlocked one. -/
inductive LockOutcome (world after : LocalWorld F R) : Prop
  | kept
      (selected : after.pawn.selectedFurniture = world.pawn.selectedFurniture)
      (slot : ∀ furniture, (after.furniture furniture).selectingStencilSlot =
        (world.furniture furniture).selectingStencilSlot)
  | released (held : F)
      (holds : world.pawn.selectedFurniture = some held)
      (selected : after.pawn.selectedFurniture = none)
      (slot : ∀ furniture, (after.furniture furniture).selectingStencilSlot =
        if furniture = held then 0 else (world.furniture furniture).selectingStencilSlot)
  | switched (target : F) (playerState : IoroomPlayerState R)
      (owner : world.playerState = some playerState)
      (free : (world.furniture target).selectingStencilSlot = 0)
      (selected : after.pawn.selectedFurniture = some target)
      (slot : ∀ furniture, (after.furniture furniture).selectingStencilSlot =
        if furniture = target then playerState.stencilSlot
        else if world.pawn.selectedFurniture = some furniture then 0
        else (world.furniture furniture).selectingStencilSlot)

omit [DecidableEq F] [Field R] in
theorem transform_slot (serverCall : ServerCall F R) (actor : FurnitureActor R) :
    (serverCall.move actor).selectingStencilSlot = actor.selectingStencilSlot := by
  cases serverCall <;> rfl

theorem modifyOpt_slot {method : FurnitureActor R → FurnitureActor R} {number : Int}
    (slot : ∀ actor, (method actor).selectingStencilSlot = number)
    (pointer : Option F) (world : LocalWorld F R) (furniture : F) :
    ((world.modifyOpt pointer method).furniture furniture).selectingStencilSlot =
      if pointer = some furniture then number
      else (world.furniture furniture).selectingStencilSlot := by
  by_cases own : pointer = some furniture
  · rw [if_pos own, own, modifyOpt_self, slot]
  · rw [if_neg own, modifyOpt_of_ne own]

theorem select_refused {target : F} {world : LocalWorld F R}
    (locked : (world.furniture target).selectingStencilSlot ≠ 0) :
    world.serverSelectFurnitureImplementation (some target) = world := by
  have refused : (world.furniture target).isSelectableFurniture = false := by
    simpa [isSelectableFurniture] using locked
  simp [serverSelectFurnitureImplementation, refused]

theorem select_accepted {target : F} {world : LocalWorld F R}
    {playerState : IoroomPlayerState R} (owner : world.playerState = some playerState)
    (free : (world.furniture target).selectingStencilSlot = 0) :
    world.serverSelectFurnitureImplementation (some target) =
      { (world.modifyOpt world.pawn.selectedFurniture
            (·.onDeselected world.hasAuthority)).modify target
          (·.onSelected world.hasAuthority playerState.stencilSlot) with
        pawn := { world.pawn with selectedFurniture := some target } } := by
  have selectable := isSelectableFurniture_iff.mpr free
  simp [serverSelectFurnitureImplementation, selectable, owner]

theorem select_accepted_slot {target : F} {world : LocalWorld F R}
    {playerState : IoroomPlayerState R} (authority : world.hasAuthority = true)
    (owner : world.playerState = some playerState)
    (free : (world.furniture target).selectingStencilSlot = 0) (furniture : F) :
    ((world.serverSelectFurnitureImplementation (some target)).furniture
        furniture).selectingStencilSlot =
      if furniture = target then playerState.stencilSlot
      else if world.pawn.selectedFurniture = some furniture then 0
      else (world.furniture furniture).selectingStencilSlot := by
  rw [select_accepted owner free, authority]
  by_cases isTarget : furniture = target
  · simp [isTarget, modify_furniture]
  · rw [if_neg isTarget, modify_furniture, Function.update_of_ne isTarget]
    exact modifyOpt_slot onDeselected_slot _ _ _

/-- Everything a call can do to the selection and to the locks of the authority. -/
theorem execute_lock {world : LocalWorld F R} {playerState : IoroomPlayerState R}
    (authority : world.hasAuthority = true) (owner : world.playerState = some playerState)
    (serverCall : ServerCall F R) : LockOutcome world (world.execute serverCall) := by
  have transform : ∀ serverCall : ServerCall F R,
      LockOutcome world (world.modifyOpt world.pawn.selectedFurniture serverCall.move) := by
    intro serverCall
    refine .kept (by simp) fun furniture => ?_
    by_cases own : world.pawn.selectedFurniture = some furniture
    · rw [own, modifyOpt_self, transform_slot]
    · rw [modifyOpt_of_ne own]
  cases serverCall with
  | selectFurniture furniture =>
      cases furniture with
      | none => exact .kept rfl fun _ => rfl
      | some target =>
          by_cases free : (world.furniture target).selectingStencilSlot = 0
          · refine .switched target playerState owner free ?_
              (select_accepted_slot authority owner free)
            rw [execute, select_accepted owner free]
          · rw [execute, select_refused free]
            exact .kept rfl fun _ => rfl
  | deselectFurniture =>
      cases holds : world.pawn.selectedFurniture with
      | none =>
          simp only [execute, serverDeselectFurnitureImplementation, holds]
          exact .kept rfl fun _ => rfl
      | some held =>
          simp only [execute, serverDeselectFurnitureImplementation, holds, authority]
          refine .released held holds rfl fun furniture => ?_
          have slots := modifyOpt_slot onDeselected_slot (some held) world furniture
          simpa only [modifyOpt_some, Option.some.injEq, eq_comm] using slots
  | dragFurniture newLocation => exact transform (.dragFurniture newLocation)
  | rotateFurniture newRotation => exact transform (.rotateFurniture newRotation)
  | orbitTransform newLocation newRotation => exact .kept rfl fun _ => rfl

/-- A pawn acquires a furniture only by a call which selects it. -/
theorem execute_acquires {world : LocalWorld F R} {serverCall : ServerCall F R} {target : F}
    (before : world.pawn.selectedFurniture ≠ some target)
    (after : (world.execute serverCall).pawn.selectedFurniture = some target) :
    serverCall = .selectFurniture (some target) := by
  cases serverCall with
  | selectFurniture pointer =>
      cases pointer with
      | none => exact absurd after before
      | some requested =>
          simp only [execute, serverSelectFurnitureImplementation] at after
          split at after
          · split at after
            · rw [modifyOpt_pawn] at after
              exact absurd after before
            · rw [Option.some.inj after]
          · exact absurd after before
  | deselectFurniture =>
      simp only [execute, serverDeselectFurnitureImplementation] at after
      split at after
      · exact absurd after before
      · simp at after
  | dragFurniture newLocation =>
      simp only [execute, serverDragFurnitureImplementation, modifyOpt_pawn] at after
      exact absurd after before
  | rotateFurniture newRotation =>
      simp only [execute, serverRotateFurnitureImplementation, modifyOpt_pawn] at after
      exact absurd after before
  | orbitTransform newLocation newRotation => exact absurd after before

theorem execute_unreliable {world : LocalWorld F R} {serverCall : ServerCall F R}
    (unreliable : serverCall.isReliable = false) :
    (world.execute serverCall).pawn.selectedFurniture = world.pawn.selectedFurniture ∧
      (world.execute serverCall).furniture =
        (world.modifyOpt world.pawn.selectedFurniture serverCall.move).furniture := by
  cases serverCall with
  | selectFurniture furniture => simp [ServerCall.isReliable] at unreliable
  | deselectFurniture => simp [ServerCall.isReliable] at unreliable
  | dragFurniture newLocation =>
      exact ⟨congrArg (·.selectedFurniture) (modifyOpt_pawn _ _ world), rfl⟩
  | rotateFurniture newRotation =>
      exact ⟨congrArg (·.selectedFurniture) (modifyOpt_pawn _ _ world), rfl⟩
  | orbitTransform newLocation newRotation =>
      refine ⟨rfl, ?_⟩
      cases held : world.pawn.selectedFurniture with
      | none => rfl
      | some furniture =>
          exact (Function.update_eq_self furniture world.furniture).symm

theorem execute_untouched {world : LocalWorld F R} {playerState : IoroomPlayerState R}
    (owner : world.playerState = some playerState) (serverCall : ServerCall F R)
    {furniture : F} (before : world.pawn.selectedFurniture ≠ some furniture)
    (after : (world.execute serverCall).pawn.selectedFurniture ≠ some furniture) :
    (world.execute serverCall).furniture furniture = world.furniture furniture := by
  cases serverCall with
  | selectFurniture pointer =>
      cases pointer with
      | none => rfl
      | some target =>
          by_cases free : (world.furniture target).selectingStencilSlot = 0
          · rw [execute, select_accepted owner free] at after ⊢
            have distinct : furniture ≠ target := fun equal => after (by rw [equal])
            simp only [modify_furniture, Function.update_of_ne distinct, modifyOpt_of_ne before]
          · rw [execute, select_refused free]
  | deselectFurniture =>
      cases holds : world.pawn.selectedFurniture with
      | none => simp only [execute, serverDeselectFurnitureImplementation, holds]
      | some held =>
          have distinct : furniture ≠ held := fun equal => before (by rw [holds, equal])
          simp only [execute, serverDeselectFurnitureImplementation, holds, modify_furniture,
            Function.update_of_ne distinct]
  | dragFurniture newLocation => exact modifyOpt_of_ne before _ _
  | rotateFurniture newRotation => exact modifyOpt_of_ne before _ _
  | orbitTransform newLocation newRotation => rfl

theorem modifyOpt_outline {world : LocalWorld F R} (pointer : Option F)
    {method : FurnitureActor R → FurnitureActor R}
    (follows : ∀ furniture, OutlineFollowsLock (world.furniture furniture))
    (keeps : ∀ actor, OutlineFollowsLock actor → OutlineFollowsLock (method actor))
    (furniture : F) :
    OutlineFollowsLock ((world.modifyOpt pointer method).furniture furniture) := by
  by_cases own : pointer = some furniture
  · rw [own, modifyOpt_self]
    exact keeps _ (follows furniture)
  · rw [modifyOpt_of_ne own]
    exact follows furniture

/-- On the authority every call keeps the outline of every furniture in step with its lock. -/
theorem execute_outline {world : LocalWorld F R} (authority : world.hasAuthority = true)
    (follows : ∀ furniture, OutlineFollowsLock (world.furniture furniture))
    (serverCall : ServerCall F R) (furniture : F) :
    OutlineFollowsLock ((world.execute serverCall).furniture furniture) := by
  have unlock : ∀ actor : FurnitureActor R, OutlineFollowsLock actor →
      OutlineFollowsLock (actor.onDeselected world.hasAuthority) := by
    rw [authority]
    exact fun actor _ => onDeselected_outline actor
  cases serverCall with
  | selectFurniture pointer =>
      cases pointer with
      | none => exact follows furniture
      | some target =>
          have released := modifyOpt_outline world.pawn.selectedFurniture follows unlock
          simp only [execute, serverSelectFurnitureImplementation]
          split
          · split
            · exact released furniture
            · rename_i playerState _
              refine modifyOpt_outline (some target) released (fun actor _ => ?_) furniture
              rw [authority]
              exact onSelected_outline playerState.stencilSlot actor
          · exact follows furniture
  | deselectFurniture =>
      simp only [execute, serverDeselectFurnitureImplementation]
      split
      · exact follows furniture
      · rename_i held _
        exact modifyOpt_outline (some held) follows unlock furniture
  | dragFurniture newLocation =>
      have keeps : ∀ actor : FurnitureActor R, OutlineFollowsLock actor →
          OutlineFollowsLock (actor.setActorLocation newLocation) :=
        fun _ kept => ⟨kept.drawn, kept.value⟩
      exact modifyOpt_outline world.pawn.selectedFurniture follows keeps furniture
  | rotateFurniture newRotation =>
      have keeps : ∀ actor : FurnitureActor R, OutlineFollowsLock actor →
          OutlineFollowsLock (actor.setActorRotation newRotation) :=
        fun _ kept => ⟨kept.drawn, kept.value⟩
      exact modifyOpt_outline world.pawn.selectedFurniture follows keeps furniture
  | orbitTransform newLocation newRotation => exact follows furniture

/-- The furniture which the manipulator, if there is one, is attached to. -/
def attachment (world : LocalWorld F R) : Option (Option F) :=
  world.pawn.activeManipulator.map (·.attachedTo)

/-- The manipulator is attached to the selected furniture. -/
def ManipulatesSelection (world : LocalWorld F R) : Prop :=
  ∀ furniture, world.attachment = some furniture → furniture = world.pawn.selectedFurniture

/-- The machine and the player state stay what they are, and the manipulator stays on its furniture
or goes. -/
structure KeepsFrame (world after : LocalWorld F R) : Prop where
  hasAuthority : after.hasAuthority = world.hasAuthority
  playerState : after.playerState = world.playerState
  attachment : ∀ furniture, after.attachment = some furniture →
    world.attachment = some furniture

namespace KeepsFrame

omit [DecidableEq F] in
theorem of_attachment {world after : LocalWorld F R}
    (hasAuthority : after.hasAuthority = world.hasAuthority)
    (playerState : after.playerState = world.playerState)
    (attached : after.attachment = world.attachment) : KeepsFrame world after :=
  ⟨hasAuthority, playerState, fun _ isAttached => attached.symm.trans isAttached⟩

omit [DecidableEq F] in
theorem refl (world : LocalWorld F R) : KeepsFrame world world := of_attachment rfl rfl rfl

omit [DecidableEq F] in
theorem trans {first second third : LocalWorld F R} (left : KeepsFrame first second)
    (right : KeepsFrame second third) : KeepsFrame first third :=
  ⟨right.hasAuthority.trans left.hasAuthority, right.playerState.trans left.playerState,
    fun furniture attached => left.attachment furniture (right.attachment furniture attached)⟩

end KeepsFrame

theorem modifyOpt_frame (pointer : Option F) (method : FurnitureActor R → FurnitureActor R)
    (world : LocalWorld F R) : KeepsFrame world (world.modifyOpt pointer method) := by
  cases pointer <;> exact .of_attachment rfl rfl rfl

/-- Executing a call changes nothing but the pawn's place and selection and the furniture. -/
theorem execute_frame (serverCall : ServerCall F R) (world : LocalWorld F R) :
    KeepsFrame world (world.execute serverCall) ∧
      (world.execute serverCall).sent = world.sent := by
  cases serverCall with
  | selectFurniture furniture =>
      cases furniture with
      | none => exact ⟨.refl world, rfl⟩
      | some target =>
          have released := modifyOpt_frame world.pawn.selectedFurniture
            (·.onDeselected world.hasAuthority) world
          simp only [execute, serverSelectFurnitureImplementation]
          split
          · split
            · exact ⟨released, modifyOpt_sent _ _ world⟩
            · exact ⟨.of_attachment released.hasAuthority released.playerState rfl,
                modifyOpt_sent _ _ world⟩
          · exact ⟨.refl world, rfl⟩
  | deselectFurniture =>
      simp only [execute, serverDeselectFurnitureImplementation]
      split
      · exact ⟨.refl world, rfl⟩
      · exact ⟨.of_attachment rfl rfl rfl, rfl⟩
  | dragFurniture newLocation => exact ⟨modifyOpt_frame _ _ world, modifyOpt_sent _ _ world⟩
  | rotateFurniture newRotation => exact ⟨modifyOpt_frame _ _ world, modifyOpt_sent _ _ world⟩
  | orbitTransform newLocation newRotation => exact ⟨.of_attachment rfl rfl rfl, rfl⟩

/-- The calls in flight after a call. -/
def sentAfter (serverCall : ServerCall F R) (world : LocalWorld F R) : List (ServerCall F R) :=
  if world.hasAuthority then world.sent else world.sent ++ [serverCall]

theorem call_sent (serverCall : ServerCall F R) (world : LocalWorld F R) :
    (world.call serverCall).sent = world.sentAfter serverCall := by
  by_cases authority : world.hasAuthority = true
  · simp [call, sentAfter, authority, (execute_frame serverCall world).2]
  · simp [call, sentAfter, authority]

theorem call_frame (serverCall : ServerCall F R) (world : LocalWorld F R) :
    KeepsFrame world (world.call serverCall) := by
  rw [call]
  split
  · exact (execute_frame serverCall world).1
  · exact .of_attachment rfl rfl rfl

theorem KeepsFrame.call {world placed : LocalWorld F R} (frame : KeepsFrame world placed)
    (serverCall : ServerCall F R) : KeepsFrame world (placed.call serverCall) :=
  frame.trans (call_frame serverCall placed)

end LocalWorld

end Ioroom
