import Ioroom.Interleaving
import Ioroom.SelectionLock

/-!
# The order in which calls arrive

The server orders the joins and leaves among themselves, the reliable calls among themselves, and
whatever one player does.  Nothing else about the order of the events matters: drags, rotations and
orbits of different players overtake each other, and selections, without any effect on the outcome.
-/

namespace Ioroom

open FurnitureActor EventSystem

/-- What a call does to the place of the pawn. -/
def ServerCall.steer {F R : Type*} : ServerCall F R → DesktopPawn F R → DesktopPawn F R
  | .orbitTransform newLocation newRotation => fun pawn =>
      { pawn with location := newLocation, controlRotation := newRotation }
  | .selectFurniture _ => id
  | .deselectFurniture => id
  | .dragFurniture _ => id
  | .rotateFurniture _ => id

namespace LocalWorld

variable {F R : Type*} [DecidableEq F] [Field R]

theorem modify_comm {left right : F} (distinct : left ≠ right)
    (leftMethod rightMethod : FurnitureActor R → FurnitureActor R) (world : LocalWorld F R) :
    (world.modify left leftMethod).modify right rightMethod =
      (world.modify right rightMethod).modify left leftMethod := by
  simp only [modify, Function.update_of_ne distinct, Function.update_of_ne distinct.symm,
    Function.update_comm distinct]

theorem modifyOpt_modify {pointer : Option F} {furniture : F} (distinct : pointer ≠ some furniture)
    (method other : FurnitureActor R → FurnitureActor R) (world : LocalWorld F R) :
    (world.modify furniture method).modifyOpt pointer other =
      (world.modifyOpt pointer other).modify furniture method := by
  cases pointer with
  | none => rfl
  | some pointed => exact modify_comm (fun equal => distinct (by rw [equal])) method other world

theorem execute_transform {serverCall : ServerCall F R}
    (unreliable : serverCall.isReliable = false) (world : LocalWorld F R) :
    world.execute serverCall =
      { world.modifyOpt world.pawn.selectedFurniture serverCall.move with
        pawn := serverCall.steer world.pawn } := by
  cases serverCall with
  | selectFurniture furniture => simp [ServerCall.isReliable] at unreliable
  | deselectFurniture => simp [ServerCall.isReliable] at unreliable
  | dragFurniture newLocation =>
      simp only [execute, serverDragFurnitureImplementation, ServerCall.steer]
      cases world.pawn.selectedFurniture <;> rfl
  | rotateFurniture newRotation =>
      simp only [execute, serverRotateFurnitureImplementation, ServerCall.steer]
      cases world.pawn.selectedFurniture <;> rfl
  | orbitTransform newLocation newRotation =>
      simp only [execute, serverOrbitTransformImplementation, ServerCall.steer, ServerCall.move]
      cases world.pawn.selectedFurniture with
      | none => rfl
      | some furniture => simp [modify]

theorem execute_modify {world : LocalWorld F R} {furniture : F}
    (unselected : world.pawn.selectedFurniture ≠ some furniture)
    (locked : (world.furniture furniture).selectingStencilSlot ≠ 0)
    {method : FurnitureActor R → FurnitureActor R}
    (slot : ∀ actor, (method actor).selectingStencilSlot = actor.selectingStencilSlot)
    (serverCall : ServerCall F R) :
    (world.modify furniture method).execute serverCall =
      (world.execute serverCall).modify furniture method := by
  cases serverCall with
  | selectFurniture pointer =>
      cases pointer with
      | none => rfl
      | some target =>
          by_cases same : target = furniture
          · have stillLocked :
                ((world.modify furniture method).furniture target).selectingStencilSlot ≠ 0 := by
              rw [same, modify_furniture, Function.update_self, slot]
              exact locked
            rw [same] at stillLocked ⊢
            rw [execute, select_refused locked, select_refused stillLocked]
          · have untouched : (world.modify furniture method).furniture target =
                world.furniture target := by
              rw [modify_furniture, Function.update_of_ne same]
            simp only [execute, serverSelectFurnitureImplementation, untouched, modify_pawn,
              modify_hasAuthority, modify_playerState, modifyOpt_modify unselected]
            split
            · split
              · rfl
              · rw [modify_comm (Ne.symm same)]
                rfl
            · rfl
  | deselectFurniture =>
      cases holds : world.pawn.selectedFurniture with
      | none => simp only [execute, serverDeselectFurnitureImplementation, modify_pawn, holds]
      | some held =>
          have distinct : furniture ≠ held := fun equal => unselected (by rw [holds, equal])
          simp only [execute, serverDeselectFurnitureImplementation, modify_pawn, holds,
            modify_hasAuthority, modify_comm distinct]
          rfl
  | dragFurniture newLocation => exact modifyOpt_modify unselected _ _ _
  | rotateFurniture newRotation => exact modifyOpt_modify unselected _ _ _
  | orbitTransform newLocation newRotation => rfl

end LocalWorld

namespace ServerWorld

variable {P F R : Type*} [DecidableEq P] [DecidableEq F] [Field R]

/-- The player whose event it is. -/
def Event.player : Event P F R → P
  | .join player _ => player
  | .leave player => player
  | .call sender _ => sender

/-- What the server keeps in order: the sessions, the reliable calls, and each player's events. -/
inductive Ordered (P : Type*)
  | sessions
  | reliable
  | player (player : P)

def inOrder : Ordered P → Event P F R → Bool
  | .sessions, .join _ _ => true
  | .sessions, .leave _ => true
  | .sessions, .call _ _ => false
  | .reliable, .join _ _ => false
  | .reliable, .leave _ => false
  | .reliable, .call _ serverCall => serverCall.isReliable
  | .player player, event => decide (event.player = player)

variable {world : ServerWorld P F R} {playerColorMPC : String → FLinearColor R}

omit [DecidableEq F] in
theorem players_leave_of_ne {leaving other : P} (distinct : other ≠ leaving) :
    (world.leave leaving).players other = world.players other := by
  rw [leave]
  split
  · rfl
  · exact Function.update_of_ne distinct _ _

theorem players_execute_of_ne {sender other : P} (distinct : other ≠ sender)
    (serverCall : ServerCall F R) :
    (world.execute sender serverCall).players other = world.players other := by
  rw [execute, act]
  split
  · rfl
  · exact Function.update_of_ne distinct _ _

theorem players_next_of_ne {event : Event P F R} {other : P} (distinct : other ≠ event.player) :
    ((dedicatedServer playerColorMPC).next world event).players other = world.players other := by
  cases event with
  | join player location => exact Function.update_of_ne distinct _ _
  | leave player => exact players_leave_of_ne distinct
  | call sender serverCall => exact players_execute_of_ne distinct serverCall

theorem enabled_congr {after : ServerWorld P F R} {event : Event P F R}
    (same : after.players event.player = world.players event.player) :
    (dedicatedServer playerColorMPC).Enabled after event ↔
      (dedicatedServer playerColorMPC).Enabled world event := by
  cases event <;> simp_all [dedicatedServer, Event.player]

theorem execute_join {joining sender : P} (distinct : sender ≠ joining) (location : FVector R)
    (serverCall : ServerCall F R) :
    (world.join playerColorMPC joining location).execute sender serverCall =
      (world.execute sender serverCall).join playerColorMPC joining location := by
  have same : (world.join playerColorMPC joining location).players sender =
      world.players sender := Function.update_of_ne distinct _ _
  simp only [execute, act, same]
  split
  · rfl
  · simp only [put, join, localWorld, Function.update_comm distinct]

theorem execute_leave {leaving sender : P} (distinct : sender ≠ leaving)
    (serverCall : ServerCall F R) :
    (world.leave leaving).execute sender serverCall =
      (world.execute sender serverCall).leave leaving := by
  have kept : (world.execute sender serverCall).players leaving = world.players leaving :=
    players_execute_of_ne distinct.symm serverCall
  have same : (world.leave leaving).players sender = world.players sender :=
    players_leave_of_ne distinct
  cases left : world.players leaving with
  | none => simp only [leave, kept, left]
  | some player =>
      simp only [execute, act, same]
      cases live : world.players sender with
      | none => rfl
      | some calling =>
          simp only [leave, left, put, localWorld, Function.update_of_ne distinct.symm,
            Function.update_comm distinct]

theorem execute_absent {sender : P} (absent : world.players sender = none)
    (serverCall : ServerCall F R) : world.execute sender serverCall = world := by
  simp [execute, act, absent]

theorem localWorld_put (mover : P) (moving player : Player F R) (pointer : Option F)
    (method : FurnitureActor R → FurnitureActor R) (pawn : DesktopPawn F R) :
    (world.put mover moving
        { (world.localWorld moving).modifyOpt pointer method with pawn }).localWorld player =
      (world.localWorld player).modifyOpt pointer method := by
  cases pointer <;> rfl

omit [DecidableEq P] in
theorem execute_moved {custody : Custody P F} (locks : Locks world custody) {mover other : P}
    (distinct : mover ≠ other) {moving calling : Player F R}
    (moves : world.players mover = some moving) (calls : world.players other = some calling)
    (transform serverCall : ServerCall F R) :
    ((world.localWorld calling).modifyOpt (world.localWorld moving).pawn.selectedFurniture
        transform.move).execute serverCall =
      ((world.localWorld calling).execute serverCall).modifyOpt
        (world.localWorld moving).pawn.selectedFurniture transform.move := by
  have isSelected := selected_of_live moves
  cases holds : (world.localWorld moving).pawn.selectedFurniture with
  | none => rfl
  | some held =>
      have selected : world.selected mover = some held := isSelected.trans holds
      refine LocalWorld.execute_modify ?_ (locks.lock_ne_zero selected)
        (LocalWorld.transform_slot transform) serverCall
      intro otherHolds
      exact distinct (locks.exclusive selected ((selected_of_live calls).trans otherHolds))

/-- A transform call of one player and any call of another one can be exchanged. -/
theorem execute_execute {custody : Custody P F} (locks : Locks world custody) {mover other : P}
    (distinct : mover ≠ other) {transform : ServerCall F R}
    (unreliable : transform.isReliable = false) (serverCall : ServerCall F R) :
    (world.execute mover transform).execute other serverCall =
      (world.execute other serverCall).execute mover transform := by
  have sameOther : (world.execute mover transform).players other = world.players other :=
    players_execute_of_ne distinct.symm transform
  have sameMover : (world.execute other serverCall).players mover = world.players mover :=
    players_execute_of_ne distinct serverCall
  cases moves : world.players mover with
  | none => rw [execute_absent moves, execute_absent (sameMover.trans moves)]
  | some moving =>
      cases calls : world.players other with
      | none => rw [execute_absent calls, execute_absent (sameOther.trans calls)]
      | some calling =>
          have moved := execute_moved locks distinct moves calls transform serverCall
          rw [execute, act_eq (sameOther.trans calls), execute, act_eq moves, execute,
            act_eq (sameMover.trans moves), execute, act_eq calls]
          simp only [LocalWorld.execute_transform unreliable]
          rw [localWorld_put, moved]
          simp only [put, localWorld, LocalWorld.modifyOpt_pawn, Function.update_comm distinct]
          cases moving.pawn.selectedFurniture <;> rfl

omit [DecidableEq F] [Field R] in
theorem player_ne_of_independent {left right : Event P F R}
    (independent : Independent inOrder left right) : right.player ≠ left.player := by
  simpa [inOrder] using independent (.player left.player)

/-- Events of different players can be exchanged, unless both are sessions or both are reliable
calls. -/
theorem exchangeable (playerColorMPC : String → FLinearColor R) :
    Exchangeable (dedicatedServer playerColorMPC)
      (fun world : ServerWorld P F R => ∃ custody, Locks world custody) inOrder where
  seen event := ⟨.player event.player, by simp [inOrder]⟩
  keeps := by
    rintro world event ⟨custody, locks⟩ enabled
    cases event with
    | join player location => exact ⟨custody, locks.join playerColorMPC enabled location⟩
    | leave player => exact ⟨_, locks.leave player⟩
    | call sender serverCall =>
        obtain ⟨later, _, after⟩ := locks.execute sender serverCall
        exact ⟨later, after⟩
  enabled := by
    intro world left right _ independent _
    exact enabled_congr (players_next_of_ne (player_ne_of_independent independent))
  commutes := by
    rintro world left right ⟨custody, locks⟩ independent _ _
    have distinct := player_ne_of_independent independent
    cases left with
    | join leftPlayer location =>
        cases right with
        | join => simpa [inOrder] using independent .sessions
        | leave => simpa [inOrder] using independent .sessions
        | call sender serverCall => exact execute_join distinct location serverCall
    | leave leftPlayer =>
        cases right with
        | join => simpa [inOrder] using independent .sessions
        | leave => simpa [inOrder] using independent .sessions
        | call sender serverCall => exact execute_leave distinct serverCall
    | call leftSender leftCall =>
        cases right with
        | join player location => exact (execute_join distinct.symm location leftCall).symm
        | leave player => exact (execute_leave distinct.symm leftCall).symm
        | call rightSender rightCall =>
            cases reliable : leftCall.isReliable with
            | false => exact execute_execute locks distinct.symm reliable rightCall
            | true =>
                have unreliable : rightCall.isReliable = false := independent .reliable reliable
                exact (execute_execute locks distinct unreliable leftCall).symm

/-- Whatever order the events of different players arrive in, as long as the sessions, the reliable
calls and the events of each player keep theirs, the server ends in the same state. -/
theorem arrival_order_irrelevant {history : List (ServerWorld P F R × Event P F R)}
    (run : (dedicatedServer playerColorMPC).Run history world) {events others : List (Event P F R)}
    (legal : (dedicatedServer playerColorMPC).Legal world events)
    (same : SameStreams inOrder events others) :
    (dedicatedServer playerColorMPC).Legal world others ∧
      (dedicatedServer playerColorMPC).replay world others =
        (dedicatedServer playerColorMPC).replay world events := by
  obtain ⟨custody, _, locks⟩ := exists_locks run
  exact (exchangeable playerColorMPC).replay_eq ⟨custody, locks⟩ same legal

/-- Two players select a furniture each, and then the first one drags its own. -/
def dragLast : List (Event Nat Nat ℚ) :=
  [.join 0 0, .call 0 (.selectFurniture (some 5)), .join 1 0,
    .call 1 (.selectFurniture (some 7)), .call 0 (.dragFurniture ⟨1, 2, 3⟩)]

/-- The drag overtakes the other player's session and selection. -/
def dragEarly : List (Event Nat Nat ℚ) :=
  [.join 0 0, .call 0 (.selectFurniture (some 5)), .call 0 (.dragFurniture ⟨1, 2, 3⟩),
    .join 1 0, .call 1 (.selectFurniture (some 7))]

theorem arrival_order_irrelevant_drag :
    (dedicatedServer fun _ => .white).replay (vacant : ServerWorld Nat Nat ℚ) dragEarly =
      (dedicatedServer fun _ => .white).replay vacant dragLast := by
  have same : SameStreams inOrder dragLast dragEarly := by
    rintro (_ | _ | player)
    · rfl
    · rfl
    · rcases player with _ | _ | player <;> rfl
  have legal : (dedicatedServer fun _ => .white).Legal (vacant : ServerWorld Nat Nat ℚ) dragLast :=
    ⟨rfl, rfl, rfl, rfl, rfl, trivial⟩
  exact (arrival_order_irrelevant (run_vacant _) legal same).2

end ServerWorld

end Ioroom
