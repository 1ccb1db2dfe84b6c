import Ioroom.LockHistory
import Ioroom.TransformLink

/-!
# What the history says about the places

The table of tenures also tells whose drags and rotations count: a furniture is where its first
place and the transform calls of its holders lead, and no call of anybody else ever moves it.
-/

/-- The state in which a run began. -/
def EventSystem.origin {State Event : Type*} : List (State × Event) → State → State
  | [], state => state
  | (before, _) :: earlier, _ => EventSystem.origin earlier before

namespace Ioroom

open FurnitureActor EventSystem

theorem ServerCall.transform_of_reliable {F R : Type*} {serverCall : ServerCall F R}
    (reliable : serverCall.isReliable = true) (movement : RepMovement R) :
    serverCall.transform movement = movement := by
  cases serverCall <;> simp_all [ServerCall.isReliable, ServerCall.transform]

namespace LocalWorld

variable {F R : Type*} [DecidableEq F] [Field R]

theorem execute_movement (serverCall : ServerCall F R) (world : LocalWorld F R) (furniture : F) :
    ((world.execute serverCall).furniture furniture).replicatedMovement =
      if world.pawn.selectedFurniture = some furniture then
        serverCall.transform (world.furniture furniture).replicatedMovement
      else (world.furniture furniture).replicatedMovement := by
  cases reliable : serverCall.isReliable with
  | false =>
      rw [(execute_unreliable reliable).2]
      by_cases own : world.pawn.selectedFurniture = some furniture
      · rw [if_pos own, own, modifyOpt_self, ServerCall.replicatedMovement_move]
      · rw [if_neg own, modifyOpt_of_ne own]
  | true =>
      rw [(execute_reliable reliable world).2 furniture,
        ServerCall.transform_of_reliable reliable, ite_self]

end LocalWorld

namespace ServerWorld

variable {P F R : Type*} [DecidableEq P] [DecidableEq F] [Field R]

/-- Where the transform calls of its holders lead a furniture, the newest event first. -/
def placing (furniture : F) (initial : RepMovement R) : List (Event P F R) → RepMovement R
  | [] => initial
  | .join _ _ :: earlier => placing furniture initial earlier
  | .leave _ :: earlier => placing furniture initial earlier
  | .call sender serverCall :: earlier =>
      if (TenureTable.account (earlier.map tenureAction)).tenure furniture = .held sender then
        serverCall.transform (placing furniture initial earlier)
      else placing furniture initial earlier

variable {world : ServerWorld P F R} {playerColorMPC : String → FLinearColor R}
  {history : List (ServerWorld P F R × Event P F R)}

/-- Every furniture is where its holders have put it. -/
theorem places_by_holders (run : (dedicatedServer playerColorMPC).Run history world)
    (furniture : F) :
    (world.furniture furniture).replicatedMovement =
      placing furniture ((origin history world).furniture furniture).replicatedMovement
        (history.map Prod.snd) := by
  induction run with
  | start => rfl
  | @step history before event earlier enabled induction =>
      have keeps := keeps_of_run earlier
      rw [List.map_cons, origin]
      cases event with
      | join player location => exact induction
      | leave player =>
          change ((before.leave player).furniture furniture).replicatedMovement = _
          rw [furniture_leave]
          exact induction
      | call sender serverCall =>
          obtain ⟨player, live⟩ := Option.isSome_iff_exists.mp enabled
          have holds : (before.localWorld player).pawn.selectedFurniture = some furniture ↔
              (tenures history).tenure furniture = .held sender := by
            rw [← keeps.selected, selected_of_live live]
            rfl
          have moved := LocalWorld.execute_movement serverCall (before.localWorld player) furniture
          rw [if_congr holds rfl rfl] at moved
          change ((before.execute sender serverCall).furniture furniture).replicatedMovement = _
          rw [execute, act_eq live, placing, List.map_map, ← induction]
          exact moved

/-- A bystander drags before, and the holder drags again after having released the furniture. -/
def dragsAround : List (Event Nat Nat ℚ) :=
  [.join 0 0, .join 1 0, .call 0 (.selectFurniture (some 5)), .call 1 (.dragFurniture ⟨9, 9, 9⟩),
    .call 0 (.dragFurniture ⟨1, 2, 3⟩), .call 0 .deselectFurniture,
    .call 0 (.dragFurniture ⟨4, 5, 6⟩)]

theorem places_by_holders_around :
    (((dedicatedServer fun _ => .white).replay (vacant : ServerWorld Nat Nat ℚ)
      dragsAround).furniture 5).replicatedMovement = ⟨⟨1, 2, 3⟩, ⟨0, 0, 0⟩⟩ := by
  have legal : (dedicatedServer fun _ => .white).Legal (vacant : ServerWorld Nat Nat ℚ)
      dragsAround := ⟨rfl, rfl, rfl, rfl, rfl, rfl, rfl, trivial⟩
  rw [places_by_holders ((run_vacant _).replay legal) 5]
  decide +kernel

end ServerWorld

end Ioroom
