import Ioroom.Server

/-!
# The selection lock of a dedicated server

The lock lives in two places: the slot number on the furniture and the pointer in each pawn.
Behind a server state stands the custody of its furniture; selecting takes, deselecting and leaving
drop, and every other event leaves the custody alone.
-/

namespace Ioroom

open FurnitureActor LocalWorld

namespace ServerWorld

variable {P F R : Type*} [DecidableEq P] [DecidableEq F] [Field R]

/-- The events of a dedicated server: players join and leave, and their calls are executed. -/
inductive Event (P F R : Type*)
  | join (player : P) (location : FVector R)
  | leave (player : P)
  | call (sender : P) (serverCall : ServerCall F R)

/-- A dedicated server: it starts without players and with every furniture unlocked. -/
def dedicatedServer (playerColorMPC : String → FLinearColor R) :
    EventSystem (ServerWorld P F R) (Event P F R) where
  Start world :=
    world.gameState = .create ∧ (∀ player, world.players player = none) ∧
      ∀ furniture, world.lock furniture = 0 ∧
        (world.furniture furniture).renderCustomDepth = false
  Enabled world
    | .join player _ => world.players player = none
    | .leave player => (world.players player).isSome = true
    | .call sender _ => (world.players sender).isSome = true
  next world
    | .join player location => world.join playerColorMPC player location
    | .leave player => world.leave player
    | .call sender serverCall => world.execute sender serverCall

/-- A server state and the custody of furniture it implements. -/
structure Locks (world : ServerWorld P F R) (custody : Custody P F) : Prop where
  held : ∀ player, custody.held player = world.selected player
  owned : ∀ player stencilSlot, world.slot player = some stencilSlot → stencilSlot ≠ 0
  locked : ∀ player furniture, world.selected player = some furniture →
    world.slot player = some (world.lock furniture)

variable {world : ServerWorld P F R} {custody : Custody P F}

namespace Locks

omit [DecidableEq P] [DecidableEq F] in
theorem exclusive (locks : Locks world custody) {left right : P} {furniture : F}
    (leftHolds : world.selected left = some furniture)
    (rightHolds : world.selected right = some furniture) : left = right := by
  rw [← locks.held] at leftHolds rightHolds
  exact custody.exclusive leftHolds rightHolds

omit [DecidableEq P] [DecidableEq F] in
theorem lock_ne_zero (locks : Locks world custody) {player : P} {furniture : F}
    (holds : world.selected player = some furniture) : world.lock furniture ≠ 0 :=
  locks.owned player _ (locks.locked player furniture holds)

omit [DecidableEq P] [DecidableEq F] in
theorem free (locks : Locks world custody) {furniture : F}
    (unlocked : world.lock furniture = 0) : custody.Free furniture := by
  intro player holds
  rw [locks.held] at holds
  exact locks.lock_ne_zero holds unlocked

theorem put (locks : Locks world custody) {sender : P} {player : Player F R}
    (live : world.players sender = some player) {after : LocalWorld F R}
    (outcome : LockOutcome (world.localWorld player) after) :
    ∃ later, Relation.ReflTransGen Custody.Step custody later ∧
      Locks (world.put sender player after) later := by
  have owned : ∀ other stencilSlot,
      (world.put sender player after).slot other = some stencilSlot → stencilSlot ≠ 0 := by
    intro other stencilSlot stored
    rw [slot_put live] at stored
    exact locks.owned other stencilSlot stored
  have selected_eq := selected_of_live live
  cases outcome with
  | kept selected slot =>
      have same := selected_put_kept live selected
      refine ⟨custody, .refl, ⟨fun other => ?_, owned, fun other furniture holds => ?_⟩⟩
      · rw [same, locks.held]
      · rw [same] at holds
        rw [slot_put live, locks.locked other furniture holds]
        exact congrArg some (slot furniture).symm
  | released held holds selected slot =>
      refine ⟨custody.drop sender, .single (.drop custody sender), ⟨?_, owned, ?_⟩⟩
      · intro other
        rw [Custody.held_drop, selected_put, selected, locks.held]
      · intro other furniture otherHolds
        rw [selected_put, selected] at otherHolds
        split at otherHolds
        · simp at otherHolds
        · rename_i notSender
          have distinct : furniture ≠ held := by
            rintro rfl
            exact notSender (locks.exclusive otherHolds (selected_eq.trans holds))
          rw [slot_put live, locks.locked other furniture otherHolds]
          exact congrArg some ((slot furniture).trans (if_neg distinct)).symm
  | switched target playerState owner free selected slot =>
      have own : playerState = player.playerState := (Option.some.inj owner).symm
      have unheld := locks.free free
      refine ⟨custody.take sender target unheld,
        .single (.take custody sender target unheld), ⟨?_, owned, ?_⟩⟩
      · intro other
        rw [Custody.held_take, selected_put, selected, locks.held]
      · intro other furniture otherHolds
        rw [selected_put, selected] at otherHolds
        rw [slot_put live]
        split at otherHolds
        · rename_i isSender
          have isTarget : furniture = target := (Option.some.inj otherHolds).symm
          rw [isSender, slot_of_live live, isTarget, ← own]
          exact congrArg some ((slot target).trans (if_pos rfl)).symm
        · rename_i notSender
          have notTarget : furniture ≠ target := by
            rintro rfl
            exact locks.lock_ne_zero otherHolds free
          have notHeld : player.pawn.selectedFurniture ≠ some furniture := by
            intro senderHolds
            exact notSender (locks.exclusive otherHolds (selected_eq.trans senderHolds))
          rw [locks.locked other furniture otherHolds]
          exact congrArg some
            ((slot furniture).trans ((if_neg notTarget).trans (if_neg notHeld))).symm

/-- Executing a call of a player is a step of the custody. -/
theorem execute (locks : Locks world custody) (sender : P) (serverCall : ServerCall F R) :
    ∃ later, Relation.ReflTransGen Custody.Step custody later ∧
      Locks (world.execute sender serverCall) later := by
  cases live : world.players sender with
  | none =>
      have same : world.execute sender serverCall = world := by
        simp [ServerWorld.execute, act, live]
      rw [same]
      exact ⟨custody, .refl, locks⟩
  | some player =>
      rw [ServerWorld.execute, act_eq live]
      exact locks.put live (execute_lock rfl rfl serverCall)

omit [DecidableEq F] in
theorem join (locks : Locks world custody) (playerColorMPC : String → FLinearColor R)
    {joining : P} (absent : world.players joining = none) (location : FVector R) :
    Locks (world.join playerColorMPC joining location) custody := by
  constructor
  · intro other
    rw [selected_join, locks.held]
    split
    · rename_i isJoining
      simp [selected, isJoining, absent]
    · rfl
  · intro other stencilSlot stored
    rw [slot_join] at stored
    split at stored
    · rw [← Option.some.inj stored]
      exact IoroomGameState.reserve_ne_zero _
    · exact locks.owned other stencilSlot stored
  · intro other furniture holds
    rw [selected_join] at holds
    rw [slot_join]
    split at holds
    · simp at holds
    · rename_i notJoining
      rw [if_neg notJoining]
      exact locks.locked other furniture holds

omit [DecidableEq F] in
/-- A leaving player drops its furniture from the custody; the lock number stays. -/
theorem leave (locks : Locks world custody) (leaving : P) :
    Locks (world.leave leaving) (custody.drop leaving) := by
  constructor
  · intro other
    rw [Custody.held_drop, selected_leave, locks.held]
  · intro other stencilSlot stored
    rw [slot_leave] at stored
    split at stored
    · simp at stored
    · exact locks.owned other stencilSlot stored
  · intro other furniture holds
    rw [selected_leave] at holds
    rw [slot_leave, lock, furniture_leave]
    split at holds
    · simp at holds
    · rename_i notLeaving
      rw [if_neg notLeaving]
      exact locks.locked other furniture holds

end Locks

omit [DecidableEq P] [DecidableEq F] in
theorem locks_start (empty : ∀ player, world.players player = none) :
    Locks world .vacant := by
  constructor
  · intro player
    simp [Custody.vacant, selected, empty]
  · intro player stencilSlot stored
    simp [slot, empty] at stored
  · intro player furniture holds
    simp [selected, empty] at holds

/-- Every run of the server follows a run of furniture custody. -/
theorem exists_locks {playerColorMPC : String → FLinearColor R}
    {history : List (ServerWorld P F R × Event P F R)}
    (run : (dedicatedServer playerColorMPC).Run history world) :
    ∃ custody, Relation.ReflTransGen Custody.Step .vacant custody ∧ Locks world custody := by
  refine run.simulates Locks Custody.Step .vacant ?_ ?_
  · rintro initial ⟨_, empty, _⟩
    exact locks_start empty
  · intro before event custody enabled locks
    cases event with
    | join player location => exact ⟨custody, .refl, locks.join playerColorMPC enabled location⟩
    | leave player => exact ⟨_, .single (.drop custody player), locks.leave player⟩
    | call sender serverCall => exact locks.execute sender serverCall

theorem selected_execute_of_ne {sender other : P} (distinct : other ≠ sender)
    (serverCall : ServerCall F R) :
    (world.execute sender serverCall).selected other = world.selected other := by
  cases live : world.players sender with
  | none => simp [execute, act, live]
  | some player => rw [execute, act_eq live, selected_put, if_neg distinct]

theorem furniture_execute_of_unheld {sender : P} {serverCall : ServerCall F R} {furniture : F}
    (before : world.selected sender ≠ some furniture)
    (after : (world.execute sender serverCall).selected sender ≠ some furniture) :
    (world.execute sender serverCall).furniture furniture = world.furniture furniture := by
  cases live : world.players sender with
  | none => simp [execute, act, live]
  | some player =>
      rw [execute, act_eq live] at after ⊢
      rw [selected_put, if_pos rfl] at after
      exact execute_untouched rfl serverCall
        (fun holds => before ((selected_of_live live).trans holds)) after

/-- A call leaves alone every furniture another pawn holds. -/
theorem Locks.furniture_execute_of_other (locks : Locks world custody) {sender other : P}
    (distinct : other ≠ sender) {furniture : F}
    (holds : world.selected other = some furniture) (serverCall : ServerCall F R) :
    (world.execute sender serverCall).furniture furniture = world.furniture furniture := by
  obtain ⟨_, _, locksAfter⟩ := locks.execute sender serverCall
  refine furniture_execute_of_unheld ?_ ?_
  · exact fun senderHolds => distinct (locks.exclusive holds senderHolds)
  · intro senderHolds
    rw [← selected_execute_of_ne distinct serverCall] at holds
    exact distinct (locksAfter.exclusive holds senderHolds)

/-- Mutual exclusion: no furniture has two holders, a held furniture carries its holder's slot,
and a call changes neither the lock nor the transform of a furniture which another pawn holds or
which its sender holds neither before nor after the call. -/
theorem selectionLock_exclusive (playerColorMPC : String → FLinearColor R)
    (reachable : (dedicatedServer playerColorMPC).Reachable world) :
    (∀ left right furniture, world.selected left = some furniture →
      world.selected right = some furniture → left = right) ∧
    (∀ player furniture, world.selected player = some furniture →
      world.slot player = some (world.lock furniture)) ∧
    (∀ (sender : P) (serverCall : ServerCall F R) (furniture : F),
      (∃ other, other ≠ sender ∧ world.selected other = some furniture) ∨
        (world.selected sender ≠ some furniture ∧
          (world.execute sender serverCall).selected sender ≠ some furniture) →
      (world.execute sender serverCall).lock furniture = world.lock furniture ∧
        ((world.execute sender serverCall).furniture furniture).location =
          (world.furniture furniture).location ∧
        ((world.execute sender serverCall).furniture furniture).rotation =
          (world.furniture furniture).rotation) := by
  obtain ⟨_, run⟩ := reachable
  obtain ⟨_, _, locks⟩ := exists_locks run
  refine ⟨fun _ _ _ => locks.exclusive, locks.locked, ?_⟩
  intro sender serverCall furniture unrelated
  have untouched : (world.execute sender serverCall).furniture furniture =
      world.furniture furniture := by
    rcases unrelated with ⟨other, distinct, holds⟩ | ⟨before, after⟩
    · exact locks.furniture_execute_of_other distinct holds serverCall
    · exact furniture_execute_of_unheld before after
  simp [lock, untouched]

/-- A server without players, every furniture unlocked at the origin. -/
def vacant : ServerWorld P F R where
  gameState := .create
  furniture _ := { location := 0, rotation := ⟨0, 0, 0⟩ }
  players _ := none

theorem run_vacant (playerColorMPC : String → FLinearColor R) :
    (dedicatedServer playerColorMPC).Run [] (vacant : ServerWorld P F R) :=
  .start ⟨rfl, fun _ => rfl, fun _ => ⟨rfl, rfl⟩⟩

/-- With two players, the one who holds nothing cannot release the other's furniture. -/
theorem selectionLock_exclusive_two_players :
    ∃ world : ServerWorld Nat Nat ℚ,
      world.selected 0 = some 5 ∧ world.slot 0 = some (world.lock 5) ∧
        (world.execute 1 .deselectFurniture).lock 5 = world.lock 5 := by
  have legal : (dedicatedServer fun _ => .white).Legal (vacant : ServerWorld Nat Nat ℚ)
      [.join 0 0, .join 1 0, .call 0 (.selectFurniture (some 5))] := ⟨rfl, rfl, rfl, trivial⟩
  obtain ⟨_, locked, frame⟩ := selectionLock_exclusive _ ⟨_, (run_vacant _).replay legal⟩
  exact ⟨_, rfl, locked 0 5 rfl, (frame 1 .deselectFurniture 5 (Or.inl ⟨0, by decide, rfl⟩)).1⟩

end ServerWorld

end Ioroom
