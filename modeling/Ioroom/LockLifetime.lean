import Ioroom.SelectionLock

/-!
# Lifetime of locks

A player who leaves gives back the stencil slot but not the furniture: the pawn is destroyed and
the lock number stays behind.  Locks are never orphaned along a run exactly when every player who
leaves has released its furniture first.
-/

namespace Ioroom

open FurnitureActor LocalWorld

namespace ServerWorld

variable {P F R : Type*} [DecidableEq P] [DecidableEq F] [Field R]

/-- No lock outlives its holder: a locked furniture has one live holder, whose slot it carries, an
unheld furniture is selectable, and nobody appears to hold a furniture it did not select. -/
structure NoOrphanedLocks (world : ServerWorld P F R) : Prop where
  held : ∀ furniture, world.lock furniture ≠ 0 →
    ∃! player, world.selected player = some furniture
  owner : ∀ furniture player, world.lock furniture ≠ 0 →
    world.selected player = some furniture → world.slot player = some (world.lock furniture)
  selectable : ∀ furniture, (∀ player, world.selected player ≠ some furniture) →
    (world.furniture furniture).isSelectableFurniture = true
  recycled : ∀ player furniture stencilSlot, 0 < stencilSlot →
    world.slot player = some stencilSlot → world.lock furniture = stencilSlot →
    world.selected player = some furniture

/-- A leaving player holds no furniture. -/
def ReleasedBeforeLeaving (world : ServerWorld P F R) (event : Event P F R) : Prop :=
  ∀ player, event = .leave player → world.selected player = none

/-- Every locked furniture has a live holder. -/
def Covered (world : ServerWorld P F R) : Prop :=
  ∀ furniture, world.lock furniture ≠ 0 → ∃ player, world.selected player = some furniture

/-- The invariant of runs in which players release before they leave. -/
structure Tidy (playerColorMPC : String → FLinearColor R) (world : ServerWorld P F R) : Prop where
  locks : ∃ custody, Locks world custody
  slots : ∃ custody, Roster.Represents playerColorMPC world.roster custody
  covered : Covered world

variable {world : ServerWorld P F R} {playerColorMPC : String → FLinearColor R}

theorem exists_slots_next
    (slots : ∃ custody, Roster.Represents playerColorMPC world.roster custody)
    {event : Event P F R} (enabled : (dedicatedServer playerColorMPC).Enabled world event) :
    ∃ custody, Roster.Represents playerColorMPC
      ((dedicatedServer playerColorMPC).next world event).roster custody := by
  obtain ⟨custody, represents⟩ := slots
  cases event with
  | join player location =>
      have absent : world.roster.playerStates player = none := by
        have gone : world.players player = none := enabled
        simp [roster, gone]
      have enabledRoster :
          (Roster.system playerColorMPC).Enabled world.roster (.beginPlay player) := absent
      obtain ⟨later, _, after⟩ := represents.step enabledRoster
      refine ⟨later, ?_⟩
      simp only [dedicatedServer, roster_join]
      exact after
  | leave player =>
      refine ⟨custody.drop player, ?_⟩
      simp only [dedicatedServer, roster_leave]
      exact Roster.represents_endPlay represents player
  | call sender serverCall =>
      refine ⟨custody, ?_⟩
      obtain ⟨player, live⟩ := Option.isSome_iff_exists.mp enabled
      simpa only [dedicatedServer, execute, act_eq live, roster_put live] using represents

/-- Whatever a pawn does to its lock, every locked furniture keeps a live holder. -/
theorem Covered.put (covered : Covered world) {sender : P} {player : Player F R}
    (live : world.players sender = some player) {after : LocalWorld F R}
    (outcome : LockOutcome (world.localWorld player) after) :
    Covered (world.put sender player after) := by
  intro furniture locked
  have selected_eq := selected_of_live live
  cases outcome with
  | kept selected slot =>
      have number : (world.put sender player after).lock furniture = world.lock furniture :=
        slot furniture
      rw [number] at locked
      obtain ⟨holder, holds⟩ := covered furniture locked
      exact ⟨holder, (selected_put_kept live selected holder).trans holds⟩
  | released held heldBySender selected slot =>
      have number : (world.put sender player after).lock furniture =
          if furniture = held then 0 else world.lock furniture := slot furniture
      have distinct : furniture ≠ held := by
        intro isHeld
        rw [number, if_pos isHeld] at locked
        exact locked rfl
      rw [number, if_neg distinct] at locked
      obtain ⟨holder, holds⟩ := covered furniture locked
      refine ⟨holder, ?_⟩
      rw [selected_put, if_neg, holds]
      rintro rfl
      rw [selected_eq] at holds
      exact distinct (Option.some.inj (holds.symm.trans heldBySender))
  | switched target playerState owner free selected slot =>
      have number : (world.put sender player after).lock furniture =
          if furniture = target then playerState.stencilSlot
          else if player.pawn.selectedFurniture = some furniture then 0
          else world.lock furniture := slot furniture
      by_cases isTarget : furniture = target
      · refine ⟨sender, ?_⟩
        rw [selected_put, if_pos rfl, selected, isTarget]
      · have notHeld : player.pawn.selectedFurniture ≠ some furniture := by
          intro heldBySender
          rw [number, if_neg isTarget, if_pos heldBySender] at locked
          exact locked rfl
        rw [number, if_neg isTarget, if_neg notHeld] at locked
        obtain ⟨holder, holds⟩ := covered furniture locked
        refine ⟨holder, ?_⟩
        rw [selected_put, if_neg, holds]
        rintro rfl
        exact notHeld (selected_eq.symm.trans holds)

omit [DecidableEq F] in
theorem Covered.join (covered : Covered world) (playerColorMPC : String → FLinearColor R)
    {joining : P} (absent : world.players joining = none) (location : FVector R) :
    Covered (world.join playerColorMPC joining location) := by
  intro furniture locked
  obtain ⟨holder, holds⟩ := covered furniture locked
  refine ⟨holder, ?_⟩
  rw [selected_join, if_neg, holds]
  rintro rfl
  simp [selected, absent] at holds

theorem Tidy.next (tidy : Tidy playerColorMPC world) {event : Event P F R}
    (enabled : (dedicatedServer playerColorMPC).Enabled world event)
    (released : ReleasedBeforeLeaving world event) :
    Tidy playerColorMPC ((dedicatedServer playerColorMPC).next world event) := by
  obtain ⟨custody, locks⟩ := tidy.locks
  have slots := exists_slots_next tidy.slots enabled
  cases event with
  | join player location =>
      exact ⟨⟨custody, locks.join playerColorMPC enabled location⟩, slots,
        tidy.covered.join playerColorMPC enabled location⟩
  | leave player =>
      refine ⟨⟨_, locks.leave player⟩, slots, ?_⟩
      intro furniture locked
      have lockedBefore : world.lock furniture ≠ 0 := by
        simpa only [dedicatedServer, lock, furniture_leave] using locked
      obtain ⟨holder, holds⟩ := tidy.covered furniture lockedBefore
      refine ⟨holder, ?_⟩
      simp only [dedicatedServer, selected_leave]
      rw [if_neg, holds]
      rintro rfl
      simp [released holder rfl] at holds
  | call sender serverCall =>
      obtain ⟨later, _, locksAfter⟩ := locks.execute sender serverCall
      refine ⟨⟨later, locksAfter⟩, slots, ?_⟩
      obtain ⟨player, live⟩ := Option.isSome_iff_exists.mp enabled
      simp only [dedicatedServer, execute, act_eq live]
      exact tidy.covered.put live (execute_lock rfl rfl serverCall)

omit [DecidableEq F] in
theorem Tidy.noOrphanedLocks (tidy : Tidy playerColorMPC world) : NoOrphanedLocks world := by
  obtain ⟨custody, locks⟩ := tidy.locks
  obtain ⟨slots, represents⟩ := tidy.slots
  constructor
  · intro furniture locked
    obtain ⟨holder, holds⟩ := tidy.covered furniture locked
    exact ⟨holder, holds, fun other otherHolds => locks.exclusive otherHolds holds⟩
  · exact fun furniture player _ holds => locks.locked player furniture holds
  · intro furniture unheld
    rw [isSelectableFurniture_iff]
    by_contra locked
    obtain ⟨holder, holds⟩ := tidy.covered furniture locked
    exact unheld holder holds
  · intro player furniture stencilSlot positive stored carries
    obtain ⟨holder, holds⟩ := tidy.covered furniture (by omega)
    have holderStored := locks.locked holder furniture holds
    rw [carries] at holderStored
    have same : holder = player :=
      represents.sound.distinct holder player stencilSlot positive
        (by rw [slot_roster, holderStored]) (by rw [slot_roster, stored])
    rwa [← same]

omit [DecidableEq F] in
/-- A player who leaves while holding a furniture leaves a lock without a holder. -/
theorem Tidy.orphaned (tidy : Tidy playerColorMPC world) {player : P} {furniture : F}
    (holds : world.selected player = some furniture) :
    ¬NoOrphanedLocks (world.leave player) := by
  intro noOrphans
  obtain ⟨custody, locks⟩ := tidy.locks
  have locked : (world.leave player).lock furniture ≠ 0 := by
    rw [lock, furniture_leave]
    exact locks.lock_ne_zero holds
  obtain ⟨holder, holderHolds, _⟩ := noOrphans.held furniture locked
  rw [selected_leave] at holderHolds
  split at holderHolds
  · simp at holderHolds
  · rename_i notPlayer
    exact notPlayer (locks.exclusive holderHolds holds)

/-- Locks are never orphaned along a run exactly when every player who left had released its
furniture before. -/
theorem noOrphanedLocks_iff_released {history : List (ServerWorld P F R × Event P F R)}
    (run : (dedicatedServer playerColorMPC).Run history world) :
    EventSystem.Along NoOrphanedLocks history world ↔
      EventSystem.Guarded ReleasedBeforeLeaving history := by
  refine run.along_iff_guarded ?_
    (fun _ (tidy : Tidy playerColorMPC _) => tidy.noOrphanedLocks)
    (fun _ _ tidy enabled released => tidy.next enabled released) ?_
  · rintro initial ⟨created, empty, unlocked⟩
    refine ⟨⟨.vacant, locks_start empty⟩, ⟨.vacant, ?_⟩, ?_⟩
    · exact Roster.represents_start created (by simp [roster, empty])
    · exact fun furniture locked => (locked (unlocked furniture).1).elim
  · intro before event tidy _ notReleased
    obtain ⟨player, isLeave, holds⟩ : ∃ player, event = .leave player ∧
        before.selected player ≠ none := by
      simpa [ReleasedBeforeLeaving] using notReleased
    obtain ⟨furniture, held⟩ := Option.ne_none_iff_exists.mp holds
    rw [isLeave]
    exact tidy.orphaned held.symm

/-- One player selects a furniture, deselects it and leaves: no lock is orphaned. -/
theorem noOrphanedLocks_iff_released_polite :
    ∃ (history : List (ServerWorld Nat Nat ℚ × Event Nat Nat ℚ)) (world : ServerWorld Nat Nat ℚ),
      history.length = 4 ∧ EventSystem.Along NoOrphanedLocks history world := by
  have legal : (dedicatedServer fun _ => .white).Legal (vacant : ServerWorld Nat Nat ℚ)
      [.join 0 0, .call 0 (.selectFurniture (some 5)), .call 0 .deselectFurniture, .leave 0] :=
    ⟨rfl, rfl, rfl, rfl, trivial⟩
  refine ⟨_, _, rfl, (noOrphanedLocks_iff_released ((run_vacant _).replay legal)).mpr ?_⟩
  simp only [EventSystem.record, EventSystem.guarded_cons, EventSystem.guarded_nil, and_true]
  refine ⟨?_, ?_, ?_, ?_⟩ <;> rintro player ⟨⟩
  rfl

/-- One player locks a furniture and leaves; the next player is given the recycled slot.  The
furniture stays locked, nobody holds it, and the new player appears to. -/
theorem orphaned_lock :
    ¬∀ world : ServerWorld Nat Nat ℚ,
      (dedicatedServer fun _ => .white).Reachable world → NoOrphanedLocks world := by
  intro claim
  have legal : (dedicatedServer fun _ => .white).Legal (vacant : ServerWorld Nat Nat ℚ)
      [.join 0 0, .call 0 (.selectFurniture (some 5)), .leave 0, .join 1 0] :=
    ⟨rfl, rfl, rfl, rfl, trivial⟩
  have noOrphans := claim _ ⟨_, (run_vacant _).replay legal⟩
  have appears := noOrphans.recycled 1 5 1 (by decide) rfl rfl
  exact absurd appears (by decide)

end ServerWorld

end Ioroom
