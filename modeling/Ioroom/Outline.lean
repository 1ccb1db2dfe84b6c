import Ioroom.LockLifetime

/-!
# Locks and outlines

`IsSelectableFurniture` compares the lock number with zero, the outline asks whether it is
positive.  The two agree along a run exactly when no player without a positive slot has a selection
of an unlocked furniture executed: the slot `-1` of an exhausted pool locks without an outline.
-/

namespace Ioroom

open FurnitureActor LocalWorld

namespace ServerWorld

variable {P F R : Type*} [DecidableEq P] [DecidableEq F] [Field R]

/-- A dedicated server which nobody leaves. -/
def lastingServer (playerColorMPC : String → FLinearColor R) :
    EventSystem (ServerWorld P F R) (Event P F R) :=
  { dedicatedServer playerColorMPC with
    Enabled := fun world event =>
      (dedicatedServer playerColorMPC).Enabled world event ∧ ∀ player, event ≠ .leave player }

/-- A furniture is refused exactly when it is outlined, and an outline shows the positive slot of
the live player whose pawn selected it. -/
structure LockedIsOutlined (world : ServerWorld P F R) : Prop where
  refused_iff : ∀ furniture, (world.furniture furniture).isSelectableFurniture = false ↔
    (world.furniture furniture).renderCustomDepth = true
  holder : ∀ furniture, (world.furniture furniture).renderCustomDepth = true →
    0 < (world.furniture furniture).customDepthStencilValue ∧
      ∃ player, world.selected player = some furniture ∧
        world.slot player = some (world.furniture furniture).customDepthStencilValue

/-- Only a player with a positive slot has a selection of an unlocked furniture executed. -/
def SelectsWithSlot (world : ServerWorld P F R) (event : Event P F R) : Prop :=
  ∀ sender target, event = .call sender (.selectFurniture (some target)) →
    world.lock target = 0 → ∃ stencilSlot, world.slot sender = some stencilSlot ∧ 0 < stencilSlot

/-- The invariant of runs in which only players with positive slots select. -/
structure Outlined (world : ServerWorld P F R) : Prop where
  locks : ∃ custody, Locks world custody
  covered : Covered world
  follows : ∀ furniture, OutlineFollowsLock (world.furniture furniture)
  nonneg : ∀ furniture, 0 ≤ world.lock furniture

variable {world : ServerWorld P F R} {playerColorMPC : String → FLinearColor R}

omit [DecidableEq P] [DecidableEq F] in
theorem Outlined.start
    (empty : ∀ player, world.players player = none)
    (unlocked : ∀ furniture, world.lock furniture = 0 ∧
      (world.furniture furniture).renderCustomDepth = false) : Outlined world := by
  refine ⟨⟨.vacant, locks_start empty⟩, ?_, ?_, ?_⟩
  · exact fun furniture locked => (locked (unlocked furniture).1).elim
  · intro furniture
    obtain ⟨zero, undrawn⟩ := unlocked furniture
    have number : (world.furniture furniture).selectingStencilSlot = 0 := zero
    constructor
    · simp [number, undrawn]
    · intro positive
      omega
  · intro furniture
    rw [(unlocked furniture).1]

omit [DecidableEq F] in
theorem Outlined.join (outlined : Outlined world) {joining : P}
    (absent : world.players joining = none) (location : FVector R) :
    Outlined (world.join playerColorMPC joining location) := by
  obtain ⟨custody, locks⟩ := outlined.locks
  refine ⟨⟨custody, locks.join playerColorMPC absent location⟩, ?_, outlined.follows,
    outlined.nonneg⟩
  exact outlined.covered.join playerColorMPC absent location

omit [DecidableEq P] in
/-- A call of a live player keeps the lock numbers nonnegative, unless it locks a furniture with a
negative slot. -/
theorem Outlined.nonneg_put (outlined : Outlined world) {sender : P} {player : Player F R}
    (live : world.players sender = some player) {serverCall : ServerCall F R}
    (allowed : SelectsWithSlot world (.call sender serverCall)) (furniture : F) :
    0 ≤ (((world.localWorld player).execute serverCall).furniture
      furniture).selectingStencilSlot := by
  obtain ⟨custody, locks⟩ := outlined.locks
  have before : 0 ≤ ((world.localWorld player).furniture furniture).selectingStencilSlot :=
    outlined.nonneg furniture
  have authority : (world.localWorld player).hasAuthority = true := rfl
  cases execute_lock authority rfl serverCall with
  | kept selected slot =>
      rw [slot]
      exact before
  | released held holds selected slot =>
      rw [slot]
      split
      · exact le_refl 0
      · exact before
  | switched target playerState owner free selected slot =>
      have unheld : player.pawn.selectedFurniture ≠ some target := by
        intro holds
        exact locks.lock_ne_zero ((selected_of_live live).trans holds) free
      have isSelect := execute_acquires unheld selected
      obtain ⟨stencilSlot, stored, positive⟩ :=
        allowed sender target (congrArg _ isSelect) free
      have own : playerState = player.playerState := (Option.some.inj owner).symm
      rw [slot_of_live live, Option.some.injEq, ← own] at stored
      rw [slot]
      split
      · omega
      · split
        · exact le_refl 0
        · exact before

theorem Outlined.next (outlined : Outlined world) {event : Event P F R}
    (enabled : (lastingServer playerColorMPC).Enabled world event)
    (allowed : SelectsWithSlot world event) :
    Outlined ((lastingServer playerColorMPC).next world event) := by
  cases event with
  | join player location => exact outlined.join enabled.1 location
  | leave player => exact absurd rfl (enabled.2 player)
  | call sender serverCall =>
      obtain ⟨player, live⟩ := Option.isSome_iff_exists.mp enabled.1
      obtain ⟨custody, locks⟩ := outlined.locks
      obtain ⟨later, _, locksAfter⟩ := locks.execute sender serverCall
      refine ⟨⟨later, locksAfter⟩, ?_, ?_, ?_⟩
      · simp only [lastingServer, dedicatedServer, execute, act_eq live]
        exact outlined.covered.put live (execute_lock rfl rfl serverCall)
      · simp only [lastingServer, dedicatedServer, execute, act_eq live]
        have authority : (world.localWorld player).hasAuthority = true := rfl
        exact execute_outline authority outlined.follows serverCall
      · simp only [lastingServer, dedicatedServer, execute, act_eq live]
        exact outlined.nonneg_put live allowed

omit [DecidableEq P] [DecidableEq F] in
theorem Outlined.lockedIsOutlined (outlined : Outlined world) : LockedIsOutlined world := by
  obtain ⟨custody, locks⟩ := outlined.locks
  constructor
  · intro furniture
    have nonneg := outlined.nonneg furniture
    rw [(outlined.follows furniture).drawn, ← Bool.not_eq_true, isSelectableFurniture_iff]
    rw [lock] at nonneg
    omega
  · intro furniture drawn
    have positive := (outlined.follows furniture).drawn.mp drawn
    have value := (outlined.follows furniture).value positive
    obtain ⟨player, holds⟩ := outlined.covered furniture (ne_of_gt positive)
    rw [value]
    exact ⟨positive, player, holds, locks.locked player furniture holds⟩

/-- A player without a positive slot who locks a furniture leaves it refused and not outlined. -/
theorem Outlined.undrawn (outlined : Outlined world) {sender : P} {player : Player F R}
    {target : F} (live : world.players sender = some player) (free : world.lock target = 0)
    (slotless : ¬0 < player.playerState.stencilSlot) :
    ¬LockedIsOutlined (world.execute sender (.selectFurniture (some target))) := by
  intro agrees
  obtain ⟨custody, locks⟩ := outlined.locks
  have authority : (world.localWorld player).hasAuthority = true := rfl
  have number : ((world.execute sender (.selectFurniture (some target))).furniture
      target).selectingStencilSlot = player.playerState.stencilSlot := by
    rw [execute, act_eq live]
    exact (select_accepted_slot authority rfl free target).trans (if_pos rfl)
  have follows : OutlineFollowsLock
      ((world.execute sender (.selectFurniture (some target))).furniture target) := by
    rw [execute, act_eq live]
    exact execute_outline authority outlined.follows (.selectFurniture (some target)) target
  have refused : ((world.execute sender (.selectFurniture (some target))).furniture
      target).isSelectableFurniture = false := by
    rw [← Bool.not_eq_true, isSelectableFurniture_iff, number]
    exact locks.owned sender _ (slot_of_live live)
  have drawn := (agrees.refused_iff target).mp refused
  rw [follows.drawn, number] at drawn
  exact slotless drawn

/-- Locked and outlined agree in every state of a run exactly when only players with positive slots
had selections of unlocked furniture executed. -/
theorem lockedIsOutlined_iff_selectsWithSlot
    {history : List (ServerWorld P F R × Event P F R)}
    (run : (lastingServer playerColorMPC).Run history world) :
    EventSystem.Along LockedIsOutlined history world ↔
      EventSystem.Guarded SelectsWithSlot history := by
  refine run.along_iff_guarded ?_
    (fun _ (outlined : Outlined _) => outlined.lockedIsOutlined)
    (fun _ _ outlined enabled allowed => outlined.next enabled allowed) ?_
  · rintro initial ⟨_, empty, unlocked⟩
    exact Outlined.start empty unlocked
  · intro before event outlined enabled forbidden
    simp only [SelectsWithSlot, not_forall] at forbidden
    obtain ⟨sender, target, rfl, free, slotless⟩ := forbidden
    obtain ⟨player, live⟩ := Option.isSome_iff_exists.mp enabled.1
    refine outlined.undrawn live free fun positive => slotless ?_
    exact ⟨_, slot_of_live live, positive⟩

theorem lastingServer_join {joining : P} (vacated : world.players joining = none)
    {location : FVector R} :
    (lastingServer playerColorMPC).Enabled world (.join joining location) :=
  ⟨vacated, fun _ => by simp⟩

theorem lastingServer_call {sender : P} (live : (world.players sender).isSome = true)
    {serverCall : ServerCall F R} :
    (lastingServer playerColorMPC).Enabled world (.call sender serverCall) :=
  ⟨live, fun _ => by simp⟩

theorem run_vacant_lasting (playerColorMPC : String → FLinearColor R) :
    (lastingServer playerColorMPC).Run [] (vacant : ServerWorld P F R) :=
  .start ⟨rfl, fun _ => rfl, fun _ => ⟨rfl, rfl⟩⟩

/-- One player selects a furniture and deselects it. -/
theorem lockedIsOutlined_iff_selectsWithSlot_first :
    ∃ (history : List (ServerWorld Nat Nat ℚ × Event Nat Nat ℚ)) (world : ServerWorld Nat Nat ℚ),
      history.length = 3 ∧ EventSystem.Along LockedIsOutlined history world := by
  have legal : (lastingServer fun _ => .white).Legal (vacant : ServerWorld Nat Nat ℚ)
      [.join 0 0, .call 0 (.selectFurniture (some 5)), .call 0 .deselectFurniture] :=
    ⟨lastingServer_join rfl, lastingServer_call rfl, lastingServer_call rfl, trivial⟩
  refine ⟨_, _, rfl,
    (lockedIsOutlined_iff_selectsWithSlot ((run_vacant_lasting _).replay legal)).mpr ?_⟩
  have first : ∀ world : ServerWorld Nat Nat ℚ, world.slot 0 = some 1 →
      SelectsWithSlot world (.call 0 (.selectFurniture (some 5))) := by
    intro world slotted sender target selects _
    obtain ⟨rfl, _⟩ := Event.call.inj selects
    exact ⟨1, slotted, by decide⟩
  simp only [EventSystem.record, EventSystem.guarded_cons, EventSystem.guarded_nil, and_true]
  refine ⟨?_, first _ rfl, ?_⟩ <;> simp [SelectsWithSlot]

/-- The eleventh player is given the slot `-1`; the furniture it selects is locked and not
outlined. -/
theorem locked_without_outline :
    ¬∀ world : ServerWorld Nat Nat ℚ,
      (lastingServer fun _ => .white).Reachable world → LockedIsOutlined world := by
  intro claim
  have legal : (lastingServer fun _ => .white).Legal (vacant : ServerWorld Nat Nat ℚ)
      [.join 0 0, .join 1 0, .join 2 0, .join 3 0, .join 4 0, .join 5 0, .join 6 0, .join 7 0,
        .join 8 0, .join 9 0, .join 10 0, .call 10 (.selectFurniture (some 5))] :=
    ⟨lastingServer_join rfl, lastingServer_join rfl, lastingServer_join rfl,
      lastingServer_join rfl, lastingServer_join rfl, lastingServer_join rfl,
      lastingServer_join rfl, lastingServer_join rfl, lastingServer_join rfl,
      lastingServer_join rfl, lastingServer_join rfl, lastingServer_call rfl, trivial⟩
  have agrees := claim _ ⟨_, (run_vacant_lasting _).replay legal⟩
  have drawn := (agrees.refused_iff 5).mp rfl
  exact absurd drawn (by decide)

end ServerWorld

end Ioroom
