import Ioroom.Roster
import Ioroom.ServerCalls

/-!
# The server

The authority's copies of the furniture and of the pawns of all live players.  Every live pawn has
its player state.  A handler runs on the view which one pawn has of this world.
-/

namespace Ioroom

open FurnitureActor

/-- A live player: its player state and the server's copy of its pawn. -/
structure Player (F R : Type*) [One R] where
  playerState : IoroomPlayerState R
  pawn : DesktopPawn F R

/-- The state of the server. -/
structure ServerWorld (P F R : Type*) [One R] where
  gameState : IoroomGameState
  furniture : F → FurnitureActor R
  players : P → Option (Player F R)

namespace ServerWorld

variable {P F R : Type*} [DecidableEq P] [DecidableEq F] [Field R]

/-- The authority's world seen by the pawn of a player. -/
def localWorld (player : Player F R) (world : ServerWorld P F R) : LocalWorld F R where
  hasAuthority := true
  furniture := world.furniture
  pawn := player.pawn
  playerState := some player.playerState

/-- Write back what a handler of one pawn has done. -/
def put (sender : P) (player : Player F R) (after : LocalWorld F R)
    (world : ServerWorld P F R) : ServerWorld P F R :=
  { world with
    furniture := after.furniture
    players := Function.update world.players sender (some { player with pawn := after.pawn }) }

/-- Run a handler of the pawn of one player; a player without a live pawn runs nothing. -/
def act (sender : P) (handler : LocalWorld F R → LocalWorld F R) (world : ServerWorld P F R) :
    ServerWorld P F R :=
  match world.players sender with
  | none => world
  | some player => world.put sender player (handler (world.localWorld player))

/-- The server executes a call of one player. -/
def execute (sender : P) (serverCall : ServerCall F R) (world : ServerWorld P F R) :
    ServerWorld P F R :=
  world.act sender (LocalWorld.execute serverCall)

/-- A player joins: its player state begins play and its pawn is spawned. -/
def join (playerColorMPC : String → FLinearColor R) (player : P) (location : FVector R)
    (world : ServerWorld P F R) : ServerWorld P F R :=
  let initialized := IoroomPlayerState.initializePlayerColor playerColorMPC world.gameState {}
  { world with
    gameState := initialized.1
    players := Function.update world.players player
      (some { playerState := initialized.2, pawn := .spawn location }) }

/-- A player leaves: its player state ends play and its pawn is destroyed.  No furniture is
touched. -/
def leave (player : P) (world : ServerWorld P F R) : ServerWorld P F R :=
  match world.players player with
  | none => world
  | some leaving =>
      { world with
        gameState := leaving.playerState.endPlay world.gameState
        players := Function.update world.players player none }

/-- The furniture the pawn of a live player holds. -/
def selected (world : ServerWorld P F R) (player : P) : Option F :=
  (world.players player).bind (·.pawn.selectedFurniture)

/-- The stencil slot of a live player. -/
def slot (world : ServerWorld P F R) (player : P) : Option Int :=
  (world.players player).map (·.playerState.stencilSlot)

/-- The lock number of a furniture. -/
def lock (world : ServerWorld P F R) (furniture : F) : Int :=
  (world.furniture furniture).selectingStencilSlot

/-- The player states of the live players, with the slot pool. -/
def roster (world : ServerWorld P F R) : Roster P R where
  gameState := world.gameState
  playerStates player := (world.players player).map (·.playerState)

section Projections

variable {world : ServerWorld P F R} {sender : P} {player : Player F R}
  {after : LocalWorld F R}

omit [DecidableEq F] in
theorem act_eq (live : world.players sender = some player)
    (handler : LocalWorld F R → LocalWorld F R) :
    world.act sender handler = world.put sender player (handler (world.localWorld player)) := by
  simp [act, live]

omit [DecidableEq P] [DecidableEq F] in
theorem selected_of_live (live : world.players sender = some player) :
    world.selected sender = player.pawn.selectedFurniture := by
  simp [selected, live]

omit [DecidableEq P] [DecidableEq F] in
theorem slot_of_live (live : world.players sender = some player) :
    world.slot sender = some player.playerState.stencilSlot := by
  simp [slot, live]

omit [DecidableEq F] in
theorem selected_put (other : P) :
    (world.put sender player after).selected other =
      if other = sender then after.pawn.selectedFurniture else world.selected other := by
  by_cases same : other = sender
  · subst same
    simp [selected, put]
  · simp [selected, put, same]

omit [DecidableEq F] in
theorem selected_put_kept (live : world.players sender = some player)
    (kept : after.pawn.selectedFurniture = player.pawn.selectedFurniture) (other : P) :
    (world.put sender player after).selected other = world.selected other := by
  rw [selected_put]
  split
  · rename_i isSender
    rw [isSender, selected_of_live live]
    exact kept
  · rfl

omit [DecidableEq F] in
theorem slot_put (live : world.players sender = some player) (other : P) :
    (world.put sender player after).slot other = world.slot other := by
  by_cases same : other = sender
  · subst same
    simp [slot, put, live]
  · simp [slot, put, same]

omit [DecidableEq F] in
theorem roster_put (live : world.players sender = some player) :
    (world.put sender player after).roster = world.roster := by
  simp only [roster, put, Roster.mk.injEq, true_and]
  funext other
  by_cases same : other = sender
  · subst same
    simp [live]
  · simp [same]

omit [DecidableEq F] in
theorem selected_join (playerColorMPC : String → FLinearColor R) (joining other : P)
    (location : FVector R) :
    (world.join playerColorMPC joining location).selected other =
      if other = joining then none else world.selected other := by
  by_cases same : other = joining
  · subst same
    simp [selected, join, DesktopPawn.spawn]
  · simp [selected, join, same]

omit [DecidableEq F] in
theorem roster_join (playerColorMPC : String → FLinearColor R) (joining : P)
    (location : FVector R) :
    (world.join playerColorMPC joining location).roster =
      world.roster.beginPlay playerColorMPC joining := by
  simp only [roster, join, Roster.beginPlay, Roster.mk.injEq, true_and]
  funext other
  by_cases same : other = joining
  · subst same
    simp
  · simp [same]

omit [DecidableEq F] in
theorem selected_leave (leaving other : P) :
    (world.leave leaving).selected other =
      if other = leaving then none else world.selected other := by
  cases live : world.players leaving with
  | none =>
      by_cases same : other = leaving
      · simp [leave, live, selected, same]
      · simp [leave, live, same]
  | some player =>
      by_cases same : other = leaving
      · simp [leave, live, selected, same]
      · simp [leave, live, selected, same]

omit [DecidableEq F] in
theorem furniture_leave (leaving : P) :
    (world.leave leaving).furniture = world.furniture := by
  simp only [leave]
  split <;> rfl

omit [DecidableEq F] in
theorem roster_leave (leaving : P) :
    (world.leave leaving).roster = world.roster.endPlay leaving := by
  cases live : world.players leaving with
  | none => simp [leave, live, Roster.endPlay, roster]
  | some player =>
      simp only [leave, live, Roster.endPlay, roster, Option.map_some, Roster.mk.injEq, true_and]
      funext other
      by_cases same : other = leaving
      · simp [same]
      · simp [same]

omit [DecidableEq P] [DecidableEq F] in
theorem slot_roster (other : P) : world.roster.slot other = world.slot other := by
  simp [Roster.slot, roster, slot, Function.comp_def]

omit [DecidableEq F] in
theorem slot_join (playerColorMPC : String → FLinearColor R) (joining other : P)
    (location : FVector R) :
    (world.join playerColorMPC joining location).slot other =
      if other = joining then some world.gameState.reserveStencilSlot.1
      else world.slot other := by
  rw [← slot_roster, roster_join, Roster.slot_beginPlay, slot_roster]
  rfl

omit [DecidableEq F] in
theorem slot_leave (leaving other : P) :
    (world.leave leaving).slot other = if other = leaving then none else world.slot other := by
  rw [← slot_roster, roster_leave, Roster.slot_endPlay, slot_roster]

omit [DecidableEq P] [DecidableEq F] in
theorem slot_isSome (other : P) :
    (world.slot other).isSome = (world.players other).isSome := by
  simp [slot]

theorem slot_execute (serverCall : ServerCall F R) (other : P) :
    (world.execute sender serverCall).slot other = world.slot other := by
  cases live : world.players sender with
  | none => simp [execute, act, live]
  | some player => rw [execute, act_eq live, slot_put live]

theorem isSome_execute (serverCall : ServerCall F R) (other : P) :
    ((world.execute sender serverCall).players other).isSome = (world.players other).isSome := by
  rw [← slot_isSome, slot_execute, slot_isSome]

end Projections

end ServerWorld

end Ioroom
