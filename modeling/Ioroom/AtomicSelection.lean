import Ioroom.ServerCalls

/-!
# Switching the selection

`Server_SelectFurniture` releases the old lock, looks the player state up and takes the new lock,
in this order.  Here a pawn may be without a player state, and the switch is either whole or it is
not made, unless the look-up fails after the release.
-/

namespace Ioroom

open FurnitureActor LocalWorld

/-- Two copies of a furniture differ at most in the lock and in the outline it drives. -/
structure FurnitureActor.DiffersInLock {R : Type*} (left right : FurnitureActor R) : Prop where
  location : left.location = right.location
  rotation : left.rotation = right.rotation
  overlayMaterial : left.overlayMaterial = right.overlayMaterial

namespace FurnitureActor.DiffersInLock

variable {R : Type*}

theorem refl (actor : FurnitureActor R) : DiffersInLock actor actor := ⟨rfl, rfl, rfl⟩

theorem trans {first second third : FurnitureActor R} (left : DiffersInLock first second)
    (right : DiffersInLock second third) : DiffersInLock first third :=
  ⟨left.location.trans right.location, left.rotation.trans right.rotation,
    left.overlayMaterial.trans right.overlayMaterial⟩

theorem onSelected (stencilSlot : Int) (actor : FurnitureActor R) :
    DiffersInLock (actor.onSelected true stencilSlot) actor := ⟨rfl, rfl, rfl⟩

theorem onDeselected (actor : FurnitureActor R) :
    DiffersInLock (actor.onDeselected true) actor := ⟨rfl, rfl, rfl⟩

end FurnitureActor.DiffersInLock

theorem LocalWorld.modifyOpt_differsInLock {F R : Type*} [DecidableEq F] [Field R]
    {method : FurnitureActor R → FurnitureActor R}
    (differs : ∀ actor, DiffersInLock (method actor) actor) (pointer : Option F)
    (world : LocalWorld F R) (furniture : F) :
    DiffersInLock ((world.modifyOpt pointer method).furniture furniture)
      (world.furniture furniture) := by
  by_cases own : pointer = some furniture
  · rw [own, modifyOpt_self]
    exact differs _
  · rw [modifyOpt_of_ne own]
    exact .refl _

/-- The server's furniture and pawns; a pawn may be without a player state. -/
structure PawnServer (P F R : Type*) [One R] where
  furniture : F → FurnitureActor R
  pawns : P → DesktopPawn F R
  playerStates : P → Option (IoroomPlayerState R)

namespace PawnServer

section Selections

variable {P F R : Type*} [One R]

def lock (server : PawnServer P F R) (furniture : F) : Int :=
  (server.furniture furniture).selectingStencilSlot

def selected (server : PawnServer P F R) (pawn : P) : Option F :=
  (server.pawns pawn).selectedFurniture

/-- The authority's world seen by one pawn. -/
def localWorld (server : PawnServer P F R) (pawn : P) : LocalWorld F R where
  hasAuthority := true
  furniture := server.furniture
  pawn := server.pawns pawn
  playerState := server.playerStates pawn

/-- A selected furniture is locked, and no two pawns have selected the same one. -/
structure LockInvariant (server : PawnServer P F R) : Prop where
  locked : ∀ pawn furniture, server.selected pawn = some furniture → server.lock furniture ≠ 0
  exclusive : ∀ left right furniture, server.selected left = some furniture →
    server.selected right = some furniture → left = right

/-- Every lock and every selection is what it was. -/
structure Untouched (server after : PawnServer P F R) : Prop where
  lock : ∀ furniture, after.lock furniture = server.lock furniture
  selected : ∀ pawn, after.selected pawn = server.selected pawn

/-- The caller has switched to another furniture, and nothing else has happened. -/
structure Switched (server after : PawnServer P F R) (caller : P) (target : F) : Prop where
  locked : ∃ playerState, server.playerStates caller = some playerState ∧
    after.lock target = playerState.stencilSlot
  released : ∀ previous, server.selected caller = some previous → after.lock previous = 0
  pawn : after.pawns caller = { server.pawns caller with selectedFurniture := some target }
  others : ∀ pawn, pawn ≠ caller → after.pawns pawn = server.pawns pawn
  playerStates : after.playerStates = server.playerStates
  unrelated : ∀ furniture, furniture ≠ target → server.selected caller ≠ some furniture →
    after.furniture furniture = server.furniture furniture
  placed : ∀ furniture, DiffersInLock (after.furniture furniture) (server.furniture furniture)

end Selections

variable {P F R : Type*} [DecidableEq P] [DecidableEq F] [Field R]

/-- The server executes `Server_SelectFurniture` of one pawn. -/
def selectFurniture (caller : P) (furniture : Option F) (server : PawnServer P F R) :
    PawnServer P F R :=
  let after := (server.localWorld caller).serverSelectFurnitureImplementation furniture
  { server with
    furniture := after.furniture
    pawns := Function.update server.pawns caller after.pawn }

variable {server : PawnServer P F R} {caller : P} {target : F}

theorem selectFurniture_eq_self {furniture : Option F}
    (same : (server.localWorld caller).serverSelectFurnitureImplementation furniture =
      server.localWorld caller) : server.selectFurniture caller furniture = server := by
  have pawns : Function.update server.pawns caller (server.localWorld caller).pawn =
      server.pawns := Function.update_eq_self caller server.pawns
  simp only [selectFurniture, same, pawns]
  rfl

theorem selectFurniture_locked (locked : server.lock target ≠ 0) :
    server.selectFurniture caller (some target) = server :=
  selectFurniture_eq_self (select_refused locked)

omit [DecidableEq P] in
theorem select_stateless (stateless : server.playerStates caller = none)
    (free : server.lock target = 0) :
    (server.localWorld caller).serverSelectFurnitureImplementation (some target) =
      (server.localWorld caller).modifyOpt (server.selected caller) (·.onDeselected true) := by
  have selectable := isSelectableFurniture_iff.mpr free
  simp only [serverSelectFurnitureImplementation, localWorld, selectable, stateless]
  rfl

/-- An accepted call of a pawn with a player state makes the whole switch. -/
theorem selectFurniture_switched {playerState : IoroomPlayerState R}
    (owner : server.playerStates caller = some playerState) (free : server.lock target = 0)
    (previousLocked : ∀ previous, server.selected caller = some previous →
      server.lock previous ≠ 0) :
    Switched server (server.selectFurniture caller (some target)) caller target := by
  have accepted := @select_accepted F R _ _ target (server.localWorld caller) playerState owner free
  have slot := @select_accepted_slot F R _ _ target (server.localWorld caller) playerState rfl
    owner free
  constructor
  · exact ⟨playerState, owner, (slot target).trans (if_pos rfl)⟩
  · intro previous holds
    have distinct : previous ≠ target := by
      rintro rfl
      exact previousLocked previous holds free
    exact (slot previous).trans ((if_neg distinct).trans (if_pos holds))
  · simp only [selectFurniture, accepted, Function.update_self]
    rfl
  · intro pawn distinct
    simp [selectFurniture, distinct]
  · rfl
  · intro furniture distinct unheld
    simp only [selectFurniture, accepted, modify_furniture, Function.update_of_ne distinct]
    exact modifyOpt_of_ne unheld _ _
  · intro furniture
    simp only [selectFurniture, accepted]
    exact (modifyOpt_differsInLock (.onSelected playerState.stencilSlot) (some target) _ _).trans
      (modifyOpt_differsInLock .onDeselected _ _ _)

omit [DecidableEq P] [DecidableEq F] in
theorem Switched.selected_caller {after : PawnServer P F R}
    (switched : Switched server after caller target) : after.selected caller = some target := by
  rw [selected, switched.pawn]

omit [DecidableEq P] [DecidableEq F] in
theorem Switched.selected_other {after : PawnServer P F R}
    (switched : Switched server after caller target) {pawn : P} (other : pawn ≠ caller) :
    after.selected pawn = server.selected pawn := by
  rw [selected, switched.others pawn other, selected]

omit [DecidableEq P] [DecidableEq F] in
theorem LockInvariant.ne_target (invariant : server.LockInvariant) (free : server.lock target = 0)
    {pawn : P} {furniture : F} (holds : server.selected pawn = some furniture) :
    furniture ≠ target := by
  rintro rfl
  exact invariant.locked pawn furniture holds free

omit [DecidableEq F] in
theorem Switched.lockInvariant {after : PawnServer P F R}
    (switched : Switched server after caller target) (invariant : server.LockInvariant)
    (free : server.lock target = 0)
    (numbered : ∀ playerState, server.playerStates caller = some playerState →
      playerState.stencilSlot ≠ 0) : after.LockInvariant := by
  have other_ne : ∀ pawn furniture, pawn ≠ caller → after.selected pawn = some furniture →
      server.selected pawn = some furniture ∧ furniture ≠ target := by
    intro pawn furniture other holds
    rw [switched.selected_other other] at holds
    exact ⟨holds, invariant.ne_target free holds⟩
  constructor
  · intro pawn furniture holds
    by_cases isCaller : pawn = caller
    · obtain ⟨playerState, owner, slot⟩ := switched.locked
      rw [isCaller, switched.selected_caller] at holds
      rw [← Option.some.inj holds, slot]
      exact numbered playerState owner
    · obtain ⟨held, distinct⟩ := other_ne pawn furniture isCaller holds
      have unheld : server.selected caller ≠ some furniture := fun callerHolds =>
        isCaller (invariant.exclusive pawn caller furniture held callerHolds)
      rw [lock, switched.unrelated furniture distinct unheld]
      exact invariant.locked pawn furniture held
  · intro left right furniture leftHolds rightHolds
    by_cases leftCaller : left = caller
    · by_cases rightCaller : right = caller
      · rw [leftCaller, rightCaller]
      · rw [leftCaller, switched.selected_caller] at leftHolds
        exact absurd (Option.some.inj leftHolds).symm (other_ne right _ rightCaller rightHolds).2
    · by_cases rightCaller : right = caller
      · rw [rightCaller, switched.selected_caller] at rightHolds
        exact absurd (Option.some.inj rightHolds).symm (other_ne left _ leftCaller leftHolds).2
      · exact invariant.exclusive left right furniture (other_ne left _ leftCaller leftHolds).1
          (other_ne right _ rightCaller rightHolds).1

/-- A switch which fails half-way leaves the caller on an unlocked furniture. -/
theorem not_lockInvariant_stateless (stateless : server.playerStates caller = none)
    {previous : F} (holds : server.selected caller = some previous)
    (free : server.lock target = 0) :
    ¬(server.selectFurniture caller (some target)).LockInvariant := by
  have stopped := select_stateless stateless free
  rw [holds] at stopped
  intro invariant
  refine invariant.locked caller previous ?_ ?_
  · simp only [selected, selectFurniture, stopped, Function.update_self]
    exact holds
  · simp only [lock, selectFurniture, stopped, modifyOpt_self, onDeselected_slot]

/-- A selection call either makes the whole switch or leaves every lock and every selection as they
were, and keeps the lock invariant in both cases, if and only if its caller has a player state, or
holds nothing, or asks for nothing or for a locked furniture. -/
theorem selectFurniture_atomic_iff (invariant : server.LockInvariant)
    (numbered : ∀ playerState, server.playerStates caller = some playerState →
      playerState.stencilSlot ≠ 0) (furniture : Option F) :
    ((∃ target, furniture = some target ∧
          Switched server (server.selectFurniture caller furniture) caller target) ∨
        Untouched server (server.selectFurniture caller furniture)) ∧
      (server.selectFurniture caller furniture).LockInvariant ↔
    (server.playerStates caller).isSome = true ∨ server.selected caller = none ∨
      ∀ target, furniture = some target → server.lock target ≠ 0 := by
  have untouched : Untouched server server := ⟨fun _ => rfl, fun _ => rfl⟩
  cases furniture with
  | none =>
      rw [selectFurniture_eq_self rfl]
      simp [untouched, invariant]
  | some target =>
      by_cases free : server.lock target = 0
      · cases owner : server.playerStates caller with
        | some playerState =>
            have switched := selectFurniture_switched owner free (invariant.locked caller)
            have kept := switched.lockInvariant invariant free numbered
            simp [kept, switched]
        | none =>
            cases holds : server.selected caller with
            | none =>
                have stopped := select_stateless owner free
                rw [holds, modifyOpt_none] at stopped
                rw [selectFurniture_eq_self stopped]
                simp [untouched, invariant]
            | some previous =>
                have broken := not_lockInvariant_stateless owner holds free
                simp [broken, free]
      · rw [selectFurniture_locked free]
        simp [untouched, invariant, free]

/-- A server with one pawn which holds furniture 5 under slot 1 and may lack its player state. -/
def holdingFive (playerState : Option (IoroomPlayerState ℚ)) : PawnServer Unit Nat ℚ where
  furniture furniture :=
    { selectingStencilSlot := if furniture = 5 then 1 else 0
      location := 0
      rotation := ⟨0, 0, 0⟩ }
  pawns _ := { DesktopPawn.spawn 0 with selectedFurniture := some 5 }
  playerStates _ := playerState

theorem holdingFive_lockInvariant (playerState : Option (IoroomPlayerState ℚ)) :
    (holdingFive playerState).LockInvariant := by
  constructor
  · intro pawn furniture holds
    have isFive : 5 = furniture := Option.some.inj holds
    simp [lock, holdingFive, ← isFive]
  · intro left right furniture leftHolds rightHolds
    rfl

/-- With its player state the pawn switches from furniture 5 to furniture 7. -/
theorem selectFurniture_atomic_iff_owner :
    ((holdingFive (some { stencilSlot := 1 })).selectFurniture () (some 7)).LockInvariant :=
  ((selectFurniture_atomic_iff (holdingFive_lockInvariant _)
    (by simp [holdingFive]) (some 7)).mpr (Or.inl rfl)).2

/-- Without it the pawn keeps furniture 5 as its selection and gives up the lock on it. -/
theorem selectFurniture_half_done :
    let before := holdingFive none
    let after := before.selectFurniture () (some 7)
    before.LockInvariant ∧ after.selected () = some 5 ∧ after.lock 5 = 0 ∧ after.lock 7 = 0 ∧
      ¬(((∃ target, some 7 = some target ∧ Switched before after () target) ∨
          Untouched before after) ∧ after.LockInvariant) := by
  refine ⟨holdingFive_lockInvariant none, rfl, rfl, rfl, fun atomic => ?_⟩
  exact not_lockInvariant_stateless rfl rfl rfl atomic.2

end PawnServer

end Ioroom
