import Ioroom.DesktopPawn
import Ioroom.EventSystem

/-!
# Player colours

A pawn is coloured by callbacks of its player state and of its own link to it.  On a client these
are notifications which run when a replicated value changes, in whatever order the values arrive; on
the server they are a next-tick callback and the possession.
-/

namespace Ioroom

open EventSystem

/-- A player state on one machine, the pawn linked to it, and the pawns it may be linked to. -/
structure ColoredPlayer (I F R : Type*) [One R] where
  playerState : IoroomPlayerState R
  linked : Option I
  pawns : I → DesktopPawn F R

/-- Both materials of the pawn carry the colour. -/
def DesktopPawn.Carries {F R : Type*} (color : FLinearColor R) (pawn : DesktopPawn F R) : Prop :=
  pawn.customBodyMaterial = some color ∧ pawn.hoverMaterial = some color

/-- Both dynamic materials of the pawn can be created. -/
def DesktopPawn.Creatable {F R : Type*} (pawn : DesktopPawn F R) : Prop :=
  pawn.bodyMaterial = true ∧ pawn.hoverBaseMaterial = true

namespace ColoredPlayer

variable {I F R : Type*} [DecidableEq I] [DecidableEq R] [Field R]

/-- `GetPawn`, and `ApplyPlayerVisuals` on it with the current `AssignedColor`. -/
def applyPlayerVisuals (player : ColoredPlayer I F R) : ColoredPlayer I F R :=
  match player.linked with
  | none => player
  | some pawn =>
      { player with
        pawns := Function.update player.pawns pawn
          ((player.pawns pawn).applyPlayerVisuals player.playerState.assignedColor) }

/-- `OnRep_StencilSlot`. -/
def onRepStencilSlot (player : ColoredPlayer I F R) : ColoredPlayer I F R :=
  player.applyPlayerVisuals

/-- `OnRep_AssignedColor`. -/
def onRepAssignedColor (player : ColoredPlayer I F R) : ColoredPlayer I F R :=
  player.applyPlayerVisuals

inductive Replication (I R : Type*)
  | stencilSlot (stencilSlot : Int)
  | assignedColor (assignedColor : FLinearColor R)
  | link (pawn : I)
  | unlink

/-- A value arrives; its notification runs when the value changes. -/
def replicate (player : ColoredPlayer I F R) : Replication I R → ColoredPlayer I F R
  | .stencilSlot stencilSlot =>
      if stencilSlot = player.playerState.stencilSlot then player
      else onRepStencilSlot { player with playerState := { player.playerState with stencilSlot } }
  | .assignedColor assignedColor =>
      if assignedColor = player.playerState.assignedColor then player
      else onRepAssignedColor
        { player with playerState := { player.playerState with assignedColor } }
  | .link pawn =>
      if player.linked = some pawn then player
      else
        { player with
          linked := some pawn
          pawns := Function.update player.pawns pawn
            ((player.pawns pawn).onRepPlayerState (some player.playerState)) }
  | .unlink => { player with linked := none }

/-- The player state of a remote player on a client. -/
def client : EventSystem (ColoredPlayer I F R) (Replication I R) where
  Start player := player.linked = none ∧ ∀ pawn, (player.pawns pawn).Creatable
  Enabled _ _ := True
  next := replicate

/-- The linked pawn carries the assigned colour. -/
def Colored (player : ColoredPlayer I F R) : Prop :=
  ∀ pawn, player.linked = some pawn →
    (player.pawns pawn).Carries player.playerState.assignedColor

/-- The invariant of a client. -/
structure ClientSound (player : ColoredPlayer I F R) : Prop where
  creatable : ∀ pawn, (player.pawns pawn).Creatable
  colored : 0 < player.playerState.stencilSlot → player.Colored

variable {player : ColoredPlayer I F R}

omit [DecidableEq I] [DecidableEq R] [Field R] in
theorem carries_applyPlayerVisuals {pawn : DesktopPawn F R} (creatable : pawn.Creatable)
    (color : FLinearColor R) : (pawn.applyPlayerVisuals color).Carries color := by
  obtain ⟨body, hover⟩ := creatable
  simp [DesktopPawn.Carries, DesktopPawn.applyPlayerVisuals, body, hover]

omit [DecidableEq R] in
theorem creatable_applyPlayerVisuals (creatable : ∀ pawn, (player.pawns pawn).Creatable) :
    ∀ pawn, (player.applyPlayerVisuals.pawns pawn).Creatable := by
  rw [applyPlayerVisuals]
  split
  · exact creatable
  · rename_i linked _
    refine (Function.forall_update_iff _ fun _ (pawn : DesktopPawn F R) => pawn.Creatable).mpr ?_
    exact ⟨creatable linked, fun other _ => creatable other⟩

omit [DecidableEq R] in
theorem colored_applyPlayerVisuals (creatable : ∀ pawn, (player.pawns pawn).Creatable) :
    player.applyPlayerVisuals.Colored := by
  cases linked : player.linked with
  | none =>
      intro pawn isLinked
      simp [applyPlayerVisuals, linked] at isLinked
  | some current =>
      intro pawn isLinked
      simp only [applyPlayerVisuals, linked, Option.some.injEq] at isLinked ⊢
      rw [← isLinked, Function.update_self]
      exact carries_applyPlayerVisuals (creatable current) _

theorem ClientSound.next (sound : ClientSound player) (event : Replication I R) :
    ClientSound (player.replicate event) := by
  obtain ⟨creatable, colored⟩ := sound
  cases event with
  | stencilSlot stencilSlot =>
      simp only [replicate, onRepStencilSlot]
      split
      · exact ⟨creatable, colored⟩
      · exact ⟨creatable_applyPlayerVisuals creatable,
          fun _ => colored_applyPlayerVisuals creatable⟩
  | assignedColor assignedColor =>
      simp only [replicate, onRepAssignedColor]
      split
      · exact ⟨creatable, colored⟩
      · exact ⟨creatable_applyPlayerVisuals creatable,
          fun _ => colored_applyPlayerVisuals creatable⟩
  | link pawn =>
      simp only [replicate]
      split
      · exact ⟨creatable, colored⟩
      · constructor
        · refine (Function.forall_update_iff _
            fun _ (pawn : DesktopPawn F R) => pawn.Creatable).mpr ?_
          refine ⟨?_, fun other _ => creatable other⟩
          simp only [DesktopPawn.onRepPlayerState]
          split <;> exact creatable pawn
        · intro positive other isLinked
          rw [← Option.some.inj isLinked]
          simp only [Function.update_self, DesktopPawn.onRepPlayerState]
          rw [if_pos positive]
          exact carries_applyPlayerVisuals (creatable pawn) _
  | unlink =>
      refine ⟨creatable, fun _ pawn isLinked => ?_⟩
      simp [replicate] at isLinked

end ColoredPlayer

/-- A player state on the server, with the slot pool and the number of scheduled callbacks. -/
structure ServerPlayer (I F R : Type*) [One R] extends ColoredPlayer I F R where
  gameState : IoroomGameState
  callbacks : Nat

namespace ServerPlayer

variable {I F R : Type*} [DecidableEq I] [DecidableEq R] [Field R]

inductive Event (I : Type*)
  | initializePlayerColor
  | nextTick
  | possessedBy (pawn : I)
  | unPossessed

/-- The player state of a player on the server. -/
def server (playerColorMPC : String → FLinearColor R) :
    EventSystem (ServerPlayer I F R) (Event I) where
  Start player := player.linked = none ∧ player.callbacks = 0 ∧
    ∀ pawn, (player.pawns pawn).Creatable
  Enabled player
    | .initializePlayerColor => True
    | .nextTick => 0 < player.callbacks
    | .possessedBy _ => True
    | .unPossessed => True
  next player
    | .initializePlayerColor =>
        let initialized := player.playerState.initializePlayerColor playerColorMPC player.gameState
        { player with
          gameState := initialized.1
          playerState := initialized.2
          callbacks := player.callbacks + 1 }
    | .nextTick =>
        { player with
          toColoredPlayer := player.toColoredPlayer.applyPlayerVisuals
          callbacks := player.callbacks - 1 }
    | .possessedBy pawn =>
        { player with
          linked := some pawn
          pawns := Function.update player.pawns pawn
            ((player.pawns pawn).possessedBy (some player.playerState)) }
    | .unPossessed => { player with linked := none }

/-- The invariant of the server. -/
structure ServerSound (player : ServerPlayer I F R) : Prop where
  creatable : ∀ pawn, (player.pawns pawn).Creatable
  colored : player.callbacks = 0 → player.toColoredPlayer.Colored

omit [DecidableEq R] in
theorem ServerSound.next {playerColorMPC : String → FLinearColor R} {player : ServerPlayer I F R}
    (sound : ServerSound player) (event : Event I) :
    ServerSound ((server playerColorMPC).next player event) := by
  obtain ⟨creatable, colored⟩ := sound
  cases event with
  | initializePlayerColor =>
      refine ⟨creatable, fun scheduled => ?_⟩
      have pending : player.callbacks + 1 = 0 := scheduled
      omega
  | nextTick =>
      exact ⟨ColoredPlayer.creatable_applyPlayerVisuals creatable,
        fun _ => ColoredPlayer.colored_applyPlayerVisuals creatable⟩
  | possessedBy pawn =>
      constructor
      · refine (Function.forall_update_iff _
          fun _ (pawn : DesktopPawn F R) => pawn.Creatable).mpr ?_
        exact ⟨creatable pawn, fun other _ => creatable other⟩
      · intro _ other isLinked
        rw [← Option.some.inj isLinked]
        simp only [server, Function.update_self]
        exact ColoredPlayer.carries_applyPlayerVisuals (creatable pawn) _
  | unPossessed =>
      refine ⟨creatable, fun _ pawn isLinked => ?_⟩
      simp [server] at isLinked

end ServerPlayer

/-- The colour of a linked pawn does not depend on the order of events: on a client once the slot is
positive, on the server once no callback is scheduled. -/
theorem playerColor_order_independent {I F R : Type*} [DecidableEq I] [DecidableEq R] [Field R]
    (playerColorMPC : String → FLinearColor R) :
    (∀ player : ColoredPlayer I F R, ColoredPlayer.client.Reachable player →
      ∀ pawn, player.linked = some pawn → 0 < player.playerState.stencilSlot →
      (player.pawns pawn).Carries player.playerState.assignedColor) ∧
    (∀ player : ServerPlayer I F R, (ServerPlayer.server playerColorMPC).Reachable player →
      ∀ pawn, player.linked = some pawn → player.callbacks = 0 →
      (player.pawns pawn).Carries player.playerState.assignedColor) := by
  constructor
  · intro player reachable pawn linked positive
    have sound : player.ClientSound := by
      refine reachable.invariant ?_ fun before event sound _ => sound.next event
      rintro initial ⟨unlinked, creatable⟩
      refine ⟨creatable, fun _ pawn isLinked => ?_⟩
      simp [unlinked] at isLinked
    exact sound.colored positive pawn linked
  · intro player reachable pawn linked done
    have sound : player.ServerSound := by
      refine reachable.invariant ?_ fun before event sound _ => sound.next event
      rintro initial ⟨unlinked, _, creatable⟩
      refine ⟨creatable, fun _ pawn isLinked => ?_⟩
      simp [unlinked] at isLinked
    exact sound.colored done pawn linked

/-- The colour arrives first, then the pawn, then the slot. -/
theorem playerColor_order_independent_slot_last :
    ∃ player : ColoredPlayer Nat Nat ℚ, player.linked = some 7 ∧
      (player.pawns 7).Carries (⟨1, 0, 0, 1⟩ : FLinearColor ℚ) := by
  have start : ColoredPlayer.client.Run []
      ({ playerState := {}, linked := none, pawns := fun _ => .spawn 0 } :
        ColoredPlayer Nat Nat ℚ) :=
    .start ⟨rfl, fun _ => ⟨rfl, rfl⟩⟩
  have legal : ColoredPlayer.client.Legal
      ({ playerState := {}, linked := none, pawns := fun _ => .spawn 0 } :
        ColoredPlayer Nat Nat ℚ)
      [.assignedColor ⟨1, 0, 0, 1⟩, .link 7, .stencilSlot 3] :=
    ⟨trivial, trivial, trivial, trivial⟩
  have carries := (playerColor_order_independent fun _ => .white).1 _
    ⟨_, start.replay legal⟩ 7 (by decide) (by decide)
  exact ⟨_, by decide, carries⟩

end Ioroom
