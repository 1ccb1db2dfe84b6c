import Ioroom.HandlerEffects
import Ioroom.PredictedRegister

/-!
# The link between a client and its furniture on the server

A remote client moves the furniture it has selected, tells the server, and is told by replicated
movement where the server put it.  The transform of that furniture is a predicted register, and
everything that happens on the link is a write to it or a delivery.
-/

namespace Ioroom

open LocalWorld FurnitureActor

/-- `FRepMovement`, as far as furniture uses it. -/
@[ext]
structure RepMovement (R : Type*) where
  location : FVector R
  rotation : FRotator R
deriving DecidableEq, Repr

namespace FurnitureActor

variable {R : Type*}

def replicatedMovement (actor : FurnitureActor R) : RepMovement R where
  location := actor.location
  rotation := actor.rotation

/-- `OnRep_ReplicatedMovement`: the update overwrites location and rotation. -/
def onRepReplicatedMovement (movement : RepMovement R) (actor : FurnitureActor R) :
    FurnitureActor R :=
  { actor with location := movement.location, rotation := movement.rotation }

theorem SameActor.replicatedMovement {left right : FurnitureActor R}
    (same : SameActor left right) : left.replicatedMovement = right.replicatedMovement := by
  rw [FurnitureActor.replicatedMovement, FurnitureActor.replicatedMovement, same.location,
    same.rotation]

theorem onSelected_movement (hasAuthority : Bool) (stencilSlot : Int) (actor : FurnitureActor R) :
    (actor.onSelected hasAuthority stencilSlot).replicatedMovement = actor.replicatedMovement := by
  cases hasAuthority <;> rfl

theorem onDeselected_movement (hasAuthority : Bool) (actor : FurnitureActor R) :
    (actor.onDeselected hasAuthority).replicatedMovement = actor.replicatedMovement := by
  cases hasAuthority <;> rfl

end FurnitureActor

/-- A client, the server, the furniture both have selected, and what is in flight between them,
oldest first. -/
structure TransformLink (F R : Type*) [One R] where
  held : F
  client : LocalWorld F R
  server : LocalWorld F R
  calls : List (ServerCall F R)
  updates : List (RepMovement R)

/-- The transform a call carries, applied to a replicated movement. -/
def ServerCall.transform {F R : Type*} : ServerCall F R → RepMovement R → RepMovement R
  | .dragFurniture newLocation, movement => { movement with location := newLocation }
  | .rotateFurniture newRotation, movement => { movement with rotation := newRotation }
  | .selectFurniture _, movement => movement
  | .deselectFurniture, movement => movement
  | .orbitTransform _ _, movement => movement

theorem ServerCall.replicatedMovement_move {F R : Type*} (serverCall : ServerCall F R)
    (actor : FurnitureActor R) :
    (serverCall.move actor).replicatedMovement =
      serverCall.transform actor.replicatedMovement := by
  cases serverCall <;> rfl

namespace LocalWorld

variable {F R : Type*} [DecidableEq F] [Field R]

theorem modify_movement {method : FurnitureActor R → FurnitureActor R}
    (keeps : ∀ actor, (method actor).replicatedMovement = actor.replicatedMovement)
    (changed : F) (world : LocalWorld F R) (furniture : F) :
    ((world.modify changed method).furniture furniture).replicatedMovement =
      (world.furniture furniture).replicatedMovement := by
  rw [modify_furniture]
  rcases eq_or_ne furniture changed with rfl | other
  · rw [Function.update_self, keeps]
  · rw [Function.update_of_ne other]

theorem modifyOpt_movement {method : FurnitureActor R → FurnitureActor R}
    (keeps : ∀ actor, (method actor).replicatedMovement = actor.replicatedMovement)
    (pointer : Option F) (world : LocalWorld F R) (furniture : F) :
    ((world.modifyOpt pointer method).furniture furniture).replicatedMovement =
      (world.furniture furniture).replicatedMovement := by
  cases pointer with
  | none => rfl
  | some changed => exact modify_movement keeps changed world furniture

theorem execute_reliable {serverCall : ServerCall F R} (reliable : serverCall.isReliable = true)
    (world : LocalWorld F R) :
    (∃ selectedFurniture,
        (world.execute serverCall).pawn = { world.pawn with selectedFurniture }) ∧
      ∀ furniture, ((world.execute serverCall).furniture furniture).replicatedMovement =
        (world.furniture furniture).replicatedMovement := by
  cases serverCall with
  | selectFurniture furniture =>
      cases furniture with
      | none => exact ⟨⟨_, rfl⟩, fun _ => rfl⟩
      | some target =>
          have released := modifyOpt_movement (onDeselected_movement world.hasAuthority)
            world.pawn.selectedFurniture world
          simp only [execute, serverSelectFurnitureImplementation]
          split
          · split
            · exact ⟨⟨_, modifyOpt_pawn _ _ world⟩, released⟩
            · rename_i playerState _
              refine ⟨⟨_, rfl⟩, fun furniture => ?_⟩
              exact (modify_movement (onSelected_movement world.hasAuthority
                playerState.stencilSlot) target _ furniture).trans (released furniture)
          · exact ⟨⟨_, rfl⟩, fun _ => rfl⟩
  | deselectFurniture =>
      simp only [execute, serverDeselectFurnitureImplementation]
      split
      · exact ⟨⟨_, rfl⟩, fun _ => rfl⟩
      · rename_i held _
        exact ⟨⟨_, rfl⟩, modify_movement (onDeselected_movement world.hasAuthority) held world⟩
  | dragFurniture newLocation => simp [ServerCall.isReliable] at reliable
  | rotateFurniture newRotation => simp [ServerCall.isReliable] at reliable
  | orbitTransform newLocation newRotation => simp [ServerCall.isReliable] at reliable

end LocalWorld

namespace TransformLink

variable {F R : Type*} [DecidableEq F] [Field R]

def shown (link : TransformLink F R) : RepMovement R :=
  (link.client.furniture link.held).replicatedMovement

def stored (link : TransformLink F R) : RepMovement R :=
  (link.server.furniture link.held).replicatedMovement

/-- The client runs a handler and sends the calls it made. -/
def act (handler : LocalWorld F R → LocalWorld F R) (link : TransformLink F R) :
    TransformLink F R :=
  let after := handler link.client
  { link with client := { after with sent := [] }, calls := link.calls ++ after.sent }

/-- The server executes the oldest call and sends an update when it answers. -/
def execute (answers : RepMovement R → RepMovement R → Bool) (link : TransformLink F R) :
    TransformLink F R :=
  match link.calls with
  | [] => link
  | serverCall :: later =>
      let executed := { link with server := link.server.execute serverCall, calls := later }
      if answers link.stored executed.stored then
        { executed with updates := link.updates ++ [executed.stored] }
      else executed

/-- A call is lost. -/
def lose (index : Nat) (link : TransformLink F R) : TransformLink F R :=
  { link with calls := link.calls.eraseIdx index }

/-- An update arrives. -/
def apply (index : Nat) (link : TransformLink F R) : TransformLink F R :=
  match link.updates[index]? with
  | none => link
  | some movement =>
      { link with
        client := link.client.modify link.held (·.onRepReplicatedMovement movement)
        updates := link.updates.eraseIdx index }

/-- The register which the transform forms on the link. -/
def register (link : TransformLink F R) : PredictedRegister (RepMovement R) (ServerCall F R) where
  shown := link.shown
  stored := link.stored
  writes := link.calls
  updates := link.updates

/-- The transform to which the calls in flight lead. -/
def final (link : TransformLink F R) : RepMovement R := link.register.final ServerCall.transform

/-- Client and server have selected the furniture, and no call in flight changes that. -/
structure Holding (link : TransformLink F R) : Prop where
  remote : link.client.hasAuthority = false
  flushed : link.client.sent = []
  selected : link.client.pawn.selectedFurniture = some link.held
  agreed : link.server.pawn.selectedFurniture = some link.held
  calls : ∀ serverCall ∈ link.calls,
    serverCall.isReliable = false ∨ serverCall = .selectFurniture (some link.held)

/-- At the start both sides show the same furniture and nothing is in flight. -/
structure Settled (link : TransformLink F R) : Prop where
  holding : link.Holding
  authority : link.server.hasAuthority = true
  same : link.shown = link.stored
  calls : link.calls = []
  updates : link.updates = []

variable {link : TransformLink F R}

omit [DecidableEq F] in
theorem Settled.coherent (settled : link.Settled) :
    link.register.Coherent ServerCall.transform :=
  (PredictedRegister.coherent_iff_settled settled.calls settled.updates).mpr settled.same

theorem select_held {server : LocalWorld F R} {held : F}
    (holds : server.pawn.selectedFurniture = some held) :
    (server.execute (.selectFurniture (some held))).pawn.selectedFurniture = some held ∧
      ((server.execute (.selectFurniture (some held))).furniture held).replicatedMovement =
        (server.furniture held).replicatedMovement := by
  by_cases free : (server.furniture held).selectingStencilSlot = 0
  · have selectable := isSelectableFurniture_iff.mpr free
    cases owner : server.playerState with
    | none =>
        simp [LocalWorld.execute, serverSelectFurnitureImplementation, selectable, owner, holds,
          modify_furniture, replicatedMovement]
    | some playerState =>
        rw [LocalWorld.execute, select_accepted owner free]
        simp [holds, modify_furniture, replicatedMovement]
  · rw [LocalWorld.execute, select_refused free]
    exact ⟨holds, rfl⟩

theorem Holding.execute_selected (holding : link.Holding) {serverCall : ServerCall F R}
    (member : serverCall ∈ link.calls) :
    (link.server.execute serverCall).pawn.selectedFurniture = some link.held := by
  rcases holding.calls serverCall member with unreliable | isSelect
  · exact (execute_unreliable unreliable).1.trans holding.agreed
  · rw [isSelect]
    exact (select_held holding.agreed).1

theorem Holding.execute_stored (holding : link.Holding) {serverCall : ServerCall F R}
    (member : serverCall ∈ link.calls) :
    ((link.server.execute serverCall).furniture link.held).replicatedMovement =
      serverCall.transform link.stored := by
  rcases holding.calls serverCall member with unreliable | isSelect
  · rw [(execute_unreliable unreliable).2, holding.agreed, modifyOpt_self,
      serverCall.replicatedMovement_move]
    rfl
  · rw [isSelect, (select_held holding.agreed).2]
    rfl

/-- What a handler which keeps the selection does to the selected furniture and sends. -/
inductive HeldEffect (held : F) (world after : LocalWorld F R) : Prop
  | kept
      (movement : (after.furniture held).replicatedMovement =
        (world.furniture held).replicatedMovement)
      (sent : after.sent = [])
  | wrote (serverCall : ServerCall F R)
      (keeps : serverCall.isReliable = false ∨ serverCall = .selectFurniture (some held))
      (movement : (after.furniture held).replicatedMovement =
        serverCall.transform (world.furniture held).replicatedMovement)
      (sent : after.sent = [serverCall])

omit [DecidableEq F] in
theorem Holding.sentAfter_eq (holding : link.Holding) (serverCall : ServerCall F R) :
    link.client.sentAfter serverCall = [serverCall] := by
  simp [sentAfter, holding.remote, holding.flushed]

theorem Holding.gesture_effect (holding : link.Holding) {after : LocalWorld F R}
    (effect : GestureEffect link.client after) : HeldEffect link.held link.client after := by
  cases effect with
  | kept same =>
      exact .kept (same.furniture link.held).replicatedMovement (same.sent.trans holding.flushed)
  | moved serverCall unreliable holds frame selected furniture sent =>
      refine .wrote serverCall (Or.inl unreliable) ?_
        (sent.trans (holding.sentAfter_eq serverCall))
      rw [(furniture link.held).replicatedMovement, holding.selected, modifyOpt_self,
        serverCall.replicatedMovement_move]

theorem Holding.input_effect (holding : link.Holding) {event : PawnEvent F R}
    {after : LocalWorld F R} (effect : Effect event link.client after)
    (keeps : after.pawn.selectedFurniture = some link.held) :
    HeldEffect link.held link.client after := by
  cases effect with
  | gesture effect => exact holding.gesture_effect effect
  | selecting spawned pressed released state press selected furniture sent =>
      have isHeld : pressed = link.held := Option.some.inj (selected.symm.trans keeps)
      rw [isHeld] at furniture sent
      refine .wrote _ (Or.inr rfl) ?_ (sent.trans (holding.sentAfter_eq _))
      have called := (furniture link.held).replicatedMovement
      simpa only [call, holding.remote, Bool.false_eq_true, if_false,
        ServerCall.transform] using called
  | deselecting spawned held released state press holds selected furniture sent =>
      rw [selected] at keeps
      simp at keeps

omit [DecidableEq F] in
theorem Holding.act (holding : link.Holding) {handler : LocalWorld F R → LocalWorld F R}
    (effect : HeldEffect link.held link.client (handler link.client))
    (machine : (handler link.client).hasAuthority = link.client.hasAuthority)
    (keeps : (handler link.client).pawn.selectedFurniture = some link.held) :
    (link.act handler).Holding := by
  refine ⟨machine.trans holding.remote, rfl, keeps, holding.agreed, ?_⟩
  intro serverCall member
  rcases List.mem_append.mp member with older | newest
  · exact holding.calls serverCall older
  · cases effect with
    | kept movement sent => simp [sent] at newest
    | wrote sentCall keepsHeld movement sent =>
        rw [sent, List.mem_singleton] at newest
        rwa [newest]

omit [DecidableEq F] in
theorem register_act_kept {handler : LocalWorld F R → LocalWorld F R}
    (movement : ((handler link.client).furniture link.held).replicatedMovement = link.shown)
    (sent : (handler link.client).sent = []) : (link.act handler).register = link.register := by
  have calls : (link.act handler).calls = link.calls := by simp [TransformLink.act, sent]
  simp only [register, calls]
  exact congrArg (PredictedRegister.mk · link.stored link.calls link.updates) movement

omit [DecidableEq F] in
theorem register_act_wrote {handler : LocalWorld F R → LocalWorld F R}
    {serverCall : ServerCall F R}
    (movement : ((handler link.client).furniture link.held).replicatedMovement =
      serverCall.transform link.shown)
    (sent : (handler link.client).sent = [serverCall]) :
    (link.act handler).register = link.register.write ServerCall.transform serverCall := by
  have calls : (link.act handler).calls = link.calls ++ [serverCall] := by
    simp [TransformLink.act, sent]
  simp only [register, PredictedRegister.write, calls]
  exact congrArg
    (PredictedRegister.mk · link.stored (link.calls ++ [serverCall]) link.updates) movement

omit [DecidableEq F] in
theorem coherent_act {handler : LocalWorld F R → LocalWorld F R}
    (coherent : link.register.Coherent ServerCall.transform)
    (effect : HeldEffect link.held link.client (handler link.client)) :
    (link.act handler).register.Coherent ServerCall.transform := by
  cases effect with
  | kept movement sent => rwa [register_act_kept movement sent]
  | wrote serverCall keeps movement sent =>
      rw [register_act_wrote movement sent]
      exact coherent.write serverCall

/-- An executed call is a delivery. -/
theorem Holding.delivery_execute (holding : link.Holding)
    (answers : RepMovement R → RepMovement R → Bool) (pending : link.calls ≠ []) :
    PredictedRegister.Delivery ServerCall.transform answers link.register
      (link.execute answers).register := by
  obtain ⟨serverCall, later, head⟩ := List.exists_cons_of_ne_nil pending
  have member : serverCall ∈ link.calls := by
    rw [head]
    exact List.mem_cons_self
  have registered : (link.execute answers).register =
      { link.register with
        stored := serverCall.transform link.stored
        writes := later
        updates :=
          if answers link.stored (serverCall.transform link.stored) then
            link.updates ++ [serverCall.transform link.stored]
          else link.updates } := by
    rw [← holding.execute_stored member]
    let executed : TransformLink F R :=
      { link with server := link.server.execute serverCall, calls := later }
    change _ = { link.register with
      stored := executed.stored
      writes := later
      updates := if answers link.stored executed.stored then link.updates ++ [executed.stored]
        else link.updates }
    cases answer : answers link.stored executed.stored with
    | true =>
        have executes : link.execute answers =
            { executed with updates := link.updates ++ [executed.stored] } := by
          simp only [TransformLink.execute, head]
          exact if_pos answer
        rw [executes]
        rfl
    | false =>
        have executes : link.execute answers = executed := by
          simp only [TransformLink.execute, head]
          exact if_neg (by simpa using answer)
        rw [executes]
        rfl
  rw [registered]
  exact .store _ serverCall later head

theorem register_apply {index : Nat} {movement : RepMovement R}
    (found : link.updates[index]? = some movement) :
    (link.apply index).register =
      { link.register with shown := movement, updates := link.updates.eraseIdx index } := by
  simp only [TransformLink.apply, found, register, shown, stored, modify_furniture,
    Function.update_self]
  rfl

/-- An update which arrives in order is a delivery. -/
theorem delivery_apply (answers : RepMovement R → RepMovement R → Bool)
    (pending : link.updates ≠ []) :
    PredictedRegister.Delivery ServerCall.transform answers link.register
      (link.apply 0).register := by
  obtain ⟨movement, later, head⟩ := List.exists_cons_of_ne_nil pending
  have found : link.updates[0]? = some movement := by simp [head]
  rw [register_apply found, head, List.eraseIdx_cons_zero]
  exact .update _ movement later head

theorem execute_client (answers : RepMovement R → RepMovement R → Bool) :
    (link.execute answers).client = link.client := by
  rw [TransformLink.execute]
  split
  · rfl
  · dsimp only
    split <;> rfl

theorem apply_playerState (index : Nat) :
    (link.apply index).client.playerState = link.client.playerState := by
  rw [TransformLink.apply]
  split <;> rfl

theorem Holding.execute (holding : link.Holding)
    (answers : RepMovement R → RepMovement R → Bool) : (link.execute answers).Holding := by
  cases head : link.calls with
  | nil =>
      have idle : link.execute answers = link := by simp [TransformLink.execute, head]
      rwa [idle]
  | cons serverCall later =>
      have member : serverCall ∈ link.calls := by
        rw [head]
        exact List.mem_cons_self
      have agreed := holding.execute_selected member
      have calls : ∀ call ∈ later,
          call.isReliable = false ∨ call = .selectFurniture (some link.held) := by
        intro call older
        refine holding.calls call ?_
        rw [head]
        exact List.mem_cons_of_mem serverCall older
      simp only [TransformLink.execute, head]
      split
      · exact ⟨holding.remote, holding.flushed, holding.selected, agreed, calls⟩
      · exact ⟨holding.remote, holding.flushed, holding.selected, agreed, calls⟩

theorem Holding.apply (holding : link.Holding) (index : Nat) : (link.apply index).Holding := by
  rw [TransformLink.apply]
  split
  · exact holding
  · exact ⟨holding.remote, holding.flushed, holding.selected, holding.agreed, holding.calls⟩

omit [DecidableEq F] in
theorem Holding.lose (holding : link.Holding) (index : Nat) : (link.lose index).Holding := by
  refine ⟨holding.remote, holding.flushed, holding.selected, holding.agreed, ?_⟩
  exact fun serverCall member => holding.calls serverCall (List.mem_of_mem_eraseIdx member)

/-- Both sides have selected furniture 5, which stands at the origin and carries slot 1. -/
def chair : TransformLink Nat ℚ where
  held := 5
  client :=
    { hasAuthority := false
      furniture := fun _ => { location := 0, rotation := ⟨0, 0, 0⟩ }
      pawn :=
        { DesktopPawn.spawn 0 with
          selectedFurniture := some 5
          activeManipulator := some { attachedTo := some 5 } }
      playerState := none }
  server :=
    { hasAuthority := true
      furniture := fun furniture =>
        { selectingStencilSlot := if furniture = 5 then 1 else 0
          location := 0
          rotation := ⟨0, 0, 0⟩ }
      pawn := { DesktopPawn.spawn 0 with selectedFurniture := some 5 }
      playerState := some { stencilSlot := 1 } }
  calls := []
  updates := []

theorem chair_settled : chair.Settled :=
  ⟨⟨rfl, rfl, rfl, rfl, by simp [chair]⟩, rfl, rfl, rfl, rfl⟩

end TransformLink

end Ioroom
