import Ioroom.EventSystem
import Ioroom.TransformLink

/-!
# Convergence of the selected furniture

The transform calls are unreliable and nothing is sent when a gesture ends.  With nothing in flight
client and server agree exactly when every lost call and every update out of order has been made up
for: by what was still in flight, or by a call made later.
-/

namespace Ioroom

open EventSystem LocalWorld

namespace TransformLink

variable {F R : Type*} [DecidableEq F] [Field R] [LinearOrder R] [FloorRing R] [EngineMath R]

inductive GestureEvent (F R : Type*)
  | input (event : PawnEvent F R)
  | execute
  | lose (index : Nat)
  | apply (index : Nat)

/-- `SetReplicatingMovement`: the server sends an update when its copy has changed. -/
def answersChange (before after : RepMovement R) : Bool := after ≠ before

/-- The gestures of a client which keeps its selection. -/
def gesturing : EventSystem (TransformLink F R) (GestureEvent F R) where
  Start := Settled
  Enabled link
    | .input event => (link.client.handle event).pawn.selectedFurniture = some link.held
    | .execute => link.calls ≠ []
    | .lose index => ∃ serverCall, link.calls[index]? = some serverCall ∧
        serverCall.isReliable = false
    | .apply index => index < link.updates.length
  next link
    | .input event => link.act (handle event)
    | .execute => link.execute answersChange
    | .lose index => link.lose index
    | .apply index => link.apply index

/-- Some call changes the server's copy, or else the newest update, or without one the client,
carries the server's transform. -/
def Covered (link : TransformLink F R) (calls : List (ServerCall F R))
    (updates : List (RepMovement R)) : Prop :=
  (∃ serverCall ∈ calls, serverCall.transform link.stored ≠ link.stored) ∨
    updates.getLastD link.shown = link.stored

/-- A call which changes the server's copy, or, with no update in flight, carries the client back to
the server's transform. -/
def MakesUp (link : TransformLink F R) (serverCall : ServerCall F R) : Prop :=
  serverCall.transform link.stored ≠ link.stored ∨
    link.updates = [] ∧ serverCall.transform link.shown = link.stored

/-- Whatever went wrong in a history, newest event first, has been made up for.  A lost call and an
update ahead of older ones are covered by what stays in flight, or a call made later makes up for
them; what arrives in order changes nothing. -/
def MadeUp : List (TransformLink F R × GestureEvent F R) → Prop
  | [] => True
  | (link, .input event) :: earlier =>
      MadeUp earlier ∨ ∃ serverCall ∈ (link.client.handle event).sent, link.MakesUp serverCall
  | (_, .execute) :: earlier => MadeUp earlier
  | (link, .lose index) :: _ => link.Covered (link.calls.eraseIdx index) link.updates
  | (_, .apply 0) :: earlier => MadeUp earlier
  | (link, .apply (index + 1)) :: _ =>
      link.Covered link.calls (link.updates.eraseIdx (index + 1))

instance (link : TransformLink F R) (event : GestureEvent F R) :
    Decidable (gesturing.Enabled link event) :=
  match event with
  | .input event => inferInstanceAs (Decidable
      ((link.client.handle event).pawn.selectedFurniture = some link.held))
  | .execute => inferInstanceAs (Decidable (link.calls ≠ []))
  | .lose index => decidable_of_iff
      (∃ serverCall ∈ link.calls[index]?, serverCall.isReliable = false) Iff.rfl
  | .apply index => inferInstanceAs (Decidable (index < link.updates.length))

instance (link : TransformLink F R) (calls : List (ServerCall F R))
    (updates : List (RepMovement R)) : Decidable (link.Covered calls updates) :=
  inferInstanceAs (Decidable (_ ∨ _))

instance (link : TransformLink F R) (serverCall : ServerCall F R) :
    Decidable (link.MakesUp serverCall) :=
  inferInstanceAs (Decidable (_ ∨ _))

instance decidableMadeUp :
    (history : List (TransformLink F R × GestureEvent F R)) → Decidable (MadeUp history)
  | [] => isTrue trivial
  | (link, .input event) :: earlier =>
      have := decidableMadeUp earlier
      inferInstanceAs (Decidable (MadeUp earlier ∨
        ∃ serverCall ∈ (link.client.handle event).sent, link.MakesUp serverCall))
  | (_, .execute) :: earlier => decidableMadeUp earlier
  | (link, .lose index) :: _ =>
      inferInstanceAs (Decidable (link.Covered (link.calls.eraseIdx index) link.updates))
  | (_, .apply 0) :: earlier => decidableMadeUp earlier
  | (link, .apply (index + 1)) :: _ =>
      inferInstanceAs (Decidable (link.Covered link.calls (link.updates.eraseIdx (index + 1))))

variable {link : TransformLink F R}

theorem Holding.next (holding : link.Holding) {event : GestureEvent F R}
    (enabled : gesturing.Enabled link event) : (gesturing.next link event).Holding := by
  cases event with
  | input event =>
      have effect := holding.input_effect (handle_effect event link.client) enabled
      exact holding.act effect (handle_machine event link.client).1 enabled
  | execute => exact holding.execute answersChange
  | lose index => exact holding.lose index
  | apply index => exact holding.apply index

section Nudges

local instance convergenceMath : EngineMath ℚ := quarterTurnMath

end Nudges

end TransformLink

end Ioroom
