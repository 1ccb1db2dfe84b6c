import Ioroom.SelectionNetwork

/-!
# Agreement of client and server on the selection

A client selects before the server has answered, and the server never answers.  Once the selection
calls of a client have been executed, both sides agree exactly when the last of them was not
refused.
-/

namespace Ioroom

open LocalWorld EventSystem

namespace SelectionNetwork

variable {P F R : Type*} [DecidableEq P] [DecidableEq F] [Field R]

/-- The selection call of a client which an event executes. -/
def executed (player : P) (network : SelectionNetwork P F R) :
    Event P F R → Option (ServerCall F R)
  | .deliverSelection sender =>
      if sender = player then (network.selectionCalls player).head? else none
  | .input _ _ => none
  | .deliverTransform _ _ => none
  | .loseTransform _ _ => none
  | .replicate _ _ _ => none

/-- The server refuses a call which selects a furniture locked by anybody but its sender. -/
def Refuses (server : ServerWorld P F R) (sender : P) : ServerCall F R → Bool
  | .selectFurniture (some target) =>
      server.lock target ≠ 0 && server.selected sender ≠ some target
  | .selectFurniture none => false
  | .deselectFurniture => false
  | .dragFurniture _ => false
  | .rotateFurniture _ => false
  | .orbitTransform _ _ => false

/-- Whether the selection call of a client which an event executes is refused. -/
def refused (player : P) (network : SelectionNetwork P F R) (event : Event P F R) :
    Option Bool :=
  (executed player network event).map (Refuses network.server player)

/-- The selection which the last executed selection call of a client asked for. -/
def lastRequest (player : P) (history : List (SelectionNetwork P F R × Event P F R)) : Option F :=
  (latest (executed player) history).bind ServerCall.requested

/-- The last selection call of a client which the server executed was not refused. -/
def LastCallAccepted (player : P) (history : List (SelectionNetwork P F R × Event P F R)) : Prop :=
  latest (refused player) history ≠ some true

/-- The selection asked for once all calls of a channel have been executed. -/
def settled (request : Option F) : List (ServerCall F R) → Option F
  | [] => request
  | serverCall :: later => settled serverCall.requested later

/-- Client and server agree on the selection of a pawn, and the client's manipulator is attached to
the furniture selected on the server. -/
structure Agrees (player : P) (network : SelectionNetwork P F R) : Prop where
  selected : (network.clients player).pawn.selectedFurniture = network.server.selected player
  manipulator : ∀ furniture, (network.clients player).attachment = some furniture →
    furniture = network.server.selected player

omit [DecidableEq F] [Field R] in
theorem settled_append (request : Option F) (calls : List (ServerCall F R))
    (newest : ServerCall F R) : settled request (calls ++ [newest]) = newest.requested := by
  induction calls generalizing request with
  | nil => rfl
  | cons serverCall later induction => exact induction serverCall.requested

omit [DecidableEq F] in
theorem lastRequest_cons (player : P) (network : SelectionNetwork P F R) (event : Event P F R)
    (history : List (SelectionNetwork P F R × Event P F R)) :
    lastRequest player ((network, event) :: history) =
      match executed player network event with
      | some serverCall => serverCall.requested
      | none => lastRequest player history := by
  rw [lastRequest, latest_cons]
  cases executed player network event <;> rfl

theorem lastCallAccepted_cons (player : P) (network : SelectionNetwork P F R)
    (event : Event P F R) (history : List (SelectionNetwork P F R × Event P F R)) :
    LastCallAccepted player ((network, event) :: history) ↔
      match executed player network event with
      | some serverCall => Refuses network.server player serverCall = false
      | none => LastCallAccepted player history := by
  rw [LastCallAccepted, latest_cons, refused]
  cases executed player network event with
  | none => rfl
  | some serverCall => simp

theorem selected_execute_click {server : ServerWorld P F R} {sender : P}
    (live : (server.players sender).isSome = true) {serverCall : ServerCall F R}
    (clicked : serverCall.IsClick) :
    (server.execute sender serverCall).selected sender = serverCall.requested ↔
      Refuses server sender serverCall = false := by
  obtain ⟨player, stored⟩ := Option.isSome_iff_exists.mp live
  have selected := ServerWorld.selected_of_live stored
  rw [ServerWorld.execute, ServerWorld.act_eq stored, ServerWorld.selected_put, if_pos rfl]
  cases clicked with
  | select target =>
      by_cases free : ((server.localWorld player).furniture target).selectingStencilSlot = 0
      · have unlocked : server.lock target = 0 := free
        rw [LocalWorld.execute, select_accepted rfl free]
        simp [ServerCall.requested, Refuses, unlocked]
      · have locked : server.lock target ≠ 0 := free
        rw [LocalWorld.execute, select_refused free]
        simp [ServerCall.requested, Refuses, locked, selected, ServerWorld.localWorld]
  | deselect =>
      simp only [LocalWorld.execute, serverDeselectFurnitureImplementation, ServerCall.requested,
        Refuses, iff_true]
      split
      · assumption
      · rfl

theorem selected_execute_of_kept {server : ServerWorld P F R} {sender : P}
    {serverCall : ServerCall F R}
    (kept : ∀ player, ((server.localWorld player).execute serverCall).pawn.selectedFurniture =
      (server.localWorld player).pawn.selectedFurniture) :
    (server.execute sender serverCall).selected sender = server.selected sender := by
  cases live : server.players sender with
  | none => simp [ServerWorld.execute, ServerWorld.act, live]
  | some player =>
      rw [ServerWorld.execute, ServerWorld.act_eq live, ServerWorld.selected_put, if_pos rfl,
        ServerWorld.selected_of_live live]
      exact kept player

theorem selected_execute_refused {server : ServerWorld P F R} {sender : P}
    {serverCall : ServerCall F R} (refusal : Refuses server sender serverCall = true) :
    (server.execute sender serverCall).selected sender = server.selected sender := by
  refine selected_execute_of_kept fun player => ?_
  cases serverCall with
  | selectFurniture furniture =>
      cases furniture with
      | none => simp [Refuses] at refusal
      | some target =>
          have locked :
              ((server.localWorld player).furniture target).selectingStencilSlot ≠ 0 := by
            have both := refusal
            simp only [Refuses, Bool.and_eq_true, decide_eq_true_eq] at both
            exact both.1
          rw [LocalWorld.execute, select_refused locked]
  | deselectFurniture => simp [Refuses] at refusal
  | dragFurniture newLocation => simp [Refuses] at refusal
  | rotateFurniture newRotation => simp [Refuses] at refusal
  | orbitTransform newLocation newRotation => simp [Refuses] at refusal

theorem selected_execute_unreliable {server : ServerWorld P F R} (sender : P)
    {serverCall : ServerCall F R} (unreliable : serverCall.isReliable = false) :
    (server.execute sender serverCall).selected sender = server.selected sender :=
  selected_execute_of_kept fun _ => (execute_unreliable unreliable).1

theorem Connected.selected_deliverTransform {network : SelectionNetwork P F R}
    (connected : Connected network) (sender player : P) (index : Nat) :
    (network.deliverTransform sender index).server.selected player =
      network.server.selected player := by
  rw [SelectionNetwork.deliverTransform]
  split
  · rfl
  · rename_i transform member
    obtain ⟨unreliable, _⟩ := connected.transforms sender transform (List.mem_of_getElem? member)
    rcases eq_or_ne player sender with rfl | other
    · exact selected_execute_unreliable player unreliable
    · exact ServerWorld.selected_execute_of_ne other transform.2

section Runs

variable [LinearOrder R] [FloorRing R] [EngineMath R] {network : SelectionNetwork P F R}
  {history : List (SelectionNetwork P F R × Event P F R)}

/-- A client's selection is the one its calls in flight will have asked for. -/
theorem client_selected (run : system.Run history network) (player : P) :
    (network.clients player).pawn.selectedFurniture =
      settled (lastRequest player history) (network.selectionCalls player) := by
  induction run with
  | @start initial started =>
      obtain ⟨_, _, _, _, unselected, _, noCalls, _⟩ := started.1 player
      rw [unselected, noCalls]
      rfl
  | @step history before event earlier enabled induction =>
      have connected := connected_of_run earlier
      cases event with
      | input sender event =>
          rw [lastRequest_cons]
          simp only [executed, system]
          rcases eq_or_ne player sender with rfl | other
          · cases connected.input_clicks player event with
            | kept selected calls => rw [selected, calls, induction]
            | click serverCall clicked selected calls => rw [selected, calls, settled_append]
          · simp only [SelectionNetwork.input, Function.update_of_ne other, induction]
      | deliverSelection sender =>
          rw [lastRequest_cons]
          obtain ⟨serverCall, later, calls, _⟩ := connected.head_click enabled
          simp only [executed, system, SelectionNetwork.deliverSelection, calls]
          rcases eq_or_ne player sender with rfl | other
          · rw [if_pos rfl, calls, List.head?_cons, Function.update_self, induction, calls]
            rfl
          · rw [if_neg other.symm, Function.update_of_ne other, induction]
      | deliverTransform sender index =>
          rw [lastRequest_cons]
          simp only [executed, system, SelectionNetwork.deliverTransform]
          split <;> exact induction
      | loseTransform sender index =>
          rw [lastRequest_cons]
          exact induction
      | replicate receiver furniture playerState =>
          rw [lastRequest_cons]
          simp only [executed, system, SelectionNetwork.replicate]
          rcases eq_or_ne player receiver with rfl | other
          · rw [Function.update_self]
            exact induction
          · rw [Function.update_of_ne other]
            exact induction

/-- The server's selection is the one last asked for exactly when that call was not refused. -/
theorem server_selected_iff (run : system.Run history network) (player : P) :
    network.server.selected player = lastRequest player history ↔
      LastCallAccepted player history := by
  induction run with
  | @start initial started =>
      rw [(started.1 player).2.1]
      simp [lastRequest, LastCallAccepted]
  | @step history before event earlier enabled induction =>
      have connected := connected_of_run earlier
      rw [lastRequest_cons, lastCallAccepted_cons]
      cases event with
      | input sender event => exact induction
      | deliverSelection sender =>
          obtain ⟨serverCall, later, calls, clicked⟩ := connected.head_click enabled
          simp only [executed, system, SelectionNetwork.deliverSelection, calls]
          rcases eq_or_ne sender player with rfl | other
          · rw [if_pos rfl, calls]
            exact selected_execute_click (connected.live sender) clicked
          · rw [if_neg other, ServerWorld.selected_execute_of_ne other.symm]
            exact induction
      | deliverTransform sender index =>
          simp only [executed, system, connected.selected_deliverTransform]
          exact induction
      | loseTransform sender index => exact induction
      | replicate receiver furniture playerState => exact induction

/-- With none of its selection calls in flight, a client agrees with the server exactly when the
last of them was not refused. -/
theorem agrees_iff_lastCallAccepted (run : system.Run history network) (player : P)
    (quiet : network.selectionCalls player = []) :
    Agrees player network ↔ LastCallAccepted player history := by
  have client := client_selected run player
  rw [quiet, settled] at client
  rw [← server_selected_iff run player]
  constructor
  · intro agrees
    rw [← client, agrees.selected]
  · intro server
    refine ⟨client.trans server.symm, ?_⟩
    intro furniture attached
    rw [server, ← client]
    exact ((connected_of_run run).clients player).manipulates furniture attached

end Runs

section Clicks

local instance agreementMath : EngineMath ℚ := quarterTurnMath

/-- One client selects a furniture nobody has locked. -/
theorem agrees_iff_lastCallAccepted_alone :
    ∃ network : SelectionNetwork Nat Nat ℚ, network.server.selected 0 = some 5 ∧
      Agrees 0 network := by
  have legal : system.Legal fresh
      [.input 0 (.leftClicking (some (.overhead none (some 5)))),
        .input 0 (.leftClickingReleased true), .deliverSelection 0] :=
    ⟨trivial, trivial, List.cons_ne_nil _ _, trivial⟩
  refine ⟨_, rfl, (agrees_iff_lastCallAccepted (run_fresh.replay legal) 0 rfl).mpr ?_⟩
  exact fun refusal => absurd refusal (by decide)

/-- Two clients click the same furniture; the one whose call arrives second keeps it selected. -/
theorem refused_client_keeps_selection :
    ¬∀ (network : SelectionNetwork Nat Nat ℚ) (player : Nat), system.Reachable network →
      network.selectionCalls player = [] → network.transformCalls player = [] →
      Agrees player network := by
  intro claim
  have legal : system.Legal fresh
      [.input 0 (.leftClicking (some (.overhead none (some 5)))),
        .input 0 (.leftClickingReleased true),
        .input 1 (.leftClicking (some (.overhead none (some 5)))),
        .input 1 (.leftClickingReleased true), .deliverSelection 0, .deliverSelection 1] :=
    ⟨trivial, trivial, trivial, trivial, List.cons_ne_nil _ _, List.cons_ne_nil _ _, trivial⟩
  have agrees := claim _ 1 ⟨_, run_fresh.replay legal⟩ rfl rfl
  exact absurd agrees.selected (by decide)

end Clicks

end SelectionNetwork

end Ioroom
