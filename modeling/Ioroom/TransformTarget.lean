import Ioroom.SelectionAgreement

/-!
# The furniture a transform call moves

A drag or rotate call names no furniture: the server moves whatever the sender's pawn holds when the
call arrives.  That is the furniture which the sender's last unrefused selection call took, however
long ago, whatever the sender had selected when it sent the call.
-/

namespace Ioroom

open LocalWorld EventSystem FurnitureActor

namespace SelectionNetwork

variable {P F R : Type*} [DecidableEq P] [DecidableEq F] [Field R]

/-- The selection which an event makes for the server's copy of a pawn. -/
def taken (player : P) (network : SelectionNetwork P F R) (event : Event P F R) :
    Option (Option F) :=
  (executed player network event).bind fun serverCall =>
    if Refuses network.server player serverCall then none else some serverCall.requested

/-- The selection of the last unrefused selection call of a client. -/
def lastTaken (player : P) (history : List (SelectionNetwork P F R × Event P F R)) : Option F :=
  (latest (taken player) history).getD none

/-- The intended furniture receives the transform and no other changes, or none changes. -/
def HitsMeant (intended : F) (serverCall : ServerCall F R) (before after : ServerWorld P F R) :
    Prop :=
  (∀ furniture, after.furniture furniture =
      if furniture = intended then serverCall.move (before.furniture furniture)
      else before.furniture furniture) ∨
    after.furniture = before.furniture

theorem furniture_execute_unreliable {server : ServerWorld P F R} {sender : P}
    (live : (server.players sender).isSome = true) {serverCall : ServerCall F R}
    (unreliable : serverCall.isReliable = false) (furniture : F) :
    (server.execute sender serverCall).furniture furniture =
      if server.selected sender = some furniture then serverCall.move (server.furniture furniture)
      else server.furniture furniture := by
  obtain ⟨player, stored⟩ := Option.isSome_iff_exists.mp live
  have moved : (server.execute sender serverCall).furniture =
      ((server.localWorld player).modifyOpt player.pawn.selectedFurniture
        serverCall.move).furniture := by
    rw [ServerWorld.execute, ServerWorld.act_eq stored]
    exact (execute_unreliable unreliable).2
  rw [moved, ServerWorld.selected_of_live stored]
  split
  · rename_i holds
    rw [holds, modifyOpt_self]
    rfl
  · rename_i unheld
    rw [modifyOpt_of_ne unheld]
    rfl

omit [DecidableEq P] in
/-- A transform of the held furniture hits the intended one or none exactly when nothing is held,
the intended furniture is, or the transform changes nothing. -/
theorem hitsMeant_iff {before after : ServerWorld P F R} {serverCall : ServerCall F R}
    {held : Option F}
    (moved : ∀ furniture, after.furniture furniture =
      if held = some furniture then serverCall.move (before.furniture furniture)
      else before.furniture furniture) (intended : F) :
    HitsMeant intended serverCall before after ↔
      ∀ furniture, held = some furniture → furniture = intended ∨
        serverCall.move (before.furniture furniture) = before.furniture furniture := by
  constructor
  · rintro hits furniture rfl
    rw [or_iff_not_imp_left]
    intro distinct
    have received := moved furniture
    rw [if_pos rfl] at received
    rw [← received]
    rcases hits with meant | none
    · rw [meant furniture, if_neg distinct]
    · rw [none]
  · intro harmless
    cases held with
    | none =>
        refine Or.inr (funext fun furniture => ?_)
        rw [moved, if_neg (by simp)]
    | some target =>
        rcases harmless target rfl with rfl | still
        · refine Or.inl fun furniture => ?_
          rw [moved]
          simp only [Option.some.injEq, eq_comm]
        · refine Or.inr (funext fun furniture => ?_)
          rw [moved]
          split
          · rename_i isTarget
            rw [← Option.some.inj isTarget, still]
          · rfl

section Runs

variable [LinearOrder R] [FloorRing R] [EngineMath R] {network : SelectionNetwork P F R}
  {history : List (SelectionNetwork P F R × Event P F R)}

theorem server_selected (run : system.Run history network) (player : P) :
    network.server.selected player = lastTaken player history := by
  refine run.register_eq_latest (fun network => network.server.selected player) none
    (taken player) ?_ ?_
  · intro initial started
    exact (started.1 player).2.1
  · rintro before event ⟨older, earlier⟩ enabled
    have connected := connected_of_run earlier
    cases event with
    | input sender event => rfl
    | deliverSelection sender =>
        obtain ⟨serverCall, later, calls, clicked⟩ := connected.head_click enabled
        simp only [taken, executed, system, SelectionNetwork.deliverSelection, calls]
        rcases eq_or_ne sender player with rfl | other
        · rw [if_pos rfl, calls, List.head?_cons, Option.bind_some]
          cases refusal : Refuses before.server sender serverCall with
          | false => exact (selected_execute_click (connected.live sender) clicked).mpr refusal
          | true => exact selected_execute_refused refusal
        · rw [if_neg other]
          exact ServerWorld.selected_execute_of_ne other.symm serverCall
    | deliverTransform sender index => exact connected.selected_deliverTransform sender player index
    | loseTransform sender index => rfl
    | replicate receiver furniture playerState => rfl

/-- Every drag or rotate call in flight was sent with some furniture selected.  Executing it moves
the furniture which the sender's last unrefused selection call took and no other, so it hits the
intended furniture or none exactly when that call took the intended furniture or none, or took one
on which the transform has no effect. -/
theorem deliverTransform_moves_lastTaken (run : system.Run history network) {sender : P}
    {index : Nat} {selection : Option F} {serverCall : ServerCall F R}
    (inFlight : (network.transformCalls sender)[index]? = some (selection, serverCall))
    (transform : serverCall.isTransform = true) :
    (∀ furniture, (network.deliverTransform sender index).server.furniture furniture =
      if lastTaken sender history = some furniture then
        serverCall.move (network.server.furniture furniture)
      else network.server.furniture furniture) ∧
    ∃ intended, selection = some intended ∧
      (HitsMeant intended serverCall network.server (network.deliverTransform sender index).server ↔
        ∀ held, lastTaken sender history = some held → held = intended ∨
          serverCall.move (network.server.furniture held) = network.server.furniture held) := by
  have connected := connected_of_run run
  obtain ⟨unreliable, tagged⟩ :=
    connected.transforms sender _ (List.mem_of_getElem? inFlight)
  obtain ⟨intended, isIntended⟩ := Option.isSome_iff_exists.mp (tagged transform)
  have server : (network.deliverTransform sender index).server =
      network.server.execute sender serverCall := by
    simp [SelectionNetwork.deliverTransform, inFlight]
  have moved := furniture_execute_unreliable (connected.live sender) unreliable
  rw [server_selected run sender] at moved
  rw [server]
  exact ⟨moved, intended, isIntended, hitsMeant_iff moved intended⟩

end Runs

section Nudges

local instance targetMath : EngineMath ℚ := quarterTurnMath

/-- A client selects a furniture, the server takes it, and the client nudges it. -/
def selectAndNudge : List (Event Nat Nat ℚ) :=
  [.input 0 (.leftClicking (some (.overhead none (some 5)))),
    .input 0 (.leftClickingReleased true), .deliverSelection 0,
    .input 0 (.leftClicking (some (.overhead (some .arrowXPlus) none)))]

theorem deliverTransform_moves_lastTaken_nudge :
    ∃ (network : SelectionNetwork Nat Nat ℚ) (newLocation : FVector ℚ),
      network.server.furniture 5 ≠ (network.deliverTransform 0 0).server.furniture 5 ∧
      HitsMeant 5 (.dragFurniture newLocation) network.server
        (network.deliverTransform 0 0).server := by
  have legal : system.Legal fresh selectAndNudge :=
    ⟨trivial, trivial, List.cons_ne_nil _ _, trivial, trivial⟩
  have run := run_fresh.replay legal
  obtain ⟨newLocation, inFlight⟩ : ∃ newLocation,
      ((system.replay fresh selectAndNudge).transformCalls 0)[0]? =
        some (some 5, .dragFurniture newLocation) := ⟨_, rfl⟩
  obtain ⟨_, intended, isIntended, hits⟩ := deliverTransform_moves_lastTaken run inFlight rfl
  refine ⟨system.replay fresh selectAndNudge, newLocation, ?_, ?_⟩
  · intro still
    exact absurd (congrArg (·.location.x) still) (by decide +kernel)
  · rw [← Option.some.inj isIntended] at hits
    refine hits.mpr fun held last => Or.inl ?_
    exact (Option.some.inj last).symm

/-- A client selects a furniture, then another one, and nudges that; the nudge overtakes the second
selection and moves the first furniture. -/
theorem nudge_moves_previous_selection :
    ¬∀ (network : SelectionNetwork Nat Nat ℚ) (sender index intended : Nat)
      (serverCall : ServerCall Nat ℚ), system.Reachable network →
      (network.transformCalls sender)[index]? = some (some intended, serverCall) →
      serverCall.isTransform = true →
      HitsMeant intended serverCall network.server
        (network.deliverTransform sender index).server := by
  intro claim
  have legal : system.Legal fresh
      [.input 0 (.leftClicking (some (.overhead none (some 5)))),
        .input 0 (.leftClickingReleased true), .deliverSelection 0,
        .input 0 (.leftClicking (some (.overhead none (some 6)))),
        .input 0 (.leftClickingReleased true),
        .input 0 (.leftClicking (some (.overhead (some .arrowXPlus) none)))] :=
    ⟨trivial, trivial, List.cons_ne_nil _ _, trivial, trivial, trivial, trivial⟩
  have hits := claim _ 0 0 6 (.dragFurniture _) ⟨_, run_fresh.replay legal⟩ rfl rfl
  rcases hits with meant | none
  · have moved := congrArg (·.location.x) (meant 5)
    exact absurd moved (by decide +kernel)
  · have moved := congrArg (fun furniture => (furniture 5).location.x) none
    exact absurd moved (by decide +kernel)

end Nudges

end SelectionNetwork

end Ioroom
