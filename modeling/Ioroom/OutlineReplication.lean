import Ioroom.LaggingCopy
import Ioroom.SelectionLock

/-!
# Outlines on the other machines

Only the lock number of a furniture is replicated; the outline on a client is drawn by the
notification which runs when the number changes.  A client therefore never shows an outline which
the server did not have, and shows the server's as soon as the present number has arrived.
-/

namespace Ioroom

open FurnitureActor EventSystem

/-- A replicated lock number arrives; the notification runs when it changes. -/
def FurnitureActor.replicateSelectingStencilSlot {R : Type*} (selectingStencilSlot : Int)
    (actor : FurnitureActor R) : FurnitureActor R :=
  if selectingStencilSlot = actor.selectingStencilSlot then actor
  else onRepSelectingStencilSlot { actor with selectingStencilSlot }

/-- Both machines draw the outline, in the same colour, or neither does. -/
def FurnitureActor.SameOutline {R : Type*} (left right : FurnitureActor R) : Prop :=
  left.renderCustomDepth = right.renderCustomDepth ∧
    (left.renderCustomDepth = true → left.customDepthStencilValue = right.customDepthStencilValue)

theorem FurnitureActor.OutlineFollowsLock.sameOutline {R : Type*} {left right : FurnitureActor R}
    (leftFollows : OutlineFollowsLock left) (rightFollows : OutlineFollowsLock right)
    (same : left.selectingStencilSlot = right.selectingStencilSlot) : SameOutline left right := by
  constructor
  · rw [Bool.eq_iff_iff, leftFollows.drawn, rightFollows.drawn, same]
  · intro drawn
    have positive := leftFollows.drawn.mp drawn
    rw [leftFollows.value positive, rightFollows.value (same ▸ positive), same]

theorem FurnitureActor.replicateSelectingStencilSlot_follows {R : Type*}
    {actor : FurnitureActor R} (follows : OutlineFollowsLock actor) (selectingStencilSlot : Int) :
    OutlineFollowsLock (actor.replicateSelectingStencilSlot selectingStencilSlot) := by
  rw [replicateSelectingStencilSlot]
  split
  · exact follows
  · exact onRepSelectingStencilSlot_outline _

theorem FurnitureActor.replicateSelectingStencilSlot_slot {R : Type*} (selectingStencilSlot : Int)
    (actor : FurnitureActor R) :
    (actor.replicateSelectingStencilSlot selectingStencilSlot).selectingStencilSlot =
      selectingStencilSlot := by
  rw [replicateSelectingStencilSlot]
  split
  · rename_i same
    exact same.symm
  · rfl

namespace ServerWorld

variable {P F R : Type*} [DecidableEq P] [DecidableEq F] [Field R] {world : ServerWorld P F R}
  {playerColorMPC : String → FLinearColor R}

theorem outline_of_reachable (reachable : (dedicatedServer playerColorMPC).Reachable world)
    (furniture : F) : OutlineFollowsLock (world.furniture furniture) := by
  obtain ⟨_, run⟩ := reachable
  induction run generalizing furniture with
  | start started =>
      obtain ⟨unlocked, undrawn⟩ := started.2.2 furniture
      rw [lock] at unlocked
      exact ⟨by simp [undrawn, unlocked], by simp [unlocked]⟩
  | @step history before event earlier enabled induction =>
      cases event with
      | join player location => exact induction furniture
      | leave player =>
          change OutlineFollowsLock ((before.leave player).furniture furniture)
          rw [furniture_leave]
          exact induction furniture
      | call sender serverCall =>
          obtain ⟨player, live⟩ := Option.isSome_iff_exists.mp enabled
          change OutlineFollowsLock ((before.execute sender serverCall).furniture furniture)
          rw [execute, act_eq live]
          exact LocalWorld.execute_outline rfl induction serverCall furniture

theorem lock_execute_given_up {sender : P} {serverCall : ServerCall F R} {furniture : F}
    (holds : world.selected sender = some furniture)
    (givenUp : (world.execute sender serverCall).selected sender ≠ some furniture) :
    (world.execute sender serverCall).lock furniture = 0 := by
  cases live : world.players sender with
  | none => simp [selected, live] at holds
  | some player =>
      rw [selected_of_live live] at holds
      rw [execute, act_eq live] at givenUp ⊢
      rw [selected_put, if_pos rfl] at givenUp
      have lockAfter : (world.put sender player
          (LocalWorld.execute serverCall (world.localWorld player))).lock furniture =
        ((LocalWorld.execute serverCall (world.localWorld player)).furniture
          furniture).selectingStencilSlot := rfl
      rw [lockAfter]
      have outcome : LocalWorld.LockOutcome (world.localWorld player)
          (LocalWorld.execute serverCall (world.localWorld player)) :=
        LocalWorld.execute_lock rfl rfl serverCall
      cases outcome with
      | kept selected slot => exact absurd (selected.trans holds) givenUp
      | released held own selected slot =>
          rw [slot, if_pos (Option.some.inj (holds.symm.trans own))]
      | switched target playerState owner free selected slot =>
          have distinct : furniture ≠ target := by
            rintro rfl
            exact givenUp selected
          have own : (world.localWorld player).pawn.selectedFurniture = some furniture := holds
          rw [slot, if_neg distinct, if_pos own]

theorem lock_next (reachable : (dedicatedServer playerColorMPC).Reachable world)
    (event : Event P F R) {after : ServerWorld P F R}
    (next : (dedicatedServer playerColorMPC).next world event = after) (furniture : F) :
    after.lock furniture = world.lock furniture ∨ after.lock furniture = 0 ∨
      ∃ player, after.selected player = some furniture ∧
        after.slot player = some (after.lock furniture) := by
  subst next
  cases event with
  | join player location => exact Or.inl rfl
  | leave player =>
      left
      change (world.leave player).lock furniture = world.lock furniture
      rw [lock, furniture_leave, lock]
  | call sender serverCall =>
      change (world.execute sender serverCall).lock furniture = world.lock furniture ∨ _
      by_cases taken : (world.execute sender serverCall).selected sender = some furniture
      · obtain ⟨_, run⟩ := reachable
        obtain ⟨_, _, locks⟩ := exists_locks run
        obtain ⟨_, _, locksAfter⟩ := locks.execute sender serverCall
        exact Or.inr (Or.inr ⟨sender, taken, locksAfter.locked sender furniture taken⟩)
      · by_cases holds : world.selected sender = some furniture
        · exact Or.inr (Or.inl (lock_execute_given_up holds taken))
        · rw [lock, furniture_execute_of_unheld holds taken, lock]
          exact Or.inl rfl

end ServerWorld

/-- The server, the copies of its furniture on the clients' machines, and the lock numbers on their
way to the copies, oldest first. -/
structure OutlineNetwork (P C F R : Type*) [One R] where
  server : ServerWorld P F R
  copies : C × F → FurnitureActor R
  snapshots : C × F → List Int

namespace OutlineNetwork

variable {P C F R : Type*} [DecidableEq P] [DecidableEq C] [DecidableEq F] [Field R]

inductive Event (P C F R : Type*)
  | server (event : ServerWorld.Event P F R)
  | send (client : C) (furniture : F)
  | arrive (client : C) (furniture : F)

/-- The server sends its lock number of a furniture to a client. -/
def send (client : C) (furniture : F) (network : OutlineNetwork P C F R) :
    OutlineNetwork P C F R :=
  { network with
    snapshots := Function.update network.snapshots (client, furniture)
      (network.snapshots (client, furniture) ++ [network.server.lock furniture]) }

/-- The oldest lock number on its way to a copy arrives. -/
def arrive (client : C) (furniture : F) (network : OutlineNetwork P C F R) :
    OutlineNetwork P C F R :=
  match network.snapshots (client, furniture) with
  | [] => network
  | selectingStencilSlot :: later =>
      { network with
        copies := Function.update network.copies (client, furniture)
          ((network.copies (client, furniture)).replicateSelectingStencilSlot selectingStencilSlot)
        snapshots := Function.update network.snapshots (client, furniture) later }

/-- A dedicated server and its clients, whose furniture starts unlocked. -/
def system (playerColorMPC : String → FLinearColor R) :
    EventSystem (OutlineNetwork P C F R) (Event P C F R) where
  Start network :=
    (ServerWorld.dedicatedServer playerColorMPC).Start network.server ∧
      ∀ place, (network.copies place).selectingStencilSlot = 0 ∧
        (network.copies place).renderCustomDepth = false ∧ network.snapshots place = []
  Enabled network
    | .server event => (ServerWorld.dedicatedServer playerColorMPC).Enabled network.server event
    | .send _ _ => True
    | .arrive client furniture => network.snapshots (client, furniture) ≠ []
  next network
    | .server event =>
        { network with
          server := (ServerWorld.dedicatedServer playerColorMPC).next network.server event }
    | .send client furniture => network.send client furniture
    | .arrive client furniture => network.arrive client furniture

/-- The lock number which an event sends to a copy. -/
def sent (place : C × F) (network : OutlineNetwork P C F R) : Event P C F R → Option Int
  | .server _ => none
  | .send client furniture =>
      if (client, furniture) = place then some (network.server.lock furniture) else none
  | .arrive _ _ => none

/-- The lock number which an event brings to a copy. -/
def arrived (place : C × F) (network : OutlineNetwork P C F R) : Event P C F R → Option Int
  | .server _ => none
  | .send _ _ => none
  | .arrive client furniture =>
      if (client, furniture) = place then (network.snapshots place).head? else none

/-- A copy's lock number and the ones on their way to it. -/
def lagging (place : C × F) (network : OutlineNetwork P C F R) : LaggingCopy Int :=
  ⟨(network.copies place).selectingStencilSlot, network.snapshots place⟩

/-- A player has a furniture selected and the number is its slot. -/
def Holder (furniture : F) (stencilSlot : Int) (network : OutlineNetwork P C F R) : Prop :=
  ∃ player, network.server.selected player = some furniture ∧
    network.server.slot player = some stencilSlot

variable {playerColorMPC : String → FLinearColor R} {network : OutlineNetwork P C F R}
  {history : List (OutlineNetwork P C F R × Event P C F R)}

omit [DecidableEq P] in
@[simp]
theorem server_arrive (client : C) (furniture : F) (network : OutlineNetwork P C F R) :
    (network.arrive client furniture).server = network.server := by
  rw [arrive]
  split <;> rfl

theorem server_reachable (run : (system playerColorMPC).Run history network) :
    (ServerWorld.dedicatedServer playerColorMPC).Reachable network.server := by
  induction run with
  | start started => exact ⟨[], .start started.1⟩
  | @step history before event _ enabled induction =>
      obtain ⟨older, earlier⟩ := induction
      cases event with
      | server event => exact ⟨_, earlier.step enabled⟩
      | send client furniture => exact ⟨older, earlier⟩
      | arrive client furniture =>
          refine ⟨older, ?_⟩
          simpa only [system, server_arrive] using earlier

theorem copies_follow (run : (system playerColorMPC).Run history network) (place : C × F) :
    OutlineFollowsLock (network.copies place) := by
  induction run with
  | start started =>
      obtain ⟨unlocked, undrawn, _⟩ := started.2 place
      exact ⟨by simp [undrawn, unlocked], by simp [unlocked]⟩
  | @step history before event _ enabled induction =>
      cases event with
      | server event => exact induction
      | send client furniture => exact induction
      | arrive client furniture =>
          simp only [system, arrive]
          split
          · exact induction
          · rename_i selectingStencilSlot later _
            rcases eq_or_ne place (client, furniture) with rfl | other
            · simp only [Function.update_self]
              exact replicateSelectingStencilSlot_follows induction selectingStencilSlot
            · simpa only [Function.update_of_ne other] using induction

/-- A copy receives the server's lock numbers by snapshots. -/
theorem lagging_step {event : Event P C F R}
    (enabled : (system playerColorMPC).Enabled network event) (place : C × F) :
    LaggingCopy.Step (((system playerColorMPC).next network event).server.lock place.2)
      (lagging place network) (sent place network event) (arrived place network event)
      (lagging place ((system playerColorMPC).next network event)) := by
  cases event with
  | server event => exact .idle _
  | send client furniture =>
      rcases eq_or_ne (client, furniture) place with rfl | other
      · have taken : lagging (client, furniture) (network.send client furniture) =
            { lagging (client, furniture) network with
              snapshots := network.snapshots (client, furniture) ++
                [network.server.lock furniture] } := by
          simp [lagging, send]
        simp only [system, sent, arrived, if_pos, taken]
        exact .take _
      · have kept : lagging place (network.send client furniture) = lagging place network := by
          simp [lagging, send, Function.update_of_ne other.symm]
        simp only [system, sent, arrived, if_neg other, kept]
        exact .idle _
  | arrive client furniture =>
      obtain ⟨newest, later, pending⟩ := List.exists_cons_of_ne_nil enabled
      simp only [system, sent, arrived, arrive, pending]
      rcases eq_or_ne (client, furniture) place with rfl | other
      · simp only [lagging, Function.update_self, pending, replicateSelectingStencilSlot_slot,
          if_pos, List.head?_cons]
        exact .arrive _ newest later
      · simp only [lagging, Function.update_of_ne other.symm, if_neg other]
        exact .idle _

theorem lagging_start (started : (system playerColorMPC).Start network) (place : C × F) :
    network.server.lock place.2 = 0 ∧ lagging place network = ⟨0, []⟩ := by
  obtain ⟨unlocked, _, none⟩ := started.2 place
  exact ⟨(started.1.2.2 place.2).1, by rw [lagging, unlocked, none]⟩

/-- Whoever locked a furniture had it selected, with the lock number as the slot. -/
theorem locked_once_held (run : (system playerColorMPC).Run history network) {furniture : F}
    {stencilSlot : Int} (locked : stencilSlot ≠ 0)
    (once : Once (fun network => network.server.lock furniture = stencilSlot) history network) :
    Once (Holder furniture stencilSlot) history network := by
  induction run with
  | start started =>
      rcases once with now | ⟨_, none, _⟩
      · exact absurd (now.symm.trans (started.1.2.2 furniture).1) locked
      · simp at none
  | @step history before event earlier _ induction =>
      rw [once_cons] at once ⊢
      rcases once with now | past
      · have kept : before.server.lock furniture = stencilSlot →
            Once (Holder furniture stencilSlot) history before :=
          fun same => induction (Or.inl same)
        cases event with
        | server event =>
            simp only [system] at now ⊢
            rcases ServerWorld.lock_next (server_reachable earlier) event rfl furniture with
              same | unlocked | holder
            · exact Or.inr (kept (same.symm.trans now))
            · exact absurd (now.symm.trans unlocked) locked
            · exact Or.inl (now ▸ holder)
        | send client furniture => exact Or.inr (kept now)
        | arrive client furniture =>
            simp only [system, server_arrive] at now
            exact Or.inr (kept now)
      · exact Or.inr (induction past)

/-- The lock numbers which the server has had. -/
def lockTimeline (furniture : F) (history : List (OutlineNetwork P C F R × Event P C F R))
    (network : OutlineNetwork P C F R) : List Int :=
  timeline (fun network => network.server.lock furniture) history network

/-- The lock numbers which a copy has had, from the zero it starts with. -/
def hadNumbers (place : C × F)
    (history : List (OutlineNetwork P C F R × Event P C F R)) : List Int :=
  0 :: collected (arrived place) history

theorem lagging_sublist (run : (system playerColorMPC).Run history network) (place : C × F) :
    (hadNumbers place history ++ network.snapshots place).Sublist
      (lockTimeline place.2 history network) :=
  run.sublist_timeline _ (fun _ started => lagging_start started place)
    fun _ _ enabled => lagging_step enabled place

/-- A copy has the number which arrived last. -/
theorem copy_eq_arrived (run : (system playerColorMPC).Run history network) (place : C × F) :
    (network.copies place).selectingStencilSlot =
      (collected (arrived place) history).getLastD 0 :=
  run.copy_eq_received (fun network => network.server.lock place.2)
    (fun _ started => (lagging_start started place).2)
    fun _ _ enabled => lagging_step enabled place

theorem copy_eq_latest (run : (system playerColorMPC).Run history network) (place : C × F)
    (quiet : network.snapshots place = []) :
    (network.copies place).selectingStencilSlot = (latest (sent place) history).getD 0 := by
  have newest := run.newest_eq_latest (fun network => network.server.lock place.2)
    (fun _ started => (lagging_start started place).2)
    fun _ _ enabled => lagging_step enabled place
  rw [← newest, lagging, quiet]
  rfl

/-- A client's copies go through the server's lock numbers in their order: all the numbers a copy
has had and those on their way to it are numbers the server has had, one after the other.  An
outline which a copy shows is that of a player who had the furniture selected, and with the present
number received it is the server's. -/
theorem outlines_follow_server (run : (system playerColorMPC).Run history network) (client : C)
    (furniture : F) :
    (hadNumbers (client, furniture) history ++ network.snapshots (client, furniture)).Sublist
        (lockTimeline furniture history network) ∧
      (network.copies (client, furniture)).selectingStencilSlot =
        (collected (arrived (client, furniture)) history).getLastD 0 ∧
      ((network.copies (client, furniture)).renderCustomDepth = true →
        Once (Holder furniture (network.copies (client, furniture)).customDepthStencilValue)
          history network) ∧
      (network.snapshots (client, furniture) = [] →
        latest (sent (client, furniture)) history = some (network.server.lock furniture) →
        SameOutline (network.copies (client, furniture)) (network.server.furniture furniture)) := by
  have ordered := lagging_sublist run (client, furniture)
  have received := copy_eq_arrived run (client, furniture)
  have follows := copies_follow run (client, furniture)
  refine ⟨ordered, received, ?_, ?_⟩
  · intro drawn
    have positive := follows.drawn.mp drawn
    rw [follows.value positive]
    refine locked_once_held run positive.ne' ?_
    refine mem_timeline.mp (ordered.subset (List.mem_append_left _ ?_))
    rw [received]
    exact List.getLastD_mem_cons
  · intro quiet newest
    refine follows.sameOutline
      (ServerWorld.outline_of_reachable (server_reachable run) furniture) ?_
    rw [copy_eq_latest run _ quiet, newest]
    rfl

/-- A server without players and clients on which nothing is outlined. -/
def unoutlined : OutlineNetwork Nat Nat Nat ℚ where
  server := .vacant
  copies _ := { location := 0, rotation := ⟨0, 0, 0⟩ }
  snapshots _ := []

/-- One player selects a furniture, which client seven is told. -/
def told : List (Event Nat Nat Nat ℚ) :=
  [.server (.join 0 0), .server (.call 0 (.selectFurniture (some 5))), .send 7 5, .arrive 7 5]

/-- The client shows the outline, which is the server's and in the colour of the player. -/
theorem outlines_follow_server_told :
    ∃ network : OutlineNetwork Nat Nat Nat ℚ,
      (network.copies (7, 5)).renderCustomDepth = true ∧
        (network.copies (7, 5)).customDepthStencilValue = 1 ∧
        SameOutline (network.copies (7, 5)) (network.server.furniture 5) := by
  have start : (system fun _ => .white).Start unoutlined :=
    ⟨⟨rfl, fun _ => rfl, fun _ => ⟨rfl, rfl⟩⟩, fun _ => ⟨rfl, rfl, rfl⟩⟩
  have legal : (system fun _ => .white).Legal unoutlined told :=
    ⟨rfl, rfl, trivial, List.cons_ne_nil _ _, trivial⟩
  obtain ⟨_, _, _, agrees⟩ := outlines_follow_server ((Run.start start).replay legal) 7 5
  exact ⟨_, rfl, rfl, agrees rfl rfl⟩

end OutlineNetwork

end Ioroom
