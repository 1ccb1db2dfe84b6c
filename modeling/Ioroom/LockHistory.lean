import Ioroom.SelectionLock
import Ioroom.TenureTable

/-!
# What the history says about the locks

The joins, leaves and calls of a dedicated server drive a table of tenures which never looks at a
lock, a slot or a pawn.  The server's locks and selections are exactly those of the table, so a
furniture is stuck precisely when an earlier holder left, and it has not changed since.
-/

namespace Ioroom

open FurnitureActor LocalWorld

namespace ServerWorld

variable {P F R : Type*} [DecidableEq P] [DecidableEq F] [Field R]

/-- What an event means for the tenures. -/
def tenureAction : Event P F R → TenureAction P F
  | .join _ _ => .idle
  | .leave player => .vanish player
  | .call sender (.selectFurniture (some target)) => .take sender target
  | .call _ (.selectFurniture none) => .idle
  | .call sender .deselectFurniture => .drop sender
  | .call _ (.dragFurniture _) => .idle
  | .call _ (.rotateFurniture _) => .idle
  | .call _ (.orbitTransform _ _) => .idle

/-- The table which the events of a history lead to. -/
def tenures (history : List (ServerWorld P F R × Event P F R)) : TenureTable P F :=
  TenureTable.account (history.map fun past => tenureAction past.2)

/-- The locks and selections of a server are those of a table. -/
structure Keeps (world : ServerWorld P F R) (table : TenureTable P F) : Prop where
  unlocked : ∀ furniture, world.lock furniture = 0 ↔ table.tenure furniture = .free
  selected : ∀ player furniture,
    world.selected player = some furniture ↔ table.tenure furniture = .held player

/-- A furniture is stuck: it is locked and nobody holds it. -/
def Stuck (world : ServerWorld P F R) (furniture : F) : Prop :=
  world.lock furniture ≠ 0 ∧ ∀ player, world.selected player ≠ some furniture

variable {world : ServerWorld P F R} {table : TenureTable P F}

omit [DecidableEq P] [DecidableEq F] in
theorem Keeps.stuck_iff (keeps : Keeps world table) (furniture : F) :
    Stuck world furniture ↔ table.tenure furniture = .orphaned := by
  simp only [Stuck, ne_eq, keeps.unlocked, keeps.selected]
  cases table.tenure furniture <;> simp

omit [DecidableEq F] in
theorem Keeps.join (keeps : Keeps world table) (playerColorMPC : String → FLinearColor R)
    {joining : P} (absent : world.players joining = none) (location : FVector R) :
    Keeps (world.join playerColorMPC joining location) table := by
  refine ⟨keeps.unlocked, fun other furniture => ?_⟩
  rw [← keeps.selected, selected_join]
  by_cases isJoining : other = joining
  · simp [isJoining, ServerWorld.selected, absent]
  · simp [isJoining]

theorem Keeps.leave (keeps : Keeps world table) (leaving : P) :
    Keeps (world.leave leaving) (table.after (.vanish leaving)) := by
  constructor
  · intro furniture
    rw [lock, furniture_leave, ← lock, keeps.unlocked, TenureTable.after, TenureTable.tenure_close]
    split
    · rename_i held
      simp [held]
    · rfl
  · intro other furniture
    rw [selected_leave, TenureTable.after, TenureTable.tenure_close_held, ← keeps.selected]
    by_cases isLeaving : other = leaving
    · simp [isLeaving]
    · simp [isLeaving]

omit [DecidableEq F] in
/-- A handler of one pawn turns the table into another one when it does so to the lock numbers and
to the sender's tenures, and the tenures of the others stay. -/
theorem Keeps.put (keeps : Keeps world table) {sender : P} {player : Player F R}
    {after : LocalWorld F R} {later : TenureTable P F}
    (unlocked : ∀ furniture, (after.furniture furniture).selectingStencilSlot = 0 ↔
      later.tenure furniture = .free)
    (own : ∀ furniture, after.pawn.selectedFurniture = some furniture ↔
      later.tenure furniture = .held sender)
    (others : ∀ other furniture, other ≠ sender →
      (later.tenure furniture = .held other ↔ table.tenure furniture = .held other)) :
    Keeps (world.put sender player after) later := by
  refine ⟨unlocked, fun other furniture => ?_⟩
  rw [selected_put]
  by_cases isSender : other = sender
  · rw [if_pos isSender, isSender, own]
  · rw [if_neg isSender, keeps.selected, others other furniture isSender]

omit [DecidableEq F] in
theorem Keeps.put_kept (keeps : Keeps world table) {sender : P} {player : Player F R}
    (live : world.players sender = some player) {after : LocalWorld F R}
    (selected : after.pawn.selectedFurniture = player.pawn.selectedFurniture)
    (slot : ∀ furniture, (after.furniture furniture).selectingStencilSlot = world.lock furniture) :
    Keeps (world.put sender player after) table := by
  refine keeps.put (fun furniture => ?_) (fun furniture => ?_) fun _ _ _ => Iff.rfl
  · rw [slot, keeps.unlocked]
  · rw [selected, ← selected_of_live live, keeps.selected]

theorem Keeps.put_switched (keeps : Keeps world table) {sender : P} {player : Player F R}
    (live : world.players sender = some player) (owned : player.playerState.stencilSlot ≠ 0)
    {target : F} (free : world.lock target = 0) {after : LocalWorld F R}
    (selected : after.pawn.selectedFurniture = some target)
    (slot : ∀ furniture, (after.furniture furniture).selectingStencilSlot =
      if furniture = target then player.playerState.stencilSlot
      else if player.pawn.selectedFurniture = some furniture then 0 else world.lock furniture) :
    Keeps (world.put sender player after) (table.after (.take sender target)) := by
  have freeTenure := (keeps.unlocked target).mp free
  have holds : ∀ furniture, player.pawn.selectedFurniture = some furniture ↔
      table.tenure furniture = .held sender := by
    intro furniture
    rw [← selected_of_live live, keeps.selected]
  refine keeps.put (fun furniture => ?_) (fun furniture => ?_) fun other furniture distinct =>
    TenureTable.after_take_held distinct furniture
  · rw [slot, TenureTable.after_take_free freeTenure]
    by_cases isTarget : furniture = target
    · simp [isTarget, owned]
    · by_cases own : table.tenure furniture = .held sender
      · simp [isTarget, own, holds]
      · simp [isTarget, own, holds, keeps.unlocked]
  · rw [selected, TenureTable.after_take_free freeTenure]
    by_cases isTarget : furniture = target
    · simp [isTarget]
    · have distinct : target ≠ furniture := fun equal => isTarget equal.symm
      by_cases own : table.tenure furniture = .held sender
      · simp [isTarget, distinct, own]
      · simp [isTarget, distinct, own]

theorem Keeps.put_released (keeps : Keeps world table) {sender : P} {player : Player F R}
    (live : world.players sender = some player) {after : LocalWorld F R}
    (selected : after.pawn.selectedFurniture = none)
    (slot : ∀ furniture, (after.furniture furniture).selectingStencilSlot =
      if player.pawn.selectedFurniture = some furniture then 0 else world.lock furniture) :
    Keeps (world.put sender player after) (table.after (.drop sender)) := by
  have holds : ∀ furniture, player.pawn.selectedFurniture = some furniture ↔
      table.tenure furniture = .held sender := by
    intro furniture
    rw [← selected_of_live live, keeps.selected]
  refine keeps.put (fun furniture => ?_) (fun furniture => ?_) fun other furniture distinct => ?_
  · rw [slot, TenureTable.after, TenureTable.tenure_close]
    by_cases own : table.tenure furniture = .held sender
    · simp [own, holds]
    · simp [own, holds, keeps.unlocked]
  · rw [selected]
    simp [TenureTable.after, TenureTable.close_idle]
  · rw [TenureTable.after, TenureTable.tenure_close_held]
    simp [distinct]

/-- Executing a call does to the locks what its action does to the table. -/
theorem Keeps.execute (keeps : Keeps world table) {sender : P} {player : Player F R}
    (live : world.players sender = some player) (owned : player.playerState.stencilSlot ≠ 0)
    (serverCall : ServerCall F R) :
    Keeps (world.execute sender serverCall)
      (table.after (tenureAction (.call sender serverCall))) := by
  rw [ServerWorld.execute, act_eq live]
  have transform : ∀ serverCall : ServerCall F R, serverCall.isReliable = false →
      Keeps (world.put sender player (LocalWorld.execute serverCall (world.localWorld player)))
        table := by
    intro serverCall unreliable
    obtain ⟨selected, moved⟩ : (LocalWorld.execute serverCall
          (world.localWorld player)).pawn.selectedFurniture = player.pawn.selectedFurniture ∧ _ :=
      execute_unreliable unreliable
    refine keeps.put_kept live selected fun furniture => ?_
    rw [moved]
    by_cases own : (world.localWorld player).pawn.selectedFurniture = some furniture
    · rw [own, modifyOpt_self, transform_slot]
      rfl
    · rw [modifyOpt_of_ne own]
      rfl
  cases serverCall with
  | selectFurniture pointer =>
      cases pointer with
      | none => exact keeps.put_kept live rfl fun _ => rfl
      | some target =>
          by_cases free : world.lock target = 0
          · refine keeps.put_switched live owned free ?_
              fun furniture => select_accepted_slot rfl rfl free furniture
            rw [LocalWorld.execute, select_accepted rfl free]
          · have taken : table.tenure target ≠ .free := fun isFree =>
              free ((keeps.unlocked target).mpr isFree)
            rw [LocalWorld.execute, select_refused free]
            simp only [tenureAction, TenureTable.after_take_taken taken]
            exact keeps.put_kept live rfl fun _ => rfl
  | deselectFurniture =>
      refine keeps.put_released live ?_ fun furniture => ?_
      · simp only [LocalWorld.execute, serverDeselectFurnitureImplementation]
        split
        · assumption
        · rfl
      · cases holds : player.pawn.selectedFurniture with
        | none =>
            have nothing : (world.localWorld player).pawn.selectedFurniture = none := holds
            simp only [LocalWorld.execute, serverDeselectFurnitureImplementation, nothing]
            rfl
        | some held =>
            have own : (world.localWorld player).pawn.selectedFurniture = some held := holds
            simp only [LocalWorld.execute, serverDeselectFurnitureImplementation, own]
            exact modifyOpt_slot onDeselected_slot (some held) (world.localWorld player) furniture
  | dragFurniture newLocation => exact transform (.dragFurniture newLocation) rfl
  | rotateFurniture newRotation => exact transform (.rotateFurniture newRotation) rfl
  | orbitTransform newLocation newRotation =>
      exact transform (.orbitTransform newLocation newRotation) rfl

theorem keeps_of_run {playerColorMPC : String → FLinearColor R}
    {history : List (ServerWorld P F R × Event P F R)}
    (run : (dedicatedServer playerColorMPC).Run history world) :
    Keeps world (tenures history) := by
  induction run with
  | @start initial started =>
      obtain ⟨_, empty, unlocked⟩ := started
      refine ⟨fun furniture => ?_, fun player furniture => ?_⟩
      · simp [unlocked furniture, tenures, TenureTable.account, TenureTable.vacant]
      · simp [selected, empty player, tenures, TenureTable.account, TenureTable.vacant]
  | @step history before event earlier enabled keeps =>
      obtain ⟨_, _, locks⟩ := exists_locks earlier
      cases event with
      | join player location => exact keeps.join playerColorMPC enabled location
      | leave player => exact keeps.leave player
      | call sender serverCall =>
          obtain ⟨player, live⟩ := Option.isSome_iff_exists.mp enabled
          exact keeps.execute live (locks.owned sender _ (slot_of_live live)) serverCall

/-- The server's locks and selections are exactly those which the order of the joins, leaves and
selection calls accounts for. -/
theorem tenures_decide {playerColorMPC : String → FLinearColor R}
    {history : List (ServerWorld P F R × Event P F R)}
    (run : (dedicatedServer playerColorMPC).Run history world) (furniture : F) :
    (world.lock furniture = 0 ↔ (tenures history).tenure furniture = .free) ∧
      (∀ player, world.selected player = some furniture ↔
        (tenures history).tenure furniture = .held player) ∧
      (Stuck world furniture ↔ (tenures history).tenure furniture = .orphaned) := by
  have keeps := keeps_of_run run
  exact ⟨keeps.unlocked furniture, fun player => keeps.selected player furniture,
    keeps.stuck_iff furniture⟩

/-- A first player takes one furniture after the other and leaves, a second one asks for both. -/
def successionEvents : List (Event Nat Nat ℚ) :=
  [.join 0 0, .call 0 (.selectFurniture (some 5)), .call 0 (.selectFurniture (some 7)), .leave 0,
    .join 1 0, .call 1 (.selectFurniture (some 7)), .call 1 (.selectFurniture (some 5))]

theorem legal_succession :
    (dedicatedServer fun _ => .white).Legal (vacant : ServerWorld Nat Nat ℚ) successionEvents :=
  ⟨rfl, rfl, rfl, rfl, rfl, rfl, rfl, trivial⟩

theorem tenures_decide_succession :
    ∃ world : ServerWorld Nat Nat ℚ, Stuck world 7 ∧ world.selected 1 = some 5 := by
  have decided := tenures_decide ((run_vacant _).replay legal_succession)
  exact ⟨_, (decided 7).2.2.mpr (by decide +kernel), ((decided 5).2.1 1).mpr (by decide +kernel)⟩

/-- A stuck furniture does not change, and nobody ever gets hold of it. -/
theorem Stuck.next {furniture : F} (stuck : Stuck world furniture)
    {playerColorMPC : String → FLinearColor R} {event : Event P F R}
    (enabled : (dedicatedServer playerColorMPC).Enabled world event) :
    ((dedicatedServer playerColorMPC).next world event).furniture furniture =
        world.furniture furniture ∧
      Stuck ((dedicatedServer playerColorMPC).next world event) furniture := by
  obtain ⟨locked, unheld⟩ := stuck
  cases event with
  | join player location =>
      refine ⟨rfl, locked, fun other holds => ?_⟩
      rw [dedicatedServer, selected_join] at holds
      split at holds
      · simp at holds
      · exact unheld other holds
  | leave player =>
      have untouched : (world.leave player).furniture furniture = world.furniture furniture :=
        congrFun (furniture_leave player) furniture
      refine ⟨untouched, ?_, fun other holds => ?_⟩
      · rwa [lock, dedicatedServer, untouched]
      · rw [dedicatedServer, selected_leave] at holds
        split at holds
        · simp at holds
        · exact unheld other holds
  | call sender serverCall =>
      have refused : (world.execute sender serverCall).selected sender ≠ some furniture := by
        obtain ⟨player, live⟩ := Option.isSome_iff_exists.mp enabled
        intro holds
        rw [execute, act_eq live, selected_put, if_pos rfl] at holds
        have idle : (world.localWorld player).pawn.selectedFurniture ≠ some furniture :=
          fun own => unheld sender ((selected_of_live live).trans own)
        have isSelect := execute_acquires idle holds
        rw [isSelect, LocalWorld.execute, select_refused locked] at holds
        exact idle holds
      have untouched := furniture_execute_of_unheld (unheld sender) refused
      refine ⟨untouched, ?_, fun other => ?_⟩
      · rwa [lock, dedicatedServer, untouched]
      · by_cases isSender : other = sender
        · rw [isSender]
          exact refused
        · rw [dedicatedServer, selected_execute_of_ne isSender]
          exact unheld other

/-- A furniture becomes stuck when its holder leaves, and only then. -/
theorem stuck_next_iff {playerColorMPC : String → FLinearColor R}
    {history : List (ServerWorld P F R × Event P F R)}
    (run : (dedicatedServer playerColorMPC).Run history world) {event : Event P F R}
    (enabled : (dedicatedServer playerColorMPC).Enabled world event) {furniture : F} :
    Stuck ((dedicatedServer playerColorMPC).next world event) furniture ↔
      Stuck world furniture ∨
        ∃ player, event = .leave player ∧ world.selected player = some furniture := by
  have before := keeps_of_run run
  have after := keeps_of_run (run.step enabled)
  rw [after.stuck_iff, before.stuck_iff]
  simp only [before.selected]
  constructor
  · intro orphaned
    refine (TenureTable.orphaned_of_after orphaned).imp_right ?_
    rintro ⟨owner, isVanish, held⟩
    refine ⟨owner, ?_, held⟩
    cases event with
    | join player location => simp [tenureAction] at isVanish
    | leave player =>
        simp only [tenureAction, TenureAction.vanish.injEq] at isVanish
        rw [isVanish]
    | call sender serverCall =>
        cases serverCall with
        | selectFurniture pointer => cases pointer <;> simp [tenureAction] at isVanish
        | _ => simp [tenureAction] at isVanish
  · rintro (orphaned | ⟨player, rfl, held⟩)
    · exact TenureTable.after_orphaned orphaned _
    · change ((tenures history).after (.vanish player)).tenure furniture = .orphaned
      rw [TenureTable.after, TenureTable.tenure_close, if_pos held]

theorem stuck_of_left {playerColorMPC : String → FLinearColor R}
    {history : List (ServerWorld P F R × Event P F R)}
    (run : (dedicatedServer playerColorMPC).Run history world) {furniture : F} {player : P}
    {past : ServerWorld P F R × Event P F R} (member : past ∈ history)
    (left : past.2 = .leave player) (held : past.1.selected player = some furniture) :
    world.furniture furniture = past.1.furniture furniture ∧ Stuck world furniture := by
  induction run with
  | start => simp at member
  | @step history before event earlier enabled induction =>
      rcases List.mem_cons.mp member with rfl | older
      · refine ⟨?_, (stuck_next_iff earlier enabled).mpr (.inr ⟨player, left, held⟩)⟩
        have isLeave : event = .leave player := left
        rw [isLeave]
        exact congrFun (furniture_leave player) furniture
      · obtain ⟨same, stuck⟩ := induction older
        obtain ⟨untouched, stuckNext⟩ := stuck.next enabled
        exact ⟨untouched.trans same, stuckNext⟩

/-- A furniture is stuck exactly when some earlier player left while holding it, and it is still as
that player left it. -/
theorem stuck_iff_left_held {playerColorMPC : String → FLinearColor R}
    {history : List (ServerWorld P F R × Event P F R)}
    (run : (dedicatedServer playerColorMPC).Run history world) (furniture : F) :
    (Stuck world furniture ↔
      ∃ past ∈ history, ∃ player, past.2 = .leave player ∧
        past.1.selected player = some furniture) ∧
      ∀ past ∈ history, ∀ player, past.2 = .leave player →
        past.1.selected player = some furniture →
        world.furniture furniture = past.1.furniture furniture := by
  refine ⟨⟨fun stuck => ?_, ?_⟩, fun past member player left held =>
    (stuck_of_left run member left held).1⟩
  · induction run with
    | start started => exact absurd (started.2.2 furniture).1 stuck.1
    | step earlier enabled induction =>
        rcases (stuck_next_iff earlier enabled).mp stuck with stuckBefore | ⟨player, left, held⟩
        · obtain ⟨past, member, isLeave⟩ := induction stuckBefore
          exact ⟨past, List.mem_cons_of_mem _ member, isLeave⟩
        · exact ⟨_, List.mem_cons_self, player, left, held⟩
  · rintro ⟨past, member, player, left, held⟩
    exact (stuck_of_left run member left held).2

theorem stuck_iff_left_held_succession :
    ∃ world : ServerWorld Nat Nat ℚ, Stuck world 7 ∧ world.lock 7 = 1 := by
  have stuck := stuck_iff_left_held ((run_vacant _).replay legal_succession) 7
  exact ⟨_, stuck.1.mpr ⟨_, .tail _ (.tail _ (.tail _ (.head _))), 0, rfl, rfl⟩, rfl⟩

end ServerWorld

end Ioroom
