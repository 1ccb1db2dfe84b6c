import Ioroom.HandlerEffects
import Ioroom.LockLifetime

/-!
# The host of a listen server

The host's pawn is local and authoritative: its calls run at once on the object whose
`SelectedFurniture` the click handler then writes.  The lock protocol survives exactly those host
inputs which never select a furniture locked by somebody else.
-/

namespace Ioroom

open FurnitureActor LocalWorld

namespace LocalWorld

variable {F R : Type*} [DecidableEq F] [Field R]

/-- A release of the left button which selects selects an unlocked furniture or the held one. -/
def ClicksOwnOrUnlocked (world : LocalWorld F R) (event : PawnEvent F R) : Prop :=
  ∀ spawned pressed, event = .leftClickingReleased spawned →
    world.pawn.leftClickState = .pressed → world.pawn.pressedFurniture = some pressed →
    (world.furniture pressed).selectingStencilSlot = 0 ∨
      world.pawn.selectedFurniture = some pressed

theorem GestureEffect.lockOutcome {world after : LocalWorld F R}
    (effect : GestureEffect world after) : LockOutcome world after := by
  cases effect with
  | kept same => exact .kept same.selected fun other => (same.furniture other).slot
  | moved serverCall unreliable holds frame selected furniture sent =>
      refine .kept selected fun other => ?_
      rw [(furniture other).slot]
      by_cases own : world.pawn.selectedFurniture = some other
      · rw [own, modifyOpt_self, transform_slot]
      · rw [modifyOpt_of_ne own]

/-- On the authority a handler whose selection is legitimate acts on the locks like a call. -/
theorem Effect.lockOutcome {event : PawnEvent F R} {world after : LocalWorld F R}
    {playerState : IoroomPlayerState R} (effect : Effect event world after)
    (authority : world.hasAuthority = true) (owner : world.playerState = some playerState)
    (legitimate : ClicksOwnOrUnlocked world event) : LockOutcome world after := by
  cases effect with
  | gesture gesture => exact gesture.lockOutcome
  | selecting spawned pressed released state press selected furniture sent =>
      simp only [call, authority, if_true, execute] at furniture
      by_cases free : (world.furniture pressed).selectingStencilSlot = 0
      · refine .switched pressed playerState owner free selected fun other => ?_
        rw [(furniture other).slot]
        exact select_accepted_slot authority owner free other
      · have own : world.pawn.selectedFurniture = some pressed :=
          (legitimate spawned pressed released state press).resolve_left free
        refine .kept (selected.trans own.symm) fun other => ?_
        rw [(furniture other).slot, select_refused free]
  | deselecting spawned held released state press holds selected furniture sent =>
      simp only [call, authority, if_true, execute, serverDeselectFurnitureImplementation,
        holds] at furniture
      refine .released held holds selected fun other => ?_
      rw [(furniture other).slot]
      have slots := modifyOpt_slot onDeselected_slot (some held) world other
      simpa only [modifyOpt_some, Option.some.injEq, eq_comm] using slots

theorem GestureEffect.untouched {world after : LocalWorld F R}
    (effect : GestureEffect world after) {furniture : F}
    (unheld : world.pawn.selectedFurniture ≠ some furniture) :
    SameActor (after.furniture furniture) (world.furniture furniture) := by
  cases effect with
  | kept same => exact same.furniture furniture
  | moved serverCall unreliable holds frame selected same sent =>
      have moved := same furniture
      rwa [modifyOpt_of_ne unheld] at moved

/-- On the authority a handler leaves alone, up to the overlay, every locked furniture which its
pawn does not hold. -/
theorem Effect.untouched {event : PawnEvent F R} {world after : LocalWorld F R}
    {playerState : IoroomPlayerState R} (effect : Effect event world after)
    (authority : world.hasAuthority = true) (owner : world.playerState = some playerState)
    {furniture : F}
    (unheld : world.pawn.selectedFurniture ≠ some furniture)
    (locked : (world.furniture furniture).selectingStencilSlot ≠ 0) :
    SameActor (after.furniture furniture) (world.furniture furniture) := by
  cases effect with
  | gesture gesture => exact gesture.untouched unheld
  | selecting spawned pressed released state press selected same sent =>
      have called := same furniture
      simp only [call, authority, if_true, execute] at called
      by_cases free : (world.furniture pressed).selectingStencilSlot = 0
      · have distinct : furniture ≠ pressed := by
          rintro rfl
          exact locked free
        rwa [select_accepted owner free, modify_furniture, Function.update_of_ne distinct,
          modifyOpt_of_ne unheld] at called
      · rwa [select_refused free] at called
  | deselecting spawned held released state press holds selected same sent =>
      have distinct : furniture ≠ held := by
        rintro rfl
        exact unheld holds
      have called := same furniture
      simp only [call, authority, if_true, execute, serverDeselectFurnitureImplementation,
        holds] at called
      rwa [modify_furniture, Function.update_of_ne distinct] at called

end LocalWorld

namespace ServerWorld

variable {P F R : Type*} [DecidableEq P] [DecidableEq F] [Field R]

/-- The events of a listen server with a fixed set of players: inputs of the host and calls of the
remote players. -/
inductive HostEvent (P F R : Type*)
  | input (event : PawnEvent F R)
  | call (sender : P) (serverCall : ServerCall F R)

section Host

variable [LinearOrder R] [FloorRing R] [EngineMath R]

/-- A listen server whose players hold distinct positive slots and nothing else. -/
def listenServer (host : P) : EventSystem (ServerWorld P F R) (HostEvent P F R) where
  Start world :=
    (world.players host).isSome = true ∧
      (∀ player stencilSlot, world.slot player = some stencilSlot → 0 < stencilSlot) ∧
      (∀ left right, (world.players left).isSome = true →
        world.slot left = world.slot right → left = right) ∧
      (∀ player, world.selected player = none) ∧ ∀ furniture, world.lock furniture = 0
  Enabled world
    | .input _ => True
    | .call sender _ => (world.players sender).isSome = true ∧ sender ≠ host
  next world
    | .input event => world.act host (LocalWorld.handle event)
    | .call sender serverCall => world.execute sender serverCall

/-- The host's selection carries the host's slot, and nothing else does. -/
structure HostLock (host : P) (world : ServerWorld P F R) : Prop where
  selected_locked : ∀ furniture, world.selected host = some furniture →
    world.slot host = some (world.lock furniture)
  locked_selected : ∀ furniture, world.slot host = some (world.lock furniture) →
    world.selected host = some furniture

/-- An input of the host neither moves, unlocks nor overwrites the lock of a furniture held by
another live pawn. -/
def SparesOthers (host : P) (world : ServerWorld P F R) (event : HostEvent P F R) : Prop :=
  ∀ input, event = .input input → ∀ other furniture, other ≠ host →
    world.selected other = some furniture →
    ((listenServer host).next world event).lock furniture = world.lock furniture ∧
      (((listenServer host).next world event).furniture furniture).location =
        (world.furniture furniture).location ∧
      (((listenServer host).next world event).furniture furniture).rotation =
        (world.furniture furniture).rotation

/-- The host releases the button on an unlocked furniture or on the one it holds. -/
def HostClicksOwnOrUnlocked (host : P) (world : ServerWorld P F R) (event : HostEvent P F R) :
    Prop :=
  ∀ input player, event = .input input → world.players host = some player →
    ClicksOwnOrUnlocked (world.localWorld player) input

/-- The invariant of the listen server. -/
structure HostSound (host : P) (world : ServerWorld P F R) : Prop where
  live : (world.players host).isSome = true
  locks : ∃ custody, Locks world custody
  covered : Covered world
  distinct : ∀ left right, (world.players left).isSome = true →
    world.slot left = world.slot right → left = right

variable {world : ServerWorld P F R} {host : P}

omit [DecidableEq P] [DecidableEq F] [LinearOrder R] [FloorRing R] [EngineMath R] in
theorem HostSound.start (live : (world.players host).isSome = true)
    (positive : ∀ player stencilSlot, world.slot player = some stencilSlot → 0 < stencilSlot)
    (distinct : ∀ left right, (world.players left).isSome = true →
      world.slot left = world.slot right → left = right)
    (idle : ∀ player, world.selected player = none)
    (unlocked : ∀ furniture, world.lock furniture = 0) : HostSound host world := by
  refine ⟨live, ⟨.vacant, ?_, ?_, ?_⟩, ?_, distinct⟩
  · intro player
    exact (idle player).symm
  · intro player stencilSlot stored
    exact ne_of_gt (positive player stencilSlot stored)
  · intro player furniture holds
    simp [idle] at holds
  · exact fun furniture locked => (locked (unlocked furniture)).elim

omit [LinearOrder R] [FloorRing R] [EngineMath R] in
theorem HostSound.put (sound : HostSound host world) {sender : P} {player : Player F R}
    (live : world.players sender = some player) {after : LocalWorld F R}
    (outcome : LockOutcome (world.localWorld player) after) :
    HostSound host (world.put sender player after) := by
  obtain ⟨custody, locks⟩ := sound.locks
  obtain ⟨later, _, locksAfter⟩ := locks.put live outcome
  have same : ∀ other, ((world.put sender player after).players other).isSome =
      (world.players other).isSome := by
    intro other
    rw [← slot_isSome, slot_put live, slot_isSome]
  refine ⟨?_, ⟨later, locksAfter⟩, sound.covered.put live outcome, ?_⟩
  · rw [same]
    exact sound.live
  · intro left right leftLive sameSlot
    rw [same] at leftLive
    rw [slot_put live, slot_put live] at sameSlot
    exact sound.distinct left right leftLive sameSlot

theorem HostSound.next (sound : HostSound host world) {event : HostEvent P F R}
    (enabled : (listenServer host).Enabled world event)
    (allowed : HostClicksOwnOrUnlocked host world event) :
    HostSound host ((listenServer host).next world event) := by
  cases event with
  | input input =>
      obtain ⟨player, live⟩ := Option.isSome_iff_exists.mp sound.live
      have effect := handle_effect input (world.localWorld player)
      simp only [listenServer, act_eq live]
      exact sound.put live (effect.lockOutcome rfl rfl (allowed input player rfl live))
  | call sender serverCall =>
      obtain ⟨player, live⟩ := Option.isSome_iff_exists.mp enabled.1
      simp only [listenServer, execute, act_eq live]
      exact sound.put live (execute_lock rfl rfl serverCall)

omit [DecidableEq P] [DecidableEq F] [LinearOrder R] [FloorRing R] [EngineMath R] in
theorem HostSound.hostLock (sound : HostSound host world) : HostLock host world := by
  obtain ⟨custody, locks⟩ := sound.locks
  refine ⟨locks.locked host, ?_⟩
  intro furniture carries
  obtain ⟨holder, holds⟩ := sound.covered furniture (locks.owned host _ carries)
  have same : host = holder :=
    sound.distinct host holder sound.live (carries.trans (locks.locked holder furniture holds).symm)
  rwa [same]

theorem HostSound.sparesOthers (sound : HostSound host world) (event : HostEvent P F R) :
    SparesOthers host world event := by
  rintro input rfl other furniture distinct holds
  obtain ⟨custody, locks⟩ := sound.locks
  obtain ⟨player, live⟩ := Option.isSome_iff_exists.mp sound.live
  have unheld : player.pawn.selectedFurniture ≠ some furniture := by
    intro hostHolds
    exact distinct (locks.exclusive holds ((selected_of_live live).trans hostHolds))
  have effect := handle_effect input (world.localWorld player)
  have same := effect.untouched rfl rfl unheld (locks.lock_ne_zero holds)
  simp only [listenServer, act_eq live]
  exact ⟨same.slot, same.location, same.rotation⟩

/-- After a click on a furniture locked by somebody else the host's selection carries a foreign
slot. -/
theorem HostSound.foreign (sound : HostSound host world) {input : PawnEvent F R}
    {player : Player F R} (live : world.players host = some player)
    (forbidden : ¬ClicksOwnOrUnlocked (world.localWorld player) input) :
    ¬HostLock host ((listenServer host).next world (.input input)) := by
  intro hostLock
  simp only [ClicksOwnOrUnlocked, not_forall, not_or] at forbidden
  obtain ⟨spawned, pressed, rfl, state, press, locked, unheld⟩ := forbidden
  obtain ⟨custody, locks⟩ := sound.locks
  obtain ⟨holder, holds⟩ := sound.covered pressed locked
  have notHost : holder ≠ host := by
    rintro rfl
    exact unheld ((selected_of_live live).symm.trans holds)
  have kept : ((listenServer host).next world
      (.input (.leftClickingReleased spawned))).lock pressed = world.lock pressed :=
    (sound.sparesOthers (.input (.leftClickingReleased spawned)) _ rfl holder pressed notHost
      holds).1
  have selects : ((listenServer host).next world
      (.input (.leftClickingReleased spawned))).selected host = some pressed := by
    simp only [listenServer, act_eq live]
    rw [selected_put, if_pos rfl]
    simp [handle, leftClickingReleased, state, press, selectPressed]
  have carries := hostLock.selected_locked pressed selects
  have slot : ((listenServer host).next world
      (.input (.leftClickingReleased spawned))).slot host = world.slot host := by
    simp only [listenServer, act_eq live]
    exact slot_put live host
  rw [slot, kept] at carries
  exact notHost (sound.distinct host holder sound.live
    (carries.trans (locks.locked holder pressed holds).symm)).symm

/-- The lock protocol holds for the host along a run, and no input of the host disturbs another
pawn's furniture, exactly when the host only ever released the button on unlocked furniture and on
its own. -/
theorem hostLock_iff_clicksOwnOrUnlocked
    {history : List (ServerWorld P F R × HostEvent P F R)}
    (run : (listenServer host).Run history world) :
    (EventSystem.Along (HostLock host) history world ∧
        EventSystem.Guarded (SparesOthers host) history) ↔
      EventSystem.Guarded (HostClicksOwnOrUnlocked host) history := by
  have start : ∀ initial : ServerWorld P F R, (listenServer host).Start initial →
      HostSound host initial := by
    rintro initial ⟨live, positive, distinct, idle, unlocked⟩
    exact .start live positive distinct idle unlocked
  have keep : ∀ (before : ServerWorld P F R) (event : HostEvent P F R), HostSound host before →
      (listenServer host).Enabled before event → HostClicksOwnOrUnlocked host before event →
      HostSound host ((listenServer host).next before event) :=
    fun _ _ sound enabled allowed => sound.next enabled allowed
  have along : EventSystem.Along (HostLock host) history world ↔
      EventSystem.Guarded (HostClicksOwnOrUnlocked host) history := by
    refine run.along_iff_guarded start (fun _ sound => sound.hostLock) keep ?_
    intro before event sound enabled forbidden
    simp only [HostClicksOwnOrUnlocked, not_forall] at forbidden
    obtain ⟨input, player, rfl, live, foreign⟩ := forbidden
    exact sound.foreign live foreign
  constructor
  · rintro ⟨hostLocks, _⟩
    exact along.mp hostLocks
  · intro guarded
    refine ⟨along.mpr guarded, fun past member => ?_⟩
    have sound : HostSound host past.1 := (run.guarded_along guarded start keep).2 past member
    exact sound.sparesOthers past.2

end Host

section TwoPlayers

local instance listenMath : EngineMath ℚ := quarterTurnMath

/-- The host is player 0 with slot 1; player 1 has slot 2. -/
def twoPlayers : ServerWorld Nat Nat ℚ where
  gameState := .create
  furniture _ := { location := 0, rotation := ⟨0, 0, 0⟩ }
  players player :=
    if player < 2 then some { playerState := { stencilSlot := player + 1 }, pawn := .spawn 0 }
    else none

theorem twoPlayers_slot {player : Nat} {stencilSlot : Int}
    (stored : twoPlayers.slot player = some stencilSlot) : stencilSlot = player + 1 := by
  simp only [slot, twoPlayers] at stored
  split at stored
  · exact (Option.some.inj stored).symm
  · simp at stored

theorem run_twoPlayers : (listenServer 0).Run [] twoPlayers := by
  refine .start ⟨rfl, ?_, ?_, ?_, fun _ => rfl⟩
  · intro player stencilSlot stored
    have number := twoPlayers_slot stored
    omega
  · intro left right live same
    rw [← slot_isSome] at live
    obtain ⟨stencilSlot, stored⟩ := Option.isSome_iff_exists.mp live
    have leftNumber := twoPlayers_slot stored
    have rightNumber := twoPlayers_slot (same.symm.trans stored)
    omega
  · intro player
    simp only [selected, twoPlayers]
    split <;> rfl

/-- The host clicks a furniture nobody has locked. -/
theorem hostLock_iff_clicksOwnOrUnlocked_alone :
    ∃ (history : List (ServerWorld Nat Nat ℚ × HostEvent Nat Nat ℚ))
      (world : ServerWorld Nat Nat ℚ), history.length = 2 ∧ world.selected 0 = some 5 ∧
      EventSystem.Along (HostLock 0) history world ∧
        EventSystem.Guarded (SparesOthers 0) history := by
  have legal : (listenServer 0).Legal twoPlayers
      [.input (.leftClicking (some (.overhead none (some 5)))),
        .input (.leftClickingReleased true)] :=
    ⟨trivial, trivial, trivial⟩
  refine ⟨_, _, rfl, rfl,
    (hostLock_iff_clicksOwnOrUnlocked (run_twoPlayers.replay legal)).mpr ?_⟩
  simp only [EventSystem.record, EventSystem.guarded_cons, EventSystem.guarded_nil, and_true]
  constructor
  · rintro input player ⟨⟩ ⟨⟩ spawned pressed ⟨⟩ _ ⟨⟩
    exact Or.inl rfl
  · rintro input player ⟨⟩ ⟨⟩ spawned pressed ⟨⟩

/-- Player 1 locks a furniture; the host clicks it and from then on selects a furniture which
carries player 1's slot. -/
theorem host_selects_foreign_lock :
    ¬∀ world : ServerWorld Nat Nat ℚ, (listenServer 0).Reachable world → HostLock 0 world := by
  intro claim
  have legal : (listenServer 0).Legal twoPlayers
      [.call 1 (.selectFurniture (some 5)), .input (.leftClicking (some (.overhead none (some 5)))),
        .input (.leftClickingReleased true)] :=
    ⟨⟨rfl, by decide⟩, trivial, trivial, trivial⟩
  have hostLock := claim _ ⟨_, run_twoPlayers.replay legal⟩
  have carries := hostLock.selected_locked 5 rfl
  exact absurd carries (by decide)

end TwoPlayers

end ServerWorld

end Ioroom
