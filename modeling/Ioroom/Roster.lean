import Ioroom.Custody
import Ioroom.EventSystem
import Ioroom.IoroomPlayerState

/-!
# The roster of player states

Player states begin and end play on the server and share one stencil-slot pool.  The pool does not
record who owns a slot; the abstract custody of the ten slots does, and every begin or end of play
is a custody step.
-/

namespace Ioroom

/-- The game state together with the live player states. -/
structure Roster (P R : Type*) [One R] where
  gameState : IoroomGameState
  playerStates : P → Option (IoroomPlayerState R)

namespace Roster

variable {P R : Type*} [DecidableEq P] [Field R]

/-- `BeginPlay` of a new player state on the authority. -/
def beginPlay (playerColorMPC : String → FLinearColor R) (player : P) (roster : Roster P R) :
    Roster P R :=
  let initialized := IoroomPlayerState.initializePlayerColor playerColorMPC roster.gameState {}
  { gameState := initialized.1
    playerStates := Function.update roster.playerStates player (some initialized.2) }

/-- `EndPlay` of a live player state on the authority. -/
def endPlay (player : P) (roster : Roster P R) : Roster P R :=
  match roster.playerStates player with
  | none => roster
  | some playerState =>
      { gameState := playerState.endPlay roster.gameState
        playerStates := Function.update roster.playerStates player none }

/-- The stencil slot of a live player. -/
def slot (roster : Roster P R) (player : P) : Option Int :=
  (roster.playerStates player).map (·.stencilSlot)

/-- Players begin and end play. -/
inductive Event (P : Type*)
  | beginPlay (player : P)
  | endPlay (player : P)

/-- Any number of players beginning and ending play in any order. -/
def system (playerColorMPC : String → FLinearColor R) :
    EventSystem (Roster P R) (Event P) where
  Start roster := roster.gameState = .create ∧ ∀ player, roster.playerStates player = none
  Enabled roster
    | .beginPlay player => roster.playerStates player = none
    | .endPlay player => (roster.playerStates player).isSome = true
  next roster
    | .beginPlay player => roster.beginPlay playerColorMPC player
    | .endPlay player => roster.endPlay player

instance (playerColorMPC : String → FLinearColor R) (roster : Roster P R) (event : Event P) :
    Decidable ((system playerColorMPC).Enabled roster event) :=
  match event with
  | .beginPlay player => inferInstanceAs (Decidable (roster.playerStates player = none))
  | .endPlay player => inferInstanceAs (Decidable ((roster.playerStates player).isSome = true))

/-- The custody of slots behind a roster: an entry is used exactly when its slot is held, and a
player holds the slot stored in the player state, unless that is the failure value. -/
structure Represents (playerColorMPC : String → FLinearColor R) (roster : Roster P R)
    (custody : Custody P (Fin IoroomGameState.maxPlayers)) : Prop where
  used : ∀ index, roster.gameState.used index = false ↔ custody.Free index
  held : ∀ player index,
    custody.held player = some index ↔ roster.slot player = some ((index : Int) + 1)
  valid : ∀ player stencilSlot, roster.slot player = some stencilSlot →
    stencilSlot = -1 ∨ ∃ index : Fin IoroomGameState.maxPlayers, stencilSlot = (index : Int) + 1
  colored : ∀ player playerState, roster.playerStates player = some playerState →
    playerState.assignedColor =
      playerColorMPC (IoroomPlayerState.playerColorName playerState.stencilSlot)

variable {playerColorMPC : String → FLinearColor R} {roster : Roster P R}
  {custody : Custody P (Fin IoroomGameState.maxPlayers)}

omit [DecidableEq P] in
theorem represents_start (created : roster.gameState = .create)
    (empty : ∀ player, roster.playerStates player = none) :
    Represents playerColorMPC roster .vacant := by
  constructor
  · intro index
    simp [created, Custody.Free, Custody.vacant]
  · intro player index
    simp [Custody.vacant, slot, empty]
  · intro player stencilSlot holds
    simp [slot, empty] at holds
  · intro player playerState live
    simp [empty] at live

theorem slot_beginPlay (player other : P) :
    (roster.beginPlay playerColorMPC player).slot other =
      if other = player then some roster.gameState.reserveStencilSlot.1
      else roster.slot other := by
  by_cases same : other = player
  · subst same
    simp [slot, beginPlay, IoroomPlayerState.initializePlayerColor]
  · simp [slot, beginPlay, same]

private theorem colored_beginPlay (represents : Represents playerColorMPC roster custody)
    (player other : P) {playerState : IoroomPlayerState R}
    (live : (roster.beginPlay playerColorMPC player).playerStates other = some playerState) :
    playerState.assignedColor =
      playerColorMPC (IoroomPlayerState.playerColorName playerState.stencilSlot) := by
  by_cases same : other = player
  · subst same
    simp only [beginPlay, Function.update_self, Option.some.injEq] at live
    rw [← live]
    rfl
  · simp only [beginPlay, Function.update_of_ne same] at live
    exact represents.colored other playerState live

omit [DecidableEq P] in
theorem Represents.idle (represents : Represents playerColorMPC roster custody) {player : P}
    (absent : roster.playerStates player = none) : custody.held player = none := by
  refine Option.eq_none_iff_forall_not_mem.mpr ?_
  intro index holds
  have stored := (represents.held player index).mp holds
  simp [slot, absent] at stored

private theorem failure_ne (index : Fin IoroomGameState.maxPlayers) :
    (-1 : Int) ≠ (index : Int) + 1 := by
  have nonneg : (0 : Int) ≤ index := Int.natCast_nonneg _
  omega

theorem represents_beginPlay_full (represents : Represents playerColorMPC roster custody)
    {player : P} (absent : roster.playerStates player = none)
    (full : ∀ index, roster.gameState.used index = true) :
    Represents playerColorMPC (roster.beginPlay playerColorMPC player) custody := by
  have refused := IoroomGameState.reserve_full full
  constructor
  · intro index
    simpa [beginPlay, IoroomPlayerState.initializePlayerColor, refused] using
      represents.used index
  · intro other index
    rw [slot_beginPlay]
    split
    · rename_i same
      rw [same, represents.idle absent, refused]
      simpa using failure_ne index
    · exact represents.held other index
  · intro other stencilSlot stored
    rw [slot_beginPlay] at stored
    split at stored
    · rw [refused] at stored
      exact Or.inl (Option.some.inj stored).symm
    · exact represents.valid other stencilSlot stored
  · exact fun other playerState live => colored_beginPlay represents player other live

/-- A pool with a free entry hands out one whose slot nobody holds. -/
theorem represents_beginPlay_free (represents : Represents playerColorMPC roster custody)
    {player : P} (absent : roster.playerStates player = none)
    (free : ∃ index, roster.gameState.used index = false) :
    ∃ index : Fin IoroomGameState.maxPlayers, ∃ unheld : custody.Free index,
      roster.gameState.reserveStencilSlot.1 = (index : Int) + 1 ∧
      Represents playerColorMPC (roster.beginPlay playerColorMPC player)
        (custody.take player index unheld) := by
  obtain ⟨index, unused, reserved, marked⟩ := IoroomGameState.reserve_free free
  have unheld : custody.Free index := (represents.used index).mp unused
  refine ⟨index, unheld, reserved, ?_⟩
  constructor
  · intro other
    rw [Custody.free_take_iff unheld (represents.idle absent), ← represents.used other]
    simp only [beginPlay, IoroomPlayerState.initializePlayerColor, marked]
    by_cases same : other = index
    · simp [same]
    · simp [same]
  · intro other chosen
    rw [slot_beginPlay, Custody.held_take]
    split
    · rw [reserved]
      constructor
      · intro equal
        rw [Option.some.inj equal]
      · intro equal
        have values : (index : Int) + 1 = (chosen : Int) + 1 := Option.some.inj equal
        exact congrArg some (Fin.ext (by omega))
    · exact represents.held other chosen
  · intro other stencilSlot stored
    rw [slot_beginPlay] at stored
    split at stored
    · rw [reserved] at stored
      exact Or.inr ⟨index, (Option.some.inj stored).symm⟩
    · exact represents.valid other stencilSlot stored
  · exact fun other playerState live => colored_beginPlay represents player other live

theorem slot_endPlay (player other : P) :
    (roster.endPlay player).slot other = if other = player then none else roster.slot other := by
  cases live : roster.playerStates player with
  | none =>
      simp only [endPlay, live]
      split
      · rename_i same
        simp [slot, same, live]
      · rfl
  | some playerState =>
      simp only [endPlay, live, slot]
      by_cases same : other = player
      · simp [same]
      · simp [same]

theorem represents_endPlay (represents : Represents playerColorMPC roster custody)
    (player : P) :
    Represents playerColorMPC (roster.endPlay player) (custody.drop player) := by
  constructor
  · intro index
    cases live : roster.playerStates player with
    | none =>
        rw [Custody.drop_idle (represents.idle live)]
        simpa only [endPlay, live] using represents.used index
    | some playerState =>
        have stored : roster.slot player = some playerState.stencilSlot := by simp [slot, live]
        simp only [endPlay, live, IoroomPlayerState.endPlay]
        rcases represents.valid player _ stored with refused | ⟨held, granted⟩
        · have idle : custody.held player = none := by
            refine Option.eq_none_iff_forall_not_mem.mpr fun other holds => ?_
            have kept := (represents.held player other).mp holds
            rw [stored, refused] at kept
            exact failure_ne other (Option.some.inj kept)
          rw [Custody.drop_idle idle, refused, IoroomGameState.release_refused]
          exact represents.used index
        · have holds : custody.held player = some held := by
            rw [represents.held, stored, granted]
          rw [Custody.free_drop_iff holds, granted, IoroomGameState.release_slot,
            ← represents.used index]
          by_cases same : index = held
          · simp [same]
          · simp [same]
  · intro other index
    rw [slot_endPlay, Custody.held_drop]
    split
    · simp
    · exact represents.held other index
  · intro other stencilSlot stored
    rw [slot_endPlay] at stored
    split at stored
    · simp at stored
    · exact represents.valid other stencilSlot stored
  · intro other playerState live
    refine represents.colored other playerState ?_
    cases ending : roster.playerStates player with
    | none => simpa [endPlay, ending] using live
    | some ended =>
        simp only [endPlay, ending] at live
        by_cases same : other = player
        · simp [same] at live
        · rwa [Function.update_of_ne same] at live

/-- Beginning and ending play are steps of the slot custody. -/
theorem Represents.step (represents : Represents playerColorMPC roster custody)
    {event : Event P} (enabled : (system playerColorMPC).Enabled roster event) :
    ∃ later, Relation.ReflTransGen Custody.Step custody later ∧
      Represents playerColorMPC ((system playerColorMPC).next roster event) later := by
  cases event with
  | beginPlay player =>
      by_cases free : ∃ index, roster.gameState.used index = false
      · obtain ⟨index, unheld, _, after⟩ := represents_beginPlay_free represents enabled free
        exact ⟨_, .single (.take custody player index unheld), after⟩
      · have full : ∀ index, roster.gameState.used index = true := by
          simpa using free
        exact ⟨custody, .refl, represents_beginPlay_full represents enabled full⟩
  | endPlay player =>
      exact ⟨_, .single (.drop custody player), represents_endPlay represents player⟩

theorem exists_represents {history : List (Roster P R × Event P)}
    (run : (system playerColorMPC).Run history roster) :
    ∃ custody, Relation.ReflTransGen Custody.Step .vacant custody ∧
      Represents playerColorMPC roster custody := by
  refine run.simulates (Represents playerColorMPC) Custody.Step .vacant ?_ ?_
  · rintro initial ⟨created, empty⟩
    exact represents_start created empty
  · exact fun _ _ _ enabled represents => represents.step enabled

/-- The players who hold a positive slot. -/
def holders (roster : Roster P R) : Set P :=
  {player | ∃ stencilSlot, 0 < stencilSlot ∧ roster.slot player = some stencilSlot}

/-- What the slot pool guarantees in every state. -/
structure Sound (playerColorMPC : String → FLinearColor R) (roster : Roster P R) : Prop where
  used_iff : ∀ index, roster.gameState.used index = true ↔
    ∃! player, roster.slot player = some ((index : Int) + 1)
  range : ∀ player stencilSlot, roster.slot player = some stencilSlot →
    stencilSlot = -1 ∨ (1 ≤ stencilSlot ∧ stencilSlot ≤ IoroomGameState.maxPlayers)
  distinct : ∀ left right stencilSlot, 0 < stencilSlot →
    roster.slot left = some stencilSlot → roster.slot right = some stencilSlot → left = right
  refused_iff : ∀ player, roster.playerStates player = none →
    ((roster.beginPlay playerColorMPC player).slot player = some (-1) ↔
      roster.holders.ncard = IoroomGameState.maxPlayers)
  colors : (∀ left right : Fin IoroomGameState.maxPlayers,
      playerColorMPC ("PlayerColor_" ++ toString (left : Int)) =
        playerColorMPC ("PlayerColor_" ++ toString (right : Int)) → left = right) →
    ∀ left right leftState rightState, left ≠ right →
      roster.playerStates left = some leftState → roster.playerStates right = some rightState →
      0 < leftState.stencilSlot → 0 < rightState.stencilSlot →
      leftState.assignedColor ≠ rightState.assignedColor

omit [DecidableEq P] in
theorem Represents.positive (represents : Represents playerColorMPC roster custody)
    {player : P} {stencilSlot : Int} (stored : roster.slot player = some stencilSlot)
    (positive : 0 < stencilSlot) :
    ∃ index : Fin IoroomGameState.maxPlayers,
      stencilSlot = (index : Int) + 1 ∧ custody.held player = some index := by
  rcases represents.valid player stencilSlot stored with refused | ⟨index, granted⟩
  · omega
  · refine ⟨index, granted, ?_⟩
    rw [represents.held, stored, granted]

omit [DecidableEq P] in
theorem Represents.holders_eq (represents : Represents playerColorMPC roster custody) :
    roster.holders = {player | (custody.held player).isSome} := by
  ext player
  constructor
  · rintro ⟨stencilSlot, positive, stored⟩
    obtain ⟨index, _, holds⟩ := represents.positive stored positive
    simp [holds]
  · intro holds
    obtain ⟨index, held⟩ := Option.isSome_iff_exists.mp holds
    exact ⟨(index : Int) + 1, by omega, (represents.held player index).mp held⟩

theorem Represents.refused_iff (represents : Represents playerColorMPC roster custody)
    {player : P} (absent : roster.playerStates player = none) :
    (roster.beginPlay playerColorMPC player).slot player = some (-1) ↔
      roster.holders.ncard = IoroomGameState.maxPlayers := by
  have counted := custody.ncard_holders_eq_iff
  rw [Nat.card_fin] at counted
  rw [represents.holders_eq, counted, slot_beginPlay, if_pos rfl]
  by_cases free : ∃ index, roster.gameState.used index = false
  · obtain ⟨index, unheld, reserved, _⟩ := represents_beginPlay_free represents absent free
    rw [reserved]
    constructor
    · intro refused
      exact (failure_ne index (Option.some.inj refused).symm).elim
    · intro full
      exact (full index unheld).elim
  · have full : ∀ index, roster.gameState.used index = true := by
      simpa using free
    rw [IoroomGameState.reserve_full full]
    refine ⟨fun _ index unheld => ?_, fun _ => rfl⟩
    have unused := (represents.used index).mpr unheld
    simp [full index] at unused

theorem Represents.sound (represents : Represents playerColorMPC roster custody) :
    Sound playerColorMPC roster := by
  constructor
  · intro index
    rw [← Bool.not_eq_false, represents.used index]
    constructor
    · intro taken
      obtain ⟨player, holds⟩ : ∃ player, custody.held player = some index := by
        simpa [Custody.Free] using taken
      refine ⟨player, (represents.held player index).mp holds, ?_⟩
      intro other stored
      exact custody.exclusive ((represents.held other index).mpr stored) holds
    · rintro ⟨player, stored, _⟩ free
      exact free player ((represents.held player index).mpr stored)
  · intro player stencilSlot stored
    rcases represents.valid player stencilSlot stored with refused | ⟨index, granted⟩
    · exact Or.inl refused
    · have bound : index.val < IoroomGameState.maxPlayers := index.isLt
      exact Or.inr ⟨by omega, by omega⟩
  · intro left right stencilSlot positive leftStored rightStored
    obtain ⟨leftIndex, leftGranted, leftHolds⟩ := represents.positive leftStored positive
    obtain ⟨rightIndex, rightGranted, rightHolds⟩ := represents.positive rightStored positive
    have same : leftIndex = rightIndex := Fin.ext (by omega)
    rw [same] at leftHolds
    exact custody.exclusive leftHolds rightHolds
  · exact fun player absent => represents.refused_iff absent
  · intro palette left right leftState rightState distinct leftLive rightLive
      leftPositive rightPositive equal
    have leftStored : roster.slot left = some leftState.stencilSlot := by simp [slot, leftLive]
    have rightStored : roster.slot right = some rightState.stencilSlot := by
      simp [slot, rightLive]
    obtain ⟨leftIndex, leftGranted, leftHolds⟩ := represents.positive leftStored leftPositive
    obtain ⟨rightIndex, rightGranted, rightHolds⟩ :=
      represents.positive rightStored rightPositive
    rw [represents.colored left leftState leftLive, represents.colored right rightState rightLive,
      leftGranted, rightGranted] at equal
    have same : leftIndex = rightIndex := by
      refine palette leftIndex rightIndex ?_
      simpa [IoroomPlayerState.playerColorName] using equal
    rw [same] at leftHolds
    exact distinct (custody.exclusive leftHolds rightHolds)

/-- In every state of every run the pool entries are in bijection with the positive slots of live
players, refusals happen exactly when ten players hold slots, and colours follow slots. -/
theorem stencilSlotPool_sound (playerColorMPC : String → FLinearColor R)
    {roster : Roster P R} (reachable : (system playerColorMPC).Reachable roster) :
    Sound playerColorMPC roster := by
  obtain ⟨_, run⟩ := reachable
  obtain ⟨_, _, represents⟩ := exists_represents run
  exact represents.sound

/-- No player has begun play. -/
def vacant : Roster Nat ℚ := ⟨.create, fun _ => none⟩

/-- Ten players fill the pool and an eleventh is refused; player three leaves and player eleven gets
the slot; at last the refused player leaves. -/
def crowd : List (Event Nat) :=
  (List.range 11).map .beginPlay ++ [.endPlay 3, .beginPlay 11, .endPlay 10]

/-- The pool of a crowd is sound, before and after its refused player leaves. -/
theorem stencilSlotPool_sound_crowd :
    let playerColorMPC : String → FLinearColor ℚ :=
      fun name => if name = "PlayerColor_3" then ⟨1, 0, 0, 1⟩ else .white
    let full := (system playerColorMPC).replay vacant (crowd.take 13)
    let left := (system playerColorMPC).replay vacant crowd
    Sound playerColorMPC full ∧ Sound playerColorMPC left ∧ full.slot 10 = some (-1) ∧
      full.slot 11 = some 4 ∧ left.slot 11 = some 4 ∧ left.slot 10 = none ∧
      left.gameState.used ⟨3, by decide⟩ = true := by
  intro playerColorMPC full left
  have start : (system playerColorMPC).Run [] vacant := .start ⟨rfl, fun _ => rfl⟩
  have legal : (system playerColorMPC).Legal vacant crowd := by decide +kernel
  have legalFull : (system playerColorMPC).Legal vacant (crowd.take 13) := by decide +kernel
  exact ⟨stencilSlotPool_sound _ ⟨_, start.replay legalFull⟩,
    stencilSlotPool_sound _ ⟨_, start.replay legal⟩, by decide +kernel⟩

end Roster

end Ioroom
