import Ioroom.EventSystem
import Ioroom.IoroomPlayerState
import Ioroom.Registry
import Mathlib.Logic.Function.Basic

/-!
# View models of player states

A player state registers its snap-settings view model with the game instance when it begins play
and unregisters it when it ends.  All player states of a machine use the same context, and only the
first of them gets it; the others keep their view models and remove whatever the context holds at
their end.
-/

namespace Ioroom

open EventSystem

/-- `FMVVMViewModelContext`: a view-model class and a name. -/
structure FMVVMViewModelContext where
  contextClass : String
  contextName : String
deriving DecidableEq, Repr

/-- The context of `USnapSettingsViewModel` under `SnapSettingsContextName`. -/
def snapSettingsContext : FMVVMViewModelContext := ⟨"SnapSettingsViewModel", "SnapSettings"⟩

/-- `USnapSettingsViewModel`; its outer is the player state which has created it. -/
structure SnapSettingsViewModel where
  gridSnap : GridSnap := .minimum
  rotationSnap : RotationSnap := .minimum
deriving DecidableEq, Repr

/-- Whether `BeginPlay` and `EndPlay` of an actor have run. -/
inductive ActorLife
  | created
  | playing
  | ended
deriving DecidableEq, Repr

/-- `AIoroomPlayerState` with its view model. -/
structure PlayerStateActor (R : Type*) [One R] where
  life : ActorLife := .created
  playerState : IoroomPlayerState R := {}
  snapSettingsViewModel : Option SnapSettingsViewModel := none
  /-- `OnViewModelsReady` has been called. -/
  viewModelsReady : Bool := false

namespace PlayerStateActor

variable {R : Type*} [One R]

/-- `USnapSettingsViewModel::SetGridSnap`, which also writes the owning player state. -/
def setGridSnap (newGridSnap : GridSnap) (actor : PlayerStateActor R) : PlayerStateActor R :=
  { actor with
    playerState := { actor.playerState with gridSnap := newGridSnap }
    snapSettingsViewModel :=
      actor.snapSettingsViewModel.map fun viewModel => { viewModel with gridSnap := newGridSnap } }

/-- `USnapSettingsViewModel::SetRotationSnap`. -/
def setRotationSnap (newRotationSnap : RotationSnap) (actor : PlayerStateActor R) :
    PlayerStateActor R :=
  { actor with
    playerState := { actor.playerState with rotationSnap := newRotationSnap }
    snapSettingsViewModel :=
      actor.snapSettingsViewModel.map
        fun viewModel => { viewModel with rotationSnap := newRotationSnap } }

/-- The part of `InitializeViewModels` which creates the view model and fills it in. -/
def createViewModel (actor : PlayerStateActor R) : PlayerStateActor R :=
  ({ actor with snapSettingsViewModel := some {} }.setGridSnap
    actor.playerState.gridSnap).setRotationSnap actor.playerState.rotationSnap

theorem createViewModel_eq (actor : PlayerStateActor R) :
    actor.createViewModel =
      { actor with
        snapSettingsViewModel :=
          some ⟨actor.playerState.gridSnap, actor.playerState.rotationSnap⟩ } := rfl

end PlayerStateActor

/-- The player states of one machine and the view-model collection of its game instance, where the
owner stands for its view model. -/
structure ViewModelHost (P R Store : Type*) [One R] where
  hasAuthority : Bool
  gameState : Option IoroomGameState
  gameInstance : Bool
  /-- `UMVVMGameSubsystem` is found. -/
  subsystem : Bool
  /-- The subsystem has its collection. -/
  hasCollection : Bool
  viewModelCollection : Store
  playerStates : P → PlayerStateActor R

namespace ViewModelHost

variable {P R Store : Type*} [DecidableEq P] [Field R]

/-- Apply a method to one player state. -/
def modify (player : P) (method : PlayerStateActor R → PlayerStateActor R)
    (host : ViewModelHost P R Store) : ViewModelHost P R Store :=
  { host with
    playerStates := Function.update host.playerStates player (method (host.playerStates player)) }

/-- `InitializePlayerColor`. -/
def initializePlayerColor (playerColorMPC : String → FLinearColor R) (player : P)
    (host : ViewModelHost P R Store) : ViewModelHost P R Store :=
  match host.hasAuthority, host.gameState with
  | true, some gameState =>
      let initialized := IoroomPlayerState.initializePlayerColor playerColorMPC gameState
        (host.playerStates player).playerState
      { host.modify player fun actor => { actor with playerState := initialized.2 } with
        gameState := some initialized.1 }
  | _, _ => host

/-- The authority's part of `EndPlay`. -/
def releaseStencilSlot (player : P) (host : ViewModelHost P R Store) : ViewModelHost P R Store :=
  if host.hasAuthority then
    { host with gameState := host.gameState.map (host.playerStates player).playerState.endPlay }
  else host

variable [Registry Store FMVVMViewModelContext P]

/-- `InitializeViewModels`; the player controller, if there is one, is local or not. -/
def initializeViewModels (playerController : Option Bool) (player : P)
    (host : ViewModelHost P R Store) : ViewModelHost P R Store :=
  match playerController with
  | some true =>
      if host.gameInstance then
        let created := host.modify player (·.createViewModel)
        if host.subsystem && host.hasCollection then
          let added := Registry.add created.viewModelCollection snapSettingsContext player
          let registered := { created with viewModelCollection := added.1 }
          if added.2 then registered.modify player ({ · with viewModelsReady := true })
          else registered
        else created
      else host
  | _ => host

/-- `RemoveViewModels`. -/
def removeViewModels (player : P) (host : ViewModelHost P R Store) : ViewModelHost P R Store :=
  if (host.playerStates player).snapSettingsViewModel.isSome && host.gameInstance &&
      host.subsystem && host.hasCollection then
    { host with
      viewModelCollection := Registry.remove host.viewModelCollection snapSettingsContext }
  else host

/-- `BeginPlay`. -/
def beginPlay (playerColorMPC : String → FLinearColor R) (playerController : Option Bool)
    (player : P) (host : ViewModelHost P R Store) : ViewModelHost P R Store :=
  ((host.modify player ({ · with life := .playing })).initializePlayerColor playerColorMPC
    player).initializeViewModels playerController player

/-- `EndPlay`. -/
def endPlay (player : P) (host : ViewModelHost P R Store) : ViewModelHost P R Store :=
  ((host.modify player ({ · with life := .ended })).releaseStencilSlot player).removeViewModels
    player

/-- Player states begin and end play. -/
inductive Event (P : Type*)
  | beginPlay (player : P) (playerController : Option Bool)
  | endPlay (player : P)

/-- Any number of player states, each beginning play once and ending it later, in any order. -/
def lives (playerColorMPC : String → FLinearColor R) :
    EventSystem (ViewModelHost P R Store) (Event P) where
  Start host :=
    (∀ context, Registry.lookup host.viewModelCollection context = none) ∧
      ∀ player, (host.playerStates player).life = .created ∧
        (host.playerStates player).viewModelsReady = false
  Enabled host
    | .beginPlay player _ => (host.playerStates player).life = .created
    | .endPlay player => (host.playerStates player).life = .playing
  next host
    | .beginPlay player playerController => host.beginPlay playerColorMPC playerController player
    | .endPlay player => host.endPlay player

instance (playerColorMPC : String → FLinearColor R) (host : ViewModelHost P R Store) :
    ∀ event, Decidable ((lives playerColorMPC).Enabled host event)
  | .beginPlay player _ => inferInstanceAs (Decidable ((host.playerStates player).life = .created))
  | .endPlay player => inferInstanceAs (Decidable ((host.playerStates player).life = .playing))

/-- The player state whose view model has the context. -/
def registered (host : ViewModelHost P R Store) : Option P :=
  Registry.lookup host.viewModelCollection snapSettingsContext

/-- A view model registered by a live player state is still registered, and that of an ended player
state is not in the collection. -/
structure OwnRegistrations (host : ViewModelHost P R Store) : Prop where
  live : ∀ player, (host.playerStates player).life = .playing →
    (host.playerStates player).viewModelsReady = true → host.registered = some player
  ended : ∀ player, (host.playerStates player).life = .ended →
    ¬Registry.Holds host.viewModelCollection player

/-- A player state which has created a view model ends while that of another one is registered. -/
def EndsBesideOwner (host : ViewModelHost P R Store) : Event P → Prop
  | .beginPlay _ _ => False
  | .endPlay player =>
      (host.playerStates player).snapSettingsViewModel.isSome = true ∧
        ∃ owner, host.registered = some owner ∧ owner ≠ player

/-- What of a player state matters to the collection. -/
structure Standing where
  life : ActorLife
  hasViewModel : Bool
  ready : Bool

def standing (host : ViewModelHost P R Store) (player : P) : Standing where
  life := (host.playerStates player).life
  hasViewModel := (host.playerStates player).snapSettingsViewModel.isSome
  ready := (host.playerStates player).viewModelsReady

/-- The collection can be reached. -/
def connected (host : ViewModelHost P R Store) : Bool :=
  host.gameInstance && host.subsystem && host.hasCollection

/-- Two hosts agree in what concerns the collection. -/
structure SameStanding (after before : ViewModelHost P R Store) : Prop where
  standing : after.standing = before.standing
  connected : after.connected = before.connected
  collection : after.viewModelCollection = before.viewModelCollection

variable {host : ViewModelHost P R Store} {player other : P}
  {playerColorMPC : String → FLinearColor R} {playerController : Option Bool}

omit [Registry Store FMVVMViewModelContext P] in
theorem standing_modify (host : ViewModelHost P R Store) (player : P)
    (method : PlayerStateActor R → PlayerStateActor R) :
    (host.modify player method).standing = Function.update host.standing player
      ⟨(method (host.playerStates player)).life,
        (method (host.playerStates player)).snapSettingsViewModel.isSome,
        (method (host.playerStates player)).viewModelsReady⟩ := by
  funext other
  by_cases same : other = player
  · subst same
    simp [standing, modify]
  · simp [standing, modify, same]

omit [Registry Store FMVVMViewModelContext P] in
theorem initializePlayerColor_same (playerColorMPC : String → FLinearColor R) (player : P)
    (host : ViewModelHost P R Store) :
    SameStanding (host.initializePlayerColor playerColorMPC player) host := by
  unfold initializePlayerColor
  split
  · refine ⟨?_, rfl, rfl⟩
    refine (standing_modify host player fun actor => { actor with playerState := _ }).trans ?_
    exact Function.update_eq_self player host.standing
  · exact ⟨rfl, rfl, rfl⟩

omit [DecidableEq P] [Registry Store FMVVMViewModelContext P] in
theorem releaseStencilSlot_same (player : P) (host : ViewModelHost P R Store) :
    SameStanding (host.releaseStencilSlot player) host := by
  unfold releaseStencilSlot
  split <;> exact ⟨rfl, rfl, rfl⟩

/-- What `InitializeViewModels` does for the collection: nothing but perhaps create the view model,
or register it under the free context. -/
inductive Initializes (player : P) (host after : ViewModelHost P R Store) : Prop
  | apart (hasViewModel : Bool)
      (connected : after.connected = host.connected)
      (standing : after.standing = Function.update host.standing player
        ⟨(host.standing player).life, hasViewModel, (host.standing player).ready⟩)
      (collection : after.viewModelCollection = host.viewModelCollection)
  | registers (free : host.registered = none) (reached : host.connected = true)
      (connected : after.connected = host.connected)
      (standing : after.standing = Function.update host.standing player
        ⟨(host.standing player).life, true, true⟩)
      (collection : after.viewModelCollection =
        (Registry.add host.viewModelCollection snapSettingsContext player).1)

theorem initializeViewModels_initializes (playerController : Option Bool) (player : P)
    (host : ViewModelHost P R Store) :
    Initializes player host (host.initializeViewModels playerController player) := by
  have skipped : Initializes player host host :=
    .apart (host.standing player).hasViewModel rfl
      (Function.update_eq_self player host.standing).symm rfl
  unfold initializeViewModels
  split
  · split
    · next gameInstance =>
        have created := standing_modify host player (·.createViewModel)
        split
        · next reached =>
            have connected : host.connected = true := by
              simpa [connected, gameInstance] using reached
            cases free : host.registered with
            | none =>
                have added : (Registry.add
                    (host.modify player (·.createViewModel)).viewModelCollection
                    snapSettingsContext player).2 = true := Registry.add_free player free
                simp only [added, if_true]
                refine .registers free connected rfl ?_ rfl
                refine (standing_modify _ player ({ · with viewModelsReady := true })).trans ?_
                change Function.update (host.modify player (·.createViewModel)).standing player _ =
                  _
                rw [created, Function.update_idem]
                simp [modify, standing, PlayerStateActor.createViewModel_eq]
            | some owner =>
                have taken : Registry.lookup host.viewModelCollection snapSettingsContext ≠ none :=
                  fun empty => Option.some_ne_none owner (free.symm.trans empty)
                have refused : Registry.add
                    (host.modify player (·.createViewModel)).viewModelCollection
                    snapSettingsContext player = (host.viewModelCollection, false) :=
                  Registry.add_taken player taken
                simp only [refused]
                exact .apart true rfl created rfl
        · exact .apart true rfl created rfl
    · exact skipped
  · exact skipped

theorem beginPlay_cases (playerColorMPC : String → FLinearColor R) (playerController : Option Bool)
    (player : P) (host : ViewModelHost P R Store) :
    let after := host.beginPlay playerColorMPC playerController player
    after.connected = host.connected ∧
      ((∃ hasViewModel, after.standing = Function.update host.standing player
          ⟨.playing, hasViewModel, (host.standing player).ready⟩ ∧
          after.viewModelCollection = host.viewModelCollection) ∨
        (host.registered = none ∧ host.connected = true ∧
          after.standing = Function.update host.standing player ⟨.playing, true, true⟩ ∧
          after.viewModelCollection =
            (Registry.add host.viewModelCollection snapSettingsContext player).1)) := by
  have colored := initializePlayerColor_same playerColorMPC player
    (host.modify player ({ · with life := .playing }))
  have begun := colored.standing.trans
    (standing_modify host player ({ · with life := .playing }))
  have connected : ((host.modify player ({ · with life := .playing })).initializePlayerColor
      playerColorMPC player).connected = host.connected := colored.connected
  have effect := initializeViewModels_initializes playerController player
    ((host.modify player ({ · with life := .playing })).initializePlayerColor playerColorMPC player)
  cases effect with
  | apart hasViewModel same standing collection =>
      refine ⟨same.trans connected,
        Or.inl ⟨hasViewModel, ?_, collection.trans colored.collection⟩⟩
      rw [begun, Function.update_self, Function.update_idem] at standing
      exact standing
  | registers free reached same standing collection =>
      refine ⟨same.trans connected, Or.inr ⟨?_, connected.symm.trans reached, ?_, ?_⟩⟩
      · rw [registered, colored.collection] at free
        exact free
      · rw [begun, Function.update_self, Function.update_idem] at standing
        exact standing
      · rw [colored.collection] at collection
        exact collection

theorem endPlay_spec (player : P) (host : ViewModelHost P R Store) :
    let after := host.endPlay player
    after.connected = host.connected ∧
      after.standing = Function.update host.standing player
        ⟨.ended, (host.standing player).hasViewModel, (host.standing player).ready⟩ ∧
      after.viewModelCollection =
        if (host.standing player).hasViewModel && host.connected then
          Registry.remove host.viewModelCollection snapSettingsContext
        else host.viewModelCollection := by
  have released := releaseStencilSlot_same player (host.modify player ({ · with life := .ended }))
  have ended := released.standing.trans (standing_modify host player ({ · with life := .ended }))
  have connected : ((host.modify player ({ · with life := .ended })).releaseStencilSlot
      player).connected = host.connected := released.connected
  have guard := congrArg Standing.hasViewModel (congrFun ended player)
  rw [Function.update_self] at guard
  simp only [endPlay]
  generalize (host.modify player ({ · with life := .ended })).releaseStencilSlot player = after
    at released ended connected guard
  have condition : ((after.playerStates player).snapSettingsViewModel.isSome &&
      after.gameInstance && after.subsystem && after.hasCollection) =
        ((host.standing player).hasViewModel && host.connected) := by
    rw [← connected, ViewModelHost.connected, Bool.and_assoc, Bool.and_assoc, Bool.and_assoc]
    exact congrArg (· && _) guard
  simp only [removeViewModels, condition]
  have collection : after.viewModelCollection = host.viewModelCollection := released.collection
  cases (host.standing player).hasViewModel && host.connected with
  | true => exact ⟨connected, ended, by simp [collection]⟩
  | false => exact ⟨connected, ended, by simp [collection]⟩

theorem registered_endPlay (viewModel : (host.standing player).hasViewModel = true)
    (connected : host.connected = true) : (host.endPlay player).registered = none := by
  have collection := (endPlay_spec player host).2.2
  rw [viewModel, connected] at collection
  exact (congrArg (Registry.lookup · snapSettingsContext) collection).trans
    (Registry.lookup_remove_self _ _)

/-- Only live player states have the context, and each of them which was registered still has it. -/
structure ContextOwned (host : ViewModelHost P R Store) : Prop where
  fresh : ∀ player, (host.standing player).life = .created → (host.standing player).ready = false
  live : ∀ player, (host.standing player).life = .playing → (host.standing player).ready = true →
    host.registered = some player
  owner : ∀ player, host.registered = some player →
    (host.standing player).life = .playing ∧ (host.standing player).hasViewModel = true ∧
      (host.standing player).ready = true ∧ host.connected = true
  only : Registry.OnlyUnder snapSettingsContext host.viewModelCollection

omit [DecidableEq P] in
theorem ContextOwned.ownRegistrations (owned : host.ContextOwned) : host.OwnRegistrations where
  live := owned.live
  ended := by
    intro player ended holds
    have playing := (owned.owner player (owned.only.holds_iff.mp holds)).1
    exact ActorLife.noConfusion (playing.symm.trans ended)

theorem contextOwned_start {playerColorMPC : String → FLinearColor R}
    (start : (lives playerColorMPC).Start host) : host.ContextOwned := by
  obtain ⟨empty, created⟩ := start
  have unregistered : host.registered = none := empty snapSettingsContext
  constructor
  · exact fun player _ => (created player).2
  · intro player playing
    exact ActorLife.noConfusion ((created player).1.symm.trans playing)
  · intro player has
    exact absurd (unregistered.symm.trans has) (Option.some_ne_none player).symm
  · exact fun other _ => empty other

theorem ContextOwned.fresh_update (owned : host.ContextOwned) {after : ViewModelHost P R Store}
    {now : Standing} (standing : after.standing = Function.update host.standing player now)
    (begun : now.life ≠ .created) :
    ∀ other, (after.standing other).life = .created → (after.standing other).ready = false := by
  intro other created
  rw [standing] at created ⊢
  by_cases same : other = player
  · rw [same, Function.update_self] at created
    exact absurd created begun
  · rw [Function.update_of_ne same] at created ⊢
    exact owned.fresh other created

/-- A step of a player state which is not registered, beside an untouched collection. -/
theorem ContextOwned.apart (owned : host.ContextOwned) {after : ViewModelHost P R Store}
    {now : Standing} (standing : after.standing = Function.update host.standing player now)
    (collection : after.viewModelCollection = host.viewModelCollection)
    (connected : after.connected = host.connected) (begun : now.life ≠ .created)
    (unready : now.life = .playing → now.ready = false)
    (absent : host.registered ≠ some player) : after.ContextOwned := by
  have registered : after.registered = host.registered :=
    congrArg (Registry.lookup · snapSettingsContext) collection
  refine ⟨owned.fresh_update standing begun, ?_, ?_, ?_⟩
  · intro other
    rw [standing, registered]
    by_cases same : other = player
    · rw [same, Function.update_self]
      intro playing ready
      exact absurd (ready.symm.trans (unready playing)) (by decide)
    · rw [Function.update_of_ne same]
      exact owned.live other
  · intro other has
    rw [registered] at has
    have distinct : other ≠ player := by
      rintro rfl
      exact absent has
    rw [standing, Function.update_of_ne distinct, connected]
    exact owned.owner other has
  · rw [collection]
    exact owned.only

theorem ContextOwned.registers (owned : host.ContextOwned) {after : ViewModelHost P R Store}
    (standing : after.standing = Function.update host.standing player ⟨.playing, true, true⟩)
    (collection : after.viewModelCollection =
      (Registry.add host.viewModelCollection snapSettingsContext player).1)
    (connected : after.connected = host.connected) (reached : host.connected = true)
    (free : host.registered = none) : after.ContextOwned := by
  have registered : after.registered = some player := by
    rw [ViewModelHost.registered, collection]
    exact Registry.lookup_add_self player free
  refine ⟨owned.fresh_update standing (by simp), ?_, ?_, ?_⟩
  · intro other
    rw [standing, registered]
    by_cases same : other = player
    · exact fun _ _ => congrArg some same.symm
    · rw [Function.update_of_ne same]
      intro playing ready
      exact absurd (free.symm.trans (owned.live other playing ready)) (Option.some_ne_none _).symm
  · intro other has
    obtain rfl := Option.some.inj (registered.symm.trans has)
    rw [standing, Function.update_self, connected]
    exact ⟨rfl, rfl, rfl, reached⟩
  · rw [collection]
    exact owned.only.add free player

theorem ContextOwned.beginPlay (owned : host.ContextOwned)
    (created : (host.standing player).life = .created) (playerColorMPC : String → FLinearColor R)
    (playerController : Option Bool) :
    (host.beginPlay playerColorMPC playerController player).ContextOwned := by
  obtain ⟨connected,
      ⟨hasViewModel, standing, collection⟩ | ⟨free, reached, standing, collection⟩⟩ :=
    beginPlay_cases playerColorMPC playerController player host
  · refine owned.apart standing collection connected (by simp) ?_ ?_
    · exact fun _ => owned.fresh player created
    · intro has
      exact ActorLife.noConfusion (created.symm.trans (owned.owner player has).1)
  · exact owned.registers standing collection connected reached free

theorem ContextOwned.endPlay (owned : host.ContextOwned)
    (apart : ¬host.EndsBesideOwner (.endPlay player)) : (host.endPlay player).ContextOwned := by
  obtain ⟨connected, standing, collection⟩ := endPlay_spec player host
  cases reached : (host.standing player).hasViewModel && host.connected with
  | true =>
      rw [reached, if_pos rfl] at collection
      obtain ⟨viewModel, connects⟩ := Bool.and_eq_true_iff.mp reached
      have unregistered := registered_endPlay viewModel connects
      refine ⟨owned.fresh_update standing (by simp), ?_, ?_, ?_⟩
      · intro other playing ready
        rw [standing] at playing ready
        have distinct : other ≠ player := by
          rintro rfl
          rw [Function.update_self] at playing
          cases playing
        rw [Function.update_of_ne distinct] at playing ready
        exact absurd ⟨viewModel, other, owned.live other playing ready, distinct⟩ apart
      · intro other has
        exact absurd (unregistered.symm.trans has) (Option.some_ne_none other).symm
      · rw [collection]
        exact owned.only.remove
  | false =>
      rw [reached, if_neg Bool.false_ne_true] at collection
      refine owned.apart standing collection connected (by simp) (by simp) ?_
      intro has
      obtain ⟨_, viewModel, _, connects⟩ := owned.owner player has
      rw [viewModel, connects] at reached
      cases reached

/-- The end of a refused player state takes the context from its live owner. -/
theorem ContextOwned.endPlay_unregisters (owned : host.ContextOwned)
    (beside : host.EndsBesideOwner (.endPlay player)) :
    ¬(host.endPlay player).OwnRegistrations := by
  obtain ⟨viewModel, owner, has, distinct⟩ := beside
  obtain ⟨playing, _, ready, reached⟩ := owned.owner owner has
  have unregistered := registered_endPlay viewModel reached
  have kept : (host.endPlay player).standing owner = host.standing owner := by
    rw [(endPlay_spec player host).2.1, Function.update_of_ne distinct]
  intro own
  have still := own.live owner ((congrArg Standing.life kept).trans playing)
    ((congrArg Standing.ready kept).trans ready)
  exact absurd (unregistered.symm.trans still) (Option.some_ne_none owner).symm

/-- View models stay with their player states all along a run exactly when no player state which has
created one ever ends beside the registered view model of another. -/
theorem ownRegistrations_iff {playerColorMPC : String → FLinearColor R}
    {history : List (ViewModelHost P R Store × Event P)}
    (run : (lives playerColorMPC).Run history host) :
    Along OwnRegistrations history host ↔
      Guarded (fun earlier event => ¬EndsBesideOwner earlier event) history := by
  have start : ∀ initial : ViewModelHost P R Store, (lives playerColorMPC).Start initial →
      initial.ContextOwned := fun _ => contextOwned_start
  refine run.along_iff_guarded start (fun _ => ContextOwned.ownRegistrations) ?_ ?_
  · intro current event owned enabled apart
    cases event with
    | beginPlay player playerController =>
        exact owned.beginPlay enabled playerColorMPC playerController
    | endPlay player => exact owned.endPlay apart
  · intro current event owned _ beside
    cases event with
    | beginPlay player playerController => exact absurd id beside
    | endPlay player => exact owned.endPlay_unregisters (not_not.mp beside)

/-- A client's machine before any player state begins play. -/
def client : ViewModelHost Nat ℚ (LookupRegistry FMVVMViewModelContext Nat) where
  hasAuthority := false
  gameState := none
  gameInstance := true
  subsystem := true
  hasCollection := true
  viewModelCollection := Registry.empty
  playerStates _ := {}

theorem run_client : (lives fun _ => .white).Run [] client :=
  .start ⟨fun _ => rfl, fun _ => ⟨rfl, rfl⟩⟩

/-- The player state of a player, and after its end the next one. -/
def succession : List (Event Nat) :=
  [.beginPlay 1 (some true), .endPlay 1, .beginPlay 2 (some true)]

theorem ownRegistrations_iff_succession :
    ((lives fun _ => .white).replay client succession).registered = some 2 := by
  have legal : (lives fun _ => .white).Legal client succession :=
    ⟨by decide +kernel, by decide +kernel, by decide +kernel, trivial⟩
  have apart : Guarded (fun earlier event => ¬EndsBesideOwner earlier event)
      ((lives fun _ => .white).record [] client succession) := by
    refine guarded_cons.mpr ⟨id, guarded_cons.mpr ⟨?_, guarded_cons.mpr ⟨id, guarded_nil _⟩⟩⟩
    rintro ⟨_, owner, has, distinct⟩
    have first : some owner = some 1 := has.symm.trans (by decide +kernel)
    exact distinct (Option.some.inj first)
  exact ((ownRegistrations_iff (run_client.replay legal)).mpr apart).1.live 2
    (by decide +kernel) (by decide +kernel)

/-- Of two overlapping player states the second is refused, and its end unregisters the first. -/
theorem refused_end_unregisters_first :
    ∃ (history : List (ViewModelHost Nat ℚ (LookupRegistry FMVVMViewModelContext Nat) × Event Nat))
      (host : ViewModelHost Nat ℚ (LookupRegistry FMVVMViewModelContext Nat)),
      (lives fun _ => .white).Run history host ∧ (host.playerStates 1).life = .playing ∧
        (host.playerStates 1).viewModelsReady = true ∧ host.registered = none ∧
        ¬host.OwnRegistrations := by
  have legal : (lives fun _ => .white).Legal client
      [.beginPlay 1 (some true), .beginPlay 2 (some true), .endPlay 2] :=
    ⟨by decide +kernel, by decide +kernel, by decide +kernel, trivial⟩
  refine ⟨_, _, run_client.replay legal, by decide +kernel, by decide +kernel, by decide +kernel,
    fun own => ?_⟩
  have still := own.live 1 (by decide +kernel) (by decide +kernel)
  exact absurd still (by decide +kernel)

end ViewModelHost

end Ioroom
