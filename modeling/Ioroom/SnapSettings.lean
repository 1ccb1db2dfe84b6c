import Ioroom.CyclicRegister
import Ioroom.LeftClick
import Ioroom.ViewModels
import Mathlib.Tactic.IntervalCases
import Mathlib.Tactic.NormNum

/-!
# The snap settings panel

The user interface sets and cycles the two snap settings through the view model, which writes them
to the player state; the gestures read them there.  What the panel shows is always what a gesture
uses.
-/

namespace Ioroom

open EventSystem

/-- `static_cast<uint8>` of an `EGridSnap`. -/
def GridSnap.index : GridSnap → Nat
  | .minimum => 0
  | .fine => 1
  | .small => 2
  | .medium => 3
  | .large => 4
  | .count => 5

/-- `static_cast<EGridSnap>`. -/
def GridSnap.ofIndex : Nat → GridSnap
  | 0 => .minimum
  | 1 => .fine
  | 2 => .small
  | 3 => .medium
  | 4 => .large
  | _ => .count

/-- `static_cast<uint8>` of an `ERotationSnap`. -/
def RotationSnap.index : RotationSnap → Nat
  | .minimum => 0
  | .fine => 1
  | .small => 2
  | .medium => 3
  | .large => 4
  | .count => 5

/-- `static_cast<ERotationSnap>`. -/
def RotationSnap.ofIndex : Nat → RotationSnap
  | 0 => .minimum
  | 1 => .fine
  | 2 => .small
  | 3 => .medium
  | 4 => .large
  | _ => .count

/-- `GridSnapToText`. -/
def gridSnapToText : GridSnap → String
  | .minimum => "1"
  | .fine => "5"
  | .small => "20"
  | .medium => "50"
  | .large => "100"
  | .count => ""

/-- `RotationSnapToText`. -/
def rotationSnapToText : RotationSnap → String
  | .minimum => "1"
  | .fine => "5"
  | .small => "15"
  | .medium => "45"
  | .large => "90"
  | .count => ""

theorem GridSnap.index_ofIndex {value : Nat} (bound : value ≤ 5) :
    (GridSnap.ofIndex value).index = value := by
  interval_cases value <;> rfl

theorem RotationSnap.index_ofIndex {value : Nat} (bound : value ≤ 5) :
    (RotationSnap.ofIndex value).index = value := by
  interval_cases value <;> rfl

theorem GridSnap.index_lt_iff (gridSnap : GridSnap) : gridSnap.index < 5 ↔ gridSnap ≠ .count := by
  cases gridSnap <;> decide

theorem RotationSnap.index_lt_iff (rotationSnap : RotationSnap) :
    rotationSnap.index < 5 ↔ rotationSnap ≠ .count := by
  cases rotationSnap <;> decide

/-- The text of a grid setting is the numeral of the step which gestures use. -/
theorem gridSnapToText_step {R : Type*} [Field R] [CharZero R]
    {playerState : IoroomPlayerState R}
    (valid : playerState.gridSnap ≠ .count) :
    ∃ step : Nat, gridSnapToText playerState.gridSnap = toString step ∧
      playerState.getGridStep = step := by
  unfold IoroomPlayerState.getGridStep
  cases setting : playerState.gridSnap with
  | minimum => exact ⟨1, rfl, by norm_num⟩
  | fine => exact ⟨5, rfl, by norm_num⟩
  | small => exact ⟨20, rfl, by norm_num⟩
  | medium => exact ⟨50, rfl, by norm_num⟩
  | large => exact ⟨100, rfl, by norm_num⟩
  | count => exact absurd setting valid

theorem rotationSnapToText_step {R : Type*} [Field R] [CharZero R]
    {playerState : IoroomPlayerState R}
    (valid : playerState.rotationSnap ≠ .count) :
    ∃ step : Nat, rotationSnapToText playerState.rotationSnap = toString step ∧
      playerState.getRotStep = step := by
  unfold IoroomPlayerState.getRotStep
  cases setting : playerState.rotationSnap with
  | minimum => exact ⟨1, rfl, by norm_num⟩
  | fine => exact ⟨5, rfl, by norm_num⟩
  | small => exact ⟨15, rfl, by norm_num⟩
  | medium => exact ⟨45, rfl, by norm_num⟩
  | large => exact ⟨90, rfl, by norm_num⟩
  | count => exact absurd setting valid

namespace PlayerStateActor

variable {R : Type*} [Field R]

/-- `CycleGridSnap`; the owner of the view model is the player state. -/
def cycleGridSnap (actor : PlayerStateActor R) : PlayerStateActor R :=
  let currentGridSnap := actor.playerState.gridSnap.index
  let newGridSnap := (currentGridSnap + 1) % GridSnap.count.index
  actor.setGridSnap (.ofIndex newGridSnap)

/-- `CycleRotationSnap`. -/
def cycleRotationSnap (actor : PlayerStateActor R) : PlayerStateActor R :=
  let currentRotSnap := actor.playerState.rotationSnap.index
  let newRotSnap := (currentRotSnap + 1) % RotationSnap.count.index
  actor.setRotationSnap (.ofIndex newRotSnap)

/-- What the user interface does to the snap settings. -/
inductive SnapEvent
  | setGridSnap (newGridSnap : GridSnap)
  | setRotationSnap (newRotationSnap : RotationSnap)
  | cycleGridSnap
  | cycleRotationSnap

namespace SnapEvent

/-- The grid level an event sets. -/
def setsGrid : SnapEvent → Option Nat
  | .setGridSnap newGridSnap => some newGridSnap.index
  | .setRotationSnap _ => none
  | .cycleGridSnap => none
  | .cycleRotationSnap => none

def cyclesGrid : SnapEvent → Bool
  | .cycleGridSnap => true
  | .setGridSnap _ => false
  | .setRotationSnap _ => false
  | .cycleRotationSnap => false

/-- The rotation level an event sets. -/
def setsRotation : SnapEvent → Option Nat
  | .setRotationSnap newRotationSnap => some newRotationSnap.index
  | .setGridSnap _ => none
  | .cycleGridSnap => none
  | .cycleRotationSnap => none

def cyclesRotation : SnapEvent → Bool
  | .cycleRotationSnap => true
  | .setGridSnap _ => false
  | .setRotationSnap _ => false
  | .cycleGridSnap => false

end SnapEvent

/-- The panel of a player state whose view model has just been created, with valid levels as edited
for the class.  The setters take a valid level. -/
def snapPanel (gridSnap : GridSnap) (rotationSnap : RotationSnap) :
    EventSystem (PlayerStateActor R) SnapEvent where
  Start actor := gridSnap ≠ .count ∧ rotationSnap ≠ .count ∧
    ∃ created : PlayerStateActor R, created.playerState.gridSnap = gridSnap ∧
      created.playerState.rotationSnap = rotationSnap ∧ actor = created.createViewModel
  Enabled _
    | .setGridSnap newGridSnap => newGridSnap ≠ .count
    | .setRotationSnap newRotationSnap => newRotationSnap ≠ .count
    | .cycleGridSnap => True
    | .cycleRotationSnap => True
  next actor
    | .setGridSnap newGridSnap => actor.setGridSnap newGridSnap
    | .setRotationSnap newRotationSnap => actor.setRotationSnap newRotationSnap
    | .cycleGridSnap => actor.cycleGridSnap
    | .cycleRotationSnap => actor.cycleRotationSnap

/-- The view model has the settings of its player state. -/
def ViewModelAgrees (actor : PlayerStateActor R) : Prop :=
  actor.snapSettingsViewModel =
    some ⟨actor.playerState.gridSnap, actor.playerState.rotationSnap⟩

variable {gridSnap : GridSnap} {rotationSnap : RotationSnap} {actor : PlayerStateActor R}
  {history : List (PlayerStateActor R × SnapEvent)}

theorem valid_of_run (run : (snapPanel gridSnap rotationSnap).Run history actor) :
    gridSnap.index < 5 ∧ rotationSnap.index < 5 := by
  induction run with
  | start started =>
      exact ⟨gridSnap.index_lt_iff.mpr started.1, rotationSnap.index_lt_iff.mpr started.2.1⟩
  | step _ _ valid => exact valid

theorem viewModelAgrees_of_run (run : (snapPanel gridSnap rotationSnap).Run history actor) :
    actor.ViewModelAgrees := by
  refine run.invariant ?_ ?_
  · rintro _ ⟨_, _, created, _, _, rfl⟩
    rfl
  · intro before event agrees _
    have viewModel : before.snapSettingsViewModel = _ := agrees
    cases event with
    | setGridSnap newGridSnap => simp [ViewModelAgrees, snapPanel, setGridSnap, viewModel]
    | setRotationSnap newRotationSnap =>
        simp [ViewModelAgrees, snapPanel, setRotationSnap, viewModel]
    | cycleGridSnap => simp [ViewModelAgrees, snapPanel, cycleGridSnap, setGridSnap, viewModel]
    | cycleRotationSnap =>
        simp [ViewModelAgrees, snapPanel, cycleRotationSnap, setRotationSnap, viewModel]

theorem gridSnap_dialled (run : (snapPanel gridSnap rotationSnap).Run history actor) :
    actor.playerState.gridSnap.index =
      dialled 5 gridSnap.index SnapEvent.setsGrid SnapEvent.cyclesGrid history := by
  refine run.register_eq_dialled (fun actor => actor.playerState.gridSnap.index)
    (valid_of_run run).1 ?_ ?_ ?_
  · rintro _ ⟨_, _, created, grid, _, rfl⟩
    exact congrArg GridSnap.index grid
  · intro before event value enabled sets
    cases event with
    | setGridSnap newGridSnap =>
        rw [← Option.some.inj sets, GridSnap.index_lt_iff]
        exact enabled
    | _ => simp [SnapEvent.setsGrid] at sets
  · intro before event _
    cases event with
    | cycleGridSnap => exact GridSnap.index_ofIndex (Nat.mod_lt _ (by decide)).le
    | _ => rfl

theorem rotationSnap_dialled (run : (snapPanel gridSnap rotationSnap).Run history actor) :
    actor.playerState.rotationSnap.index =
      dialled 5 rotationSnap.index SnapEvent.setsRotation SnapEvent.cyclesRotation history := by
  refine run.register_eq_dialled (fun actor => actor.playerState.rotationSnap.index)
    (valid_of_run run).2 ?_ ?_ ?_
  · rintro _ ⟨_, _, created, _, rotation, rfl⟩
    exact congrArg RotationSnap.index rotation
  · intro before event value enabled sets
    cases event with
    | setRotationSnap newRotationSnap =>
        rw [← Option.some.inj sets, RotationSnap.index_lt_iff]
        exact enabled
    | _ => simp [SnapEvent.setsRotation] at sets
  · intro before event _
    cases event with
    | cycleRotationSnap => exact RotationSnap.index_ofIndex (Nat.mod_lt _ (by decide)).le
    | _ => rfl

/-- Whatever the user sets and cycles, each setting is the newest level set for it plus the number
of its own cycles since, modulo five, and the panel shows the numerals of the steps which gestures
use. -/
theorem panel_shows_steps [CharZero R] {F : Type*}
    (run : (snapPanel gridSnap rotationSnap).Run history actor) :
    actor.playerState.gridSnap.index =
        dialled 5 gridSnap.index SnapEvent.setsGrid SnapEvent.cyclesGrid history ∧
      actor.playerState.rotationSnap.index =
        dialled 5 rotationSnap.index SnapEvent.setsRotation SnapEvent.cyclesRotation history ∧
      ∃ (viewModel : SnapSettingsViewModel) (gridStep rotStep : Nat),
        actor.snapSettingsViewModel = some viewModel ∧
        gridSnapToText viewModel.gridSnap = toString gridStep ∧
        rotationSnapToText viewModel.rotationSnap = toString rotStep ∧
        ∀ world : LocalWorld F R, world.playerState = some actor.playerState →
          world.gridStep = gridStep ∧ world.rotationSnap = rotStep := by
  have grid := gridSnap_dialled run
  have rotation := rotationSnap_dialled run
  have gridValid : actor.playerState.gridSnap ≠ .count := by
    rw [← GridSnap.index_lt_iff, grid]
    exact Nat.mod_lt _ (by decide)
  have rotationValid : actor.playerState.rotationSnap ≠ .count := by
    rw [← RotationSnap.index_lt_iff, rotation]
    exact Nat.mod_lt _ (by decide)
  obtain ⟨gridStep, gridText, gridUsed⟩ := gridSnapToText_step gridValid
  obtain ⟨rotStep, rotText, rotUsed⟩ := rotationSnapToText_step rotationValid
  refine ⟨grid, rotation, _, gridStep, rotStep, viewModelAgrees_of_run run, gridText, rotText, ?_⟩
  intro world playerState
  rw [LocalWorld.gridStep, LocalWorld.rotationSnap, playerState]
  exact ⟨gridUsed, rotUsed⟩

/-- Four cycles of the grid from its largest level, with a rotation set in between. -/
theorem panel_shows_steps_around :
    ∃ actor : PlayerStateActor ℚ, actor.playerState.gridSnap.index = 3 ∧
      actor.playerState.rotationSnap.index = 4 := by
  let created : PlayerStateActor ℚ := { playerState := { gridSnap := .large } }
  have start : (snapPanel .large .fine).Run [] created.createViewModel :=
    .start ⟨by decide, by decide, created, rfl, rfl, rfl⟩
  have legal : (snapPanel .large .fine).Legal created.createViewModel
      [.cycleGridSnap, .cycleGridSnap, .setRotationSnap .large, .cycleGridSnap, .cycleGridSnap] :=
    ⟨trivial, trivial, (by decide : RotationSnap.large ≠ .count), trivial, trivial, trivial⟩
  have shown := panel_shows_steps (F := Nat) (start.replay legal)
  exact ⟨_, shown.1.trans (by decide), shown.2.1.trans (by decide)⟩

end PlayerStateActor

end Ioroom
