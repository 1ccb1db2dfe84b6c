import Ioroom.ScalabilityLevel

/-!
# The level a user keeps

The game instance detects a level once, on the first launch on a machine with user settings.  From
then on the settings and their file have the level the user has chosen last, or the detected one,
whatever adapter or benchmark the later launches meet.
-/

namespace Ioroom

open EventSystem

namespace GraphicsHistory

open IoroomGameInstance

/-- Launches with any adapters, with levels from zero to four in between, of a machine with user
settings from its first launch on. -/
def sessions : EventSystem GraphicsHistory (GraphicsAdapter × GraphicsEvent) where
  Start machine :=
    machine.launched = false ∧ machine.gameInstance.userSettings.isSome = true ∧
      machine.gameInstance.gameUserSettingsIni.bHasAutoDetectedGraphics = false
  Enabled machine event := (launches event.1).Enabled machine event.2
  next machine event := machine.next event.1 event.2

/-- The level which the user chooses. -/
def chosen (_ : GraphicsHistory) : GraphicsAdapter × GraphicsEvent → Option Int
  | (_, .launch _) => none
  | (_, .setScalabilityLevel level) => some level

/-- The settings, the file and the flag of a machine on which a level was applied. -/
structure Holds (machine : GraphicsHistory) (level : Int) : Prop where
  launched : machine.launched = true
  settings : machine.gameInstance.userSettings = some (levelQuality level)
  quality : machine.gameInstance.gameUserSettingsIni.quality = levelQuality level
  detected : machine.gameInstance.gameUserSettingsIni.bHasAutoDetectedGraphics = true

variable {machine : GraphicsHistory} {adapter : GraphicsAdapter} {level : Int}
  {history : List (GraphicsHistory × (GraphicsAdapter × GraphicsEvent))}

theorem Holds.not_detectsLevel (holds : machine.Holds level) :
    ¬machine.gameInstance.DetectsLevel := by
  intro detects
  exact absurd (holds.detected.symm.trans detects.2) (by decide)

/-- A later launch reads the level back from the file, with whatever adapter. -/
theorem Holds.launch (holds : machine.Holds level) (adapter : GraphicsAdapter)
    (benchmark : QualityLevels) : (machine.next adapter (.launch benchmark)).Holds level := by
  rw [next_launch_again benchmark holds.not_detectsLevel]
  refine ⟨rfl, ?_, holds.quality, holds.detected⟩
  simp [starting, newProcess, IoroomGameInstance.detected, holds.settings, holds.quality]

theorem Holds.setScalabilityLevel (holds : machine.Holds level) (adapter : GraphicsAdapter)
    (newLevel : Int) : (machine.next adapter (.setScalabilityLevel newLevel)).Holds newLevel := by
  have present : machine.gameInstance.userSettings.isSome = true := by simp [holds.settings]
  have applies : machine.selects adapter (.setScalabilityLevel newLevel) = some newLevel := by
    simp [selects, present]
  obtain ⟨_, settings, quality⟩ := next_quality applies
  obtain ⟨_, _, flag⟩ := setScalabilityLevel_frame newLevel machine.gameInstance
  exact ⟨rfl, settings, quality, flag.trans holds.detected⟩

theorem holds_first_launch (detects : machine.gameInstance.DetectsLevel)
    (adapter : GraphicsAdapter) (benchmark : QualityLevels) :
    (machine.next adapter (.launch benchmark)).Holds
      ((machine.gameInstance.starting adapter).autodetectedLevel benchmark) := by
  have applies : machine.selects adapter (.launch benchmark) =
      some ((machine.gameInstance.starting adapter).autodetectedLevel benchmark) := by
    simp [selects, detects]
  obtain ⟨_, settings, quality⟩ := next_quality applies
  refine ⟨rfl, settings, quality, ?_⟩
  exact congrArg (fun after => after.gameUserSettingsIni.bHasAutoDetectedGraphics)
    (launch_detects adapter benchmark detects)

theorem unlaunched_start (run : sessions.Run history machine) (fresh : machine.launched = false) :
    history = [] ∧ sessions.Start machine := by
  cases run with
  | start started => exact ⟨rfl, started⟩
  | step _ _ => exact absurd fresh (by simp [sessions, next])

/-- Since the first launch a machine holds the user's newest level, or else the one detected then,
and no later event has detected another. -/
theorem choice_survives (run : sessions.Run history machine) (launched : machine.launched = true) :
    ∃ first adapter benchmark, history.getLast? = some (first, (adapter, .launch benchmark)) ∧
      (∀ past ∈ history.dropLast, ¬past.1.gameInstance.DetectsLevel) ∧
      machine.Holds ((latest chosen history).getD
        ((first.gameInstance.starting adapter).autodetectedLevel benchmark)) := by
  induction run with
  | start started => exact absurd (started.1.symm.trans launched) (by decide)
  | @step history before event earlier enabled induction =>
      obtain ⟨adapter, event⟩ := event
      cases begun : before.launched with
      | true =>
          obtain ⟨first, firstAdapter, firstBenchmark, oldest, once, holds⟩ := induction begun
          have nonempty : history ≠ [] := by
            rintro rfl
            simp at oldest
          refine ⟨first, firstAdapter, firstBenchmark, ?_, ?_, ?_⟩
          · rw [List.getLast?_cons, oldest]
            rfl
          · rw [List.dropLast_cons_of_ne_nil nonempty]
            exact List.forall_mem_cons.mpr ⟨holds.not_detectsLevel, once⟩
          · rw [latest_cons]
            cases event with
            | launch benchmark => exact holds.launch adapter benchmark
            | setScalabilityLevel level => exact holds.setScalabilityLevel adapter level
      | false =>
          obtain ⟨rfl, _, present, undetected⟩ := unlaunched_start earlier begun
          cases event with
          | launch benchmark =>
              exact ⟨before, adapter, benchmark, rfl, by simp,
                holds_first_launch ⟨present, undetected⟩ adapter benchmark⟩
          | setScalabilityLevel level => exact absurd (enabled.1.symm.trans begun) (by decide)

/-- A machine on which the user steps down and which then gets another adapter. -/
def newAdapter : List (GraphicsAdapter × GraphicsEvent) :=
  [(rtx, .launch fun _ => 3), (rtx, .setScalabilityLevel 2), (⟨"Apple M3", 0⟩, .launch fun _ => 0)]

/-- The launch with the other adapter keeps the level chosen with the first. -/
theorem choice_survives_newAdapter : (sessions.replay installed newAdapter).Holds 2 := by
  have begin : sessions.Run [] installed := .start ⟨rfl, rfl, rfl⟩
  have legal : sessions.Legal installed newAdapter :=
    ⟨trivial, ⟨rfl, by decide, by decide⟩, trivial, trivial⟩
  obtain ⟨_, _, _, _, _, holds⟩ := choice_survives (begin.replay legal) rfl
  exact holds

end GraphicsHistory

end Ioroom
