import Ioroom.RayTracing

/-!
# The level read back

The level set is the level of every quality group but the textures, which the two lowest levels keep
at high quality.  The engine reports no common level then.  All other levels are read back as they
were set, over all launches.
-/

namespace Ioroom

open EventSystem

namespace IoroomGameInstance

variable {gameInstance : IoroomGameInstance} {level : Int}

/-- The quality to which a level leads. -/
def levelQuality (level : Int) : QualityLevels :=
  if level ≤ 1 then QualityLevels.setTextureQuality 2 fun _ => level else fun _ => level

theorem levelQuality_high (high : 2 ≤ level) : levelQuality level = fun _ => level := by
  rw [levelQuality, if_neg (by omega)]

/-- A level is reported exactly from two on. -/
theorem getOverallScalabilityLevel_levelQuality (valid : 0 ≤ level) :
    (levelQuality level).getOverallScalabilityLevel = level ↔ 2 ≤ level := by
  rw [QualityLevels.getOverallScalabilityLevel_eq_iff valid]
  constructor
  · intro common
    by_contra low
    have textures := common .texture
    have texture : levelQuality level .texture = 2 := by
      rw [levelQuality, if_pos (by omega)]
      rfl
    omega
  · intro high group
    rw [levelQuality_high high]

theorem setScalabilityLevel_quality (present : gameInstance.userSettings.isSome) (level : Int) :
    (gameInstance.setScalabilityLevel level).userSettings = some (levelQuality level) ∧
      (gameInstance.setScalabilityLevel level).gameUserSettingsIni.quality =
        levelQuality level := by
  obtain ⟨quality, settings⟩ := Option.isSome_iff_exists.mp present
  simp only [setScalabilityLevel, settings]
  exact ⟨rfl, rfl⟩

/-- The adapter and the benchmark with which the first launch chooses a level from two on. -/
def SuitsHighLevel (adapter : GraphicsAdapter) (benchmark : QualityLevels) : Prop :=
  let apple := containsIgnoreCase (detectGPUName adapter) "Apple"
  (if apple then 24000 else 13000) ≤ getGPUMemoryMB adapter ∨
    (if apple then 10000 else 8000) ≤ getGPUMemoryMB adapter ∧ 2 ≤ benchmark .viewDistance

theorem autodetectedLevel_high_iff (adapter : GraphicsAdapter) (benchmark : QualityLevels) :
    2 ≤ (gameInstance.starting adapter).autodetectedLevel benchmark ↔
      SuitsHighLevel adapter benchmark := by
  have gpuName : (gameInstance.starting adapter).cachedGPUName = detectGPUName adapter := rfl
  have memory : (gameInstance.starting adapter).detectedVRAMMB = getGPUMemoryMB adapter := rfl
  simp only [autodetectedLevel, determineTierScalabilityLevel, runGraphicsBenchmark, clamp,
    SuitsHighLevel, gpuName, memory]
  cases containsIgnoreCase (detectGPUName adapter) "Apple" <;> grind

end IoroomGameInstance

namespace GraphicsHistory

open IoroomGameInstance

/-- The level applied last is the one read back. -/
def ReportsLevel (machine : GraphicsHistory) : Prop :=
  ∀ level, machine.applied = some level → machine.gameInstance.getCurrentScalabilityLevel = level

/-- An event applies one of the two lowest levels. -/
def AppliesLowLevel (adapter : GraphicsAdapter) (machine : GraphicsHistory) : GraphicsEvent → Prop
  | .launch benchmark =>
      machine.gameInstance.DetectsLevel ∧ ¬SuitsHighLevel adapter benchmark
  | .setScalabilityLevel level =>
      machine.gameInstance.userSettings.isSome = true ∧ level < 2

/-- The level applied last is the level of every group, in the settings and in their file. -/
def LevelKept (machine : GraphicsHistory) : Prop :=
  ∀ level, machine.applied = some level →
    machine.gameInstance.userSettings = some (fun _ => level) ∧
      machine.gameInstance.gameUserSettingsIni.quality = fun _ => level

variable {adapter : GraphicsAdapter} {machine : GraphicsHistory} {event : GraphicsEvent}
  {history : List (GraphicsHistory × GraphicsEvent)} {level : Int}

theorem LevelKept.reportsLevel (kept : machine.LevelKept) : machine.ReportsLevel := by
  intro level applied
  rw [getCurrentScalabilityLevel, (kept level applied).1]
  simp [QualityLevels.getOverallScalabilityLevel]

theorem selects_cases (applies : machine.selects adapter event = some level) :
    (∃ benchmark, event = .launch benchmark ∧ machine.gameInstance.DetectsLevel ∧
        (machine.gameInstance.starting adapter).autodetectedLevel benchmark = level) ∨
      event = .setScalabilityLevel level ∧ machine.gameInstance.userSettings.isSome = true := by
  cases event with
  | launch benchmark =>
      simp only [selects, Option.ite_none_right_eq_some, Option.some.injEq] at applies
      exact Or.inl ⟨benchmark, rfl, applies⟩
  | setScalabilityLevel chosen =>
      simp only [selects, Option.ite_none_right_eq_some, Option.some.injEq] at applies
      obtain ⟨present, rfl⟩ := applies
      exact Or.inr ⟨rfl, present⟩

theorem next_quality (applies : machine.selects adapter event = some level) :
    (machine.next adapter event).applied = some level ∧
      (machine.next adapter event).gameInstance.userSettings = some (levelQuality level) ∧
      (machine.next adapter event).gameInstance.gameUserSettingsIni.quality =
        levelQuality level := by
  refine ⟨by simp [next, applies], ?_⟩
  rcases selects_cases applies with ⟨benchmark, rfl, detects, detected⟩ | ⟨rfl, present⟩
  · have present : (machine.gameInstance.starting adapter).userSettings.isSome := by
      simpa using detects.1
    have launched := launch_detects adapter benchmark detects
    rw [detected] at launched
    have quality := setScalabilityLevel_quality present level
    simp only [next, launched]
    exact quality
  · exact setScalabilityLevel_quality present level

/-- An event which applies no level keeps the level in the file, which a launch reads again. -/
theorem LevelKept.next_idle (kept : machine.LevelKept)
    (idle : machine.selects adapter event = none) : (machine.next adapter event).LevelKept := by
  intro level applied
  have before : machine.applied = some level := by simpa [GraphicsHistory.next, idle] using applied
  obtain ⟨settings, quality⟩ := kept level before
  cases event with
  | launch benchmark =>
      have known : ¬machine.gameInstance.DetectsLevel := by
        intro detects
        simp [selects, detects] at idle
      rw [next_launch_again benchmark known]
      simp [starting, newProcess, detected, settings, quality]
  | setScalabilityLevel chosen => simp [selects, settings] at idle

theorem selects_nonneg (enabled : (launches adapter).Enabled machine event)
    (applies : machine.selects adapter event = some level) : 0 ≤ level := by
  rcases selects_cases applies with ⟨benchmark, rfl, _, rfl⟩ | ⟨rfl, _⟩
  · exact (autodetectedLevel_mem benchmark _).1
  · exact enabled.2.1

theorem appliesLowLevel_iff (applies : machine.selects adapter event = some level) :
    machine.AppliesLowLevel adapter event ↔ level < 2 := by
  rcases selects_cases applies with ⟨benchmark, rfl, detects, rfl⟩ | ⟨rfl, present⟩
  · rw [AppliesLowLevel, ← autodetectedLevel_high_iff, not_le]
    exact and_iff_right detects
  · exact and_iff_right present

theorem not_appliesLowLevel (idle : machine.selects adapter event = none) :
    ¬machine.AppliesLowLevel adapter event := by
  cases event with
  | launch benchmark =>
      rintro ⟨detects, _⟩
      simp [selects, detects] at idle
  | setScalabilityLevel chosen =>
      rintro ⟨present, _⟩
      simp [selects, present] at idle

/-- The level read back after every launch and every change of the level, from the first launch on,
is the level applied last if and only if none of the two lowest levels is ever applied, neither by
the user nor by the first launch. -/
theorem reportsLevel_iff_neverLow (run : (launches adapter).Run history machine) :
    Along ReportsLevel history machine ↔
      Guarded (fun machine event => ¬machine.AppliesLowLevel adapter event) history := by
  have start : ∀ initial, (launches adapter).Start initial → initial.LevelKept := by
    rintro initial ⟨_, unapplied, _⟩ level applied
    simp [unapplied] at applied
  refine run.along_iff_guarded start (fun _ kept => kept.reportsLevel) ?_ ?_
  · intro current event kept _ high
    cases applies : current.selects adapter event with
    | none => exact kept.next_idle applies
    | some level =>
        obtain ⟨applied, settings, quality⟩ := next_quality applies
        rw [appliesLowLevel_iff applies, not_lt] at high
        rw [levelQuality_high high] at settings quality
        intro last isLast
        rw [← Option.some.inj (applied.symm.trans isLast)]
        exact ⟨settings, quality⟩
  · intro current event _ enabled low reports
    cases applies : current.selects adapter event with
    | none => exact low (not_appliesLowLevel applies)
    | some level =>
        obtain ⟨applied, settings, _⟩ := next_quality applies
        have reported := reports level applied
        rw [not_not, appliesLowLevel_iff applies] at low
        have read : ((launches adapter).next current event).gameInstance.getCurrentScalabilityLevel
            = (levelQuality level).getOverallScalabilityLevel := by
          change (current.next adapter event).gameInstance.getCurrentScalabilityLevel = _
          rw [getCurrentScalabilityLevel, settings]
        rw [read, getOverallScalabilityLevel_levelQuality (selects_nonneg enabled applies)]
          at reported
        omega

/-- In that first session every level is read back. -/
theorem reportsLevel_iff_neverLow_firstSession :
    ((launches rtx).replay installed firstSession).gameInstance.getCurrentScalabilityLevel = 3 := by
  have run := run_installed.replay firstSession_legal
  have high : Guarded (fun machine event => ¬machine.AppliesLowLevel rtx event)
      ((launches rtx).record [] installed firstSession) := by
    refine guarded_cons.mpr ⟨fun low => absurd low.2 (by decide), guarded_cons.mpr ⟨?_, ?_⟩⟩
    · exact fun low => low.2 (Or.inl (by decide))
    · exact guarded_nil _
  exact ((reportsLevel_iff_neverLow run).mpr high).1 3 rfl

/-- A level of zero, set in that session, is read back as no level at all. -/
theorem lowest_level_not_reported :
    ∃ (history : List (GraphicsHistory × GraphicsEvent)) (machine : GraphicsHistory),
      (launches rtx).Run history machine ∧ machine.applied = some 0 ∧
        machine.gameInstance.getCurrentScalabilityLevel = -1 ∧ ¬machine.ReportsLevel := by
  have legal : (launches rtx).Legal installed (firstSession ++ [.setScalabilityLevel 0]) :=
    ⟨trivial, ⟨rfl, by decide, by decide⟩, ⟨rfl, by decide, by decide⟩, trivial⟩
  refine ⟨_, _, run_installed.replay legal, rfl, rfl, fun reports => ?_⟩
  exact absurd (reports 0 rfl) (by decide)

end GraphicsHistory

end Ioroom
