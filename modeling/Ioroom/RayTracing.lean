import Ioroom.EventSystem
import Ioroom.IoroomGameInstance

/-!
# Ray tracing over launches

Levels from three on turn hardware ray tracing on for an RTX adapter, and nothing turns it off again
but a new process, which starts from the configuration.  A machine is followed from its first launch
on, with the level which was applied last.
-/

namespace Ioroom

open EventSystem ConsoleVariables

namespace IoroomGameInstance

variable {gameInstance : IoroomGameInstance}

/-- Both ray-tracing variables are on and the mesh distance fields, which replace it, are off. -/
structure RayTracingOn (values : ConsoleVariables) : Prop where
  hardware : values .lumenHardwareRayTracing = some 1
  reflections : values .lumenReflectionsHardwareRayTracing = some 1
  meshSDFs : values .lumenTraceMeshSDFs = some 0

theorem rayTracingOn_enableRayTracing : RayTracingOn (enableRayTracing defaultEngine) :=
  ⟨rfl, rfl, rfl⟩

theorem not_rayTracingOn_defaultEngine : ¬RayTracingOn defaultEngine := by
  intro on
  exact absurd on.hardware (by decide)

theorem enableRayTracing_idem :
    enableRayTracing (enableRayTracing defaultEngine) = enableRayTracing defaultEngine := by
  funext name
  cases name <;> rfl

theorem setScalabilityLevel_none (absent : gameInstance.userSettings = none) (level : Int) :
    gameInstance.setScalabilityLevel level = gameInstance := by
  simp [setScalabilityLevel, absent]

theorem setScalabilityLevel_frame (level : Int) (gameInstance : IoroomGameInstance) :
    (gameInstance.setScalabilityLevel level).cachedGPUName = gameInstance.cachedGPUName ∧
      (gameInstance.setScalabilityLevel level).userSettings.isSome =
        gameInstance.userSettings.isSome ∧
      (gameInstance.setScalabilityLevel level).gameUserSettingsIni.bHasAutoDetectedGraphics =
        gameInstance.gameUserSettingsIni.bHasAutoDetectedGraphics := by
  cases settings : gameInstance.userSettings with
  | none => simp [setScalabilityLevel_none settings, settings]
  | some quality => simp [setScalabilityLevel, settings]

theorem setScalabilityLevel_consoleVariables (present : gameInstance.userSettings.isSome)
    (level : Int) :
    (gameInstance.setScalabilityLevel level).consoleVariables =
      if 3 ≤ level ∧ containsIgnoreCase gameInstance.cachedGPUName "RTX" = true then
        enableRayTracing gameInstance.consoleVariables
      else gameInstance.consoleVariables := by
  obtain ⟨quality, settings⟩ := Option.isSome_iff_exists.mp present
  simp only [setScalabilityLevel, settings]

/-- The variables which a level calls for. -/
def levelVariables (gpuName : String) (level : Int) : ConsoleVariables :=
  if 3 ≤ level ∧ containsIgnoreCase gpuName "RTX" = true then enableRayTracing defaultEngine
  else defaultEngine

/-- From the configured values, or from those of a level which wants them too, a level leads to the
variables it calls for. -/
theorem setScalabilityLevel_values (level : Int) (present : gameInstance.userSettings.isSome)
    (values : gameInstance.consoleVariables = defaultEngine ∨
      gameInstance.consoleVariables = enableRayTracing defaultEngine ∧
        3 ≤ level ∧ containsIgnoreCase gameInstance.cachedGPUName "RTX" = true) :
    (gameInstance.setScalabilityLevel level).consoleVariables =
      levelVariables gameInstance.cachedGPUName level := by
  rw [setScalabilityLevel_consoleVariables present, levelVariables]
  split
  · rcases values with configured | ⟨tracing, _⟩
    · rw [configured]
    · rw [tracing, enableRayTracing_idem]
  · rename_i unwanted
    rcases values with configured | ⟨_, wanted⟩
    · exact configured
    · exact absurd wanted unwanted

/-- The first launch of a machine with user settings detects a level. -/
def DetectsLevel (gameInstance : IoroomGameInstance) : Prop :=
  gameInstance.userSettings.isSome ∧
    gameInstance.gameUserSettingsIni.bHasAutoDetectedGraphics = false

instance : Decidable gameInstance.DetectsLevel :=
  inferInstanceAs (Decidable (_ ∧ _))

/-- The process as `Init` finds it, with the adapter's data. -/
def starting (adapter : GraphicsAdapter) (gameInstance : IoroomGameInstance) :
    IoroomGameInstance :=
  gameInstance.newProcess.detected adapter

@[simp]
theorem starting_userSettings (adapter : GraphicsAdapter) (gameInstance : IoroomGameInstance) :
    (gameInstance.starting adapter).userSettings.isSome = gameInstance.userSettings.isSome :=
  Option.isSome_map

/-- A launch which detects a level applies it and sets the flag. -/
theorem launch_detects (adapter : GraphicsAdapter) (benchmark : QualityLevels)
    (detects : gameInstance.DetectsLevel) :
    gameInstance.launch adapter benchmark =
      let applied := (gameInstance.starting adapter).setScalabilityLevel
        ((gameInstance.starting adapter).autodetectedLevel benchmark)
      { applied with
        gameUserSettingsIni := { applied.gameUserSettingsIni with
          bHasAutoDetectedGraphics := true } } := by
  have present : (gameInstance.newProcess.detected adapter).userSettings.isSome :=
    (starting_userSettings adapter gameInstance).trans detects.1
  have absent : (gameInstance.newProcess.detected adapter).gameUserSettingsIni =
      gameInstance.gameUserSettingsIni := rfl
  rw [launch, init, if_pos ⟨present, absent ▸ detects.2⟩]
  rfl

/-- Every other launch only starts the process. -/
theorem launch_again (adapter : GraphicsAdapter) (benchmark : QualityLevels)
    (known : ¬gameInstance.DetectsLevel) :
    gameInstance.launch adapter benchmark = gameInstance.starting adapter := by
  rw [launch, init, if_neg]
  · rfl
  · rintro ⟨present, absent⟩
    exact known ⟨(starting_userSettings adapter gameInstance).symm.trans present, absent⟩

end IoroomGameInstance

/-- A machine, whether the program was ever launched on it, and the level applied last. -/
structure GraphicsHistory where
  gameInstance : IoroomGameInstance
  launched : Bool
  applied : Option Int

inductive GraphicsEvent
  /-- A new process and `Init`, with the benchmark which the engine would report. -/
  | launch (benchmark : QualityLevels)
  | setScalabilityLevel (level : Int)

namespace GraphicsHistory

open IoroomGameInstance

/-- The level which an event applies. -/
def selects (adapter : GraphicsAdapter) (machine : GraphicsHistory) : GraphicsEvent → Option Int
  | .launch benchmark =>
      if machine.gameInstance.DetectsLevel then
        some ((machine.gameInstance.starting adapter).autodetectedLevel benchmark)
      else none
  | .setScalabilityLevel level =>
      if machine.gameInstance.userSettings.isSome then some level else none

def next (adapter : GraphicsAdapter) (machine : GraphicsHistory) (event : GraphicsEvent) :
    GraphicsHistory where
  gameInstance :=
    match event with
    | .launch benchmark => machine.gameInstance.launch adapter benchmark
    | .setScalabilityLevel level => machine.gameInstance.setScalabilityLevel level
  launched := true
  applied := (machine.selects adapter event).or machine.applied

/-- All sequences of launches on a machine, with levels from zero to four in between, from its
first launch on. -/
def launches (adapter : GraphicsAdapter) : EventSystem GraphicsHistory GraphicsEvent where
  Start machine :=
    machine.launched = false ∧ machine.applied = none ∧
      machine.gameInstance.gameUserSettingsIni.bHasAutoDetectedGraphics = false
  Enabled machine event :=
    match event with
    | .launch _ => True
    | .setScalabilityLevel level => machine.launched = true ∧ 0 ≤ level ∧ level ≤ 4
  next := next adapter

/-- The level applied last is at least three and the adapter is an RTX one. -/
def WantsRayTracing (adapter : GraphicsAdapter) (machine : GraphicsHistory) : Prop :=
  (∃ level, machine.applied = some level ∧ 3 ≤ level) ∧
    containsIgnoreCase (detectGPUName adapter) "RTX" = true

/-- Ray tracing is on exactly if it is wanted, and otherwise the variables have their configured
values. -/
structure RayTracingMatches (adapter : GraphicsAdapter) (machine : GraphicsHistory) : Prop where
  on : RayTracingOn machine.gameInstance.consoleVariables ↔ machine.WantsRayTracing adapter
  otherwise : ¬machine.WantsRayTracing adapter →
    machine.gameInstance.consoleVariables = defaultEngine

/-- A launch, or a level below three, comes while ray tracing is wanted. -/
def DropsRayTracing (adapter : GraphicsAdapter) (machine : GraphicsHistory) :
    GraphicsEvent → Prop
  | .launch _ => machine.WantsRayTracing adapter
  | .setScalabilityLevel level => machine.WantsRayTracing adapter ∧ level < 3

variable {adapter : GraphicsAdapter} {machine : GraphicsHistory}
  {history : List (GraphicsHistory × GraphicsEvent)}

theorem wantsRayTracing_some {level : Int} (applied : machine.applied = some level) :
    machine.WantsRayTracing adapter ↔
      3 ≤ level ∧ containsIgnoreCase (detectGPUName adapter) "RTX" = true := by
  simp [WantsRayTracing, applied]

theorem WantsRayTracing.applied (wants : machine.WantsRayTracing adapter) :
    machine.applied.isSome := by
  obtain ⟨⟨level, applied, _⟩, _⟩ := wants
  exact Option.isSome_of_eq_some applied

/-- What holds after every launch and every level, as long as ray tracing is never dropped. -/
structure Settled (adapter : GraphicsAdapter) (machine : GraphicsHistory) : Prop where
  gpuName : machine.gameInstance.cachedGPUName = detectGPUName adapter
  detected : ¬machine.gameInstance.DetectsLevel
  present : machine.applied.isSome → machine.gameInstance.userSettings.isSome
  wanted : machine.WantsRayTracing adapter →
    machine.gameInstance.consoleVariables = enableRayTracing defaultEngine
  otherwise : ¬machine.WantsRayTracing adapter →
    machine.gameInstance.consoleVariables = defaultEngine

theorem Settled.rayTracingMatches (settled : machine.Settled adapter) :
    machine.RayTracingMatches adapter := by
  refine ⟨⟨fun tracing => ?_, fun wants => ?_⟩, settled.otherwise⟩
  · by_contra unwanted
    exact not_rayTracingOn_defaultEngine (settled.otherwise unwanted ▸ tracing)
  · rw [settled.wanted wants]
    exact rayTracingOn_enableRayTracing

/-- Until the first launch no level is applied, and from then on the machine is settled. -/
structure Tracks (adapter : GraphicsAdapter) (machine : GraphicsHistory) : Prop where
  fresh : machine.launched = false → machine.applied = none
  settled : machine.launched = true → machine.Settled adapter

theorem Tracks.settled_of_applied (tracks : machine.Tracks adapter)
    (applied : machine.applied.isSome) : machine.Settled adapter := by
  cases launched : machine.launched with
  | false => simp [tracks.fresh launched] at applied
  | true => exact tracks.settled launched

theorem settled_of_applied {level : Int} (applied : machine.applied = some level)
    (gpuName : machine.gameInstance.cachedGPUName = detectGPUName adapter)
    (present : machine.gameInstance.userSettings.isSome)
    (detected : machine.gameInstance.gameUserSettingsIni.bHasAutoDetectedGraphics = true)
    (values : machine.gameInstance.consoleVariables =
      levelVariables machine.gameInstance.cachedGPUName level) :
    machine.Settled adapter := by
  rw [levelVariables, gpuName] at values
  refine ⟨gpuName, fun detects => ?_, fun _ => present, fun wants => ?_, fun unwanted => ?_⟩
  · exact absurd (detected.symm.trans detects.2) (by decide)
  · rw [values, if_pos ((wantsRayTracing_some applied).mp wants)]
  · rw [values, if_neg (mt (wantsRayTracing_some applied).mpr unwanted)]

theorem settled_launch_detects (benchmark : QualityLevels)
    (detects : machine.gameInstance.DetectsLevel) :
    (machine.next adapter (.launch benchmark)).Settled adapter := by
  have applied : (machine.next adapter (.launch benchmark)).applied =
      some ((machine.gameInstance.starting adapter).autodetectedLevel benchmark) := by
    simp [next, selects, detects]
  have present : (machine.gameInstance.starting adapter).userSettings.isSome := by
    simpa using detects.1
  obtain ⟨gpuName, settings, _⟩ := setScalabilityLevel_frame
    ((machine.gameInstance.starting adapter).autodetectedLevel benchmark)
    (machine.gameInstance.starting adapter)
  have launched := launch_detects adapter benchmark detects
  refine settled_of_applied applied ?_ ?_ ?_ ?_
  · exact (congrArg cachedGPUName launched).trans gpuName
  · exact (congrArg (fun after => after.userSettings.isSome) launched).trans
      (settings.trans present)
  · exact congrArg (fun after => after.gameUserSettingsIni.bHasAutoDetectedGraphics) launched
  · have values := setScalabilityLevel_values
      ((machine.gameInstance.starting adapter).autodetectedLevel benchmark) present (.inl rfl)
    rw [← gpuName] at values
    rw [next]
    simp only [launched]
    exact values

theorem next_launch_again (benchmark : QualityLevels)
    (known : ¬machine.gameInstance.DetectsLevel) :
    machine.next adapter (.launch benchmark) =
      ⟨machine.gameInstance.starting adapter, true, machine.applied⟩ := by
  simp [next, selects, known, launch_again adapter benchmark known]

theorem settled_launch_again (tracks : machine.Tracks adapter) (benchmark : QualityLevels)
    (known : ¬machine.gameInstance.DetectsLevel) (unwanted : ¬machine.WantsRayTracing adapter) :
    (machine.next adapter (.launch benchmark)).Settled adapter := by
  rw [next_launch_again benchmark known]
  refine ⟨rfl, fun detects => known ?_, fun applied => ?_, fun wants => absurd wants unwanted,
    fun _ => rfl⟩
  · exact ⟨by simpa using detects.1, detects.2⟩
  · have present := (tracks.settled_of_applied applied).present applied
    simpa using present

theorem next_setScalabilityLevel_absent (launched : machine.launched = true)
    (absent : machine.gameInstance.userSettings = none) (level : Int) :
    machine.next adapter (.setScalabilityLevel level) = machine := by
  have kept : machine.gameInstance.setScalabilityLevel level = machine.gameInstance :=
    setScalabilityLevel_none absent level
  rw [next, kept]
  cases machine
  simp_all [selects]

theorem next_applied (present : machine.gameInstance.userSettings.isSome) (level : Int) :
    (machine.next adapter (.setScalabilityLevel level)).applied = some level := by
  simp [next, selects, present]

theorem Settled.setScalabilityLevel (settled : machine.Settled adapter)
    (launched : machine.launched = true) {level : Int}
    (keeps : machine.WantsRayTracing adapter → 3 ≤ level) :
    (machine.next adapter (.setScalabilityLevel level)).Settled adapter := by
  cases settings : machine.gameInstance.userSettings with
  | none => rwa [next_setScalabilityLevel_absent launched settings]
  | some quality =>
      have present : machine.gameInstance.userSettings.isSome := by simp [settings]
      obtain ⟨gpuName, kept, flag⟩ := setScalabilityLevel_frame level machine.gameInstance
      have detected : machine.gameInstance.gameUserSettingsIni.bHasAutoDetectedGraphics = true := by
        by_contra absent
        exact settled.detected ⟨present, by simpa using absent⟩
      have values : machine.gameInstance.consoleVariables = defaultEngine ∨
          machine.gameInstance.consoleVariables = enableRayTracing defaultEngine ∧
            3 ≤ level ∧
              containsIgnoreCase machine.gameInstance.cachedGPUName "RTX" = true := by
        by_cases wants : machine.WantsRayTracing adapter
        · exact .inr ⟨settled.wanted wants, keeps wants, settled.gpuName ▸ wants.2⟩
        · exact .inl (settled.otherwise wants)
      have reached := setScalabilityLevel_values level present values
      rw [← gpuName] at reached
      exact settled_of_applied (next_applied present level) (gpuName.trans settled.gpuName)
        (kept.trans present) (flag.trans detected) reached

/-- Every event which does not drop ray tracing settles the machine. -/
theorem Tracks.next (tracks : machine.Tracks adapter) {event : GraphicsEvent}
    (enabled : (launches adapter).Enabled machine event)
    (keeps : ¬machine.DropsRayTracing adapter event) :
    (machine.next adapter event).Tracks adapter := by
  refine ⟨fun fresh => absurd fresh (by simp [GraphicsHistory.next]), fun _ => ?_⟩
  cases event with
  | launch benchmark =>
      by_cases detects : machine.gameInstance.DetectsLevel
      · exact settled_launch_detects benchmark detects
      · exact settled_launch_again tracks benchmark detects keeps
  | setScalabilityLevel level =>
      obtain ⟨launched, _, _⟩ := enabled
      refine (tracks.settled launched).setScalabilityLevel launched fun wants => ?_
      by_contra low
      exact keeps ⟨wants, not_le.mp low⟩

/-- An event which drops ray tracing leaves the variables behind the level. -/
theorem Tracks.dropped (tracks : machine.Tracks adapter) {event : GraphicsEvent}
    (drops : machine.DropsRayTracing adapter event) :
    ¬(machine.next adapter event).RayTracingMatches adapter := by
  intro agrees
  cases event with
  | launch benchmark =>
      have settled := tracks.settled_of_applied (WantsRayTracing.applied drops)
      rw [next_launch_again benchmark settled.detected] at agrees
      exact not_rayTracingOn_defaultEngine (agrees.on.mpr drops)
  | setScalabilityLevel level =>
      obtain ⟨wants, low⟩ := drops
      have settled := tracks.settled_of_applied wants.applied
      have present := settled.present wants.applied
      have unwanted : ¬(machine.next adapter (.setScalabilityLevel level)).WantsRayTracing
          adapter := by
        rw [wantsRayTracing_some (next_applied present level)]
        rintro ⟨high, _⟩
        omega
      have kept : (machine.next adapter (.setScalabilityLevel level)).gameInstance.consoleVariables
          = enableRayTracing defaultEngine := by
        rw [← settled.wanted wants]
        refine (setScalabilityLevel_consoleVariables present level).trans (if_neg ?_)
        rintro ⟨high, _⟩
        omega
      have tracing := rayTracingOn_enableRayTracing
      rw [← kept] at tracing
      exact unwanted (agrees.on.mp tracing)

/-- The ray-tracing variables match the level applied last in every state of a run, from the first
launch on, exactly when the run never drops ray tracing: while the level is at least three on an RTX
adapter there is no further launch and no level below three. -/
theorem rayTracingMatches_iff_neverDropped
    (run : (launches adapter).Run history machine) :
    Along (fun machine => machine.launched = true → machine.RayTracingMatches adapter)
        history machine ↔
      Guarded (fun machine event => ¬machine.DropsRayTracing adapter event) history := by
  have start : ∀ initial, (launches adapter).Start initial → initial.Tracks adapter := by
    rintro initial ⟨unlaunched, unapplied, _⟩
    exact ⟨fun _ => unapplied, fun launched => by simp [unlaunched] at launched⟩
  refine run.along_iff_guarded start ?_ (fun _ _ tracks => tracks.next) ?_
  · intro current tracks launched
    exact (tracks.settled launched).rayTracingMatches
  · intro current event tracks _ drops agrees
    exact tracks.dropped (not_not.mp drops) (agrees rfl)

def rtx : GraphicsAdapter where
  rhiAdapterName := "NVIDIA GeForce RTX 4090"
  totalGraphicsMemory := 24 * 1024 * 1024 * 1024

/-- A machine on which the program is installed but was never launched. -/
def installed : GraphicsHistory where
  gameInstance :=
    { cachedGPUName := ""
      detectedVRAMMB := 0
      userSettings := some fun _ => 3
      gameUserSettingsIni := ⟨false, fun _ => 3⟩
      consoleVariables := defaultEngine }
  launched := false
  applied := none

theorem run_installed : (launches rtx).Run [] installed := .start ⟨rfl, rfl, rfl⟩

/-- The first launch detects the highest level, from which the user steps down by one. -/
def firstSession : List GraphicsEvent := [.launch fun _ => 3, .setScalabilityLevel 3]

theorem firstSession_legal : (launches rtx).Legal installed firstSession :=
  ⟨trivial, ⟨rfl, by decide, by decide⟩, trivial⟩

/-- Within the first session ray tracing is on. -/
theorem rayTracingMatches_iff_neverDropped_firstSession :
    RayTracingOn ((launches rtx).replay installed firstSession).gameInstance.consoleVariables := by
  have run := run_installed.replay firstSession_legal
  have kept : Guarded (fun machine event => ¬machine.DropsRayTracing rtx event)
      ((launches rtx).record [] installed firstSession) := by
    refine guarded_cons.mpr ⟨fun drops => absurd drops.2 (by decide), guarded_cons.mpr ⟨?_, ?_⟩⟩
    · exact fun drops => absurd (WantsRayTracing.applied drops) (by decide)
    · exact guarded_nil _
  have agrees := ((rayTracingMatches_iff_neverDropped run).mpr kept).1 rfl
  exact agrees.on.mpr ⟨⟨3, rfl, by decide⟩, by decide⟩

/-- The second launch leaves ray tracing off although the level is still three, and a level of zero
in the first session leaves it on. -/
theorem relaunch_loses_rayTracing :
    (∃ (history : List (GraphicsHistory × GraphicsEvent)) (machine : GraphicsHistory),
      (launches rtx).Run history machine ∧ machine.launched = true ∧ machine.applied = some 3 ∧
        machine.gameInstance.consoleVariables = defaultEngine ∧
        ¬machine.RayTracingMatches rtx) ∧
    ∃ (history : List (GraphicsHistory × GraphicsEvent)) (machine : GraphicsHistory),
      (launches rtx).Run history machine ∧ machine.launched = true ∧ machine.applied = some 0 ∧
        RayTracingOn machine.gameInstance.consoleVariables ∧ ¬machine.RayTracingMatches rtx := by
  have again : (launches rtx).Legal installed (firstSession ++ [.launch fun _ => 3]) :=
    ⟨trivial, ⟨rfl, by decide, by decide⟩, trivial, trivial⟩
  have lowered : (launches rtx).Legal installed (firstSession ++ [.setScalabilityLevel 0]) :=
    ⟨trivial, ⟨rfl, by decide, by decide⟩, ⟨rfl, by decide, by decide⟩, trivial⟩
  constructor
  · refine ⟨_, _, run_installed.replay again, rfl, rfl, rfl, fun agrees => ?_⟩
    exact not_rayTracingOn_defaultEngine (agrees.on.mpr ⟨⟨3, rfl, by decide⟩, by decide⟩)
  · refine ⟨_, _, run_installed.replay lowered, rfl, rfl, ⟨rfl, rfl, rfl⟩, fun agrees => ?_⟩
    obtain ⟨⟨level, applied, high⟩, _⟩ := agrees.on.mp ⟨rfl, rfl, rfl⟩
    cases applied
    exact absurd high (by decide)

end GraphicsHistory

end Ioroom
