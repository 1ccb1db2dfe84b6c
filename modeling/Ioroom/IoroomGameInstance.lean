import Ioroom.Engine
import Mathlib.Data.List.Infix

/-!
# The game instance

`UIoroomGameInstance` detects the graphics hardware, chooses a scalability level on the first launch
and applies levels.  A level goes into the user settings, which a file keeps, and into console
variables, which every launch reads anew from the project's configuration.
-/

namespace Ioroom

/-- `FString::Contains` ignoring case, which it does unless told otherwise. -/
def containsIgnoreCase (text part : String) : Bool :=
  decide (part.toList.map Char.toUpper <:+: text.toList.map Char.toUpper)

/-- The quality groups of `Scalability::FQualityLevels`. -/
inductive QualityGroup
  | viewDistance
  | antiAliasing
  | shadow
  | globalIllumination
  | reflection
  | postProcess
  | texture
  | effects
  | foliage
  | shading
  | landscape
  deriving DecidableEq, Repr

namespace QualityGroup

def all : List QualityGroup :=
  [viewDistance, antiAliasing, shadow, globalIllumination, reflection, postProcess, texture,
    effects, foliage, shading, landscape]

theorem mem_all (group : QualityGroup) : group ∈ all := by
  cases group <;> decide

end QualityGroup

abbrev QualityLevels := QualityGroup → Int

namespace QualityLevels

/-- `SetOverallScalabilityLevel` -/
def setOverallScalabilityLevel (level : Int) (_ : QualityLevels) : QualityLevels := fun _ => level

/-- `SetTextureQuality` -/
def setTextureQuality (level : Int) (quality : QualityLevels) : QualityLevels :=
  Function.update quality .texture level

/-- `GetOverallScalabilityLevel`: the level which all groups share, or `-1`. -/
def getOverallScalabilityLevel (quality : QualityLevels) : Int :=
  if ∀ group ∈ QualityGroup.all, quality group = quality .viewDistance then quality .viewDistance
  else -1

/-- A level is reported exactly when it is the level of every group. -/
theorem getOverallScalabilityLevel_eq_iff {quality : QualityLevels} {level : Int}
    (valid : 0 ≤ level) :
    quality.getOverallScalabilityLevel = level ↔ ∀ group, quality group = level := by
  rw [getOverallScalabilityLevel]
  constructor
  · intro reported group
    split at reported
    · rename_i common
      exact (common group (QualityGroup.mem_all group)).trans reported
    · omega
  · intro common
    rw [if_pos, common]
    intro group _
    rw [common, common]

end QualityLevels

/-- The console variables which the game instance looks up. -/
inductive ConsoleVariable
  | lumenHardwareRayTracing
  | lumenReflectionsHardwareRayTracing
  | lumenTraceMeshSDFs
  deriving DecidableEq, Repr

/-- The values of the registered console variables. -/
abbrev ConsoleVariables := ConsoleVariable → Option Int

namespace ConsoleVariables

/-- Set a variable if it is found. -/
def set (name : ConsoleVariable) (value : Int) (values : ConsoleVariables) : ConsoleVariables :=
  Function.update values name ((values name).map fun _ => value)

/-- The values at the start of a process. -/
def defaultEngine : ConsoleVariables
  | .lumenHardwareRayTracing => some 0
  | .lumenReflectionsHardwareRayTracing => some 0
  | .lumenTraceMeshSDFs => some 1

end ConsoleVariables

/-- What the engine reports about the graphics adapter. -/
structure GraphicsAdapter where
  rhiAdapterName : String
  totalGraphicsMemory : Int

/-- The file which outlives the process. -/
structure GameUserSettingsIni where
  bHasAutoDetectedGraphics : Bool
  quality : QualityLevels

/-- `UIoroomGameInstance` with the parts of the engine which it reads and writes. -/
structure IoroomGameInstance where
  cachedGPUName : String
  detectedVRAMMB : Int
  /-- `UGameUserSettings::GetGameUserSettings`, whose file is kept even when there is none. -/
  userSettings : Option QualityLevels
  gameUserSettingsIni : GameUserSettingsIni
  consoleVariables : ConsoleVariables

namespace IoroomGameInstance

open ConsoleVariables

/-- `DetectGPUName` -/
def detectGPUName (adapter : GraphicsAdapter) : String :=
  if adapter.rhiAdapterName.isEmpty then "GPU name unknown" else adapter.rhiAdapterName

/-- `GetGPUMemoryMB`: whole megabytes, stored in 32 bits. -/
def getGPUMemoryMB (adapter : GraphicsAdapter) : Int :=
  (adapter.totalGraphicsMemory.tdiv (1024 * 1024)).bmod (2 ^ 32)

/-- `DetermineTierScalabilityLevel` -/
def determineTierScalabilityLevel (gameInstance : IoroomGameInstance) : Int :=
  if containsIgnoreCase gameInstance.cachedGPUName "Apple" then
    if 48000 ≤ gameInstance.detectedVRAMMB then 4
    else if 24000 ≤ gameInstance.detectedVRAMMB then 3
    else if 10000 ≤ gameInstance.detectedVRAMMB then 2
    else if 6000 ≤ gameInstance.detectedVRAMMB then 1
    else 0
  else if 19000 ≤ gameInstance.detectedVRAMMB then 4
  else if 13000 ≤ gameInstance.detectedVRAMMB then 3
  else if 8000 ≤ gameInstance.detectedVRAMMB then 2
  else if 6000 ≤ gameInstance.detectedVRAMMB then 1
  else 0

/-- `RunGraphicsBenchmark`, given what the engine's benchmark measures. -/
def runGraphicsBenchmark (benchmark : QualityLevels) : Int := benchmark .viewDistance

/-- The ray-tracing variables of the highest levels. -/
def enableRayTracing (values : ConsoleVariables) : ConsoleVariables :=
  ((values.set .lumenHardwareRayTracing 1).set .lumenReflectionsHardwareRayTracing 1).set
    .lumenTraceMeshSDFs 0

/-- `SetScalabilityLevel`: the last step saves the settings. -/
def setScalabilityLevel (level : Int) (gameInstance : IoroomGameInstance) : IoroomGameInstance :=
  match gameInstance.userSettings with
  | none => gameInstance
  | some settings =>
      let overall := settings.setOverallScalabilityLevel level
      let quality := if level ≤ 1 then overall.setTextureQuality 2 else overall
      { gameInstance with
        userSettings := some quality
        consoleVariables :=
          if 3 ≤ level ∧ containsIgnoreCase gameInstance.cachedGPUName "RTX" = true then
            enableRayTracing gameInstance.consoleVariables
          else gameInstance.consoleVariables
        gameUserSettingsIni := { gameInstance.gameUserSettingsIni with quality := quality } }

/-- `GetCurrentScalabilityLevel` -/
def getCurrentScalabilityLevel (gameInstance : IoroomGameInstance) : Int :=
  match gameInstance.userSettings with
  | none => 1
  | some settings => settings.getOverallScalabilityLevel

/-- The level which `AutodetectGraphicsSettings` applies. -/
def autodetectedLevel (benchmark : QualityLevels) (gameInstance : IoroomGameInstance) : Int :=
  let tierQuality := gameInstance.determineTierScalabilityLevel
  let tierQuality :=
    if tierQuality = 1 ∨ tierQuality = 2 then min tierQuality (runGraphicsBenchmark benchmark)
    else tierQuality
  clamp tierQuality 0 4

/-- `AutodetectGraphicsSettings` -/
def autodetectGraphicsSettings (benchmark : QualityLevels) (gameInstance : IoroomGameInstance) :
    IoroomGameInstance :=
  gameInstance.setScalabilityLevel (gameInstance.autodetectedLevel benchmark)

/-- What `Init` caches about the adapter. -/
def detected (adapter : GraphicsAdapter) (gameInstance : IoroomGameInstance) :
    IoroomGameInstance :=
  { gameInstance with
    cachedGPUName := detectGPUName adapter
    detectedVRAMMB := getGPUMemoryMB adapter }

/-- `Init` -/
def init (adapter : GraphicsAdapter) (benchmark : QualityLevels)
    (gameInstance : IoroomGameInstance) : IoroomGameInstance :=
  let gameInstance := gameInstance.detected adapter
  if gameInstance.userSettings.isSome ∧
      gameInstance.gameUserSettingsIni.bHasAutoDetectedGraphics = false then
    let gameInstance := gameInstance.autodetectGraphicsSettings benchmark
    { gameInstance with
      gameUserSettingsIni :=
        { gameInstance.gameUserSettingsIni with bHasAutoDetectedGraphics := true } }
  else gameInstance

/-- A new process: the settings come from their file and the console variables from the
configuration. -/
def newProcess (gameInstance : IoroomGameInstance) : IoroomGameInstance where
  cachedGPUName := ""
  detectedVRAMMB := 0
  userSettings := gameInstance.userSettings.map fun _ => gameInstance.gameUserSettingsIni.quality
  gameUserSettingsIni := gameInstance.gameUserSettingsIni
  consoleVariables := defaultEngine

/-- Start a new process and initialise its game instance. -/
def launch (adapter : GraphicsAdapter) (benchmark : QualityLevels)
    (gameInstance : IoroomGameInstance) : IoroomGameInstance :=
  gameInstance.newProcess.init adapter benchmark

theorem autodetectedLevel_mem (benchmark : QualityLevels) (gameInstance : IoroomGameInstance) :
    0 ≤ gameInstance.autodetectedLevel benchmark ∧
      gameInstance.autodetectedLevel benchmark ≤ 4 := by
  simp only [autodetectedLevel, clamp]
  omega

end IoroomGameInstance

end Ioroom
