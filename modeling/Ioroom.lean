import Ioroom.EventSystem
import Ioroom.Custody
import Ioroom.Engine
import Ioroom.FurnitureActor
import Ioroom.IoroomGameState
import Ioroom.IoroomPlayerState
import Ioroom.DesktopPawn
import Ioroom.ServerCalls
import Ioroom.LeftClick
import Ioroom.HandlerEffects
import Ioroom.Roster
import Ioroom.Server
import Ioroom.SelectionLock
import Ioroom.LockLifetime
import Ioroom.Outline
import Ioroom.ListenHost
import Ioroom.SelectionNetwork
import Ioroom.SelectionAgreement
import Ioroom.TransformTarget
import Ioroom.PredictedRegister
import Ioroom.TransformLink
import Ioroom.Convergence
import Ioroom.Nudge
import Ioroom.PlayerColor
import Ioroom.AtomicSelection
import Ioroom.CameraControl
import Ioroom.DragGesture
import Ioroom.DragStability
import Ioroom.GridRounding
import Ioroom.IoroomGameInstance
import Ioroom.Orbit
import Ioroom.RayTracing
import Ioroom.RingRotation
import Ioroom.CursorProjection
import Ioroom.FurnitureBounds
import Ioroom.HoverHighlight
import Ioroom.Registry
import Ioroom.ScalabilityLevel
import Ioroom.ViewModels
import Ioroom.CameraActions
import Ioroom.CameraDrift
import Ioroom.CameraHeading
import Ioroom.ClickOutcome
import Ioroom.CyclicRegister
import Ioroom.FirstFit
import Ioroom.GraphicsChoice
import Ioroom.HandleHighlight
import Ioroom.HostPlay
import Ioroom.LaggingCopy
import Ioroom.LockHistory
import Ioroom.NudgeTarget
import Ioroom.OrbitEntry
import Ioroom.OutlineReplication
import Ioroom.SlotEconomy
import Ioroom.SnapSettings
import Ioroom.CallOrder
import Ioroom.PlaceHistory
