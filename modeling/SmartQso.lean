import SmartQso.Runs
import SmartQso.FaultMgmt
import SmartQso.Deployment
import SmartQso.DeploymentSequence
import SmartQso.DeploymentSafety
import SmartQso.Eps
import SmartQso.EpsModes
import SmartQso.EpsSnapshots
import SmartQso.MissionData
import SmartQso.Sensors
import SmartQso.MainLoop
import SmartQso.PowerSafety
import SmartQso.StateMachine
import SmartQso.InputValidation
import SmartQso.SystemState
import SmartQso.CmdHandler
import SmartQso.CommandEffects
import SmartQso.CommandAuthority
import SmartQso.CommandFrame
import SmartQso.PayloadInterlock
import SmartQso.PowerCopies
import SmartQso.Untimed
import SmartQso.WirePath
import SmartQso.LoopRules
import SmartQso.LoadShedding
import SmartQso.ThermalShutdown
import SmartQso.CommandAccounting
import SmartQso.Beacon
import SmartQso.BeaconFrames
import SmartQso.BeaconSpacing
import SmartQso.BeaconText
import SmartQso.ReflectedCrc
import SmartQso.Ax25
import SmartQso.GroundDecoder
import SmartQso.AddressList
import SmartQso.BeaconDownlink
import SmartQso.BeaconTool
import SmartQso.DecoderAgreement
import SmartQso.TextPattern
import SmartQso.GroundTelemetry
import SmartQso.DownlinkTelemetry
import SmartQso.Fragments
import SmartQso.FlUpdateBuilder
import SmartQso.FlUpdateFrames
import SmartQso.Deframer
import SmartQso.JsonText
import SmartQso.HealthInterface
import SmartQso.HealthFrames
import SmartQso.RingBuffer
import SmartQso.FlightLog
import SmartQso.FlightLogQueue
import SmartQso.FaultLogDurability
import SmartQso.SystemPersistence
import SmartQso.HalFlash
import SmartQso.StatePersistence
import SmartQso.MissionUptime
import SmartQso.FlightSessions
import SmartQso.CrashRecovery
import SmartQso.NonReentrantLock
import SmartQso.PayloadSupervisor
import SmartQso.SupervisorStates
import SmartQso.SupervisorLocks
import SmartQso.Scheduler
import SmartQso.SchedulerRuns
import SmartQso.SchedulerEnabling
import SmartQso.SchedulerPeriods
import SmartQso.SchedulerRestarts
import SmartQso.WatchdogMgr
import SmartQso.WatchdogKicks
import SmartQso.Formatter
import SmartQso.InfoField
import SmartQso.CNumerals
import SmartQso.TextLines
import SmartQso.SensorConfig
import SmartQso.SensorsFile
import SmartQso.DottedPath
import SmartQso.YamlParser
import SmartQso.YamlTree
import SmartQso.YamlPaths
import SmartQso.CommandReceipt
import SmartQso.CustomHandlers
import SmartQso.SafeCommanding
import SmartQso.StateMachineHistory
import SmartQso.ThermalFlags
import SmartQso.DirtyTracking
import SmartQso.BeaconReport
import SmartQso.JsonDecode
import SmartQso.JetsonTelemetry
import SmartQso.JetsonLink
import SmartQso.ByteOrder
import SmartQso.CountedArray
import SmartQso.Numbering
import SmartQso.ReentrantRing
import SmartQso.ChecksumErrors
import SmartQso.UptimeSchedule
import SmartQso.PowerRequests
import SmartQso.FaultLogArray
import SmartQso.FaultLogImage
import SmartQso.MissionFaults
import SmartQso.LogStatistics
import SmartQso.NestedLogging
import SmartQso.Telemetry
import SmartQso.TelemetryFrames
import SmartQso.SystemLayout
import SmartQso.SealedState
import SmartQso.SizedSerializer
import SmartQso.WatchdogWatches
import SmartQso.WatchdogSoundness
import SmartQso.WatchdogSchedule
import SmartQso.StallQueries
import SmartQso.BurnAttempts
import SmartQso.AdcsControl
import SmartQso.DetumbleHistory
import SmartQso.DetumbleEvidence
import SmartQso.CStrings
import SmartQso.SchedulerTable
import SmartQso.SchedulerDispatch
import SmartQso.ResponseTimes
import SmartQso.SchedulerResponse
import SmartQso.AssertHandler
import SmartQso.AssertRecords
import SmartQso.AssertJournal
import SmartQso.UartComm
import SmartQso.SensorLoads
import SmartQso.YamlErrorLines
import SmartQso.YamlNumbers
import SmartQso.FrameCounts
import SmartQso.TelemetryDisplay
import SmartQso.DisplayAlarms
import SmartQso.DisplayLocks
import SmartQso.CsvExport
import SmartQso.ChecksumBursts
import SmartQso.HealthBursts
import SmartQso.BeaconBursts
import SmartQso.AddressRoundTrip
import SmartQso.KissFrames
import SmartQso.SafeMemory
import SmartQso.HalI2c
import SmartQso.PassRuns
import SmartQso.Fairness
import SmartQso.SafeStrings
import SmartQso.IntegerTexts
import SmartQso.PwmSaturation
import SmartQso.SteeringLaw
import SmartQso.SensorTelemetry
import SmartQso.FlashHistories
import SmartQso.UartPort
import SmartQso.HealthSession
import SmartQso.LoopPacing
import SmartQso.SimulatedSensors
import SmartQso.DeploymentProgress
import SmartQso.OrbitPower
import SmartQso.SupervisorThreads
import SmartQso.SupervisorDeadlock
import SmartQso.BeaconPass
import SmartQso.AgentLoop
import SmartQso.FlUpdateFiles
import SmartQso.SyntheticPasses
