import IghMaster.Lib.Transition
import IghMaster.Cia402
import IghMaster.AnomalyTracker
import IghMaster.CommandFreshness
import IghMaster.Proof.TrackerHistories
import IghMaster.CycleTiming
import IghMaster.MotorProfile
import IghMaster.EnableFsm
import IghMaster.Axis
import IghMaster.PdoRegistration
import IghMaster.Backend
import IghMaster.EnableMachine
import IghMaster.Proof.EnableFsm
import IghMaster.Proof.ServoAxes
import IghMaster.Proof.DisableRuns
import IghMaster.Proof.EnableRuns
import IghMaster.Proof.BackendAxes
import IghMaster.Proof.DriveSteps
import IghMaster.BackendHistory
import IghMaster.Proof.NoReenable
import IghMaster.Proof.BackendLatches
import IghMaster.Proof.FaultResetRuns
import IghMaster.Proof.SetpointRuns
import IghMaster.Proof.TorqueRuns
import IghMaster.LatchSteps
import IghMaster.Proof.LatchInterleavings
import IghMaster.EnableSteps
import IghMaster.Proof.DisableInterleavings
import IghMaster.Master
import IghMaster.MasterHistory
import IghMaster.Proof.DwellRuns
import IghMaster.Proof.MasterMotion
import IghMaster.Proof.HeldPositions
import IghMaster.Proof.BroadcastCalls
import IghMaster.Proof.WorkingCounterGate
import IghMaster.Proof.HeldPositionRuns
import IghMaster.Proof.ModeSwitchRuns
import IghMaster.RuntimeMachine
import IghMaster.Proof.FaultDetection
import IghMaster.Proof.StartDwell
import IghMaster.DcSync
import IghMaster.Proof.DcDeviation
import IghMaster.Proof.DcReading
import IghMaster.Proof.DcSlew
import IghMaster.Lib.CheckedInt
import IghMaster.Proof.DcArithmetic
import IghMaster.PendingSteps
import IghMaster.Proof.PendingInterleavings
import IghMaster.Proof.CommandWatchdog
import IghMaster.Lib.Isolation
import IghMaster.MotorKinematics
import IghMaster.ReferenceClock
import IghMaster.Process
import IghMaster.Proof.MasterIsolation
import IghMaster.ResetSteps
import IghMaster.Proof.ResetInterleavings
import IghMaster.Lib.Blocks
import IghMaster.Proof.FaultResetPulses
import IghMaster.Proof.EnableSettles
import IghMaster.Proof.Supervision
import IghMaster.Health
import IghMaster.Proof.HealthCounters
import IghMaster.SeqLock
import IghMaster.Proof.SeqLockReads
import IghMaster.JobLoop
import IghMaster.InterpolationPeriod
import IghMaster.Proof.InterpolationPeriod
import IghMaster.Proof.JobTimes
import IghMaster.Lib.Rounding
import IghMaster.UnitConversion
import IghMaster.JointCommands
import IghMaster.Proof.UnitConversion
import IghMaster.Proof.JointCommands
import IghMaster.JointMap
import IghMaster.Proof.JointMap
import IghMaster.Lib.Slots
import IghMaster.TimingThread
import IghMaster.Proof.TimingDeadlines
import IghMaster.Lib.Unwrap
import IghMaster.ReferenceTime
import IghMaster.Proof.ReferenceTime
import IghMaster.Lib.OrderStatistic
import IghMaster.InitialPosition
import IghMaster.Proof.InitialPosition
import IghMaster.Lib.RingBuffer
import IghMaster.DiagnosticRing
import IghMaster.Proof.DiagnosticRing
import IghMaster.Lib.ByteMemory
import IghMaster.Lib.Footprint
import IghMaster.Lib.Refinement
import IghMaster.Lib.Packing
import IghMaster.PdoMapping
import IghMaster.Proof.PackedDomain
import IghMaster.Proof.PdoRegistration
import IghMaster.ProcessImage
import IghMaster.Proof.ProcessImage
import IghMaster.Proof.ProcessRecords
import IghMaster.Proof.ImageRefinement
import IghMaster.Proof.ImageRuns
import IghMaster.Proof.ImageContents
import IghMaster.Proof.ImageOutputs
import IghMaster.Proof.SlaveCaches
import IghMaster.Lib.Component
import IghMaster.Lib.Ledger
import IghMaster.RuntimeLogger
import IghMaster.Lib.Mutex
import IghMaster.Proof.RuntimeLogger
import IghMaster.Proof.LoggerFlows
import IghMaster.Proof.LoggerRuns
import IghMaster.Lib.Progress
import IghMaster.Proof.LoggerProgress
import IghMaster.EventLog
import IghMaster.Proof.ControlWords
import IghMaster.Proof.EventLog
import IghMaster.Proof.EventRuns
import IghMaster.Proof.CommandLog
import IghMaster.Lib.TextTable
import IghMaster.LogFile
import IghMaster.Proof.LogFile
import IghMaster.Proof.FileTells
import IghMaster.Environment
import IghMaster.Proof.Environment
