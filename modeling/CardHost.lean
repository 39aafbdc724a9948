import CardHost.Card.BringUp
import CardHost.Hardware.Direct
import CardHost.Hardware.Disturbed
import CardHost.Hardware.Recorder
import CardHost.Hardware.Scripted
import CardHost.Main
import CardHost.Workspace
import CardHost.Proofs.CommandOrder
import CardHost.Proofs.Mappings
import CardHost.Proofs.Handles
import CardHost.Proofs.Completion
import CardHost.Proofs.BlockTransfers
import CardHost.Proofs.SectorAccess
import CardHost.Proofs.DeviceFile
import CardHost.Proofs.Identification
import CardHost.Proofs.SharedBus
import CardHost.Proofs.Interleaving
import CardHost.Proofs.ReportedLengths
import CardHost.Proofs.EngineUse
import CardHost.Proofs.CommandStages
import CardHost.Proofs.LiveChannels
import CardHost.Proofs.ChipsAlike
import CardHost.Proofs.FailedOperations
import CardHost.Proofs.ClockPlan
import CardHost.Proofs.Refusals
import CardHost.Proofs.SharedRegisters
import CardHost.Proofs.ConcurrentTimings
import CardHost.Proofs.Outcomes
import CardHost.Proofs.ChannelOrder
import CardHost.Proofs.ForgottenRequests
import CardHost.Proofs.CardStates
import CardHost.Proofs.CommandReading
import CardHost.Proofs.HostStore
import CardHost.Proofs.FinishedRequests
import CardHost.Proofs.OpenPhases
import CardHost.Proofs.PublishedCapacity
import CardHost.Proofs.LatchedErrors
import CardHost.Proofs.LostRestarts
import CardHost.Proofs.RawTraffic
import CardHost.Proofs.CapacityFields
import CardHost.Proofs.OptionLayers
import CardHost.Proofs.StagingLayout
import CardHost.Proofs.NumberGrammar
