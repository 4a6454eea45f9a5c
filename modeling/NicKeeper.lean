import NicKeeper.Daemon.Publish
import NicKeeper.Daemon.Settings
import NicKeeper.Daemon.StatusWriter
import NicKeeper.Host.Codec
import NicKeeper.Host.Memory
import NicKeeper.Main
import NicKeeper.Manager.Canned
import NicKeeper.Resource.Definition
import NicKeeper.Rfc3339
import NicKeeper.Api.Server
import NicKeeper.System.Host
import NicKeeper.Proofs.EngineRuns
import NicKeeper.Proofs.FirmwareOnMemory
import NicKeeper.Proofs.Inclusion
import NicKeeper.Proofs.LiveOnMemory
import NicKeeper.Proofs.Node
import NicKeeper.Proofs.OnMemory
import NicKeeper.Proofs.Outcome
import NicKeeper.Proofs.Parameters
import NicKeeper.Proofs.PassRuns
import NicKeeper.Proofs.Quiescence
import NicKeeper.Proofs.Reboots
import NicKeeper.Proofs.Runs
import NicKeeper.Proofs.SetUp
import NicKeeper.Proofs.SpecError
import NicKeeper.Proofs.CallsMade
import NicKeeper.Proofs.Interleaving
import NicKeeper.Proofs.TemplateEntries
import NicKeeper.Proofs.WorkOnMemory
import NicKeeper.Proofs.FaultyHost
import NicKeeper.Proofs.Resumption
import NicKeeper.Proofs.ResetRuns
import NicKeeper.Proofs.Histories
import NicKeeper.Proofs.FactoryReset
import NicKeeper.Proofs.DistinctDevices
import NicKeeper.Proofs.StatusProtocol
import NicKeeper.Proofs.TimestampText
import NicKeeper.Proofs.StatusJson
import NicKeeper.Proofs.StatusPatches
import NicKeeper.Proofs.PublisherRuns
import NicKeeper.Proofs.Publishing
import NicKeeper.Proofs.Mirroring
import NicKeeper.Proofs.Delays
import NicKeeper.Proofs.RetryCadence
import NicKeeper.Proofs.CardsFound
import NicKeeper.Proofs.ServerEffects
import NicKeeper.Proofs.Sweeping
import NicKeeper.Proofs.SystemSearch
import NicKeeper.Proofs.Rediscovery
import NicKeeper.Proofs.FirstFailure
import NicKeeper.Proofs.ExactVerdict
import NicKeeper.Proofs.StagingPlan
import NicKeeper.Proofs.UnsupportedParameters
import NicKeeper.Proofs.GateKept
import NicKeeper.Proofs.DesiredParameters
import NicKeeper.Proofs.LivePlan
import NicKeeper.Proofs.TextPieces
import NicKeeper.Proofs.FirmwareTable
import NicKeeper.Proofs.QosReport
import NicKeeper.Proofs.ListingOrder
import NicKeeper.Proofs.ResourceJson
import NicKeeper.Proofs.UnwritableSizes
import NicKeeper.Proofs.NormalValues
import NicKeeper.Proofs.Lowercase
import NicKeeper.Proofs.CardLabels
import NicKeeper.Proofs.DeviceNames
import NicKeeper.Proofs.ReachedHosts
import NicKeeper.Proofs.Numerals
import NicKeeper.Proofs.PfcText
import NicKeeper.Proofs.DeviceControl
import NicKeeper.Proofs.AcceptedSettings
