import InbandTelemetry.Postcard.Framing
import InbandTelemetry.Address.Draws
import InbandTelemetry.Frame.Build
import InbandTelemetry.Frame.Parse
import InbandTelemetry.Node.Access
import InbandTelemetry.Proofs.RingHistories
import InbandTelemetry.Proofs.RingLayout
import InbandTelemetry.Proofs.RingQueue
import InbandTelemetry.Proofs.ByteStrings
import InbandTelemetry.Proofs.TelemetryBlocks
import InbandTelemetry.Proofs.Stamping
import InbandTelemetry.Proofs.GateTables
import InbandTelemetry.Proofs.HopPaths
import InbandTelemetry.Proofs.InBandMeasurement
import InbandTelemetry.Proofs.Postcards
import InbandTelemetry.Proofs.Tagging
import InbandTelemetry.Proofs.PostcardExport
import InbandTelemetry.Proofs.PostcardStreams
import InbandTelemetry.Proofs.GateVisits
import InbandTelemetry.Proofs.DriverMoves
import InbandTelemetry.Proofs.NodeJournals
import InbandTelemetry.Proofs.PostcardAccounts
import InbandTelemetry.Proofs.StreamEnds
import InbandTelemetry.Proofs.LengthFields
import InbandTelemetry.Proofs.Rotations
import InbandTelemetry.Proofs.TaggingRuns
import InbandTelemetry.Proofs.NodeSteps
import InbandTelemetry.Proofs.DrainAccounts
import InbandTelemetry.Proofs.Configurations
import InbandTelemetry.Proofs.CommandOrder
import InbandTelemetry.Proofs.BlockMoves
import InbandTelemetry.Proofs.StreamCuts
import InbandTelemetry.Proofs.RecordPairing
import InbandTelemetry.Proofs.BatchSplitting
import InbandTelemetry.Proofs.PostcardDelivery
import InbandTelemetry.Proofs.RingAdmission
import InbandTelemetry.Proofs.UsableFlows
import InbandTelemetry.Proofs.ExactTagging
import InbandTelemetry.Proofs.Checksums
import InbandTelemetry.Proofs.RaisedFields
import InbandTelemetry.Proofs.RaisedPackets
import InbandTelemetry.Proofs.Rearrangements
import InbandTelemetry.Proofs.Footprints
import InbandTelemetry.Proofs.PostcardAdmission
import InbandTelemetry.Proofs.Truncation
import InbandTelemetry.Proofs.PostcardSlots
import InbandTelemetry.Proofs.StretchMoves
import InbandTelemetry.Proofs.WireLayouts
import InbandTelemetry.Proofs.BlockWrites
import InbandTelemetry.Proofs.Emissions
import InbandTelemetry.Proofs.CounterWindows
import InbandTelemetry.Proofs.FrameReadings
import InbandTelemetry.Proofs.PayloadOffsets
import InbandTelemetry.Proofs.BuiltFrames
import InbandTelemetry.Proofs.AddressTexts
import InbandTelemetry.Proofs.SubnetMembers
import InbandTelemetry.Proofs.SubnetTexts
import InbandTelemetry.Proofs.GateRequests
import InbandTelemetry.Proofs.FlowRequests
import InbandTelemetry.Proofs.SubnetDraws
import InbandTelemetry.Proofs.TimingReports
