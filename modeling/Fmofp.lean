import Fmofp.Python.Dict
import Fmofp.Python.Value
import Fmofp.Python.Text
import Fmofp.Python.Json
import Fmofp.Python.Quantum
import Fmofp.Python.Signature
import Fmofp.Machine.BitRange
import Fmofp.Machine.Blending
import Fmofp.Machine.Components
import Fmofp.Machine.Run
import Fmofp.Machine.History
import Fmofp.Machine.Insertion
import Fmofp.Machine.Locks
import Fmofp.Machine.Loop
import Fmofp.Machine.Packing
import Fmofp.Machine.Windows
import Fmofp.Bus.WordCodec
import Fmofp.Bus.Decoding
import Fmofp.Metadata.Schemas
import Fmofp.Metadata.Encode
import Fmofp.Bus.Construct
import Fmofp.Bus.Message
import Fmofp.Bus.RoundTrip
import Fmofp.Bus.DictForm
import Fmofp.Precipitation.Scale
import Fmofp.Aggregator.Detection
import Fmofp.Aggregator.Frames
import Fmofp.Aggregator.Agreement
import Fmofp.Sender.Transfer
import Fmofp.Sender.BusController
import Fmofp.Sender.RemoteTerminal
import Fmofp.Precipitation.RoundTrip
import Fmofp.Sender.Chunking
import Fmofp.Aggregator.Headers
import Fmofp.Aggregator.Register
import Fmofp.Aggregator.Orphans
import Fmofp.Aggregator.Untimed
import Fmofp.Aggregator.Isolation
import Fmofp.Aggregator.Protocol
import Fmofp.Sender.ControlInformation
import Fmofp.BlockTransfer.Manager
import Fmofp.BlockTransfer.Bookkeeping
import Fmofp.BlockTransfer.Arrival
import Fmofp.BlockTransfer.Order
import Fmofp.BlockTransfer.Processor
import Fmofp.BlockTransfer.Split
import Fmofp.Metadata.Decode
import Fmofp.Metadata.Sections
import Fmofp.Metadata.Framing
import Fmofp.Listener.Connection
import Fmofp.Listener.Listening
import Fmofp.Listener.GiveUp
import Fmofp.Listener.Suppressed
import Fmofp.LoopPrevention.Identify
import Fmofp.LoopPrevention.Registry
import Fmofp.LoopPrevention.Service
import Fmofp.LoopPrevention.AtMostOnce
import Fmofp.LoopPrevention.Cleared
import Fmofp.LoopPrevention.Fingerprint
import Fmofp.LoopPrevention.MessageParameter
import Fmofp.LoopPrevention.SizeBound
import Fmofp.LoopPrevention.TypeCollision
import Fmofp.ReceiveQueue.Lossless
import Fmofp.EventBus.Dispatch
import Fmofp.EventBus.Delivery
import Fmofp.Lifecycle.Restart
import Fmofp.Metadata.DecodeErrors
import Fmofp.Metadata.FieldRoundTrip
import Fmofp.Metadata.DecodedKeys
import Fmofp.Metadata.TypeWord
import Fmofp.Messaging.Words
import Fmofp.Metadata.Arrival
import Fmofp.Metadata.BitMasks
import Fmofp.Metadata.RoundTrip
import Fmofp.Messaging.SentOnce
import Fmofp.Operations.Tracker
import Fmofp.Operations.ExactlyOnce
import Fmofp.Rendering.SpatialGrid
import Fmofp.Rendering.Redraw
import Fmofp.Rendering.ExactCover
import Fmofp.Rendering.GridQueries
import Fmofp.Rendering.GridStats
import Fmofp.Storage.BatchInsert
import Fmofp.Storage.BatchUpdate
import Fmofp.Storage.BatchedWrites
import Fmofp.Storage.ConnectionPool
import Fmofp.Storage.ManagedWrite
import Fmofp.Storage.DeleteCount
import Fmofp.Storage.PoolAccounting
import Fmofp.Storage.RateLimit
import Fmofp.AsyncHandler.QueueThreads
import Fmofp.AsyncHandler.Buffering
import Fmofp.AsyncHandler.Placement
import Fmofp.AsyncHandler.Conservation
import Fmofp.AsyncHandler.Retries
import Fmofp.AsyncHandler.LockPrograms
import Fmofp.AsyncHandler.QueueOrder
import Fmofp.AsyncHandler.RetryBound
import Fmofp.AsyncHandler.SelfDeadlock
import Fmofp.RadarHandler.LoopLocks
import Fmofp.RadarHandler.PendingRequests
import Fmofp.RadarHandler.PrecipitationMessage
import Fmofp.RadarHandler.RetryBudget
import Fmofp.RadarHandler.SendSlots
import Fmofp.RadarHandler.SenderWords
import Fmofp.RadarHandler.WordCodec
import Fmofp.Fuel.FuelSystem
import Fmofp.Fuel.Conservation
import Fmofp.Fuel.FuelMonitor
import Fmofp.Fuel.FalseAlarm
import Fmofp.Fuel.TransferManager
import Fmofp.HardwareHealth.LRUStatus
import Fmofp.HardwareHealth.ForcedFaults
import Fmofp.HardwareHealth.PeriodicBIT
import Fmofp.Route.RouteManager
import Fmofp.Route.Progress
import Fmofp.Fusion.Tracks
import Fmofp.Fusion.Lifecycle
import Fmofp.Fusion.Correlation
import Fmofp.Fusion.Identity
import Fmofp.Fusion.Partition
import Fmofp.Routing.Registry
import Fmofp.Routing.Resolver
import Fmofp.Routing.UnifiedRouter
import Fmofp.Routing.Classification
import Fmofp.Routing.Repetitions
import Fmofp.Routing.SilentDrop
import Fmofp.MessageRouting.Precipitation
import Fmofp.MessageRouting.Readings
import Fmofp.FlightManagement.FlightData
import Fmofp.FlightControl.WireFormat
import Fmofp.FlightControl.ControlInput
import Fmofp.FlightManagement.MessageProcessor
import Fmofp.FlightManagement.Coherence
import Fmofp.FlightManagement.ModeRequests
import Fmofp.FlightManagement.RoundTrip
import Fmofp.FlightControl.ControlSurfaces
import Fmofp.FlightControl.ActuatorDynamics
import Fmofp.FlightControl.CleanupTimer
import Fmofp.FlightControl.PendingRequests
import Fmofp.FlightControl.EndsOnce
import Fmofp.FlightControl.EnvelopeProtection
import Fmofp.FlightControl.TimerChain
import Fmofp.Weather.Tracking
import Fmofp.Weather.Independence
import Fmofp.Weather.Sampling
import Fmofp.Mission.Targeting
import Fmofp.Mission.Engagement
import Fmofp.Mission.OrderOfBattle
import Fmofp.Mission.RouteOptimization
import Fmofp.Adapter.MessageFormat
import Fmofp.Adapter.Agreement
import Fmofp.Extractor.Universal
import Fmofp.Extractor.BusController
import Fmofp.Extractor.Critical
import Fmofp.Extractor.BusTopics
import Fmofp.Extractor.Flatten
import Fmofp.Extractor.OrderFree
import Fmofp.Extractor.Extraction
import Fmofp.Extractor.BusIdentity
import Fmofp.Extractor.BusExtraction
import Fmofp.Display.DataCoordinator
import Fmofp.Display.Bridge
import Fmofp.Display.Stored
import Fmofp.Display.Arrival
import Fmofp.Display.Freshness
import Fmofp.DisplayTree.Manager
import Fmofp.DisplayTree.Locality
import Fmofp.DisplayTree.Snapshot
import Fmofp.Defensive.Countermeasures
import Fmofp.Navigation.DataFusion
import Fmofp.Threads.ThreadManager
import Fmofp.Threads.Tracking
import Fmofp.Threads.Bookkeeping
import Fmofp.Targeting.TargetingRadar
import Fmofp.SystemHandlers.SendRequest
import Fmofp.SystemHandlers.Atomicity
import Fmofp.Normalizer.Structure
import Fmofp.Normalizer.Sides
import Fmofp.Normalizer.Phases
import Fmofp.Normalizer.Frame
import Fmofp.Normalizer.Tests
import Fmofp.Normalizer.Completion
import Fmofp.Normalizer.Idempotence
import Fmofp.Workers.Passes
import Fmofp.Scenario.Engine
import Fmofp.Scenario.Replay
import Fmofp.Terminal.BlockTransfer
import Fmofp.Terminal.Delivery
import Fmofp.Terminal.Wire
import Fmofp.Terminal.Pieces
import Fmofp.SensorFusion.Contacts
import Fmofp.SensorFusion.Sightings
import Fmofp.Startup.Readiness
