import InstrumentBench.Theory.Numerals
import InstrumentBench.Theory.Text
import InstrumentBench.Theory.Binary64
import InstrumentBench.Theory.Number
import InstrumentBench.Theory.PyText
import InstrumentBench.Theory.Json
import InstrumentBench.Theory.JsonParse
import InstrumentBench.Theory.JsonInjective
import InstrumentBench.Theory.HashChain
import InstrumentBench.Theory.Sha256
import InstrumentBench.Fibsem.Journal
import InstrumentBench.Fibsem.JournalRoundTrip
import InstrumentBench.Fibsem.JournalExport
import InstrumentBench.Fibsem.Microscope
import InstrumentBench.Fibsem.Protocol
import InstrumentBench.Fibsem.AuditTrail
import InstrumentBench.Visa.Bracketing
import InstrumentBench.Visa.Library
import InstrumentBench.Visa.Broker
import InstrumentBench.Visa.System
import InstrumentBench.Visa.Invocation
import InstrumentBench.Visa.Accounting
import InstrumentBench.Fibsem.Markers
import InstrumentBench.Fibsem.Dispatch
import InstrumentBench.Fibsem.PreflightGate
import InstrumentBench.Fibsem.PreflightAgreement
import InstrumentBench.Theory.JsonDepth
import InstrumentBench.Fibsem.Frames
import InstrumentBench.Theory.JsonCopy
import InstrumentBench.Visa.Journal
import InstrumentBench.Visa.JournalRoundTrip
import InstrumentBench.Visa.BenchSteps
import InstrumentBench.Visa.BenchSafety
import InstrumentBench.Theory.Run
import InstrumentBench.Theory.Triple
import InstrumentBench.Geometry.Carriage
import InstrumentBench.Visa.Snapshot
import InstrumentBench.Visa.Projection
import InstrumentBench.Visa.Ownership
import InstrumentBench.Visa.OpenSessions
import InstrumentBench.Visa.SequenceLaw
import InstrumentBench.Theory.Chunks
import InstrumentBench.Theory.JsonUnicode
import InstrumentBench.Visa.Protocol
import InstrumentBench.Visa.Framing
import InstrumentBench.Visa.Codec
import InstrumentBench.Gateway.World
import InstrumentBench.Gateway.Instruments
import InstrumentBench.Gateway.Handlers
import InstrumentBench.Gateway.Atomicity
import InstrumentBench.Gateway.Mirrors
import InstrumentBench.Gateway.Server
import InstrumentBench.Gateway.Faults
import InstrumentBench.Gateway.WriteRecords
import InstrumentBench.Gateway.Threads
import InstrumentBench.Gateway.Lifecycle
import InstrumentBench.Gateway.Loop
import InstrumentBench.Gateway.Answers
import InstrumentBench.Oracle.Constraints
import InstrumentBench.Oracle.Refusals
import InstrumentBench.Geometry.SpatialHash
import InstrumentBench.Geometry.VoxelBlocks
import InstrumentBench.Geometry.GeometryOracle
import InstrumentBench.Geometry.Stl
import InstrumentBench.Theory.Matched
import InstrumentBench.Geometry.StlCanonical
import InstrumentBench.Container.Dockerfile
import InstrumentBench.Container.DockerReading
import InstrumentBench.Geometry.Cutting
import InstrumentBench.Visa.RpcClient
import InstrumentBench.Artifacts.Png
import InstrumentBench.Rubric.StepRubric
import InstrumentBench.Theory.NearestEven
import InstrumentBench.Rubric.Credit
import InstrumentBench.Rubric.Monotone
import InstrumentBench.Rubric.FullMarks
import InstrumentBench.Scenarios.Generator
import InstrumentBench.Theory.ParentPath
import InstrumentBench.Scenarios.Interface
import InstrumentBench.Geometry.Needle
import InstrumentBench.Fibsem.Liftout
import InstrumentBench.Fibsem.Manipulator
import InstrumentBench.Fibsem.MotionLimit
import InstrumentBench.Theory.Binary64Bounds
import InstrumentBench.Geometry.StlTotal
import InstrumentBench.Geometry.StlEvidence
import InstrumentBench.Gateway.Clock
import InstrumentBench.Theory.ZeroPadded
import InstrumentBench.Fibsem.BrokerSession
import InstrumentBench.Theory.Binary64Quotient
import InstrumentBench.Oracle.ScopeBlock
import InstrumentBench.Geometry.RowPruning
import InstrumentBench.Theory.JsonLoaded
import InstrumentBench.Visa.WorldContract
import InstrumentBench.Visa.WorldRoundTrip
import InstrumentBench.Geometry.ClosestPoint
import InstrumentBench.Geometry.TriangleDistance
import InstrumentBench.Theory.WholeNumbers
import InstrumentBench.Fibsem.JournalBinding
import InstrumentBench.Visa.JournalBinding
import InstrumentBench.Visa.Limits
import InstrumentBench.Visa.OpenEvents
import InstrumentBench.Visa.ProjectedWorld
import InstrumentBench.Geometry.StlReading
