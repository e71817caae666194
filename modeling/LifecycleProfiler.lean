import LifecycleProfiler.Python.Value
import LifecycleProfiler.Python.Raise
import LifecycleProfiler.Python.Ordering
import LifecycleProfiler.Python.Json
import LifecycleProfiler.Python.Encoding
import LifecycleProfiler.Protocol.Identifiers
import LifecycleProfiler.Protocol.Base
import LifecycleProfiler.Protocol.Profile
import LifecycleProfiler.Protocol.Lines
import LifecycleProfiler.Normalizer.Recovery
import LifecycleProfiler.Normalizer.Acceptance
import LifecycleProfiler.Normalizer.Ledger
import LifecycleProfiler.Normalizer.Roster
import LifecycleProfiler.Normalizer.Transfer
import LifecycleProfiler.Normalizer.Clock
import LifecycleProfiler.Normalizer.Blocks
import LifecycleProfiler.General.Interleave
import LifecycleProfiler.Normalizer.Interleaving
import LifecycleProfiler.General.OpenClose
import LifecycleProfiler.Python.Mapping
import LifecycleProfiler.Runtime.Hooks
import LifecycleProfiler.Runtime.Bridge
import LifecycleProfiler.Runtime.Spans
import LifecycleProfiler.Runtime.Linearity
import LifecycleProfiler.Runtime.Counters
import LifecycleProfiler.Runtime.Retention
import LifecycleProfiler.General.Transition
import LifecycleProfiler.Sink.Exporter
import LifecycleProfiler.Sink.Steps
import LifecycleProfiler.Sink.Conservation
import LifecycleProfiler.Sink.Accounting
import LifecycleProfiler.Sink.Frames
import LifecycleProfiler.Sink.Effects
import LifecycleProfiler.Sink.Closing
import LifecycleProfiler.Sink.Winner
import LifecycleProfiler.Sink.Receipt
import LifecycleProfiler.Sink.Pair
import LifecycleProfiler.Sink.Marks
import LifecycleProfiler.Sink.Producers
import LifecycleProfiler.Sink.Streams
import LifecycleProfiler.Sink.Budget
import LifecycleProfiler.Sink.Capacity
import LifecycleProfiler.Sink.Losses
import LifecycleProfiler.Sink.Intervals
import LifecycleProfiler.Sink.Maximal
import LifecycleProfiler.Sink.Held
import LifecycleProfiler.Sink.Times
import LifecycleProfiler.Sink.Opening
import LifecycleProfiler.Sink.Expiry
import LifecycleProfiler.Sink.Timeout
import LifecycleProfiler.Runtime.Observer
import LifecycleProfiler.Blind.Bundle
import LifecycleProfiler.Blind.Calibration
import LifecycleProfiler.Blind.Lockable
import LifecycleProfiler.General.Windows
import LifecycleProfiler.Blind.Overlap
import LifecycleProfiler.Blind.Cycles
import LifecycleProfiler.Blind.Decided
import LifecycleProfiler.Blind.Reordered
import LifecycleProfiler.General.TwoRuns
import LifecycleProfiler.Blind.Rereading
import LifecycleProfiler.Python.Keys
import LifecycleProfiler.Python.Lengths
import LifecycleProfiler.Runtime.Abandoned
import LifecycleProfiler.Runtime.Unfinished
import LifecycleProfiler.Runtime.Adapters
import LifecycleProfiler.Runtime.Limits
import LifecycleProfiler.Runtime.Chunks
import LifecycleProfiler.Baseline.Classification
import LifecycleProfiler.Runtime.Accepted
import LifecycleProfiler.Protocol.Records
import LifecycleProfiler.Protocol.EventIds
import LifecycleProfiler.Protocol.Numbers
import LifecycleProfiler.Offline.Decomposition
import LifecycleProfiler.General.KeyOrder
import LifecycleProfiler.Python.Builtins
import LifecycleProfiler.Trace.Spans
import LifecycleProfiler.Trace.Fixtures
import LifecycleProfiler.Workload.Execution
import LifecycleProfiler.Workload.Conversations
import LifecycleProfiler.General.Slices
import LifecycleProfiler.Workload.Partition
import LifecycleProfiler.Offline.Phases
import LifecycleProfiler.General.Tiling
import LifecycleProfiler.Sink.Ranges
import LifecycleProfiler.Sink.Journal
import LifecycleProfiler.Sink.Drained
import LifecycleProfiler.Python.Loads
import LifecycleProfiler.Python.Tokens
import LifecycleProfiler.Python.RoundTrip
import LifecycleProfiler.Sink.Objects
import LifecycleProfiler.Sink.Failures
import LifecycleProfiler.Sink.Digests
import LifecycleProfiler.Sink.Evidence
