import QuotaFabric.Lib.SparseVec
import QuotaFabric.Lib.MapTotals
import QuotaFabric.Lib.DoubleEntry
import QuotaFabric.Lib.Runs
import QuotaFabric.Lib.Machine
import QuotaFabric.Core.Resource
import QuotaFabric.Core.Records
import QuotaFabric.Engine.State
import QuotaFabric.Engine.Decision
import QuotaFabric.Engine.Operations
import QuotaFabric.Engine.Reads
import QuotaFabric.Engine.Loans
import QuotaFabric.Engine.Calls
import QuotaFabric.Engine.Lattice
import QuotaFabric.Engine.Recompute
import QuotaFabric.Engine.Trace
import QuotaFabric.Loans.Pairing
import QuotaFabric.Loans.Lending
import QuotaFabric.Loans.LentCounter
import QuotaFabric.Authority.Fencing
import QuotaFabric.Limits.HardLimit
import QuotaFabric.Limits.Committed
import QuotaFabric.Limits.Coherence
import QuotaFabric.Lib.RollingTotal
import QuotaFabric.Limits.RollingUsage
import QuotaFabric.Limits.ParentCeiling
import QuotaFabric.Limits.TenantCeiling
import QuotaFabric.Limits.Guarantees
import QuotaFabric.Loans.Rollback
import QuotaFabric.Accounting.Checker
import QuotaFabric.Accounting.Observations
import QuotaFabric.Accounting.Aggregation
import QuotaFabric.Lib.ByteCodec
import QuotaFabric.Lib.ShiftRegister
import QuotaFabric.Lib.WriteLog
import QuotaFabric.Persistence.Codec
import QuotaFabric.Persistence.Store
import QuotaFabric.Persistence.Corruption
import QuotaFabric.Persistence.RoundTrip
import QuotaFabric.Persistence.Reachable
import QuotaFabric.Persistence.Reload
import QuotaFabric.Persistence.AllOrNothing
import QuotaFabric.Lib.Walks
import QuotaFabric.Persistence.WellFormed
import QuotaFabric.Authority.Revival
import QuotaFabric.Engine.Steps
import QuotaFabric.Lifecycle.Reservations
import QuotaFabric.Lifecycle.Isolation
import QuotaFabric.Lifecycle.Allocations
import QuotaFabric.Loans.BorrowedCounter
import QuotaFabric.Lifecycle.Closing
import QuotaFabric.Loans.Recall
import QuotaFabric.Accounting.Books
import QuotaFabric.Accounting.HiddenCapacity
import QuotaFabric.Coordinator.Interleaving
import QuotaFabric.Limits.BurstBound
import QuotaFabric.Limits.BurstWindow
import QuotaFabric.Limits.StuckBurst
import QuotaFabric.Limits.PhysicalCapacity
import QuotaFabric.Limits.RollingCeiling
import QuotaFabric.Lib.ByteStream
import QuotaFabric.Lib.ByteLayout
import QuotaFabric.Protocol.Frame
import QuotaFabric.Protocol.Request
import QuotaFabric.Protocol.Response
import QuotaFabric.Protocol.Acceptance
import QuotaFabric.Decisions.Admission
import QuotaFabric.Decisions.Regimes
import QuotaFabric.Decisions.Decomposition
import QuotaFabric.Lifecycle.Undo
import QuotaFabric.Lifecycle.Resize
import QuotaFabric.Loans.NamedLender
import QuotaFabric.Accounting.Residency
import QuotaFabric.Accounting.ObservationArithmetic
import QuotaFabric.Lib.ExactDoubles
import QuotaFabric.Limits.CountedTwice
import QuotaFabric.Accounting.Drift
import QuotaFabric.Loans.LentCovered
import QuotaFabric.Limits.BurstFree
import QuotaFabric.Lib.Numerals
import QuotaFabric.Text.Hex
import QuotaFabric.Text.Vector
import QuotaFabric.Text.Grammar
import QuotaFabric.Text.Printing
import QuotaFabric.Hierarchy.CycleCheck
import QuotaFabric.Hierarchy.Chains
import QuotaFabric.Lib.Sorting
import QuotaFabric.Persistence.Canonical
import QuotaFabric.Decisions.Headroom
import QuotaFabric.Limits.GuaranteePool
import QuotaFabric.Hierarchy.ParentAvailable
import QuotaFabric.Lib.ByteCursor
import QuotaFabric.Protocol.Buffer
import QuotaFabric.Protocol.Truncation
import QuotaFabric.Core.Arithmetic
import QuotaFabric.Lib.CheckedLoop
import QuotaFabric.Lib.Tiers
import QuotaFabric.Limits.FundingSplit
import QuotaFabric.Limits.WindowTotals
import QuotaFabric.Persistence.BitSerial
import QuotaFabric.Decisions.Tighter
import QuotaFabric.Persistence.Recovery
import QuotaFabric.Engine.EventLog
import QuotaFabric.Decisions.Compliance
import QuotaFabric.Persistence.CrashSafety
import QuotaFabric.Accounting.Snapshot
import QuotaFabric.Lib.Replay
import QuotaFabric.Coordinator.Replies
import QuotaFabric.Coordinator.Service
import QuotaFabric.Coordinator.Linear
import QuotaFabric.Coordinator.ReplyAuthority
import QuotaFabric.Lib.Persists
import QuotaFabric.Lifecycle.Aging
import QuotaFabric.Coordinator.Client
