import TraceAgent.Application.Agents
import TraceAgent.Application.Spans
import TraceAgent.Application.Command
import TraceAgent.Propagation.Headers
import TraceAgent.Proofs.Application.EntryBracket
import TraceAgent.Proofs.Application.CorrelationHop
import TraceAgent.Proofs.Application.ZipkinHop
import TraceAgent.Proofs.Application.ThreadLink
import TraceAgent.Proofs.Native.Accounting
import TraceAgent.Proofs.Native.Descent
import TraceAgent.Proofs.Native.SpanTree
import TraceAgent.Proofs.Native.HandOut
import TraceAgent.Proofs.Native.TraceAgreement
import TraceAgent.Proofs.Application.NativeThread
import TraceAgent.Proofs.Application.ThreadNesting
import TraceAgent.Proofs.Application.Completion
import TraceAgent.Proofs.Application.SelfContinuation
import TraceAgent.Proofs.Application.IgnoredInput
import TraceAgent.Proofs.Propagation.OriginHeader
import TraceAgent.Proofs.Propagation.ExtensionHeader
import TraceAgent.Proofs.Propagation.CorrelationMerge
import TraceAgent.Proofs.Native.Reuse
import TraceAgent.Proofs.Native.Injection
import TraceAgent.Proofs.Application.FailedExit
import TraceAgent.Proofs.Application.FailedEntry
import TraceAgent.Proofs.Native.Endpoint
import TraceAgent.Proofs.Native.Duration
import TraceAgent.Proofs.Native.Atomicity
import TraceAgent.Proofs.Application.EntryFlags
import TraceAgent.Proofs.Native.Transmission
import TraceAgent.Proofs.UniqueIds
