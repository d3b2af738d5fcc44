import QueryTrace.Json.Reader
import QueryTrace.Proofs.Chains.Bench
import QueryTrace.Proofs.Chains.Edits
import QueryTrace.Proofs.Contexts.Session
import QueryTrace.Proofs.Contrast.Nesting
import QueryTrace.Proofs.Contrast.Telemetry
import QueryTrace.Proofs.Layered.Instrumented
import QueryTrace.Proofs.Opcode.Headers
import QueryTrace.Proofs.Opcode.Mirror
import QueryTrace.Proofs.Opcode.Recovery
import QueryTrace.Proofs.Redaction.Session
import QueryTrace.Proofs.Rows.Accounts
import QueryTrace.Proofs.Spans.Ending
import QueryTrace.Proofs.Spans.Lives
import QueryTrace.Proofs.Spans.Overtaking
import QueryTrace.Proofs.Spans.Passing
import QueryTrace.Proofs.Transparency.Session
