import QueryTrace.Call.Chain
import QueryTrace.Config
import QueryTrace.Opcode.Summary
import QueryTrace.Span.World

/-!
# The span of a logical query

A manager opens, describes and closes the spans of queries. A query is described either by one
request and its summary or by a recorded call chain; the chain is forgotten once a span has been
given it.

`Manager.trace` runs a call inside the span of its logical query, and gives the result of the call
unchanged:

| role         | active query     | source  | the call runs                                       |
|--------------|------------------|---------|-----------------------------------------------------|
| continuation | none             | any     | without a span                                      |
| continuation | any              | any     | for the current span, which is marked as continued  |
| new query    | chain, deferred  | request | for the current span, which takes the description   |
| new query    | request          | any     | in a new span, after the current one has ended      |
| new query    | none             | any     | in a new span                                       |
| new query    | chain, deferred  | chain   | in a new span                                       |
-/

namespace QueryTrace

/-- What a span describes. -/
inductive Source where
  /-- A request and its summary. -/
  | request (query : String) (summary : Summary)
  /-- A recorded call chain. -/
  | chain (calls : Chain)

namespace Source

def mode : Source → Mode
  | .request .. => .request
  | .chain _ => .chain

/-- The source only controls a stream. -/
def isControl : Source → Bool
  | .request _ summary => summary.type.isControl
  | .chain _ => false

def spanName (config : Config) : Source → String
  | .request .. => "run_query"
  | .chain calls => config.spanName calls.path

/-- The source after a span has been given it: a chain is back at its root. -/
def spent : Source → Source
  | .request query summary => .request query summary
  | .chain calls => .chain calls.reset

end Source

/-- Opens, describes and closes the spans of queries. -/
structure Manager where
  /-- What becomes of the spans. -/
  provider : Provider
  /-- What is recorded. -/
  config : Config

namespace Manager

variable {σ ν α : Type}

/-- What every span says: the database system, and what is configured about the server. -/
def serverAttrs (config : Config) : List Attr :=
  [("db.system", .text "rethinkdb")]
    ++ (config.database.map fun name => ("db.name", .text name)).toList
    ++ (config.serverAddress.map fun address => ("server.address", .text address)).toList
    ++ (config.serverPort.map fun port => ("server.port", .int port.toNat)).toList

/-- What a span says about a request; the text of the request only if that may be recorded. -/
def requestAttrs (config : Config) (query : String) (summary : Summary) : List Attr :=
  [("db.operation", .text summary.type.name), ("db.x.path", .text summary.path)]
    ++ (if config.logQueries then [("db.query", .text query)] else [])

/-- What a span says about a call chain: one attribute per call, in order. Arguments that may not be
recorded are shown as a question mark. -/
def chainAttrs (config : Config) (chain : Chain) : List Attr :=
  chain.history.map fun call =>
    ("db.method." ++ call.1, .text (if config.logArguments then call.2 else "?"))

/-- The description of a source. -/
def attrs (config : Config) : Source → List Attr
  | .request query summary => serverAttrs config ++ requestAttrs config query summary
  | .chain calls => serverAttrs config ++ chainAttrs config calls

/-- Gives a span the description of a source, and the source as it is afterwards. -/
def describe (m : Manager) (span : SpanRef) (source : Source) : Action σ ν Source := do
  modify (·.annotate span (attrs m.config source))
  return source.spent

/-- Starts a span as a child of the current one of a context, and derives the context in which it is
current. The mark of a request under way is inherited. -/
def startIn (m : Manager) (context : Context) (name : String) (mode : Mode) :
    Action σ ν Context := do
  let (span, w) := (← get).startSpan m.provider .tracing name context.span
  set w
  return { context with span, active := some mode }

/-- A failed result leaves its mark on a span. -/
def noteFailure (span : SpanRef) (result : Except String α) : Action σ ν (Except String α) := do
  match result with
  | .error message =>
    log .error "RethinkDB query failed" [("error", .text message)]
    modify (·.fail span message)
  | .ok _ => pure ()
  return result

/-- Tells a recording span how long its call took, and that this was too long. -/
def noteDuration (m : Manager) (span : SpanRef) (started : Nat) : Action σ ν Unit := do
  let w ← get
  if w.isRecording span then
    let elapsed := w.clock - started
    modify (·.annotate span [("db.duration_ms", .duration elapsed)])
    if m.config.slowThreshold.toNat ≤ elapsed then
      modify (·.annotate span [("db.x.slow_query", .flag true)])
      log .warn "Slow query detected" [("duration_ms", .duration elapsed),
        ("threshold_ms", .int m.config.slowThreshold.toInt64.toInt)]

/-- A call in a span of its own. -/
def runInSpan (m : Manager) (context : Context) (source : Source)
    (call : Action σ ν (Except String α)) : Action σ ν (Except String α × Source) := do
  let name := source.spanName m.config
  log .debug "starting span for query" [("span", .text name)]
  let inner ← m.startIn context name source.mode
  let source ← m.describe inner.span source
  let started := (← get).clock
  let result ← within inner call
  m.noteDuration inner.span started
  let result ← noteFailure inner.span result
  modify (·.finish inner.span)
  return (result, source)

/-- A continuation of the query in flight. -/
def runContinuation (span : SpanRef) (mode : Mode) (source : Source)
    (call : Action σ ν (Except String α)) : Action σ ν (Except String α × Source) := do
  log .debug "continuing span of the active query" [("mode", .text mode.name)]
  modify (·.annotate span [("db.x.continue", .flag true)])
  return (← noteFailure span (← call), source)

/-- A continuation while no query is in flight. -/
def runStray (m : Manager) (source : Source) (call : Action σ ν (Except String α)) :
    Action σ ν (Except String α × Source) := do
  log .warn "continuation request without an active query span, running untraced"
    [("span", .text (source.spanName m.config))]
  return (← call, source)

/-- A request of the query in flight. Control requests of a stream do not describe it. -/
def runCovered (m : Manager) (span : SpanRef) (mode : Mode) (source : Source)
    (call : Action σ ν (Except String α)) : Action σ ν (Except String α × Source) := do
  log .debug "request belongs to the active query span" [("mode", .text mode.name)]
  let source ←
    if mode = .deferred && source.isControl then pure source else m.describe span source
  return (← noteFailure span (← call), source)

/-- Ends the span of a request that is still current when a new query starts. -/
def endStale (span : SpanRef) : Action σ ν Unit := do
  if (← get).isRecording span then
    log .debug "ending stale request span before starting a new one"
    modify (·.finish span)

/-- Runs a call inside the span of its logical query. The result is that of the call; the source
comes back as the call's span left it. -/
def trace (m : Manager) (source : Source) (role : Role) (call : Action σ ν (Except String α)) :
    Action σ ν (Except String α × Source) := do
  let context ← current
  match role, context.active with
  | .continuation, none => m.runStray source call
  | .continuation, some mode => runContinuation context.span mode source call
  | .newQuery, none => m.runInSpan context source call
  | .newQuery, some .request =>
    endStale context.span
    m.runInSpan context source call
  | .newQuery, some mode =>
    if source.mode = .request then m.runCovered context.span mode source call
    else m.runInSpan context source call

end Manager

end QueryTrace
