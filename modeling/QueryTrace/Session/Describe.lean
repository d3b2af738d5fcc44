import QueryTrace.Session.Desk

/-!
# Descriptions of objects

The text that shows what an object is made of: a name and its fields between braces, with two points
at the end where some fields are left out.
-/

namespace QueryTrace.Session

open Text

/-! ## Shapes -/

def describeFields (name : String) (fields : List (String × String)) (omitted : Bool) : String :=
  let shown := fields.map fun f => f.1 ++ ": " ++ f.2
  let shown := if omitted then shown ++ [".."] else shown
  name ++ " \x7b " ++ String.intercalate ", " shown ++ " \x7d"

def describeOption : Option String → String
  | none => "None"
  | some text => "Some(" ++ text ++ ")"

def describeBool (b : Bool) : String :=
  if b then "true" else "false"

/-- A number below 1000 with three digits. -/
def threeDigits (n : Nat) : List Char :=
  let ds := Nat.toDigits 10 n
  List.replicate (3 - ds.length) '0' ++ ds

/-- A duration: in seconds from one second on, with as many decimals as it needs. -/
def describeDuration (ms : Nat) : String :=
  if ms = 0 then "0ns"
  else if ms < 1000 then toString ms ++ "ms"
  else
    let decimals := ((threeDigits (ms % 1000)).reverse.dropWhile (· = '0')).reverse
    toString (ms / 1000) ++ (if decimals.isEmpty then "" else "." ++ String.ofList decimals) ++ "s"

/-! ## Parts of the layers -/

/-- A configuration, with all its fields. -/
def describeConfig (config : Config) : String :=
  describeFields "TracingConfig"
    [("log_queries", describeBool config.logQueries),
     ("log_arguments", describeBool config.logArguments),
     ("slow_query_threshold", describeDuration config.slowThreshold.toNat),
     ("record_row_counts", describeBool config.recordRows),
     ("database_name", describeOption (config.database.map quoted)),
     ("server_address", describeOption (config.serverAddress.map quoted)),
     ("server_port", describeOption (config.serverPort.map fun port => toString port.toNat)),
     ("span_prefix", describeOption (config.spanLead.map quoted)),
     ("path_namespace", quoted config.pathRoot)] false

def describeManager (m : Manager) : String :=
  describeFields "SpanManager" [("config", describeConfig m.config)] true

def describeChain (chain : Chain) : String :=
  let calls := chain.history.map fun call => "(" ++ quoted call.1 ++ ", " ++ quoted call.2 ++ ")"
  describeFields "QueryContext"
    [("root_name", quoted chain.rootName), ("root_args", quoted chain.rootArgs),
     ("path", quoted chain.path),
     ("history", "[" ++ String.intercalate ", " calls ++ "]")] false

def describeDeferred (d : Deferred) : String :=
  describeFields "DeferredSpan" [("state", d.state.name)] true

/-! ## Objects -/

def describeInstrumentor (i : Instrumentor) : String :=
  describeFields "RethinkDbInstrumentor" [("spans", describeManager i.layer.manager)] true

/-- Layers around something plain, the outermost one first. -/
def describeLayers {α : Type} (wrap : α → String → String) (layers : List α) (plain : String) :
    String :=
  layers.foldr wrap plain

def describeLayer (name : String) (layer : Layer) (inner : String) : String :=
  describeFields name [("inner", inner), ("spans", describeManager layer.manager)] true

def describeConnection (c : Connection) : String :=
  describeLayers (describeLayer "TracedConnection") c.layers
    ("FakeConnection#" ++ toString c.generation)

/-- The handle through which layers send requests. -/
def describeSender (layers : List Layer) : String :=
  describeLayers (fun _ inner => describeFields "TracedExecutor" [("inner", inner)] true) layers
    "FakeExecutor"

/-- A namespace inside layers. -/
def describeRoot (layers : List Layer) : String :=
  describeLayers (describeLayer "TracedNamespace") layers "FakeNamespace"

/-- Something inside layers, and what is inside the outermost one. -/
def describeOver {α : Type} (describe : List α → String) : List α → String
  | [] => describe []
  | layer :: layers => describe (layer :: layers) ++ " over " ++ describe layers

def describeQuery (q : Query) : String :=
  describeLayers
    (fun (layer : QueryLayer) inner =>
      describeFields "TracedQuery" [("inner", inner), ("context", describeChain layer.calls)] true)
    q.layers ("FakeTerm(" ++ q.wire.text ++ ")")

def describeCursor (c : Cursor) : String :=
  describeLayers
    (fun (layer : RowsLayer) inner =>
      describeFields "TracedCursor"
        [("inner", inner), ("span", describeDeferred layer.span),
         ("finished", describeBool layer.finished), ("rows", toString layer.rows.toNat)] false)
    c.layers
    ("FakeCursor(" ++ toString c.stream.rows.length ++ "," ++ describeBool c.stream.more ++ ")")

end QueryTrace.Session
