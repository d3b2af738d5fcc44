import QueryTrace.Layer.Rows

/-!
# Tracing the runs of a query

A layer around a query node records the calls that built the node. A run of the node is one span,
named after the recorded calls and the run itself. When it gives a stream, the rows of the stream
are traced by the same manager.
-/

namespace QueryTrace

/-- What a run gives. -/
inductive Outcome (κ : Type) where
  /-- The whole result. -/
  | value (v : Value)
  /-- A stream of rows. -/
  | stream (s : κ)

/-- A change of the stream, if there is one. -/
def Outcome.map {κ μ : Type} (f : κ → μ) : Outcome κ → Outcome μ
  | .value v => .value v
  | .stream s => .stream (f s)

/-- A tracing layer around a query node. -/
structure QueryLayer where
  manager : Manager
  /-- The calls that built the node. -/
  calls : Chain

namespace QueryLayer

variable {σ ν κ : Type}

def record (layer : QueryLayer) (method : String) (args : Args) : QueryLayer :=
  { layer with calls := layer.calls.record method args }

def runCalls (layer : QueryLayer) (options : Args) : Chain :=
  layer.calls.record "run" options

/-- A run through the layer. The node itself keeps its calls, so every run of it is described alike.
-/
def run (layer : QueryLayer) (options : Args) (inner : Action σ ν (Except String (Outcome κ))) :
    Action σ ν (Except String (Outcome (RowsLayer × κ))) := do
  let calls := layer.runCalls options
  let (result, _) ← layer.manager.trace (.chain calls) .newQuery inner
  return result.map (·.map fun stream => (.ofOrigin layer.manager calls.path, stream))

/-- A run through layers, the outermost one first. -/
def runThrough (options : Args) (base : Action σ ν (Except String (Outcome κ))) :
    List QueryLayer → Action σ ν (Except String (Outcome (List RowsLayer × κ)))
  | [] => do
    let result ← base
    return result.map (·.map fun stream => ([], stream))
  | layer :: layers => do
    let result ← layer.run options (runThrough options base layers)
    return result.map (·.map fun (outer, inner, stream) => (outer :: inner, stream))

end QueryLayer

end QueryTrace
