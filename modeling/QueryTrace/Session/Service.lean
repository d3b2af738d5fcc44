import QueryTrace.Session.Desk

/-!
# The driver of a session

The plain driver works on scripted servers; the layers of an object are put around what it does.
Steps that a server carries out before it answers are given to `react`.
-/

namespace QueryTrace.Session

/-- The server handles a request: it notes the request, takes a response, lets its time pass,
carries out the steps of the response, and answers. -/
def handle (react : List Step → Doing Unit) (server generation : Nat) : Send Desk Note :=
  fun request noreply => do
    note (.request request noreply generation)
    let reply ← takeReply server
    let latency := ((← desk).servers[server]?.map (·.latency)).getD 0
    modify fun w => { w with clock := w.clock + latency }
    react reply.before
    match reply.answer with
    | .fail message => return .error message
    | .respond response => return .ok response

/-- A taken outcome as a result. -/
def outcome {α : Type} (failure : Option String) (result : α) : Except String α :=
  match failure with
  | some message => .error message
  | none => .ok result

/-- Opens a connection of a namespace. It gets the layers of the namespace. -/
def Root.connect (root : Root) (args : Args) : Doing (Except String Connection) := do
  note (.connect args.options)
  return outcome (← takeConnect root.server) { layers := root.layers, server := root.server }

namespace Connection

/-- Sends a request through the layers of a connection. -/
def send (react : List Step → Doing Unit) (c : Connection) : Send Desk Note :=
  Layer.sendThrough c.layers (handle react c.server c.generation)

/-- Opens a connection again. The new one gets the same layers, and the next generation. -/
def reconnect (c : Connection) (noreplyWait : Bool) (timeout : Option Nat) :
    Doing (Except String Connection) :=
  Layer.reconnectThrough c.layers do
    note (.reconnect c.generation noreplyWait timeout)
    return outcome (← takeConnect c.server) { c with generation := c.generation + 1 }

/-- Closes a connection. Layers have no part in it. -/
def close (c : Connection) (noreplyWait : Bool) : Doing (Except String Unit) := do
  note (.close c.generation noreplyWait)
  return outcome (← takeClose c.server) ()

end Connection

namespace Query

/-- The run of a plain node: one request to evaluate it. -/
def runPlain (react : List Step → Doing Unit) (wire : Value) (c : Connection) (options : Args) :
    Doing (Except String (Outcome Stream)) := do
  match ← c.send react (.start wire options.options) (Wire.wantsNoReply options) with
  | .error message => return .error message
  | .ok (.atom value) => return .ok (.value value)
  | .ok (.batch rows more) => return .ok (.stream ⟨rows, more⟩)

/-- Runs a query on a connection. A cursor gets a layer for each layer of the query. -/
def run (react : List Step → Doing Unit) (q : Query) (c : Connection) (options : Args) :
    Doing (Except String (Outcome Cursor)) := do
  let result ← QueryLayer.runThrough options (runPlain react q.wire c options) q.layers
  return result.map (·.map fun (layers, stream) => { layers, stream, source := c })

end Query

namespace Cursor

def next (react : List Step → Doing Unit) (fuel : Nat) (c : Cursor) :
    Doing (Except String (Option Value) × Cursor) := do
  let (row, stream, layers) ←
    RowsLayer.nextThrough (c.stream.next (c.source.send react) fuel) c.layers
  return (row, { c with layers, stream })

def close (react : List Step → Doing Unit) (c : Cursor) : Doing (Except String Unit × Cursor) := do
  let (result, stream, layers) ←
    RowsLayer.closeThrough (c.stream.close (c.source.send react)) c.layers
  return (result, { c with layers, stream })

def reports (c : Cursor) : List LayerReport :=
  c.layers.map fun layer => (layer.span.state, layer.rows)

end Cursor

end QueryTrace.Session
