import QueryTrace.Session.Service

/-!
# Connections

Opening, wrapping and closing connections, and sending requests through them.
-/

namespace QueryTrace.Session

def findLayer : Wrapping → Turn Layer
  | .instrumentor name => return (← findInstrumentor name).layer
  | .config config => do
    let provider := (← desk).provider
    return { manager := { provider, config }, classifier := .opcodes config.pathRoot }
  | .malformed field => throw (.badInput field)

/-- Stores a connection that was made; a failure stores nothing. -/
def storeConnection (name : Option String) (result : Except String Connection) : Turn Report := do
  match result with
  | .error message => return .connected (.error message)
  | .ok c =>
    keep name (.connection c)
    return .connected (.ok (c.layers.length, c.generation))

def connect (name : Option String) (rootName : String) (args : Args) : Turn Report := do
  let root ← findRoot rootName
  storeConnection name (← root.connect args)

/-- Makes a plain connection to a server. -/
def openPlain (name : Option String) (serverName : String) : Turn Report := do
  let number ← findServer serverName
  storeConnection name (.ok { layers := [], server := number })

/-- Takes the outermost layer off a connection, which must have a layer. -/
def unwrapConnection (name : Option String) (connectionName : String) : Turn Report := do
  let c ← findConnection connectionName
  if c.layers.isEmpty then throw (.badInput "conn")
  storeConnection name (.ok { c with layers := c.layers.tail })

def reconnect (name : Option String) (connectionName : String) (noreplyWait : Bool)
    (timeout : Option Nat) : Turn Report := do
  let c ← findConnection connectionName
  storeConnection name (← c.reconnect noreplyWait timeout)

/-- Puts a layer around a connection, which must have room for one. -/
def wrapConnection (name : Option String) (connectionName : String) (wrapping : Wrapping) :
    Turn Report := do
  let c ← findConnection connectionName
  unless (← desk).hasRoom c.layers do throw (.badInput "conn")
  let layer ← findLayer wrapping
  storeConnection name (.ok (c.wrap layer))

/-- The configurations of an instrumentor, or of the layers of a connection. A connection without
layers has none to show. -/
def showConfigs : String → Turn Report :=
  find fun
    | .instrumentor i => some (.configs [i.layer.manager.config, i.manager.config])
    | .connection c => if c.layers.isEmpty then none else some (.configs c.configs)
    | _ => none

def closeConnection (connectionName : String) (noreplyWait : Bool) : Turn Report := do
  let c ← findConnection connectionName
  return .closed (← c.close noreplyWait)

def send (react : List Step → Doing Unit) (connectionName : String) (request : Request)
    (noreply : Bool) : Turn Report := do
  let c ← findConnection connectionName
  return .answered (← c.send react request noreply)

end QueryTrace.Session
