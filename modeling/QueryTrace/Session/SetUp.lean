import QueryTrace.Session.Desk

/-!
# Setting up

Instrumentors, servers and namespaces: the objects that a session starts with.
-/

namespace QueryTrace.Session

/-- The provider of an instrumentor. -/
def Backend.provider (backend : Backend) (session : Provider) : Provider :=
  match backend with
  | .own provider => provider
  | .shared => session
  | .sharedStandard => session

def Backend.layerConfig (backend : Backend) (config : Config) : Config :=
  match backend with
  | .sharedStandard => .standard
  | _ => config

/-- The instrumentor of a backend and a configuration. Without a classifier of its own, its layers
read requests by their openings. -/
def makeInstrumentor (session : Provider) (config : Config) (backend : Backend)
    (classifier : Option Classifier) : Instrumentor :=
  let provider := backend.provider session
  let layerConfig := backend.layerConfig config
  { layer :=
      { manager := { provider, config := layerConfig }
        classifier := classifier.getD (.opcodes layerConfig.pathRoot) }
    manager := { provider, config } }

def addInstrumentor (name : Option String) (config : Config) (backend : Backend)
    (classifier : Option Classifier) : Turn Report := do
  let provider := (← desk).provider
  keep name (.instrumentor (makeInstrumentor provider config backend classifier))
  return .nothing

def addServer (name : Option String) (latency : Nat) : Turn Report := do
  let number := (← desk).servers.length
  changeDesk fun d => { d with servers := d.servers ++ [{ latency }] }
  keep name (.server number)
  return .nothing

/-- Appends to the queues of a server. -/
def addResponses (serverName : String) (responses : List (Reply Step))
    (connects closes : List (Option String)) : Turn Report := do
  let number ← findServer serverName
  changeServer number fun s =>
    { s with
      responses := s.responses ++ responses
      connects := s.connects ++ connects
      closes := s.closes ++ closes }
  match (← desk).servers[number]? with
  | some s => return .queued s.responses.length s.connects.length s.closes.length
  | none => throw (.noObject serverName)

/-- The namespace that a step starts from. -/
def findBase : RootBase → Turn Root
  | .server name => do
    let number ← findServer name
    return { layers := [], server := number }
  | .over name => findRoot name

/-- Makes a namespace, with one more layer if an instrumentor is named and there is room for a
layer. -/
def addRoot (name : Option String) (base : RootBase) (layer : Option String) : Turn Report := do
  let root ← findBase base
  match layer with
  | some instrumentor =>
    unless (← desk).hasRoom root.layers do throw (.badInput "over")
    keep name (.root (root.wrap (← findInstrumentor instrumentor).layer))
  | none => keep name (.root root)
  return .nothing

/-- Makes a namespace by taking the outermost layer off another one, which must have a layer. -/
def unwrapRoot (name : Option String) (rootName : String) : Turn Report := do
  let root ← findRoot rootName
  if root.layers.isEmpty then throw (.badInput "r")
  keep name (.root { root with layers := root.layers.tail })
  return .nothing

end QueryTrace.Session
