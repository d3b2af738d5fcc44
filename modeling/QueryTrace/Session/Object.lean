import QueryTrace.Driver.Stream
import QueryTrace.Driver.Wire
import QueryTrace.Layer.Run
import QueryTrace.Layer.Sending
import QueryTrace.Session.Script

/-!
# The objects of a session

What the steps of a script make and use. Objects that wrap a driver object carry their tracing
layers as a list, the outermost one first; with no layer they are the plain object of the driver.
-/

namespace QueryTrace.Session

/-- A layer, and a manager of the same provider and configuration. -/
structure Instrumentor where
  /-- The layer that is put around namespaces and connections. -/
  layer : Layer
  manager : Manager

/-- A namespace: where connections are opened and queries start. -/
structure Root where
  layers : List Layer
  /-- The number of the server. -/
  server : Nat

/-- A connection, and the handle through which its requests are sent. -/
structure Connection where
  layers : List Layer
  server : Nat
  /-- How often the connection has been opened again. -/
  generation : Nat := 0

structure Query where
  layers : List QueryLayer
  wire : Value

/-- A cursor over the rows of a stream. -/
structure Cursor where
  layers : List RowsLayer
  /-- What is left of the stream. -/
  stream : Stream
  /-- Where further batches come from. -/
  source : Connection

/-- An object with a name. Servers and deferred spans are shared: the object is the number of one.
-/
inductive Object where
  | instrumentor (i : Instrumentor)
  | server (number : Nat)
  | root (r : Root)
  | connection (c : Connection)
  | query (q : Query)
  | cursor (c : Cursor)
  | chain (c : Chain)
  | deferred (number : Nat)

def Object.kind : Object → Kind
  | .instrumentor _ => .instrumentor
  | .server _ => .server
  | .root _ => .root
  | .connection _ => .connection
  | .query _ => .query
  | .cursor _ => .cursor
  | .chain _ => .chain
  | .deferred _ => .deferred

namespace Root

/-- A namespace inside one more layer. -/
def wrap (root : Root) (layer : Layer) : Root :=
  { root with layers := layer :: root.layers }

/-- The query that a root method starts. Every layer records the call. -/
def query (root : Root) (method : String) (args : Args) : Query :=
  { layers := root.layers.map fun layer => ⟨layer.manager, .start method args⟩
    wire := Wire.root method args }

end Root

namespace Connection

def wrap (connection : Connection) (layer : Layer) : Connection :=
  { connection with layers := layer :: connection.layers }

def configs (connection : Connection) : List Config :=
  connection.layers.map (·.manager.config)

end Connection

namespace Query

/-- The query that a method gives on a node. Every layer records the call. -/
def call (query : Query) (method : String) (args : Args) : Query :=
  { layers := query.layers.map (·.record method args)
    wire := Wire.chain query.wire method args }

/-- The chain that the outermost layer recorded. -/
def calls? (query : Query) : Option Chain :=
  query.layers.head?.map (·.calls)

end Query

end QueryTrace.Session
