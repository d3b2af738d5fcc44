/-!
# What is recorded, and how it is named

A configuration says which parts of a query may appear in spans, when a query counts as slow, what
every span says about the database server, and how paths and span names start.
-/

namespace QueryTrace

/-- The configuration of a tracing layer. -/
structure Config where
  /-- The text of a request is recorded. -/
  logQueries : Bool := true
  /-- The arguments of calls are recorded; otherwise each is shown as `?`. -/
  logArguments : Bool := true
  /-- A call that takes longer than this many milliseconds is slow. -/
  slowThreshold : UInt64 := 500
  /-- The number of rows that a cursor delivered is recorded. -/
  recordRows : Bool := true
  database : Option String := none
  serverAddress : Option String := none
  serverPort : Option UInt16 := none
  /-- What stands in front of the names of chain spans. -/
  spanLead : Option String := none
  /-- What the paths of requests start with. -/
  pathRoot : String := "r"
  deriving DecidableEq, Repr

/-- One setting of a configuration. -/
inductive Setting where
  | logQueries (enabled : Bool)
  | logArguments (enabled : Bool)
  | recordRows (enabled : Bool)
  | slowThreshold (ms : UInt64)
  | database (name : String)
  | spanLead (text : String)
  | pathRoot (text : String)
  | server (address : String) (port : UInt16)
  deriving DecidableEq, Repr

namespace Config

/-- The configuration that nothing has been set in. -/
def standard : Config := {}

/-- Everything is recorded, and queries are slow early. -/
def development : Config := { slowThreshold := 100 }

/-- No literal of a query is recorded. -/
def production : Config :=
  { logQueries := false, logArguments := false, slowThreshold := 1000 }

def set (config : Config) : Setting → Config
  | .logQueries enabled => { config with logQueries := enabled }
  | .logArguments enabled => { config with logArguments := enabled }
  | .recordRows enabled => { config with recordRows := enabled }
  | .slowThreshold ms => { config with slowThreshold := ms }
  | .database name => { config with database := some name }
  | .spanLead text => { config with spanLead := some text }
  | .pathRoot text => { config with pathRoot := text }
  | .server address port => { config with serverAddress := some address, serverPort := some port }

def setAll (config : Config) (settings : List Setting) : Config :=
  settings.foldl set config

/-- The name of the span of a call chain with the given path. -/
def spanName (config : Config) (path : String) : String :=
  config.spanLead.getD "" ++ path

end Config

end QueryTrace
