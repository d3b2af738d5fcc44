import QueryTrace.Session.Service

/-!
# Queries and cursors

Building queries, running them, and fetching the rows of the cursors that they give.
-/

namespace QueryTrace.Session

/-! ## Queries -/

/-- What is to be seen of a query. -/
def Query.report (q : Query) : QueryReport :=
  { wire := q.wire, chains := q.layers.map (·.calls) }

def storeQuery (name : Option String) (q : Query) : Turn Report := do
  keep name (.query q)
  return .node q.report

def startQuery (name : Option String) (rootName method : String) (args : Args) : Turn Report := do
  let root ← findRoot rootName
  unless Wire.rootMethods.contains method do throw (.noMethod method)
  storeQuery name (root.query method args)

def callQuery (name : Option String) (queryName method : String) (args : Args) : Turn Report := do
  let q ← findQuery queryName
  unless Wire.chainMethods.contains method do throw (.noMethod method)
  storeQuery name (q.call method args)

/-- Takes the outermost layer off a query, which must have a layer. -/
def unwrapQuery (name : Option String) (queryName : String) : Turn Report := do
  let q ← findQuery queryName
  if q.layers.isEmpty then throw (.badInput "q")
  storeQuery name { q with layers := q.layers.tail }

/-- Shows a query with the chains of all its layers. -/
def showQuery (queryName : String) : Turn Report := do
  let q ← findQuery queryName
  return .nodeInfo q.report

/-- The outcome of a run as its step wants it. A stream is stored if it has a name, and dropped
otherwise. -/
def settleRun (name : Option String) (take : Take) : Outcome Cursor → Turn RunReport
  | .value v =>
    match take with
    | .any => return .value v
    | .value => return .takenValue (some v)
    | .stream => return .noStream
  | .stream c =>
    match take, name with
    | .value, _ => do
      discard (.cursor c)
      return .takenValue none
    | _, some name => do
      store name (.cursor c)
      return .cursor
    | _, none => do
      discard (.cursor c)
      return .cursor

def runQuery (react : List Step → Doing Unit) (name : Option String)
    (queryName connectionName : String) (options : Args) (take : Take) : Turn Report := do
  let q ← findQuery queryName
  let c ← findConnection connectionName
  match ← q.run react c options with
  | .error message => return .ran (.error message)
  | .ok result => return .ran (.ok (← settleRun name take result))

/-! ## Cursors -/

def Fetched.ofRow : Except String (Option Value) → Fetched
  | .ok (some v) => .row v
  | .ok none => .last
  | .error message => .failed message

/-- Several fetches, one after the other; what was fetched before them is given in reverse. -/
def fetchMany (react : List Step → Doing Unit) (fuel : Nat) :
    Nat → List Fetched → Cursor → Doing (List Fetched × Cursor)
  | 0, fetched, c => return (fetched.reverse, c)
  | n + 1, fetched, c => do
    let (row, c) ← c.next react fuel
    fetchMany react fuel n (.ofRow row :: fetched) c

/-- Fetches rows of a cursor. Meanwhile the cursor is away from the desk. -/
def fetchRows (react : List Step → Doing Unit) (fuel : Nat) (cursorName : String) (count : Nat) :
    Turn Report := do
  let c ← takeCursor cursorName
  let (rows, c) ← fetchMany react fuel count [] c
  store cursorName (.cursor c)
  return .fetched rows c.reports

/-- Closes a cursor. Meanwhile the cursor is away from the desk. -/
def closeCursor (react : List Step → Doing Unit) (cursorName : String) : Turn Report := do
  let c ← takeCursor cursorName
  let (result, c) ← c.close react
  store cursorName (.cursor c)
  return .streamClosed result c.reports

end QueryTrace.Session
