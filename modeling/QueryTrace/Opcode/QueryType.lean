/-!
# Query types

The first number of a request is its query type. Three things are known about a type: its number on
the wire, the word that describes it, and the role its requests play for the query in flight.
-/

namespace QueryTrace

/-- What a request asks the server to do. -/
inductive QueryType where
  /-- Evaluate a query. -/
  | start
  /-- Send the next batch of a stream. -/
  | advance
  /-- End a stream. -/
  | stop
  /-- Wait for the queries that were sent without waiting for an answer. -/
  | noreplyWait
  /-- Describe the server. -/
  | serverInfo
  | undefined
  deriving DecidableEq, Repr

/-- Whether a request starts a logical query or feeds the one in flight. -/
inductive Role where
  | newQuery
  | continuation
  deriving DecidableEq, Repr

namespace QueryType

/-- The type with the given number on the wire. -/
def ofCode? : Nat → Option QueryType
  | 1 => some .start
  | 2 => some .advance
  | 3 => some .stop
  | 4 => some .noreplyWait
  | 5 => some .serverInfo
  | _ => none

def name : QueryType → String
  | .start => "start"
  | .advance => "continue"
  | .stop => "stop"
  | .noreplyWait => "noreplyWait"
  | .serverInfo => "serverInfo"
  | .undefined => "undefined"

def all : List QueryType :=
  [.start, .advance, .stop, .noreplyWait, .serverInfo, .undefined]

def ofName? (word : String) : Option QueryType :=
  all.find? (·.name = word)

/-- The role of a request of this type. A request of unknown type has none and is not traced. -/
def role? : QueryType → Option Role
  | .advance => some .continuation
  | .undefined => none
  | _ => some .newQuery

/-- Requests that control a stream and say nothing about the query they are sent for. -/
def isControl : QueryType → Bool
  | .stop => true
  | .noreplyWait => true
  | _ => false

end QueryType

end QueryTrace
