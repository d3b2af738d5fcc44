import QueryTrace.Call.Args

/-!
# Recorded call chains

A chain starts from a root call (`table`, `db`, a cursor) and grows by one entry per call. Its path,
such as `/table/filter/run`, names the span of the query; its history holds the rendered arguments
of each call under a key `#NN.name` that tells the position of the call.
-/

namespace QueryTrace

/-- The calls of one logical query, in order. -/
structure Chain where
  rootName : String
  rootArgs : String
  /-- A slash and the name of each call. -/
  path : String
  /-- The key and the rendered arguments of each call. -/
  history : List (String × String)
  deriving DecidableEq, Repr, Inhabited

namespace Chain

def twoDigits (n : Nat) : String :=
  if n < 10 then "0" ++ toString n else toString n

/-- The key of the call at a position. -/
def key (position : Nat) (name : String) : String :=
  "#" ++ twoDigits position ++ "." ++ name

/-- The chain with one more call, whose arguments are rendered. -/
def push (chain : Chain) (name text : String) : Chain :=
  { chain with
    path := chain.path ++ "/" ++ name
    history := chain.history ++ [(key chain.history.length name, text)] }

/-- The chain of a root call alone. -/
def start (name : String) (args : Args) : Chain :=
  push ⟨name, args.rendered, "", []⟩ name args.rendered

def record (chain : Chain) (name : String) (args : Args) : Chain :=
  chain.push name args.rendered

/-- The chain with everything but its root call forgotten. -/
def reset (chain : Chain) : Chain :=
  push ⟨chain.rootName, chain.rootArgs, "", []⟩ chain.rootName chain.rootArgs

end Chain

end QueryTrace
