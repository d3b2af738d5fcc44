import QueryTrace.Session.Report

/-!
# The desk of a session

The state of a session: the named objects, the servers and the deferred spans. Objects are kept in
the order of their names. Storing an object under a name that is taken drops the object that was
there.

A deferred span is held by its name and by every scope that it is current in. When the last hold
goes, a span that is still open ends.
-/

namespace QueryTrace.Session

/-- A scripted server. Each queue is used up from its front. -/
structure Server where
  responses : List (Reply Step) := []
  /-- The outcomes of opening connections; a text is a failure. -/
  connects : List (Option String) := []
  /-- The outcomes of closing connections. -/
  closes : List (Option String) := []
  /-- How many milliseconds a request takes. -/
  latency : Nat

/-- A deferred span and the number of its holders. -/
structure HeldSpan where
  span : Deferred
  /-- Its name, if it has one, and the scopes in which it is current. -/
  holders : Nat := 1

/-- The state of a session. -/
structure Desk where
  /-- The named objects, in the order of their names. -/
  objects : List (String × Object) := []
  /-- The servers, by their numbers. -/
  servers : List Server := []
  /-- The deferred spans, by their numbers. -/
  deferreds : List HeldSpan := []
  provider : Provider
  /-- How many layers steps can put around an object, if that is bounded. -/
  room : Option Nat := none

/-- A step can put one more layer around an object that is inside these. -/
def Desk.hasRoom (d : Desk) (layers : List Layer) : Bool :=
  d.room.all (layers.length < ·)

/-- What happens in a session. -/
abbrev Doing (α : Type) := Action Desk Note α

/-- What happens in a step, which a fault may end. -/
abbrev Turn (α : Type) := ExceptT Fault (StateM (World Desk Note)) α

variable {α : Type}

/-- Something that no fault ends, as part of a step. -/
def doing (act : Doing α) : Turn α :=
  ExceptT.lift act

def desk : Doing Desk := do
  return (← get).program

def changeDesk (f : Desk → Desk) : Doing Unit :=
  modify fun w => { w with program := f w.program }

/-! ## Servers -/

def changeServer (number : Nat) (f : Server → Server) : Doing Unit :=
  changeDesk fun d => { d with servers := d.servers.modify number f }

/-- The answer of a server whose responses are used up. -/
def defaultReply : Reply Step := ⟨[], .respond (.atom .null)⟩

/-- Takes the next response of a server. -/
def takeReply (number : Nat) : Doing (Reply Step) := do
  let server := (← desk).servers[number]?
  changeServer number fun s => { s with responses := s.responses.tail }
  return ((server.map (·.responses)).getD []).headD defaultReply

def takeConnect (number : Nat) : Doing (Option String) := do
  let server := (← desk).servers[number]?
  changeServer number fun s => { s with connects := s.connects.tail }
  return ((server.map (·.connects)).getD []).headD none

def takeClose (number : Nat) : Doing (Option String) := do
  let server := (← desk).servers[number]?
  changeServer number fun s => { s with closes := s.closes.tail }
  return ((server.map (·.closes)).getD []).headD none

/-! ## Deferred spans -/

/-- A change of a deferred span and its holders. -/
def changeHeld (number : Nat) (f : HeldSpan → HeldSpan) : Doing Unit :=
  changeDesk fun d => { d with deferreds := d.deferreds.modify number f }

/-- One more holder. -/
def hold (number : Nat) : Doing Unit :=
  changeHeld number fun h => { h with holders := h.holders + 1 }

/-- One holder less. The last one to go ends the open span. -/
def release (number : Nat) : Doing Unit := do
  changeHeld number fun h => { h with holders := h.holders - 1 }
  match (← desk).deferreds[number]? with
  | some held => if held.holders = 0 then held.span.abandon
  | none => pure ()

/-! ## Named objects -/

/-- What happens when an object is dropped. -/
def discard : Object → Doing Unit
  | .cursor c => c.layers.forM RowsLayer.drop
  | .deferred number => release number
  | _ => pure ()

def lookup? (name : String) : Doing (Option Object) := do
  return ((← desk).objects.find? (·.1 = name)).map (·.2)

/-- Takes the object of a name away from the desk. -/
def remove (name : String) : Doing Unit :=
  changeDesk fun d => { d with objects := d.objects.filter (·.1 ≠ name) }

/-- Stores an object under a name and drops what was there. -/
def store (name : String) (object : Object) : Doing Unit := do
  let old ← lookup? name
  changeDesk fun d => { d with objects := insertField name object d.objects }
  match old with
  | some o => discard o
  | none => pure ()

/-- Stores an object that a step made. A step that gives no name for it is at fault only now: what
it did up to here has happened, and the object is dropped. -/
def keep (name : Option String) (object : Object) : Turn Unit := do
  match name with
  | some name => store name object
  | none =>
    discard object
    throw (.badInput "as")

/-- Drops all objects in the order of their names. -/
def clear : Doing Unit := do
  let objects := (← desk).objects
  changeDesk fun d => { d with objects := [] }
  objects.forM fun o => discard o.2

/-- The part of the object of a name, if that is an object of the right kind. -/
def find (pick : Object → Option α) (name : String) : Turn α := do
  match (← lookup? name).bind pick with
  | some a => return a
  | none => throw (.noObject name)

def findInstrumentor : String → Turn Instrumentor :=
  find fun | .instrumentor i => some i | _ => none

def findServer : String → Turn Nat :=
  find fun | .server n => some n | _ => none

def findRoot : String → Turn Root :=
  find fun | .root r => some r | _ => none

def findConnection : String → Turn Connection :=
  find fun | .connection c => some c | _ => none

def findQuery : String → Turn Query :=
  find fun | .query q => some q | _ => none

def findCursor : String → Turn Cursor :=
  find fun | .cursor c => some c | _ => none

def findChain : String → Turn Chain :=
  find fun | .chain c => some c | _ => none

/-- The deferred span of a name: its number and the span. -/
def findDeferred (name : String) : Turn (Nat × Deferred) := do
  let number ← find (fun | .deferred n => some n | _ => none) name
  match (← desk).deferreds[number]? with
  | some held => return (number, held.span)
  | none => throw (.noObject name)

/-- The chain of a name, taken away from the desk until it is stored again. -/
def takeChain (name : String) : Turn Chain := do
  let chain ← findChain name
  remove name
  return chain

/-- The cursor of a name, taken away from the desk until it is stored again. -/
def takeCursor (name : String) : Turn Cursor := do
  let cursor ← findCursor name
  remove name
  return cursor

end QueryTrace.Session
