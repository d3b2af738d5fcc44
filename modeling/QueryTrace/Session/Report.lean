import QueryTrace.Session.Object

/-!
# Reports

What a step tells when it is done, or the fault that kept it from being carried out; and the notes
that a session leaves in the journal beside the spans.
-/

namespace QueryTrace.Session

/-- Why a step was not carried out. -/
inductive Fault where
  /-- Nothing has that name, or something of another kind. -/
  | noObject (name : String)
  /-- The driver has no such method. -/
  | noMethod (method : String)
  /-- A field of the step is wrong. -/
  | badInput (field : String)
  deriving DecidableEq, Repr

/-- What a run gave. -/
inductive RunReport where
  | value (v : Value)
  | cursor
  | takenValue (v : Option Value)
  /-- A stream was wanted, and a value came. -/
  | noStream

/-- What one fetch gave. -/
inductive Fetched where
  | row (v : Value)
  | last
  | failed (message : String)

/-- The state of one layer of a cursor: where its span stands, and the rows that went through. -/
abbrev LayerReport := DeferredState × UInt64

/-- What is to be seen of a query: its wire form and the chains of its layers. -/
structure QueryReport where
  wire : Value
  /-- The recorded chains, the outermost one first. -/
  chains : List Chain

/-- What a step tells. -/
inductive Report where
  | nothing
  | queued (responses connects closes : Nat)
  | connected (result : Except String (Nat × Nat))
  | configs (list : List Config)
  | closed (result : Except String Unit)
  | answered (result : Except String Response)
  | node (query : QueryReport)
  | nodeInfo (query : QueryReport)
  | ran (result : Except String RunReport)
  | fetched (rows : List Fetched) (layers : List LayerReport)
  | streamClosed (result : Except String Unit) (layers : List LayerReport)
  | dropped (found : Bool)
  | chain (c : Chain)
  | executed (result : Except String Value) (chain : Option Chain)
  | described (chain : Option Chain)
  | span (identity : Option SpanId) (recording : Bool)
  | deferred (state : DeferredState)
  | deferredStarted (result : Except StillActive Unit) (state : DeferredState)
  | deferredStopped (state : DeferredState) (chain : Chain)
  | text (s : String)

/-- What a session leaves in the journal beside the spans. -/
inductive Note where
  /-- The callee of an execution is entered. -/
  | call
  /-- The server gets a request, through a connection that was opened again so many times. -/
  | request (request : Request) (noreply : Bool) (generation : Nat)
  | connect (options : Value)
  | reconnect (generation : Nat) (noreplyWait : Bool) (timeout : Option Nat)
  | close (generation : Nat) (noreplyWait : Bool)
  | step (verb : String) (depth : Nat) (result : Except Fault Report)

end QueryTrace.Session
