import QueryTrace.Driver.Request
import QueryTrace.Span.Deferred

/-!
# Scripts

A session is a script of steps that are carried out in order. Steps name objects: they make them,
use them and drop them. Some steps have a body, a list of steps that is carried out inside a call, a
scope or a span, and the responses that a step hands to a server can hold steps that are carried out
while the server handles a request.
-/

namespace QueryTrace.Session

inductive Kind where
  | instrumentor
  | server
  | root
  | connection
  | query
  | cursor
  | chain
  | deferred
  deriving DecidableEq, Repr

/-- How a server answers a request. -/
inductive Answer where
  | fail (message : String)
  | respond (response : Response)

/-- A prepared response: steps of type `σ` to carry out first, and the answer. -/
structure Reply (σ : Type) where
  /-- Carried out before the answer is given. -/
  before : List σ
  answer : Answer

/-- Where an instrumentor takes its provider from. -/
inductive Backend where
  /-- A provider of its own, with the given configuration. -/
  | own (provider : Provider)
  /-- The provider of the session. -/
  | shared
  /-- The provider of the session, with the standard configuration for the layers. -/
  | sharedStandard
  deriving DecidableEq, Repr

/-- What a namespace is made from. -/
inductive RootBase where
  /-- The plain namespace of a server. -/
  | server (name : String)
  /-- Another namespace. -/
  | over (name : String)

/-- The layer that is put around a connection. -/
inductive Wrapping where
  /-- The layer of an instrumentor. -/
  | instrumentor (name : String)
  /-- A layer of the session's provider with a configuration of its own. -/
  | config (config : Config)
  /-- A wrapping that was not understood, with the field that is wrong. -/
  | malformed (field : String)

/-- What a step describes a span by. -/
inductive SourceSpec where
  /-- The chain of a name. -/
  | chain (name : String)
  /-- A request with its summary; without one, the request is read by its opening. -/
  | request (query : String) (summary : Option Summary)

/-- What becomes of the result of a run. -/
inductive Take where
  /-- Values are shown and streams are stored. -/
  | any
  /-- Only a value is wanted. -/
  | value
  /-- Only a stream is wanted. -/
  | stream
  deriving DecidableEq, Repr

/-- One step. The name under which an object is stored comes first. It is asked for when there is
something to store, so a step without one is carried out up to that point. -/
inductive Step where
  | instrument (name : Option String) (config : Config) (backend : Backend)
      (classifier : Option Classifier)
  | server (name : Option String) (latency : Nat)
  | respond (server : String) (responses : List (Reply Step))
      (connects closes : List (Option String))
  | root (name : Option String) (base : RootBase) (layer : Option String)
  | unwrapRoot (name : Option String) (root : String)
  | connect (name : Option String) (root : String) (args : Args)
  | openPlain (name : Option String) (server : String)
  | unwrap (name : Option String) (connection : String)
  | reconnect (name : Option String) (connection : String) (noreplyWait : Bool)
      (timeout : Option Nat)
  | wrap (name : Option String) (connection : String) (wrapping : Wrapping)
  | configOf (name : String)
  | closeConnection (connection : String) (noreplyWait : Bool)
  | send (connection : String) (request : Request) (noreply : Bool)
  | query (name : Option String) (root method : String) (args : Args)
  | call (name : Option String) (query method : String) (args : Args)
  | unwrapQuery (name : Option String) (query : String)
  | queryInfo (query : String)
  | run (name : Option String) (query connection : String) (options : Args) (take : Take)
  | next (cursor : String) (count : Nat)
  | close (cursor : String)
  | drop (name : String)
  | chain (name : Option String) (rootName : String) (args : Args)
  | chainOf (name : Option String) (query : String)
  | record (chain method : String) (args : Args)
  | reset (chain : String)
  | execute (manager : String) (source : SourceSpec) (role : Role) (body : List Step)
      (result : Except String Value)
  | describe (manager : String) (source : SourceSpec)
  | current
  | endCurrent
  | ambient (name : String) (provider : Provider) (body : List Step)
  | detached (body : List Step)
  | deferred (name : Option String) (manager : String)
  | startDeferred (deferred chain : String)
  | stopDeferred (deferred chain : String)
  | scope (deferred : String) (body : List Step)
  | noteError (deferred message : String)
  | noteRows (deferred : String) (rows : UInt64)
  | debug (name : String) (executor : Bool)
  /-- A step that was not understood: some field of it is wrong. The objects that are named before
  that field are looked up first. -/
  | malformed (verb : String) (needs : List (Kind × String)) (field : String)

instance : Inhabited Step := ⟨.current⟩

namespace Step

def verb : Step → String
  | .instrument .. => "instrument"
  | .server .. => "server"
  | .respond .. => "respond"
  | .root .. => "namespace"
  | .unwrapRoot .. => "unwrap_namespace"
  | .connect .. => "connect"
  | .openPlain .. => "open"
  | .unwrap .. => "unwrap"
  | .reconnect .. => "reconnect"
  | .wrap .. => "wrap"
  | .configOf _ => "config_of"
  | .closeConnection .. => "close_conn"
  | .send .. => "send"
  | .query .. => "root"
  | .call .. => "chain"
  | .unwrapQuery .. => "unwrap_query"
  | .queryInfo _ => "query_info"
  | .run .. => "run"
  | .next .. => "next"
  | .close _ => "close"
  | .drop _ => "drop"
  | .chain .. => "ctx"
  | .chainOf .. => "ctx"
  | .record .. => "ctx_add"
  | .reset _ => "ctx_clear"
  | .execute .. => "exec"
  | .describe .. => "populate"
  | .current => "current"
  | .endCurrent => "end_current"
  | .ambient .. => "ambient"
  | .detached _ => "detached"
  | .deferred .. => "deferred"
  | .startDeferred .. => "d_start"
  | .stopDeferred .. => "d_stop"
  | .scope .. => "d_scope"
  | .noteError .. => "d_error"
  | .noteRows .. => "d_rows"
  | .debug .. => "debug"
  | .malformed verb .. => verb

mutual

/-- The number of steps and prepared responses in a step, itself included. -/
def weight : Step → Nat
  | .respond _ responses _ _ => 1 + replyWeight responses
  | .execute _ _ _ body _ => 1 + bodyWeight body
  | .ambient _ _ body => 1 + bodyWeight body
  | .detached body => 1 + bodyWeight body
  | .scope _ body => 1 + bodyWeight body
  | _ => 1

def bodyWeight : List Step → Nat
  | [] => 0
  | step :: steps => step.weight + bodyWeight steps

def replyWeight : List (Reply Step) → Nat
  | [] => 0
  | ⟨before, _⟩ :: replies => 1 + bodyWeight before + replyWeight replies

end

end Step

end QueryTrace.Session
