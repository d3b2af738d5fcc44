import QueryTrace.Span.Manager

/-!
# Spans that outlive the call that opened them

A deferred span is opened by one call and closed by another, and between them it can be made current
any number of times. At most one span is open at a time: it has to be stopped before the next start.
-/

namespace QueryTrace

/-- Where a deferred span stands. -/
inductive DeferredState where
  /-- Nothing has been started yet. -/
  | idle
  /-- A span of the given name is open, and current in the given context. -/
  | active (context : Context) (name : String)
  /-- The last span has been stopped. -/
  | closed

/-- A start while a span is open. -/
structure StillActive where
  name : String
  deriving DecidableEq, Repr

def StillActive.message (e : StillActive) : String :=
  "deferred span `" ++ e.name ++ "` is still active; stop it before starting another"

def DeferredState.name : DeferredState → String
  | .idle => "Idle"
  | .active .. => "Active"
  | .closed => "Closed"

def DeferredState.isActive : DeferredState → Bool
  | .active .. => true
  | _ => false

/-- A span that outlives the call that opened it. -/
structure Deferred where
  manager : Manager
  state : DeferredState := .idle

namespace Deferred

variable {σ ν α : Type}

/-- Opens a span named after a chain, as a child of the current span. -/
def start (d : Deferred) (chain : Chain) : Action σ ν (Except StillActive Unit × Deferred) := do
  match d.state with
  | .active _ name => return (.error ⟨name⟩, d)
  | _ =>
    let name := d.manager.config.spanName chain.path
    log .debug "starting deferred span" [("span", .text name)]
    let context ← d.manager.startIn (← current) name .deferred
    return (.ok (), { d with state := .active context name })

/-- An action with the open span current. -/
def inScope (d : Deferred) (act : Action σ ν α) : Action σ ν α :=
  match d.state with
  | .active context _ => within context act
  | _ => act

/-- Marks the open span as failed. -/
def noteError (d : Deferred) (message : String) : Action σ ν Unit :=
  match d.state with
  | .active context name => do
    log .error "RethinkDB query failed" [("span", .text name), ("error", .text message)]
    modify (·.fail context.span message)
  | _ => pure ()

/-- Records how many rows went through the open span. The count is a signed word. -/
def noteRows (d : Deferred) (rows : UInt64) : Action σ ν Unit :=
  match d.state with
  | .active context _ =>
    if d.manager.config.recordRows then
      modify (·.annotate context.span [("db.response.returned_rows", .int rows.toInt64.toInt)])
    else pure ()
  | _ => pure ()

/-- Describes the open span by a chain and ends it. Without an open span nothing happens, also to
the chain. -/
def stop (d : Deferred) (chain : Chain) : Action σ ν (Deferred × Chain) :=
  match d.state with
  | .active context name => do
    log .debug "ending deferred span" [("span", .text name)]
    modify fun w => (w.annotate context.span (Manager.attrs d.manager.config (.chain chain))).finish
      context.span
    return ({ d with state := .closed }, chain.reset)
  | _ => return (d, chain)

/-- A deferred span that nothing holds any more ends its open span as it is. -/
def abandon (d : Deferred) : Action σ ν Unit :=
  match d.state with
  | .active context _ => modify (·.finish context.span)
  | _ => pure ()

end Deferred

end QueryTrace
