import QueryTrace.Driver.Request
import QueryTrace.Span.Manager

/-!
# Tracing the requests of a connection

A layer around a connection traces every request that is sent through it. Requests are read from
their serialized form; one that cannot be read is sent without a span. While a request is on its way
the context says so, and further layers around the same connection let it pass.
-/

namespace QueryTrace

/-- A tracing layer around a connection. -/
structure Layer where
  /-- Opens and closes the spans. -/
  manager : Manager
  /-- Reads the requests. -/
  classifier : Classifier

namespace Layer

variable {σ ν α : Type}

/-- The rendering of a request, with a log event when the request cannot be serialized. -/
def render (request : Request) : Action σ ν String := do
  match request.serialize with
  | .error reason => log .debug "could not serialize query" [("error", .text reason)]
  | .ok _ => pure ()
  return request.rendered

/-- A request through a layer that is the first one to see it. -/
def sendTraced (layer : Layer) (inner : Send σ ν) : Send σ ν := fun request noreply => do
  let rendered ← render request
  let summary := layer.classifier.summarise rendered
  match summary.role? with
  | none =>
    log .debug "running unclassified request untraced" [("path", .text summary.path)]
    inner request noreply
  | some role =>
    let (result, _) ← layer.manager.trace (.request rendered summary) role (inner request noreply)
    return result

/-- A request through a layer. -/
def send (layer : Layer) (inner : Send σ ν) : Send σ ν := fun request noreply => do
  let context ← current
  if context.inRequest then inner request noreply
  else within { context with inRequest := true } (layer.sendTraced inner request noreply)

/-- A request through layers, the outermost one first. -/
def sendThrough (layers : List Layer) (base : Send σ ν) : Send σ ν :=
  layers.foldr send base

/-- A connection is opened again through a layer: the new one gets the same layer. -/
def reconnect (inner : Action σ ν (Except String α)) : Action σ ν (Except String α) := do
  let result ← inner
  match result with
  | .ok _ => log .debug "reconnected, wrapping the new connection"
  | .error _ => pure ()
  return result

def reconnectThrough (layers : List Layer) (base : Action σ ν (Except String α)) :
    Action σ ν (Except String α) :=
  layers.foldr (fun _ inner => reconnect inner) base

end Layer

end QueryTrace
