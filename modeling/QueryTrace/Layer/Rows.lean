import QueryTrace.Span.Deferred

/-!
# Tracing the rows of a stream

The whole iteration of a stream is one span. It opens at the first fetch, is current during every
fetch, and ends when the stream is exhausted, when a fetch fails, when the stream is closed, or when
it is given up, whichever comes first. After that, calls pass through.
-/

namespace QueryTrace

/-- A tracing layer around a stream. -/
structure RowsLayer where
  /-- The span of the iteration. -/
  span : Deferred
  /-- The calls that describe the iteration. -/
  calls : Chain
  /-- The iteration is over. -/
  finished : Bool := false
  /-- The rows that went through the layer. -/
  rows : UInt64 := 0

namespace RowsLayer

variable {σ ν κ : Type}

/-- The layer around the stream of a query with the given path. -/
def ofOrigin (manager : Manager) (origin : String) : RowsLayer :=
  { span := { manager }, calls := .start "cursor" (.one origin) }

/-- Opens the span unless that was done before. -/
def ensureStarted (layer : RowsLayer) : Action σ ν RowsLayer :=
  match layer.span.state with
  | .idle => do
    let calls := layer.calls.record "iter" .none
    let (refused, span) ← layer.span.start calls
    match refused with
    | .error e => log .warn "could not start cursor span" [("error", .text e.message)]
    | .ok _ => pure ()
    return { layer with span, calls }
  | _ => return layer

/-- Records the number of rows and ends the span, once. -/
def finish (layer : RowsLayer) : Action σ ν RowsLayer := do
  if layer.finished then return layer
  layer.span.noteRows layer.rows
  let (span, calls) ← layer.span.stop layer.calls
  return { layer with span, calls, finished := true }

/-- A fetch through the layer. The action fetches from the stream below, and gives what is left of
that stream beside the row. -/
def next (layer : RowsLayer) (fetch : Action σ ν (Except String (Option Value) × κ)) :
    Action σ ν ((Except String (Option Value) × κ) × RowsLayer) := do
  if layer.finished then return (← fetch, layer)
  let layer ← layer.ensureStarted
  let out ← layer.span.inScope fetch
  match out.1 with
  | .ok (some _) => return (out, { layer with rows := layer.rows + 1 })
  | .ok none =>
    log .debug "cursor exhausted" [("rows", .int layer.rows.toNat)]
    return (out, ← layer.finish)
  | .error message =>
    layer.span.noteError message
    return (out, ← layer.finish)

def close (layer : RowsLayer) (inner : Action σ ν (Except String Unit × κ)) :
    Action σ ν ((Except String Unit × κ) × RowsLayer) := do
  if layer.finished then return (← inner, layer)
  let out ← layer.span.inScope inner
  match out.1 with
  | .error message => layer.span.noteError message
  | .ok _ => pure ()
  return (out, ← layer.finish)

/-- The stream is given up. -/
def drop (layer : RowsLayer) : Action σ ν Unit := do
  if !layer.finished && layer.span.state.isActive then
    log .debug "cursor dropped before exhaustion" [("rows", .int layer.rows.toNat)]
  let _ ← layer.finish

/-- A fetch through layers, the outermost one first. -/
def nextThrough (fetch : Action σ ν (Except String (Option Value) × κ)) :
    List RowsLayer → Action σ ν (Except String (Option Value) × κ × List RowsLayer)
  | [] => do
    let (row, rest) ← fetch
    return (row, rest, [])
  | layer :: layers => do
    let ((row, rest, layers), layer) ← layer.next (nextThrough fetch layers)
    return (row, rest, layer :: layers)

def closeThrough (inner : Action σ ν (Except String Unit × κ)) :
    List RowsLayer → Action σ ν (Except String Unit × κ × List RowsLayer)
  | [] => do
    let (result, rest) ← inner
    return (result, rest, [])
  | layer :: layers => do
    let ((result, rest, layers), layer) ← layer.close (closeThrough inner layers)
    return (result, rest, layer :: layers)

end RowsLayer

end QueryTrace
