import QueryTrace.Driver.Request

/-!
# Streams of rows

A stream holds the rows of its last batch and asks the server for the next batch when they are used
up.
-/

namespace QueryTrace

/-- What is left of a stream. -/
structure Stream where
  /-- The rows at hand. -/
  rows : List Value
  /-- The server has more. -/
  more : Bool

namespace Stream

variable {σ ν : Type}

/-- The next row, none at the end. A failed request leaves the stream as it is. Batches may be
empty, so several requests can be needed; the fuel is more than their number. -/
def next (send : Send σ ν) : Nat → Stream → Action σ ν (Except String (Option Value) × Stream)
  | 0, stream => return (.ok none, stream)
  | fuel + 1, stream =>
    match stream.rows with
    | row :: rest => return (.ok (some row), { stream with rows := rest })
    | [] =>
      if stream.more then do
        match ← send .advance false with
        | .error message => return (.error message, stream)
        | .ok (.batch rows more) => next send fuel ⟨rows, more⟩
        | .ok (.atom value) => next send fuel ⟨[value], false⟩
      else return (.ok none, stream)

/-- The end of a stream: the rows are forgotten, and the server is told if it has more. -/
def close (send : Send σ ν) (stream : Stream) : Action σ ν (Except String Unit × Stream) := do
  if stream.more then
    match ← send .stop false with
    | .error message => return (.error message, ⟨[], false⟩)
    | .ok _ => return (.ok (), ⟨[], false⟩)
  else return (.ok (), ⟨[], false⟩)

end Stream

end QueryTrace
