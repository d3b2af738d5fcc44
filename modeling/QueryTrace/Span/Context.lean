/-!
# Spans as seen from the outside, and contexts

A provider decides what becomes of a span that is asked for. One that records gives it a number and
keeps it. One that does not sample gives it an identity that others can name as their parent, but
keeps nothing. An inert one gives no identity of its own: the span answers to that of its parent.

A context is what is current at some point of a program: a span, which may be no span at all, and
two marks left by tracing layers. Contexts are derived from one another, and what is not replaced is
inherited.
-/

namespace QueryTrace

/-- What becomes of the spans that a provider is asked for. -/
inductive Provider where
  /-- Every span is recorded. -/
  | recording
  /-- No span is recorded, but each has an identity. -/
  | unsampled
  /-- No span is recorded, and each has the identity of its parent. -/
  | inert
  deriving DecidableEq, Repr

/-- What children of a span name as their parent. -/
inductive SpanId where
  /-- The number of a recorded span. Numbers count from zero, in the order of the starts. -/
  | recorded (number : Nat)
  /-- Some span that is not recorded. -/
  | unrecorded
  deriving DecidableEq, Repr

/-- A hold on a span. -/
structure SpanRef where
  /-- The identity that children see. -/
  identity : Option SpanId := none
  /-- The number under which the span itself is recorded, if it is. -/
  record : Option Nat := none
  deriving DecidableEq, Repr, Inhabited

/-- How the span of a query was opened. -/
inductive Mode where
  /-- Around one request. -/
  | request
  /-- Around the run of a call chain. -/
  | chain
  /-- Across the calls that fetch the rows of a stream. -/
  | deferred
  deriving DecidableEq, Repr

def Mode.name : Mode → String
  | .request => "Request"
  | .chain => "Chain"
  | .deferred => "Deferred"

/-- What is current. The default is the empty context. -/
structure Context where
  span : SpanRef := {}
  /-- The mode of the query whose span is current, if a query is active. -/
  active : Option Mode := none
  /-- A traced request is under way. -/
  inRequest : Bool := false
  deriving DecidableEq, Repr, Inhabited

end QueryTrace
