import QueryTrace.Span.Context

/-!
# The journal

Everything that can be observed while a program runs, in the order in which it happens: spans that
start and end, log events of the tracing layers, and the notes of the program itself.
-/

namespace QueryTrace

/-- The value of an attribute or of the field of a log event. -/
inductive AttrValue where
  | text (s : String)
  | flag (b : Bool)
  | int (n : Int)
  /-- A measured duration in milliseconds. -/
  | duration (ms : Nat)
  deriving DecidableEq, Repr

abbrev Attr := String × AttrValue

/-- Who asked for a span. -/
inductive Scope where
  /-- A tracing layer. -/
  | tracing
  /-- The program that uses the layers. -/
  | application
  deriving DecidableEq, Repr

def Scope.name : Scope → String
  | .tracing => "rethinkdb-tracing@0.1.0"
  | .application => "app@"

def Scope.kind : Scope → String
  | .tracing => "client"
  | .application => "internal"

inductive Level where
  | debug
  | warn
  | error
  deriving DecidableEq, Repr

def Level.name : Level → String
  | .debug => "debug"
  | .warn => "warn"
  | .error => "error"

/-- One thing that happened; the notes of the program are of type `ν`. -/
inductive Entry (ν : Type) where
  /-- A recorded span started. -/
  | started (number : Nat) (name : String) (parent : Option SpanId) (scope : Scope)
  /-- A recorded span ended, with all its attributes in the order in which they were set. -/
  | ended (number : Nat) (name : String) (attrs : List Attr) (failure : Option String)
  /-- A tracing layer reported something. -/
  | logged (level : Level) (message : String) (fields : List Attr)
  /-- The program noted something. -/
  | noted (note : ν)

end QueryTrace
