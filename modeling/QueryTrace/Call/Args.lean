import QueryTrace.Json.Text

/-!
# Arguments of a call

A call of the query language takes positional values and then named options. Options keep their
order, and one that is given twice is there twice.
-/

namespace QueryTrace

/-- The arguments of a call. -/
structure Args where
  /-- The positional values, in order. -/
  positional : List Value
  /-- The named options, in order. -/
  named : List (String × Value)
  deriving Inhabited

namespace Args

def none : Args := ⟨[], []⟩

/-- One positional string. -/
def one (s : String) : Args := ⟨[.string s], []⟩

def isEmpty (args : Args) : Bool :=
  args.positional.isEmpty && args.named.isEmpty

/-- The options as an object; the last one of a name counts. -/
def options (args : Args) : Value :=
  .ofFields args.named

/-- A value as it is shown among arguments: a string without quotes, anything else as JSON text. -/
def shown : Value → String
  | .string s => s
  | v => v.text

/-- The arguments as one text: the values with commas between them, then each option as
`(name=value)`. -/
def rendered (args : Args) : String :=
  args.named.foldl (fun text o => text ++ "(" ++ o.1 ++ "=" ++ shown o.2 ++ ")")
    (String.intercalate "," (args.positional.map shown))

end Args

end QueryTrace
