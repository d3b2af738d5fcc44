import QueryTrace.Json.Text
import QueryTrace.Span.World
import QueryTrace.Text.Blank
import QueryTrace.Text.Octets

/-!
# Requests and responses

A request is sent as octets: a header, then JSON text. Rendering a request gives its text back
without the header, whatever octets the header has: everything before the first bracket is cut, and
so are the blanks around the rest. A request that cannot be serialized has a rendering too, which
says why.
-/

namespace QueryTrace

open Text

/-- A request of the driver. -/
inductive Request where
  /-- A JSON value, sent after a header. -/
  | json (value : Value)
  /-- A text, sent as it is. -/
  | text (s : String)
  /-- Any octets, sent as they are, and the text that the server shows for them. -/
  | octets (bs : List UInt8) (shown : String)
  /-- A request that cannot be serialized, with the reason. -/
  | broken (reason : String)

/-- What the server answers. -/
inductive Response where
  | atom (value : Value)
  /-- Some rows of a stream, and whether there are more. -/
  | batch (rows : List Value) (more : Bool)

namespace Request

/-- The header of a JSON request: its token, as eight octets. -/
def header : List UInt8 :=
  [1, 0, 0, 0, 0, 0, 0, 0]

def serialize : Request → Except String (List UInt8)
  | .json value => .ok (header ++ Text.octets value.chars)
  | .text s => .ok (Text.octets s.toList)
  | .octets bs _ => .ok bs
  | .broken reason => .error reason

/-- The part of a text from its first bracket on, without blanks around it. -/
def afterHeader (cs : List Char) : List Char :=
  trim (cs.dropWhile (· ≠ '['))

/-- The text of a request without its header. -/
def rendered (request : Request) : String :=
  match request.serialize with
  | .ok bs => String.ofList (afterHeader (ofOctets bs))
  | .error reason => "Could not get query: " ++ reason

/-- The request to send the next batch of a stream. -/
def advance : Request := .json (.array [.ofWord 2])

def stop : Request := .json (.array [.ofWord 3])

/-- The request to evaluate a query. -/
def start (wire options : Value) : Request :=
  .json (.array [.ofWord 1, wire, options])

/-- How the server shows a request that it received. -/
def label : Request → String
  | .json value => value.text
  | .text s => s
  | .octets _ shown => shown
  | .broken _ => "<broken>"

end Request

/-- A way to send requests; the flag tells the server that nobody waits for its answer. -/
abbrev Send (σ ν : Type) := Request → Bool → Action σ ν (Except String Response)

end QueryTrace
