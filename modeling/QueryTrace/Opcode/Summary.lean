import QueryTrace.Opcode.QueryType
import QueryTrace.Opcode.Term
import QueryTrace.Text.Blank
import QueryTrace.Text.Digit
import QueryTrace.Text.Quoted

/-!
# Reading a request by its opening

A request starts with a bracketed run of small numbers: the query type, then the terms that stand
outermost. This opening is enough to tell a new query from a continuation and to give the request a
readable path such as `r/filter/table/db`; the rest of the request is never looked at.

The opening is the longest run of brackets, commas, digits and blanks at the start of the trimmed
request, and its numbers are the maximal runs of digits in it. All of them are read before the first
is interpreted, so a run that is no number is reported before an unknown query type.
-/

namespace QueryTrace

open Text

/-- What is known about a request: its type and a path that names its terms. -/
structure Summary where
  type : QueryType
  /-- The path, or the reason why there is none. -/
  path : String
  deriving DecidableEq, Repr

/-- Why a request could not be read. -/
inductive Unreadable where
  /-- Nothing but blanks. -/
  | empty
  /-- No number at the start of the text. -/
  | noOpcodes (text : String)
  /-- A run of digits that is no number of 64 bits. -/
  | badOpcode (run : String)
  /-- A first number that is no query type. -/
  | unknownType (code : Nat)
  deriving DecidableEq, Repr

def Unreadable.message : Unreadable → String
  | .empty => "empty payload"
  | .noOpcodes text => "payload does not start with an opcode sequence: " ++ quoted text
  | .badOpcode run => "opcode `" ++ run ++ "` is not a valid number"
  | .unknownType code => "unknown query type " ++ toString code

namespace Opcode

def isOpening (c : Char) : Bool :=
  c = '[' || c = ',' || isDigit c || isBlank c

/-- The opening of a trimmed request. -/
def opening (text : List Char) : List Char :=
  text.takeWhile isOpening

/-- The maximal runs of digits, in order. -/
def digitRuns (cs : List Char) : List (List Char) :=
  (cs.splitOnP (!isDigit ·)).filter (!·.isEmpty)

/-- The number that ASCII digits stand for. -/
def decimal (run : List Char) : Nat :=
  run.foldl (fun n c => n * 10 + (c.toNat - 48)) 0

/-- A run of digits as a number: ASCII digits only, and at most 64 bits. -/
def ofRun (run : List Char) : Except Unreadable Nat :=
  if run.all Char.isDigit && decimal run < Nat.pow 2 64 then .ok (decimal run)
  else .error (.badOpcode (String.ofList run))

/-- The numbers of an opening, or the first run that is none. -/
def numbers (opening : List Char) : Except Unreadable (List Nat) :=
  (digitRuns opening).mapM ofRun

/-- What stands for a term in a path: its name, or its number when it has none. -/
def segment (code : Nat) : String :=
  (Term.name? code).getD (toString code)

end Opcode

namespace Summary

open Opcode

/-- As much of a text as a message quotes. -/
def excerpt (text : List Char) : String :=
  String.ofList (text.take 16)

/-- The path of a request under a root: its terms, or its type when it has no terms. -/
def pathOf (root : String) (type : QueryType) (terms : List Nat) : String :=
  match terms with
  | [] => root ++ "/" ++ type.name
  | _ => terms.foldl (fun path code => path ++ "/" ++ segment code) root

def opcodes (text : List Char) : Except Unreadable (List Nat) :=
  if text.isEmpty then .error .empty
  else if (opening text).isEmpty then .error (.noOpcodes (excerpt text))
  else numbers (opening text)

/-- The summary of a request, or the first reason why it has none. -/
def read (request root : String) : Except Unreadable Summary := do
  let text := trim request.toList
  match ← opcodes text with
  | [] => .error (.noOpcodes (excerpt text))
  | code :: terms =>
    match QueryType.ofCode? code with
    | none => .error (.unknownType code)
    | some type => return ⟨type, pathOf root type terms⟩

/-- The summary of any request. One that cannot be read is of unknown type, with the reason as its
path. -/
def ofRequest (request root : String) : Summary :=
  match read request root with
  | .ok summary => summary
  | .error reason => ⟨.undefined, "could not classify query: " ++ reason.message⟩

/-- The role of the request, none when it is of unknown type. -/
def role? (summary : Summary) : Option Role :=
  summary.type.role?

end Summary

/-- A way to summarise requests. -/
structure Classifier where
  /-- The summary of a request. -/
  summarise : String → Summary

namespace Classifier

/-- Reads the opening of a request; paths start at the root. -/
def opcodes (root : String) : Classifier :=
  ⟨fun request => Summary.ofRequest request root⟩

/-- Looks the request up, and falls back on one summary for all others. -/
def lookup (table : List (String × Summary)) (fallback : Summary) : Classifier :=
  ⟨fun request => ((table.find? (·.1 = request)).map (·.2)).getD fallback⟩

end Classifier

end QueryTrace
