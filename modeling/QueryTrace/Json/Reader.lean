import QueryTrace.Json.Value

/-!
# Reading JSON

One value from a text, with nothing but blanks around it. A reader of a part takes the characters
that are left and gives what it read with the rest, or none. Arrays and objects may stand inside one
another at most 127 deep, a lone surrogate is no character, and a number beyond the doubles is
refused.
-/

namespace QueryTrace.Json

open Decimal

def skipBlanks (cs : List Char) : List Char :=
  cs.dropWhile fun c => c == ' ' || c == '\t' || c == '\n' || c == '\r'

/-- The value of a hexadecimal digit of either case. -/
def hexValue? (c : Char) : Option Nat :=
  if '0' ≤ c ∧ c ≤ '9' then some (c.toNat - 48)
  else if 'a' ≤ c ∧ c ≤ 'f' then some (c.toNat - 87)
  else if 'A' ≤ c ∧ c ≤ 'F' then some (c.toNat - 55)
  else none

def hexUnit : List Char → Option (Nat × List Char)
  | a :: b :: c :: d :: rest => do
    let a ← hexValue? a
    let b ← hexValue? b
    let c ← hexValue? c
    let d ← hexValue? d
    return (((a * 16 + b) * 16 + c) * 16 + d, rest)
  | _ => none

/-- The character that four digits after a `\u` stand for; the first half of a pair needs the
second. -/
def escapedUnit (cs : List Char) : Option (Char × List Char) := do
  let (first, rest) ← hexUnit cs
  if 0xD800 ≤ first ∧ first ≤ 0xDBFF then
    match rest with
    | '\\' :: 'u' :: rest =>
      let (second, rest) ← hexUnit rest
      if 0xDC00 ≤ second ∧ second ≤ 0xDFFF then
        return (Char.ofNat (0x10000 + (first - 0xD800) * 0x400 + (second - 0xDC00)), rest)
      else none
    | _ => none
  else if 0xDC00 ≤ first ∧ first ≤ 0xDFFF then none
  else return (Char.ofNat first, rest)

/-- The character that stands after a backslash. -/
def escaped : List Char → Option (Char × List Char)
  | '"' :: rest => some ('"', rest)
  | '\\' :: rest => some ('\\', rest)
  | '/' :: rest => some ('/', rest)
  | 'b' :: rest => some ('\x08', rest)
  | 'f' :: rest => some ('\x0c', rest)
  | 'n' :: rest => some ('\n', rest)
  | 'r' :: rest => some ('\r', rest)
  | 't' :: rest => some ('\t', rest)
  | 'u' :: rest => escapedUnit rest
  | _ => none

/-- A string after its opening quote. Every turn takes a character, so the fuel is their number. -/
def string : Nat → List Char → List Char → Option (String × List Char)
  | 0, _, _ => none
  | _ + 1, _, [] => none
  | _ + 1, acc, '"' :: rest => some (String.ofList acc.reverse, rest)
  | fuel + 1, acc, '\\' :: rest => do
    let (c, rest) ← escaped rest
    string fuel (c :: acc) rest
  | fuel + 1, acc, c :: rest => if c.toNat < 0x20 then none else string fuel (c :: acc) rest

/-- The number that decimal digits stand for. -/
def decimalValue (cs : List Char) : Nat :=
  cs.foldl (fun n c => n * 10 + (c.toNat - 48)) 0

/-- The longest run of ASCII digits, which must not be empty. -/
def digitRun (cs : List Char) : Option (List Char × List Char) :=
  let run := cs.takeWhile Char.isDigit
  if run.isEmpty then none else some (run, cs.dropWhile Char.isDigit)

/-- The digits after a point, none when there is no point. -/
def fraction : List Char → Option (List Char × List Char)
  | '.' :: rest => digitRun rest
  | cs => some ([], cs)

def exponent : List Char → Option (Option Int × List Char)
  | c :: rest =>
    if c = 'e' ∨ c = 'E' then
      let (negative, rest) := match rest with
        | '-' :: rest => (true, rest)
        | '+' :: rest => (false, rest)
        | rest => (false, rest)
      (digitRun rest).map fun (run, rest) =>
        let n : Int := decimalValue run
        (some (if negative then -n else n), rest)
    else some (none, c :: rest)
  | [] => some (none, [])

/-- Decimal digits appended to a number as long as it fits a word of 64 bits: the number, and how
many digits were left over. -/
def appendDigits (n : Nat) : List Char → Nat × Nat
  | [] => (n, 0)
  | c :: cs =>
    let next := n * 10 + (c.toNat - 48)
    if next < Nat.pow 2 64 then appendDigits next cs else (n, cs.length + 1)

/-- The double of a numeral. Of its digits a word holds as many as it can. Every digit of the whole
part that is left over counts as a power of ten; those of the fraction are ignored. -/
def makeDouble? (negative : Bool) (whole frac : List Char) (exp : Int) : Option Double :=
  let (n, left) := appendDigits 0 whole
  let (n, ignored) := appendDigits n frac
  Double.ofDecimal? negative n (exp + left - (frac.length - ignored : Nat))

/-- The number of a numeral: an integer without fraction, exponent and negative zero stays one if it
fits a word. -/
def makeNumber? (negative : Bool) (whole frac : List Char) (exp : Option Int) : Option Number :=
  let n := decimalValue whole
  let signed : Int := if negative then -n else n
  if h : -Int.pow 2 63 ≤ signed ∧ signed < Int.pow 2 64 ∧ frac = [] ∧ exp = none ∧
      ¬(negative = true ∧ n = 0) then
    some (.integer ⟨signed, h.1, h.2.1⟩)
  else (makeDouble? negative whole frac (exp.getD 0)).map .double

/-- A number after its sign: no zero in front of other digits. -/
def unsigned (negative : Bool) (cs : List Char) : Option (Value × List Char) := do
  let (whole, rest) ← digitRun cs
  if whole.head? = some '0' ∧ 1 < whole.length then none
  let (frac, rest) ← fraction rest
  let (exp, rest) ← exponent rest
  let n ← makeNumber? negative whole frac exp
  return (.number n, rest)

/-- A string, a number or a word. -/
def scalar : List Char → Option (Value × List Char)
  | 'n' :: 'u' :: 'l' :: 'l' :: rest => some (.null, rest)
  | 't' :: 'r' :: 'u' :: 'e' :: rest => some (.bool true, rest)
  | 'f' :: 'a' :: 'l' :: 's' :: 'e' :: rest => some (.bool false, rest)
  | '"' :: rest => (string (rest.length + 1) [] rest).map fun (s, rest) => (.string s, rest)
  | '-' :: rest => unsigned true rest
  | cs => unsigned false cs

mutual

/-- A value. Every call below takes a character before the next call of its kind, so twice the
number of characters is fuel enough; `depth` is how many arrays and objects may still be opened. -/
def value : Nat → Nat → List Char → Option (Value × List Char)
  | 0, _, _ => none
  | fuel + 1, depth, cs =>
    match skipBlanks cs, depth with
    | '[' :: _, 0 => none
    | '{' :: _, 0 => none
    | '[' :: rest, depth + 1 =>
      match skipBlanks rest with
      | ']' :: rest => some (.array [], rest)
      | rest => items fuel depth [] rest
    | '{' :: rest, depth + 1 =>
      match skipBlanks rest with
      | '}' :: rest => some (.object [], rest)
      | rest => fields fuel depth [] rest
    | rest, _ => scalar rest

/-- The items of an array, at least one, up to its closing bracket. -/
def items : Nat → Nat → List Value → List Char → Option (Value × List Char)
  | 0, _, _, _ => none
  | fuel + 1, depth, acc, cs =>
    match value fuel depth cs with
    | none => none
    | some (v, rest) =>
      match skipBlanks rest with
      | ',' :: rest => items fuel depth (v :: acc) rest
      | ']' :: rest => some (.array (v :: acc).reverse, rest)
      | _ => none

/-- The fields of an object, at least one, up to its closing brace. -/
def fields : Nat → Nat → List (String × Value) → List Char → Option (Value × List Char)
  | 0, _, _, _ => none
  | fuel + 1, depth, acc, cs =>
    match skipBlanks cs with
    | '"' :: rest =>
      match string (rest.length + 1) [] rest with
      | none => none
      | some (key, rest) =>
        match skipBlanks rest with
        | ':' :: rest =>
          match value fuel depth rest with
          | none => none
          | some (v, rest) =>
            match skipBlanks rest with
            | ',' :: rest => fields fuel depth ((key, v) :: acc) rest
            | '}' :: rest => some (Value.ofFields ((key, v) :: acc).reverse, rest)
            | _ => none
        | _ => none
    | _ => none

end

/-- The deepest nesting that is read. -/
def deepest : Nat := 127

end Json

/-- The value that a whole text stands for. -/
def Value.read? (s : String) : Option Value :=
  match Json.value (2 * s.length + 2) Json.deepest s.toList with
  | some (v, rest) => if (Json.skipBlanks rest).isEmpty then some v else none
  | none => none

end QueryTrace
