import QueryTrace.Decimal.Layout
import QueryTrace.Json.Value

/-!
# JSON text

The compact text of a value: no blanks, fields in key order, integers as they are, doubles by their
shortest digits. A string escapes its quotes, its backslashes and the characters below U+0020, and
nothing else.
-/

namespace QueryTrace

open Decimal

def hexDigit (n : Nat) : Char :=
  Nat.digitChar (n % 16)

/-- A character inside a JSON string. -/
def escapeChar (c : Char) : List Char :=
  if c = '"' then ['\\', '"']
  else if c = '\\' then ['\\', '\\']
  else if c = '\x08' then ['\\', 'b']
  else if c = '\t' then ['\\', 't']
  else if c = '\n' then ['\\', 'n']
  else if c = '\x0c' then ['\\', 'f']
  else if c = '\r' then ['\\', 'r']
  else if c.toNat < 0x20 then ['\\', 'u', '0', '0', hexDigit (c.toNat / 16), hexDigit c.toNat]
  else [c]

def stringText (s : String) : List Char :=
  '"' :: s.toList.flatMap escapeChar ++ ['"']

def intText (n : Int) : List Char :=
  if n < 0 then '-' :: Nat.toDigits 10 n.natAbs else Nat.toDigits 10 n.natAbs

def Number.text : Number → List Char
  | .integer n => intText n.val
  | .double d => d.text jsonLayout

namespace Value

mutual

/-- The compact text of a value, as characters. -/
def chars : Value → List Char
  | .null => ['n', 'u', 'l', 'l']
  | .bool true => ['t', 'r', 'u', 'e']
  | .bool false => ['f', 'a', 'l', 's', 'e']
  | .number n => n.text
  | .string s => stringText s
  | .array items => '[' :: itemChars items ++ [']']
  | .object fields => '{' :: fieldChars fields ++ ['}']

def itemChars : List Value → List Char
  | [] => []
  | v :: rest => v.chars ++ (if rest.isEmpty then [] else ',' :: itemChars rest)

def fieldChars : List (String × Value) → List Char
  | [] => []
  | (k, v) :: rest =>
    stringText k ++ ':' :: v.chars ++ (if rest.isEmpty then [] else ',' :: fieldChars rest)

end

def text (v : Value) : String :=
  String.ofList v.chars

end Value

end QueryTrace
