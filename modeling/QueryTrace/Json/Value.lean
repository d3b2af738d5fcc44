import QueryTrace.Decimal.Double

/-!
# JSON values

Arguments, rows and requests are JSON values. An integer of a machine word (signed or unsigned, 64
bits) stays an integer; every other number is a double. The fields of an object are kept in the
order of their keys, each key once: `Value.ofFields` is the way to build an object.
-/

namespace QueryTrace

open Decimal

/-- An integer that a signed or an unsigned word of 64 bits can hold. -/
structure WordInt where
  val : Int
  fits : -Int.pow 2 63 ≤ val ∧ val < Int.pow 2 64

/-- Every unsigned word fits. -/
def WordInt.ofWord (n : UInt64) : WordInt :=
  ⟨n.toNat, by
    have hword := n.toNat_lt
    have hleast : Int.pow 2 63 = 9223372036854775808 := by decide
    have hbound : Int.pow 2 64 = 18446744073709551616 := by decide
    omega⟩

/-- A JSON number. -/
inductive Number where
  /-- An integer of a machine word. -/
  | integer (n : WordInt)
  /-- Any other number. -/
  | double (d : Double)

/-- A JSON value. -/
inductive Value where
  | null
  | bool (b : Bool)
  | number (n : Number)
  | string (s : String)
  | array (items : List Value)
  | object (fields : List (String × Value))
  deriving Inhabited

/-- A field put among fields in key order: it takes the place of one with the same key. -/
def insertField {α : Type} (key : String) (value : α) : List (String × α) → List (String × α)
  | [] => [(key, value)]
  | (k, v) :: rest =>
    if key < k then (key, value) :: (k, v) :: rest
    else if key = k then (key, value) :: rest
    else (k, v) :: insertField key value rest

/-- Fields in key order, the last one of each key. -/
def sortFields {α : Type} (fields : List (String × α)) : List (String × α) :=
  fields.foldl (fun sorted f => insertField f.1 f.2 sorted) []

namespace Value

/-- An object with the given fields; of fields with one key the last one counts. -/
def ofFields (fields : List (String × Value)) : Value :=
  .object (sortFields fields)

def ofWord (n : UInt64) : Value :=
  .number (.integer (.ofWord n))

def field? (key : String) : Value → Option Value
  | .object fields => (fields.find? (·.1 = key)).map (·.2)
  | _ => none

end Value

end QueryTrace
