import QueryTrace.Decimal.Shortest

/-!
# Writing a double

The digits are laid out positionally when the power of ten of the leading digit is moderate, with at
least one digit after the point, and with an exponent otherwise.
-/

namespace QueryTrace.Decimal

/-- How the digits of a number are laid out. -/
structure Layout where
  /-- The least order that is written positionally. -/
  least : Int
  /-- The greatest order that is written positionally. -/
  greatest : Int

/-- JSON texts write orders from -5 to 15 positionally. -/
def jsonLayout : Layout := ⟨-5, 15⟩

/-- Positional text of digits whose first one has the given order. -/
def positional (ds : List Char) (order : Int) : List Char :=
  if order < 0 then
    ['0', '.'] ++ List.replicate (-order - 1).toNat '0' ++ ds
  else
    let whole := order.toNat + 1
    let padded := ds ++ List.replicate (whole - ds.length) '0'
    padded.take whole ++ ['.'] ++ (if ds.length ≤ whole then ['0'] else ds.drop whole)

/-- Text with an exponent, which always has its sign; a point only between two digits. -/
def scientific (ds : List Char) (order : Int) : List Char :=
  ds.take 1 ++ (if ds.length ≤ 1 then [] else '.' :: ds.drop 1) ++
    ['e', if order < 0 then '-' else '+'] ++ Nat.toDigits 10 order.natAbs

def Layout.write (layout : Layout) (n : Digits) : List Char :=
  let ds := Nat.toDigits 10 n.digits
  if layout.least ≤ n.order ∧ n.order ≤ layout.greatest then positional ds n.order
  else scientific ds n.order

/-- The text of a double. A zero is positional and keeps its sign. -/
def Double.text (d : Double) (layout : Layout) : List Char :=
  (if d.negative then ['-'] else []) ++
    (if d.significand = 0 then ['0', '.', '0'] else layout.write d.shortest)

end QueryTrace.Decimal
