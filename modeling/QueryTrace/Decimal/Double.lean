/-!
# Doubles as exact numbers

A finite IEEE double is a sign and `significand * 2 ^ exponent`, with the significand below `2 ^ 53`
and as large as the exponent range allows. Zero keeps its sign. Products and quotients are exact
numbers that are rounded once, to the nearest double, a half going to the even significand.

A decimal numeral is read in two steps: its digits become a double, and that is multiplied or
divided by a power of ten, which is a double too. Each step rounds, so what `Double.ofDecimal?`
gives can be a neighbour of the double that is nearest to the numeral.
-/

namespace QueryTrace.Decimal

/-- A finite IEEE double. -/
structure Double where
  /-- The sign bit, also of a zero. -/
  negative : Bool
  /-- At most 53 bits. -/
  significand : Nat
  /-- The power of two that the significand counts. -/
  exponent : Int
  /-- The significand fits, and has its leading bit unless the exponent is already the least. -/
  canonical : significand < Nat.pow 2 53 ∧ -1074 ≤ exponent ∧ exponent ≤ 971 ∧
    (Nat.pow 2 52 ≤ significand ∨ exponent = -1074)

/-- Zero of either sign. -/
def Double.zero (negative : Bool) : Double :=
  ⟨negative, 0, -1074, by decide⟩

/-- The natural number nearest to a quotient; a half goes to the even neighbour. -/
def divideToEven (num den : Nat) : Nat :=
  let floor := num / den
  let rest := num % den
  if 2 * rest < den then floor
  else if den < 2 * rest then floor + 1
  else if floor % 2 = 0 then floor else floor + 1

/-- The greatest `e` with `2 ^ e ≤ num / den`, for positive numbers. -/
def binaryOrder (num den : Nat) : Int :=
  let guess : Int := (num.log2 : Int) - den.log2
  if num * Nat.pow 2 (-guess).toNat < den * Nat.pow 2 guess.toNat then guess - 1 else guess

/-- The double nearest to a positive quotient, if it is in range. -/
def Double.ofQuotient? (negative : Bool) (num den : Nat) : Option Double :=
  let exponent := max (-1074) (binaryOrder num den - 52)
  let rounded := divideToEven (num * Nat.pow 2 (-exponent).toNat) (den * Nat.pow 2 exponent.toNat)
  let carried := rounded = Nat.pow 2 53
  let significand := if carried then Nat.pow 2 52 else rounded
  let exponent := if carried then exponent + 1 else exponent
  if h : significand < Nat.pow 2 53 ∧ -1074 ≤ exponent ∧ exponent ≤ 971 ∧
      (Nat.pow 2 52 ≤ significand ∨ exponent = -1074) then
    some ⟨negative, significand, exponent, h⟩
  else none

/-- The double nearest to a quotient with a positive denominator, if it is in range. -/
def Double.nearest? (negative : Bool) (num den : Nat) : Option Double :=
  if num = 0 then some (Double.zero negative) else Double.ofQuotient? negative num den

def Double.times? (d e : Double) : Option Double :=
  let power := d.exponent + e.exponent
  Double.nearest? (d.negative != e.negative)
    (d.significand * e.significand * Nat.pow 2 power.toNat) (Nat.pow 2 (-power).toNat)

def Double.over? (d e : Double) : Option Double :=
  let power := d.exponent - e.exponent
  if e.significand = 0 then none
  else Double.nearest? (d.negative != e.negative) (d.significand * Nat.pow 2 power.toNat)
    (e.significand * Nat.pow 2 (-power).toNat)

/-- The greatest power of ten in the range of the doubles. -/
def greatestPower : Nat := 308

/-- The double nearest to a power of ten, if it is in range. -/
def Double.tenTo? (power : Nat) : Option Double :=
  if power ≤ greatestPower then Double.nearest? false (Nat.pow 10 power) 1 else none

/-- A double divided by the greatest power of ten some number of times, as long as anything is left
of it, and then by one more power of ten. -/
def Double.shrink? (d : Double) : Nat → Nat → Option Double
  | 0, power => do d.over? (← Double.tenTo? power)
  | times + 1, power =>
    if d.significand = 0 then some d
    else do (← d.over? (← Double.tenTo? greatestPower)).shrink? times power

/-- The double that the numeral `digits * 10 ^ scale` is read as, none when it is out of range. -/
def Double.ofDecimal? (negative : Bool) (digits : Nat) (scale : Int) : Option Double := do
  let d ← Double.nearest? negative digits 1
  if scale < 0 then
    let power := scale.natAbs - 1
    d.shrink? (power / greatestPower) (power % greatestPower + 1)
  else if d.significand = 0 then return d
  else d.times? (← Double.tenTo? scale.toNat)

end QueryTrace.Decimal
