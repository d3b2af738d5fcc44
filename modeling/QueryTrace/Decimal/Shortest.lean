import QueryTrace.Decimal.Double

/-!
# The shortest digits of a double

The decimals that read back as a double form an interval: half-way to each neighbour, with the ends
included exactly when the significand is even. Among these decimals the shortest ones are those with
the fewest digits, and of them the one nearest to the double is taken. The search walks over the
decimal grids from one digit to seventeen and looks, on each grid, at the two neighbours of the
double.

All comparisons are between natural numbers: a double and a point of a grid are brought to a common
denominator first.
-/

namespace QueryTrace.Decimal

/-- The positive number `digit.digits… * 10 ^ order`, given by all its digits in one number: it is
`digits * 10 ^ (order + 1 - length)` for digits of that length, without trailing zeros. -/
structure Digits where
  /-- The digits, as one number. -/
  digits : Nat
  /-- The power of ten of the leading digit. -/
  order : Int

/-- An interval around a number, all in units of one quarter of the number's last place, over a
common denominator with a decimal grid. -/
structure Window where
  low : Nat
  /-- The number itself. -/
  value : Nat
  high : Nat
  /-- The distance of two points of the grid. -/
  step : Nat
  /-- The ends belong to the interval. -/
  closed : Bool

/-- The interval of a positive double, over the grid of the multiples of `10 ^ scale`. Below a power
of two the lower neighbour is only half as far away. -/
def Double.window (d : Double) (scale : Int) : Window :=
  let factor := Nat.pow 10 (-scale).toNat * Nat.pow 2 (d.exponent - 2).toNat
  let below := if d.significand = Nat.pow 2 52 ∧ d.exponent ≠ -1074 then 1 else 2
  { low := (4 * d.significand - below) * factor
    value := 4 * d.significand * factor
    high := (4 * d.significand + 2) * factor
    step := Nat.pow 10 scale.toNat * Nat.pow 2 (2 - d.exponent).toNat
    closed := d.significand % 2 = 0 }

/-- A multiple of the step lies in the interval. -/
def Window.holds (w : Window) (n : Nat) : Bool :=
  if w.closed then w.low ≤ n * w.step && n * w.step ≤ w.high
  else w.low < n * w.step && n * w.step < w.high

/-- The point of the grid that lies in the interval and is nearest to the number, the even one of
two that are equally near. -/
def Window.nearest? (w : Window) : Option Nat :=
  let below := w.value / w.step
  let above := below + 1
  if w.holds below && w.holds above then
    let toBelow := w.value - below * w.step
    let toAbove := above * w.step - w.value
    if toBelow < toAbove then some below
    else if toAbove < toBelow then some above
    else if below % 2 = 0 then some below else some above
  else if w.holds below then some below
  else if w.holds above then some above
  else none

/-- The greatest `e` with `10 ^ e ≤ d`, for a positive double: a guess from the binary order, which
is at most one too small. -/
def Double.order (d : Double) : Int :=
  let guess := Int.fdiv ((d.significand.log2 + d.exponent) * 1233) 4096
  let next := guess + 1
  if Nat.pow 10 next.toNat * Nat.pow 2 (-d.exponent).toNat
      ≤ d.significand * Nat.pow 2 d.exponent.toNat * Nat.pow 10 (-next).toNat then next else guess

/-- A number without its trailing zeros; the fuel is a bound on their count. -/
def dropZeros : Nat → Nat → Nat
  | 0, n => n
  | fuel + 1, n => if n ≠ 0 ∧ n % 10 = 0 then dropZeros fuel (n / 10) else n

/-- The digits of a grid point, which may have one digit more than the grid was made for. -/
def Digits.ofPoint (n : Nat) (scale : Int) : Digits :=
  ⟨dropZeros 17 n, scale + (Nat.toDigits 10 n).length - 1⟩

/-- The search over the grids with `count`, `count + 1`, … digits. -/
def Double.search (d : Double) : Nat → Nat → Digits
  | 0, _ => ⟨0, 0⟩
  | fuel + 1, count =>
    let scale := d.order + 1 - count
    match (d.window scale).nearest? with
    | some n => Digits.ofPoint n scale
    | none => d.search fuel (count + 1)

/-- The shortest digits that read back as a positive double. Seventeen digits always do. -/
def Double.shortest (d : Double) : Digits :=
  d.search 17 1

end QueryTrace.Decimal
