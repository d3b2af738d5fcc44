/-!
# Sets of characters as ranges of code points

A Unicode property is given by the code points that have it, as a list of ranges. The tables of the
sibling modules are such lists; membership is the only question asked of them.

Beside each table stands what its standard says about it as a whole: how many code points have the
property. Where the ranges are in order and apart, no code point is counted twice.
-/

namespace QueryTrace.Text

/-- Ranges of code points, both ends included. -/
abbrev Ranges := List (Nat × Nat)

def Ranges.covers (ranges : Ranges) (c : Char) : Bool :=
  ranges.any fun r => r.1 ≤ c.toNat && c.toNat ≤ r.2

theorem Ranges.covers_iff {ranges : Ranges} {c : Char} :
    ranges.covers c = true ↔ ∃ r ∈ ranges, r.1 ≤ c.toNat ∧ c.toNat ≤ r.2 := by
  simp [Ranges.covers]

/-- How many code points the ranges have, if they are apart. -/
def Ranges.size (ranges : Ranges) : Nat :=
  ranges.foldr (fun r total => r.2 + 1 - r.1 + total) 0

/-- The ranges are in order, and none could be joined with the next one. -/
def Ranges.ordered : Ranges → Bool
  | [] => true
  | [r] => r.1 ≤ r.2
  | r :: s :: rest => r.1 ≤ r.2 && r.2 + 1 < s.1 && Ranges.ordered (s :: rest)

end QueryTrace.Text
