import Mathlib.Tactic.Common
import QueryTrace.Json.Text
import QueryTrace.Opcode.Summary

/-!
# Openings of JSON texts

The opening of a request is read number by number, and it ends where a literal begins that is no
number. A number of a JSON text can stand in an opening too, but no number of a JSON text is too
long to be read: an integer fits a word, and a double shows at most sixteen digits before its point
or its exponent (`Number.shown_text`). So every JSON text can be read by its opening
(`readable_chars`).
-/

namespace QueryTrace

open Text

namespace Opcode

/-! ## Reading number by number -/

/-- The opening of a text holds these numbers. -/
def Reads (text : List Char) (codes : List Nat) : Prop :=
  numbers (opening text) = .ok codes

/-- The opening of a text can be read. -/
def Readable (text : List Char) : Prop :=
  ∃ codes, Reads text codes

/-- A number that stands in front of the text ends where the text begins. -/
def Apart (text : List Char) : Prop :=
  ∀ c ∈ text.head?, isDigit c = false

variable {c : Char} {text run : List Char} {codes : List Nat}

theorem isOpening_of_isDigit (h : c.isDigit = true) : isOpening c = true := by
  simp [isOpening, isDigit_of_ascii h]

theorem isDigit_of_not_isOpening (h : isOpening c = false) : isDigit c = false := by
  simp only [isOpening, Bool.or_eq_false_iff] at h
  exact h.1.2

theorem digitRuns_cons (h : isDigit c = false) (cs : List Char) :
    digitRuns (c :: cs) = digitRuns cs := by
  have hsplit : (c :: cs).splitOnP (!isDigit ·) = [] :: cs.splitOnP (!isDigit ·) :=
    List.splitOnP_append_cons_of_forall_mem (List.forall_mem_nil _) c (by simp [h]) cs
  rw [digitRuns, hsplit]
  simp [digitRuns]

theorem digitRuns_append (hrun : run ≠ []) (h : ∀ d ∈ run, isDigit d = true)
    (htext : Apart text) : digitRuns (run ++ text) = run :: digitRuns text := by
  have hdigits (d : Char) (hd : d ∈ run) : (!isDigit d) = false := by simp [h d hd]
  cases text with
  | nil =>
    rw [List.append_nil, digitRuns, List.splitOnP_eq_singleton hdigits]
    simp [digitRuns, hrun]
  | cons c cs =>
    have hc : isDigit c = false := htext c rfl
    rw [digitRuns_cons hc, digitRuns,
      List.splitOnP_append_cons_of_forall_mem hdigits c (by simp [hc])]
    simp [digitRuns, hrun]

theorem apart_cons (h : isDigit c = false) (cs : List Char) : Apart (c :: cs) := by
  intro d hd
  obtain rfl : c = d := by simpa using hd
  exact h

theorem apart_opening (h : Apart text) : Apart (opening text) := by
  cases text with
  | nil => exact h
  | cons c cs =>
    have hc : isDigit c = false := h c rfl
    intro d hd
    unfold opening at hd
    rw [List.takeWhile_cons] at hd
    split at hd
    · obtain rfl : c = d := by simpa using hd
      exact hc
    · cases hd

/-- A bracket, a comma or a blank is passed over. -/
theorem Reads.cons (h : Reads text codes) (hopen : isOpening c = true)
    (hdigit : isDigit c = false) : Reads (c :: text) codes := by
  unfold Reads numbers opening at h ⊢
  rwa [List.takeWhile_cons_of_pos hopen, digitRuns_cons hdigit]

/-- The opening ends at a character that cannot stand in it. -/
theorem reads_of_not_isOpening (h : isOpening c = false) (cs : List Char) :
    Reads (c :: cs) [] := by
  unfold Reads opening
  rw [List.takeWhile_cons_of_neg (by simp [h])]
  rfl

/-- A number is read if it fits a word. -/
theorem Reads.append (h : Reads text codes) (htext : Apart text) (hrun : run ≠ [])
    (hdigits : ∀ d ∈ run, d.isDigit = true) (hfits : decimal run < Nat.pow 2 64) :
    Reads (run ++ text) (decimal run :: codes) := by
  have hopening : opening (run ++ text) = run ++ opening text :=
    List.takeWhile_append_of_pos fun d hd => isOpening_of_isDigit (hdigits d hd)
  have hnumber : ofRun run = .ok (decimal run) :=
    if_pos (by simp only [Bool.and_eq_true, List.all_eq_true, decide_eq_true_eq]
               exact ⟨hdigits, hfits⟩)
  unfold Reads numbers at h ⊢
  rw [hopening, digitRuns_append hrun (fun d hd => isDigit_of_ascii (hdigits d hd))
    (apart_opening htext), List.mapM_cons, hnumber, h]
  rfl

/-! ## Decimal numerals -/

theorem decimal_eq_ofDigitChars (run : List Char) : decimal run = Nat.ofDigitChars 10 run 0 := by
  rw [Nat.ofDigitChars_eq_foldl, decimal]
  refine congrArg (fun f => List.foldl f 0 run) (funext fun a => funext fun c => ?_)
  rw [Nat.mul_comm]
  rfl

theorem decimal_toDigits (n : Nat) : decimal (Nat.toDigits 10 n) = n := by
  rw [decimal_eq_ofDigitChars, Nat.ofDigitChars_ten_toDigits]

theorem foldl_decimal_lt (h : ∀ d ∈ run, d.isDigit = true) (n : Nat) :
    run.foldl (fun n c => n * 10 + (c.toNat - 48)) n < (n + 1) * Nat.pow 10 run.length := by
  induction run generalizing n with
  | nil => simp
  | cons d run ih =>
    have hd : d.toNat ≤ 57 := by
      have hdigit := h d List.mem_cons_self
      simp only [Char.isDigit, Bool.and_eq_true, decide_eq_true_eq] at hdigit
      exact UInt32.le_iff_toNat_le.mp hdigit.2
    have hstep : n * 10 + (d.toNat - 48) + 1 ≤ (n + 1) * 10 := by omega
    calc _ < (n * 10 + (d.toNat - 48) + 1) * Nat.pow 10 run.length :=
          ih (fun e he => h e (List.mem_cons_of_mem d he)) _
      _ ≤ (n + 1) * 10 * Nat.pow 10 run.length := Nat.mul_le_mul_right _ hstep
      _ = (n + 1) * Nat.pow 10 (d :: run).length := by
          have hpow : Nat.pow 10 (d :: run).length = Nat.pow 10 run.length * 10 := rfl
          rw [hpow, Nat.mul_assoc, Nat.mul_comm 10]

/-- Nineteen digits always fit a word. -/
theorem decimal_lt (h : ∀ d ∈ run, d.isDigit = true) (hlength : run.length ≤ 19) :
    decimal run < Nat.pow 2 64 := by
  have hlt : decimal run < (0 + 1) * Nat.pow 10 run.length := foldl_decimal_lt h 0
  have hle : Nat.pow 10 run.length ≤ Nat.pow 10 19 := Nat.pow_le_pow_right (by decide) hlength
  have hword : Nat.pow 10 19 < Nat.pow 2 64 := by decide
  omega

end Opcode

/-! ## JSON texts -/

open Decimal Opcode

/-- The text of a number shows a numeral that fits a word: the number itself if that is a natural
number, and otherwise what stands before the sign, the point or the exponent. -/
inductive Number.Shown (text : List Char) : Prop
  | whole (n : Nat) : n < Nat.pow 2 64 → text = Nat.toDigits 10 n → Shown text
  | cut (run : List Char) (c : Char) (rest : List Char) : text = run ++ c :: rest →
    isOpening c = false → (∀ d ∈ run, d.isDigit = true) → run.length ≤ 19 → Shown text

theorem isDigit_of_mem_toDigits {n : Nat} {d : Char} (h : d ∈ Nat.toDigits 10 n) :
    d.isDigit = true :=
  Nat.isDigit_of_mem_toDigits (by decide) (by decide) h

theorem isOpening_minus : isOpening '-' = false := by decide +kernel

theorem isOpening_point : isOpening '.' = false := by decide +kernel

theorem isOpening_exponent : isOpening 'e' = false := by decide +kernel

theorem isDigit_zero : ∀ d ∈ ['0'], d.isDigit = true :=
  List.forall_mem_singleton.mpr rfl

theorem shown_positional {ds : List Char} (hds : ∀ d ∈ ds, d.isDigit = true) {order : Int}
    (horder : order ≤ 15) : Number.Shown (positional ds order) := by
  unfold positional
  split
  · exact .cut ['0'] '.' _ rfl isOpening_point isDigit_zero (by decide)
  · let whole := order.toNat + 1
    let padded := ds ++ List.replicate (whole - ds.length) '0'
    refine .cut (padded.take whole) '.' _ (by simp [padded, whole]; rfl) isOpening_point
      (fun d hd => ?_) ?_
    · rcases List.mem_append.mp (List.mem_of_mem_take hd) with hd | hd
      · exact hds d hd
      · rw [List.eq_of_mem_replicate hd]
        rfl
    · have hle := List.length_take_le whole padded
      omega

theorem shown_scientific {ds : List Char} (hds : ∀ d ∈ ds, d.isDigit = true) (order : Int) :
    Number.Shown (scientific ds order) := by
  have hfirst (d : Char) (hd : d ∈ ds.take 1) : d.isDigit = true := hds d (List.mem_of_mem_take hd)
  have hlength : (ds.take 1).length ≤ 19 := Nat.le_trans (List.length_take_le 1 ds) (by decide)
  unfold scientific
  split
  · exact .cut (ds.take 1) 'e' _ (by simp; rfl) isOpening_exponent hfirst hlength
  · exact .cut (ds.take 1) '.' _ (by simp; rfl) isOpening_point hfirst hlength

theorem Number.shown_text (n : Number) : Number.Shown n.text := by
  cases n with
  | integer n =>
    simp only [Number.text, intText]
    split
    · exact .cut [] '-' _ rfl isOpening_minus (by simp) (by simp)
    · refine .whole n.val.natAbs ?_ rfl
      have hfits := n.fits.2
      have hword : Int.pow 2 64 = (Nat.pow 2 64 : Nat) := by decide
      omega
  | double d =>
    simp only [Number.text, Double.text]
    split
    · exact .cut [] '-' _ rfl isOpening_minus (by simp) (by simp)
    · split
      · exact .cut ['0'] '.' ['0'] rfl isOpening_point isDigit_zero (by decide)
      · have hds (e : Char) (he : e ∈ Nat.toDigits 10 d.shortest.digits) : e.isDigit = true :=
          isDigit_of_mem_toDigits he
        simp only [List.nil_append, Layout.write]
        split
        · next horder => exact shown_positional hds horder.2
        · exact shown_scientific hds _

theorem readable_append_number (n : Number) {rest : List Char} (h : Readable rest)
    (hrest : Apart rest) : Readable (n.text ++ rest) := by
  obtain ⟨codes, hcodes⟩ := h
  cases n.shown_text with
  | whole k hfits htext =>
    rw [htext]
    exact ⟨_, hcodes.append hrest Nat.toDigits_ne_nil (fun _ => isDigit_of_mem_toDigits)
      (by rwa [decimal_toDigits])⟩
  | cut run c tail htext hc hrun hlength =>
    rw [htext, List.append_assoc, List.cons_append]
    have htail : Reads (c :: (tail ++ rest)) [] := reads_of_not_isOpening hc _
    cases run with
    | nil => exact ⟨_, htail⟩
    | cons d run =>
      have hapart : Apart (c :: (tail ++ rest)) := apart_cons (isDigit_of_not_isOpening hc) _
      exact ⟨_, htail.append hapart (by simp) hrun (decimal_lt hrun hlength)⟩

theorem isDigit_comma : isDigit ',' = false := by decide +kernel

theorem isDigit_bracket : isDigit '[' = false := by decide +kernel

theorem isOpening_closing : isOpening ']' = false := by decide +kernel

theorem Opcode.Readable.cons {c : Char} {text : List Char} (h : Readable text)
    (hopen : isOpening c = true) (hdigit : isDigit c = false) : Readable (c :: text) := by
  obtain ⟨codes, hcodes⟩ := h
  exact ⟨codes, hcodes.cons hopen hdigit⟩

mutual

/-- A JSON text can be read by its opening, whatever readable text follows it. -/
theorem readable_chars (v : Value) {rest : List Char} (h : Readable rest) (hrest : Apart rest) :
    Readable (v.chars ++ rest) := by
  match v with
  | .null => exact ⟨[], reads_of_not_isOpening (by decide +kernel) _⟩
  | .bool true => exact ⟨[], reads_of_not_isOpening (by decide +kernel) _⟩
  | .bool false => exact ⟨[], reads_of_not_isOpening (by decide +kernel) _⟩
  | .number n => exact readable_append_number n h hrest
  | .string s => exact ⟨[], reads_of_not_isOpening (by decide +kernel) _⟩
  | .object fields => exact ⟨[], reads_of_not_isOpening (by decide +kernel) _⟩
  | .array items =>
    have hclosing : Readable (']' :: rest) := ⟨[], reads_of_not_isOpening isOpening_closing _⟩
    have hapart : Apart (']' :: rest) := apart_cons (isDigit_of_not_isOpening isOpening_closing) _
    have hitems := readable_itemChars items hclosing hapart
    have htext : (Value.array items).chars ++ rest =
        '[' :: (Value.itemChars items ++ ']' :: rest) := by
      simp [Value.chars]
    rw [htext]
    exact hitems.cons (by decide +kernel) isDigit_bracket

theorem readable_itemChars (items : List Value) {rest : List Char} (h : Readable rest)
    (hrest : Apart rest) : Readable (Value.itemChars items ++ rest) := by
  match items with
  | [] => exact h
  | [v] =>
    have hv := readable_chars v h hrest
    simpa [Value.itemChars] using hv
  | v :: w :: items =>
    have hitems := (readable_itemChars (w :: items) h hrest).cons (c := ',') (by decide +kernel)
      isDigit_comma
    have hv := readable_chars v hitems (apart_cons isDigit_comma _)
    have htext : Value.itemChars (v :: w :: items) ++ rest =
        v.chars ++ ',' :: (Value.itemChars (w :: items) ++ rest) := by
      simp [Value.itemChars]
    rwa [htext]

end

end QueryTrace
