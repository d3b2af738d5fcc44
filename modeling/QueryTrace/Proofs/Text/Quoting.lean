import Mathlib.Data.List.Forall2
import QueryTrace.Text.Quoted

/-!
# What a quoted text looks like

A text is quoted character by character. Six characters have a short escape. Of the others, those
with a form stand for themselves, and those without one are shown by the number of their code point.
This is said here without the function that quotes (`Quotes`), so a statement about a message can
spell out the text that it quotes.
-/

namespace QueryTrace

/-- Where a relation is a function, lists are related if one is the image of the other. -/
theorem forall₂_iff_map {α β : Type} {R : α → β → Prop} {f : α → β} (h : ∀ a b, R a b ↔ f a = b)
    {as : List α} {bs : List β} : List.Forall₂ R as bs ↔ as.map f = bs := by
  have hR : R = fun a b => f a = b := funext₂ fun a b => propext (h a b)
  rw [hR, ← List.forall₂_map_left_iff (R := Eq), List.forall₂_eq_eq_eq]

namespace Text

/-- The characters with a short escape. -/
def escapes : List (Char × String) :=
  [('\x00', "\\0"), ('\t', "\\t"), ('\r', "\\r"), ('\n', "\\n"), ('"', "\\\""), ('\\', "\\\\")]

/-- How a character is shown between quotation marks. The number of a code point is written with
lower case hexadecimal digits, and has no zeros in front. -/
inductive Shown (c : Char) : String → Prop
  | escape {text : String} : (c, text) ∈ escapes → Shown c text
  | itself : (∀ escape ∈ escapes, escape.1 ≠ c) → isPrintable c = true →
    Shown c (String.ofList [c])
  | code : (∀ escape ∈ escapes, escape.1 ≠ c) → isPrintable c = false →
    Shown c ("\\u\x7b" ++ String.ofList (Nat.toDigits 16 c.toNat) ++ "\x7d")

/-- Between two quotation marks stands what is shown of the characters, in order. -/
def Quotes (cs : List Char) (text : String) : Prop :=
  ∃ shown, List.Forall₂ Shown cs shown ∧ text = "\"" ++ String.join shown ++ "\""

/-- A character without a short escape. -/
theorem quoteChar_of_not_mem {c : Char} (h : ∀ escape ∈ escapes, escape.1 ≠ c) :
    quoteChar c = if isPrintable c then String.singleton c
      else "\\u\x7b" ++ hex c.toNat ++ "\x7d" := by
  simp only [escapes, List.forall_mem_cons, ne_eq, eq_comm (b := c)] at h
  simp [quoteChar, h]

theorem quoteChar_of_mem : ∀ escape ∈ escapes, quoteChar escape.1 = escape.2 := by
  decide

theorem shown_iff {c : Char} {text : String} : Shown c text ↔ quoteChar c = text := by
  constructor
  · rintro (hescape | ⟨hothers, hform⟩ | ⟨hothers, hform⟩)
    · exact quoteChar_of_mem _ hescape
    · rw [quoteChar_of_not_mem hothers, if_pos hform]
      rfl
    · rw [quoteChar_of_not_mem hothers, if_neg (Bool.eq_false_iff.mp hform)]
      rfl
  · rintro rfl
    by_cases hescape : ∃ escape ∈ escapes, escape.1 = c
    · obtain ⟨escape, hmem, rfl⟩ := hescape
      exact .escape (quoteChar_of_mem escape hmem ▸ hmem)
    · have hothers : ∀ escape ∈ escapes, escape.1 ≠ c :=
        fun escape hmem hc => hescape ⟨escape, hmem, hc⟩
      rw [quoteChar_of_not_mem hothers]
      split
      · next hform => exact .itself hothers hform
      · next hform => exact .code hothers (Bool.eq_false_iff.mpr hform)

/-- There is one way to quote a text. -/
theorem quotes_iff {cs : List Char} {text : String} :
    Quotes cs text ↔ text = quoted (String.ofList cs) := by
  simp only [Quotes, forall₂_iff_map @shown_iff, exists_eq_left', quoted, String.toList_ofList]

end Text

end QueryTrace
