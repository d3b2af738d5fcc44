import QueryTrace.Text.Ranges

/-!
# Blanks and trimming

A blank is a character with the Unicode property White_Space: the ASCII blanks, the no-break space,
the line and paragraph separators and the spaces of typography. Zero-width characters (U+200B,
U+FEFF) and the ASCII separators U+001C to U+001F are no blanks.
-/

namespace QueryTrace.Text

/-- The characters with the property White_Space. -/
def blanks : Ranges :=
  [(0x9, 0xD), (0x20, 0x20), (0x85, 0x85), (0xA0, 0xA0), (0x1680, 0x1680), (0x2000, 0x200A),
   (0x2028, 0x2029), (0x202F, 0x202F), (0x205F, 0x205F), (0x3000, 0x3000)]

/-- Unicode has 25 characters with the property White_Space. -/
example : blanks.ordered = true ∧ blanks.size = 25 := by decide

/-- A blank, in the sense of the property White_Space. -/
def isBlank (c : Char) : Bool :=
  blanks.covers c

def trimEnd (cs : List Char) : List Char :=
  (cs.reverse.dropWhile isBlank).reverse

def trim (cs : List Char) : List Char :=
  trimEnd (cs.dropWhile isBlank)

end QueryTrace.Text
