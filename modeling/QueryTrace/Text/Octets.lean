/-!
# Texts as octets

UTF-8 in both directions. Writing is the plain encoding. Reading takes any sequence of octets: each
maximal piece that starts a character but does not finish one, and each octet that can start none,
becomes one replacement character U+FFFD, and reading goes on at the next octet.

The reader is a machine that takes one octet at a time. Between characters it is at rest; inside a
character it knows the bits so far, the bounds of the next octet and how many octets come after it.
-/

namespace QueryTrace.Text

def octets (cs : List Char) : List UInt8 :=
  cs.flatMap String.utf8EncodeChar

/-- U+FFFD, which stands for a piece that is no character. -/
def replacement : Char := Char.ofNat 0xFFFD

/-- A character of which some octets have been read. -/
structure OpenChar where
  /-- The bits collected so far. -/
  bits : Nat
  /-- The least octet that continues the character. -/
  low : Nat
  /-- The greatest octet that continues the character. -/
  high : Nat
  /-- How many octets follow the next one. -/
  after : Nat

/-- An octet at rest: an ASCII character, the start of a longer one, or no character at all. -/
def firstOctet (b : Nat) : List Char × Option OpenChar :=
  if b ≤ 0x7F then ([Char.ofNat b], none)
  else if 0xC2 ≤ b ∧ b ≤ 0xDF then ([], some ⟨b % 32, 0x80, 0xBF, 0⟩)
  else if b = 0xE0 then ([], some ⟨b % 16, 0xA0, 0xBF, 1⟩)
  else if b = 0xED then ([], some ⟨b % 16, 0x80, 0x9F, 1⟩)
  else if 0xE1 ≤ b ∧ b ≤ 0xEF then ([], some ⟨b % 16, 0x80, 0xBF, 1⟩)
  else if b = 0xF0 then ([], some ⟨b % 8, 0x90, 0xBF, 2⟩)
  else if 0xF1 ≤ b ∧ b ≤ 0xF3 then ([], some ⟨b % 8, 0x80, 0xBF, 2⟩)
  else if b = 0xF4 then ([], some ⟨b % 8, 0x80, 0x8F, 2⟩)
  else ([replacement], none)

/-- An octet inside a character continues it, finishes it, or breaks it off; an octet that breaks a
character off is read again at rest. -/
def nextOctet : Option OpenChar → Nat → List Char × Option OpenChar
  | none, b => firstOctet b
  | some c, b =>
    if c.low ≤ b ∧ b ≤ c.high then
      match c.after with
      | 0 => ([Char.ofNat (c.bits * 64 + b % 64)], none)
      | n + 1 => ([], some ⟨c.bits * 64 + b % 64, 0x80, 0xBF, n⟩)
    else (replacement :: (firstOctet b).1, (firstOctet b).2)

/-- Reading from a state of the machine. A character that the end breaks off is replaced too. -/
def readFrom : Option OpenChar → List UInt8 → List Char
  | none, [] => []
  | some _, [] => [replacement]
  | state, b :: bs => (nextOctet state b.toNat).1 ++ readFrom (nextOctet state b.toNat).2 bs

/-- The text of any octets, with a replacement character for each piece that is no character. -/
def ofOctets (bs : List UInt8) : List Char :=
  readFrom none bs

end QueryTrace.Text
