import QueryTrace.Text.Printable

/-!
# Quoted text

A text between double quotes, for messages and descriptions. Quotes and backslashes are escaped, a
few controls have short names, and every other character that cannot be shown as it is becomes its
code point in lower case hexadecimal between braces. An apostrophe is shown as it is.
-/

namespace QueryTrace.Text

/-- Lower case hexadecimal digits of a number, without leading zeros. -/
def hex (n : Nat) : String :=
  String.ofList (Nat.toDigits 16 n)

def quoteChar (c : Char) : String :=
  if c = '\x00' then "\\0"
  else if c = '\t' then "\\t"
  else if c = '\r' then "\\r"
  else if c = '\n' then "\\n"
  else if c = '"' then "\\\""
  else if c = '\\' then "\\\\"
  else if isPrintable c then String.singleton c
  else "\\u\x7b" ++ hex c.toNat ++ "\x7d"

def quoted (s : String) : String :=
  "\"" ++ String.join (s.toList.map quoteChar) ++ "\""

end QueryTrace.Text
