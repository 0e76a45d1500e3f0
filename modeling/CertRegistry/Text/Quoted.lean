import CertRegistry.Text.Printable

/-!
# Quoted texts

A quoted text stands between two equal marks and shows unprintable code points by their number.
The mark is a single quote, unless the text has single quotes and no double one.
-/

namespace CertRegistry.Text

/-- The mark around a quoted text. -/
def quoteMark (t : Text) : Nat := if 39 ∈ t ∧ 34 ∉ t then 34 else 39

/-- One code point inside a quoted text. -/
def escaped (mark c : Nat) : Text :=
  if c = mark ∨ c = 92 then [92, c]
  else if c = 10 then ofString "\\n"
  else if c = 13 then ofString "\\r"
  else if c = 9 then ofString "\\t"
  else if isPrintable c then [c]
  else if c < 0x100 then ofString "\\x" ++ hex 2 c
  else if c < 0x10000 then ofString "\\u" ++ hex 4 c
  else ofString "\\U" ++ hex 8 c

/-- A text in quotes. -/
def quoted (t : Text) : Text :=
  let mark := quoteMark t
  mark :: t.flatMap (escaped mark) ++ [mark]

end CertRegistry.Text
