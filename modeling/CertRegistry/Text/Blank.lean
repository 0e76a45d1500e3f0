import CertRegistry.Text.Basic

/-!
# Blank code points

The code points that trimming removes: the white space of Unicode together with the four
information separators U+001C to U+001F.
-/

namespace CertRegistry.Text

/-- The code points that count as blank. -/
def blanks : CodeSet := ⟨[
  0x9, 0xE, 0x1C, 0x21, 0x85, 0x86, 0xA0, 0xA1, 0x1680, 0x1681, 0x2000, 0x200B, 0x2028, 0x202A,
  0x202F, 0x2030, 0x205F, 0x2060, 0x3000, 0x3001]⟩

/-- White space, the information separators included. -/
def isBlank (c : Nat) : Bool := blanks.contains c

/-- A text without blanks at either end. -/
def strip (t : Text) : Text := t.trim isBlank

end CertRegistry.Text
