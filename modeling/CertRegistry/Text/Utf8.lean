import CertRegistry.Text.Basic

/-!
# UTF-8

Decoding of bytes. A malformed sequence ends at the first byte that cannot continue it, and that
byte is read afresh; so every byte sequence decodes to code points and malformed stretches, in
order. The strict reading refuses the latter, the lenient one puts U+FFFD in their place.
-/

namespace CertRegistry.Text.Utf8

/-- A sequence under way: the bits read, the number of bytes to come, and the range of the next. -/
structure Pending where
  value : Nat
  missing : Nat
  low : Nat := 0x80
  high : Nat := 0xBF

/-- What a byte at the start of a sequence opens: a code point, a sequence, or nothing valid. -/
def opening (b : Nat) : Option (Nat ⊕ Pending) :=
  if b < 0x80 then some (.inl b)
  else if b < 0xC2 then none
  else if b < 0xE0 then some (.inr { value := b - 0xC0, missing := 1 })
  else if b = 0xE0 then some (.inr { value := 0, missing := 2, low := 0xA0 })
  else if b = 0xED then some (.inr { value := 0xD, missing := 2, high := 0x9F })
  else if b < 0xF0 then some (.inr { value := b - 0xE0, missing := 2 })
  else if b = 0xF0 then some (.inr { value := 0, missing := 3, low := 0x90 })
  else if b < 0xF4 then some (.inr { value := b - 0xF0, missing := 3 })
  else if b = 0xF4 then some (.inr { value := 4, missing := 3, high := 0x8F })
  else none

/-- The code points of a byte sequence, with `none` for each malformed stretch. -/
def decodeFrom : Option Pending → List Nat → List (Option Nat)
  | none, [] => []
  | some _, [] => [none]
  | none, b :: r =>
    match opening b with
    | none => none :: decodeFrom none r
    | some (.inl c) => some c :: decodeFrom none r
    | some (.inr p) => decodeFrom (some p) r
  | some p, b :: r =>
    if p.low ≤ b ∧ b ≤ p.high then
      let value := p.value * 64 + (b - 0x80)
      if p.missing = 1 then some value :: decodeFrom none r
      else decodeFrom (some { value, missing := p.missing - 1 }) r
    else
      none ::
        match opening b with
        | none => none :: decodeFrom none r
        | some (.inl c) => some c :: decodeFrom none r
        | some (.inr q) => decodeFrom (some q) r

/-- The text that bytes encode, unless a stretch of them is malformed. -/
def decode? (bytes : List Nat) : Option Text := (decodeFrom none bytes).mapM id

/-- The text that bytes encode, with U+FFFD for each malformed stretch. -/
def decodeLenient (bytes : List Nat) : Text := (decodeFrom none bytes).map fun c => c.getD 0xFFFD

/-- The bytes of a code point. -/
def encodePoint (c : Nat) : List Nat :=
  if c < 0x80 then [c]
  else if c < 0x800 then [0xC0 + c / 64, 0x80 + c % 64]
  else if c < 0x10000 then [0xE0 + c / 4096, 0x80 + c / 64 % 64, 0x80 + c % 64]
  else [0xF0 + c / 262144, 0x80 + c / 4096 % 64, 0x80 + c / 64 % 64, 0x80 + c % 64]

/-- The bytes of a text. -/
def encode (t : Text) : List Nat := t.flatMap encodePoint

end CertRegistry.Text.Utf8
