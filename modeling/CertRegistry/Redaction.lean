import CertRegistry.Text.Alphanumeric
import CertRegistry.Text.Blank
import CertRegistry.Text.DecimalDigit

/-!
# Redaction

What an error text must not show outside: labelled secrets, home directories and addresses. Every
stretch that one of the patterns matches is replaced by three asterisks, pattern after pattern.
Letters match in either case, and the long s and the Kelvin sign match the letters they fold to.
-/

namespace CertRegistry.Redaction

/-- What is looked for. -/
inductive Pattern
  /-- A word, a colon or an equals sign, and a value, with blanks allowed between them. -/
  | labelled (word : Text)
  /-- A directory under the home directories. -/
  | home
  /-- Four numbers with points between them. -/
  | address
deriving DecidableEq

/-- The patterns in the order of their use. -/
def patterns : List Pattern :=
  [.labelled "password", .labelled "secret", .labelled "token", .home, .address]

/-- A code point that counts as a given small letter or sign. -/
def folds (letter c : Nat) : Bool :=
  Text.asciiLower c = letter || (letter = 115 && c = 0x17F) || (letter = 107 && c = 0x212A)

/-- The rest of a text after a word in front, in letters of either case. -/
def afterWord? : Text → Text → Option Text
  | [], t => some t
  | _ :: _, [] => none
  | l :: ls, c :: r => if folds l c then afterWord? ls r else none

/-- The rest of a text after a non-empty run of a class. -/
def afterRun? (p : Nat → Bool) : Text → Option Text
  | c :: r => if p c then some (r.dropWhile p) else none
  | [] => none

/-- The rest of a text after a sign in front. -/
def afterSign? (p : Nat → Bool) : Text → Option Text
  | c :: r => if p c then some r else none
  | [] => none

/-- A colon or an equals sign. -/
def isSeparator (c : Nat) : Bool := c = 58 || c = 61

/-- The rest of a text after the longest stretch in front that a pattern matches. -/
def Pattern.after? : Pattern → Text → Option Text
  | .labelled word, t => do
    let t ← afterWord? word t
    let t ← afterSign? isSeparator (t.dropWhile Text.isBlank)
    afterRun? (!Text.isBlank ·) (t.dropWhile Text.isBlank)
  | .home, t => do
    let t ← afterWord? "/home/" t
    afterRun? Text.isWord t
  | .address, t => do
    let t ← afterRun? Text.isDigit t
    let t ← (afterSign? (· = 46) t).bind (afterRun? Text.isDigit)
    let t ← (afterSign? (· = 46) t).bind (afterRun? Text.isDigit)
    (afterSign? (· = 46) t).bind (afterRun? Text.isDigit)

/-- What stands in for a stretch that a pattern matches. -/
def mask : Text := [42, 42, 42]

/-- Masks every stretch that a pattern matches, from the left and without overlaps, after passing
over some code points of a stretch that is masked already. -/
def Pattern.maskFrom (p : Pattern) : Nat → Text → Text
  | _, [] => []
  | passed + 1, _ :: r => p.maskFrom passed r
  | 0, c :: r =>
    match p.after? (c :: r) with
    | none => c :: p.maskFrom 0 r
    | some rest => mask ++ p.maskFrom (r.length - rest.length) r

/-- Masks every stretch that a pattern matches. -/
def Pattern.maskAll (p : Pattern) (t : Text) : Text := p.maskFrom 0 t

end CertRegistry.Redaction

namespace CertRegistry

/-- A text with everything masked that the patterns look for. -/
def redact (t : Text) : Text := Redaction.patterns.foldl (fun t p => p.maskAll t) t

end CertRegistry
