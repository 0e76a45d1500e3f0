import CertRegistry.Text.Blank
import CertRegistry.Text.DecimalDigit

/-!
# Integer texts

How an integer is read from a text: blanks around it (the information separators excepted), one
optional sign, then decimal digits of any script with single low lines between them. The digit
run is read first, so a run that is too long is reported even if junk follows it.
-/

namespace CertRegistry

/-- Why a text is no integer. -/
inductive IntegerError
  | malformed
  | tooLong (digits : Nat)
deriving DecidableEq, Repr

namespace Integer

/-- The most digits that are read. -/
def maxDigits : Nat := 4300

/-- The blanks that may stand around an integer. -/
def isPadding (c : Nat) : Bool := Text.isBlank c && !(0x1C ≤ c && c ≤ 0x1F)

/-- The values of a run of digits and what follows the run; single low lines may stand between
two digits. The flag tells whether a digit came just before. -/
def digitRun? : Bool → Text → Option (List Nat × Text)
  | afterDigit, [] => if afterDigit then some ([], []) else none
  | afterDigit, c :: r =>
    match Text.digitValue? c with
    | some d => (digitRun? true r).map fun (ds, rest) => (d :: ds, rest)
    | none =>
      if c = 95 then if afterDigit then digitRun? false r else none
      else if afterDigit then some ([], c :: r) else none

/-- The sign in front of a text, `true` for minus, and the rest. -/
def sign : Text → Bool × Text
  | 43 :: r => (false, r)
  | 45 :: r => (true, r)
  | t => (false, t)

/-- The integer that a text writes. -/
def ofText (t : Text) : Except IntegerError Int :=
  let (negative, body) := sign (t.dropWhile isPadding)
  match digitRun? false body with
  | none => .error .malformed
  | some (ds, rest) =>
    if ds.length > maxDigits then .error (.tooLong ds.length)
    else if rest.all isPadding then
      let n : Int := Text.digitsValue ds
      .ok (if negative then -n else n)
    else .error .malformed

/-- A signed 64-bit integer, the range of a column of whole numbers. -/
def fits (n : Int) : Bool := decide (-9223372036854775808 ≤ n) && decide (n ≤ 9223372036854775807)

end Integer

/-- The largest value of a column of whole numbers, and so the largest id. -/
def maxColumn : Nat := 9223372036854775807

/-- The smallest value of a column of whole numbers that may be negative. -/
def minColumn : Int := -9223372036854775808

end CertRegistry
