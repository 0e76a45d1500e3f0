import CertRegistry.Number.Double

/-!
# Shortest decimal text of a double

The text of a double has the fewest significant digits that read back as it, and of several such
decimals the nearest one. The reals that read back as a double reach half way to its neighbours;
the end points belong to it when its mantissa is even. For one digit, two digits and so on, the
two neighbours of the value among the decimals with so many digits are tested.
-/

namespace CertRegistry.Double

/-- The number of decimal digits. -/
def digitCount (n : Nat) : Nat := (Nat.toDigits 10 n).length

/-- A number as a quotient of whole numbers: `x * 2 ^ e`. -/
def scaled (x : Nat) : Int → Nat × Nat
  | .ofNat k => (x * Nat.pow 2 k, 1)
  | .negSucc k => (x, Nat.pow 2 (k + 1))

/-- The power of ten of the leading digit of a positive quotient. -/
def leadingPower (num den : Nat) : Int :=
  if den ≤ num then digitCount (num / den) - 1
  else -(digitCount ((den + num - 1) / num - 1) : Int)

/-- The decimal with `n` digits in the interval around a positive finite double that lies nearest
to it, as digits and a power of ten. The interval is given in quarters of the last place. -/
def candidate? (m : Nat) (e power : Int) (n : Nat) : Option (Nat × Int) :=
  let grid : Int := power + 1 - n
  let low := if m = Nat.pow 2 52 ∧ minExponent < e then 4 * m - 1 else 4 * m - 2
  let high := 4 * m + 2
  -- both sides over a common denominator: a bound `x` is `x * unit`, a decimal `d` is `d * step`
  let (unit, two) := scaled 1 (e - 2)
  let (unit, step) := match grid with
    | .ofNat k => (unit, two * Nat.pow 10 k)
    | .negSucc k => (unit * Nat.pow 10 (k + 1), two)
  let value := 4 * m * unit
  let inside (d : Nat) : Bool :=
    if m % 2 = 0 then low * unit ≤ d * step && d * step ≤ high * unit
    else low * unit < d * step && d * step < high * unit
  let below := value / step
  let above := below + 1
  match inside below, inside above with
  | true, true =>
    let gapBelow := value - below * step
    let gapAbove := above * step - value
    let lower := gapBelow < gapAbove ∨ (gapBelow = gapAbove ∧ below % 2 = 0)
    some (if lower then (below, grid) else (above, grid))
  | true, false => some (below, grid)
  | false, true => some (above, grid)
  | false, false => none

/-- The shortest decimal that reads back as a positive finite double, nearest among its equals. -/
def shortest (m : Nat) (e : Int) : Nat × Int :=
  let (num, den) := scaled m e
  let power := leadingPower num den
  match (List.range 17).findSome? fun n => candidate? m e power (n + 1) with
  | some d => d
  | none => (0, 0)

/-- The digits of a shortest decimal without trailing zeros, and the power of its first digit. -/
def leadingDigits (d : Nat × Int) : Text × Int :=
  let digits := Text.ofNat d.1
  let kept := (digits.reverse.dropWhile (· = 48)).reverse
  (if kept = [] then [48] else kept, d.2 + digits.length - 1)

/-- Digits in a row from the power −4 up to the power 15, always with a point. -/
def positional (digits : Text) (power : Int) : Text :=
  match power with
  | .negSucc k => "0." ++ Text.zeros k ++ digits
  | .ofNat k =>
    if digits.length ≤ k + 1 then
      digits ++ Text.zeros (k + 1 - digits.length) ++ ".0"
    else
      let (whole, fraction) : Text × Text := digits.splitAt (k + 1)
      whole ++ "." ++ fraction

/-- Digits with a power of ten, which has a sign and at least two digits. -/
def scientific (digits : Text) (power : Int) : Text :=
  let (first, rest) : Text × Text := digits.splitAt 1
  let mark : Text := if power < 0 then "e-" else "e+"
  first ++ (if rest = [] then rest else "." ++ rest) ++ mark ++ Text.padded 2 power.natAbs

/-- The text of a double. -/
def text : Double → Text
  | .nan => "nan"
  | .infinite negative => if negative then "-inf" else "inf"
  | .finite negative m e =>
    let (digits, power) := if m = 0 then ([48], 0) else leadingDigits (shortest m e)
    let body := if -4 ≤ power ∧ power < 16 then positional digits power
      else scientific digits power
    if negative then "-" ++ body else body

end CertRegistry.Double
