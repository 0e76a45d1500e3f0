import CertRegistry.Text.Basic

/-!
# Doubles

Binary floating point numbers of double precision, as exact data: a finite one is a whole
mantissa below 2⁵³ times a power of two. Quotients and decimal numbers are rounded to the nearest
double, a tie to the even mantissa, in whole-number arithmetic.
-/

namespace CertRegistry

/-- A double. The value of `finite negative m e` is `m * 2 ^ e`, with the sign in front. -/
inductive Double
  | nan
  | infinite (negative : Bool)
  | finite (negative : Bool) (mantissa : Nat) (exponent : Int)
deriving DecidableEq, Repr

namespace Double

/-- The exponent of the smallest doubles. -/
def minExponent : Int := -1074

/-- The exponent of the largest doubles. -/
def maxExponent : Int := 971

/-- A quotient of whole numbers, rounded to the nearest one and a tie to the even one. -/
def divNearest (num den : Nat) : Nat :=
  let q := num / den
  let r := num % den
  if 2 * r < den then q
  else if den < 2 * r then q + 1
  else q + q % 2

-- powers are written with `Nat.pow`, since what `^` means depends on what is imported
/-- The numerator and the denominator of a quotient over a power of two. -/
def shifted (num den : Nat) : Int → Nat × Nat
  | .ofNat k => (num, den * Nat.pow 2 k)
  | .negSucc k => (num * Nat.pow 2 (k + 1), den)

/-- The greatest power of two at most a positive quotient. -/
def floorLog (num den : Nat) : Int :=
  let b : Int := (num.log2 : Int) - den.log2
  let (n, d) := shifted num den b
  if d ≤ n then b else b - 1

/-- The double nearest to a quotient. -/
def ofRatio (negative : Bool) (num den : Nat) : Double :=
  if num = 0 then .finite negative 0 minExponent
  else
    let e := max minExponent (floorLog num den - 52)
    let (n, d) := shifted num den e
    let m := divNearest n d
    let (m, e) := if m = Nat.pow 2 53 then (Nat.pow 2 52, e + 1) else (m, e)
    if maxExponent < e then .infinite negative else .finite negative m e

/-- The double nearest to `digits * 10 ^ power`. Powers far outside the range are settled by the
number of digits alone. -/
def ofDecimal (negative : Bool) (digits : Nat) (power : Int) : Double :=
  let magnitude : Int := (Nat.toDigits 10 digits).length + power
  if digits = 0 then .finite negative 0 minExponent
  else if 400 < magnitude then .infinite negative
  else if magnitude < -400 then .finite negative 0 minExponent
  else
    match power with
    | .ofNat k => ofRatio negative (digits * Nat.pow 10 k) 1
    | .negSucc k => ofRatio negative digits (Nat.pow 10 (k + 1))

/-- The whole part of a finite double, toward zero. -/
def truncate? : Double → Option Int
  | .finite negative m e =>
    let n : Nat := match e with
      | .ofNat k => m * Nat.pow 2 k
      | .negSucc k => m / Nat.pow 2 (k + 1)
    some (if negative then -(n : Int) else n)
  | _ => none

/-- A finite double without a fraction. -/
def isWhole : Double → Bool
  | .finite _ m (.negSucc k) => m % Nat.pow 2 (k + 1) = 0
  | .finite _ _ (.ofNat _) => true
  | _ => false

/-- Whether a double is less than another one; none is less than what is no number. -/
def less : Double → Double → Bool
  | .nan, _ => false
  | _, .nan => false
  | .infinite a, .infinite b => a && !b
  | .infinite a, .finite .. => a
  | .finite .., .infinite b => !b
  | .finite a m e, .finite b n f =>
    -- both over the smaller one of the two powers of two
    let signed (negative : Bool) (mantissa : Nat) (exponent : Int) : Int :=
      let k : Int := (mantissa * Nat.pow 2 (exponent - min e f).toNat : Nat)
      if negative then -k else k
    decide (signed a m e < signed b n f)

/-- The least integer at or above a finite double. -/
def ceil? : Double → Option Int
  | .finite negative m e =>
    match e with
    | .ofNat k => some (if negative then -(m * Nat.pow 2 k : Nat) else (m * Nat.pow 2 k : Nat))
    | .negSucc k =>
      some (if negative then -(m / Nat.pow 2 (k + 1) : Nat)
        else ((m + (Nat.pow 2 (k + 1) - 1)) / Nat.pow 2 (k + 1) : Nat))
  | _ => none

end Double

end CertRegistry
