import CertRegistry.Failure
import CertRegistry.Time.Moment

/-!
# Adding days

A span of days is given by a value: an integer, a truth value, or a double, whose fraction of a
day is rounded to microseconds. It must fit a machine integer, then a span of time, and the sum
must lie in the years 1 to 9999; the first bound that is broken is reported.
-/

namespace CertRegistry

/-- The largest number of days of a span of time. -/
def maxSpan : Nat := 999999999

/-- A span of time, as long as its whole days stay within bounds. -/
def checkSpan (span : Int) : Except Failure Int :=
  let days := span / day
  if days < -2147483648 ∨ 2147483647 < days then .error .daysOverflow
  else if maxSpan < days.natAbs then .error (.spanOverflow days)
  else .ok span

/-- The microseconds of a number of days given by a finite double. The fraction of a day is
multiplied as a double, and the sum rounded to the nearest microsecond, a tie to the even one. -/
def spanOfDouble (negative : Bool) (mantissa : Nat) (exponent : Int) : Int :=
  let (whole, rest, den) := match exponent with
    | .ofNat k => (mantissa * Nat.pow 2 k, 0, 1)
    | .negSucc k => (mantissa / Nat.pow 2 (k + 1), mantissa % Nat.pow 2 (k + 1), Nat.pow 2 (k + 1))
  let size : Nat := match Double.ofRatio false (day.natAbs * rest) den with
    | .finite _ m (.negSucc k) =>
      Double.divNearest (whole * day.natAbs * Nat.pow 2 (k + 1) + m) (Nat.pow 2 (k + 1))
    | .finite _ m (.ofNat k) => whole * day.natAbs + m * Nat.pow 2 k
    | _ => whole * day.natAbs
  if negative then -(size : Int) else size

/-- The span of time with a number of days. -/
def spanOfDays : Json → Except Failure Int
  | .int n => checkSpan (n * day)
  | .bool b => checkSpan (if b then day else 0)
  | .float .nan => .error (.noInteger .notANumber)
  | .float (.infinite _) => .error (.noInteger .infinite)
  | .float (.finite negative m e) => checkSpan (spanOfDouble negative m e)
  | v => .error (.noDays v)

namespace Moment

/-- The moment a span of time later, on the same clock. -/
def after (m : Moment) (span : Int) : Except Failure Moment :=
  if inRange (m.localTime + span) then .ok { m with localTime := m.localTime + span }
  else .error .dateOverflow

/-- The instant of a moment as it can be stored: it must lie in the years 1 to 9999. -/
def stored (m : Moment) : Except Failure Instant :=
  if inRange m.instant then .ok m.instant else .error .dateOverflow

end Moment

end CertRegistry
