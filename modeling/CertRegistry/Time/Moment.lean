import CertRegistry.Time.Zone

/-!
# Moments

A moment is a date and a time of day on a clock, with the offset of the clock from UTC or without
one. A clock without an offset hangs in the registry's zone. Days are added on the clock, so a
span without an offset may cross a change of the zone's offset; instants are what is stored and
compared.
-/

namespace CertRegistry

/-- A date and a time of day: the local time, in microseconds since the start of the year 1, and
the offset from UTC where one is given. -/
structure Moment where
  localTime : Int
  offset? : Option Int
deriving DecidableEq, Repr

namespace Moment

/-- An instant on the clock of UTC. -/
def ofUtc (t : Instant) : Moment := ⟨t, some 0⟩

/-- A local time of the registry's zone with the offset that it is read with. -/
def ofLocal (w : Int) : Moment := ⟨w, some (Zone.localOffset w)⟩

/-- The offset from UTC. -/
def offset (m : Moment) : Int := m.offset?.getD (Zone.localOffset m.localTime)

/-- The instant of a moment. -/
def instant (m : Moment) : Instant := m.localTime - m.offset

/-- An instant as the registry shows it, unless it lies past the year 9999 in the zone. -/
def ofInstant? (t : Instant) : Option Moment :=
  let offset := Zone.offsetAt t
  if inRange (t + offset) then some ⟨t + offset, some offset⟩ else none

/-- A moment as the registry shows it. One without an offset is in the zone already. -/
def inZone? (m : Moment) : Option Moment :=
  match m.offset? with
  | none => some (ofLocal m.localTime)
  | some _ => if inRange m.instant then ofInstant? m.instant else none

/-- The text of an offset: a sign, hours and minutes, and seconds where there are any. -/
def offsetText (offset : Int) : Text :=
  let s := offset.natAbs
  let mark : Text := if offset < 0 then "-" else "+"
  mark ++ if s % 60000000 = 0 then (clockText s).take 5 else clockText s

/-- Date, time and offset, with a separator between date and time. -/
def textWith (separator : Text) (m : Moment) : Text :=
  (Date.ofNumber (m.localTime / day).toNat).text ++ separator
    ++ clockText (m.localTime % day).toNat ++ m.offset?.elim [] offsetText

/-- The text of a moment in a record. -/
def text (m : Moment) : Text := m.textWith "T"

/-- The text of a moment in a log. -/
def logText (m : Moment) : Text := m.textWith " "

@[simp] theorem instant_ofUtc (t : Instant) : (ofUtc t).instant = t := by
  simp [ofUtc, instant, offset]

end Moment

end CertRegistry
