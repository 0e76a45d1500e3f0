import CertRegistry.Time.Calendar

/-!
# Instants and the registry's zone

An instant is a number of microseconds since the start of the year 1 in UTC. The registry shows
instants in the zone Asia/Shanghai, whose offset from UTC changed with local mean time and with
the summer times of the twentieth century.
-/

namespace CertRegistry

/-- Microseconds since 0001-01-01T00:00 in UTC. -/
abbrev Instant := Int

/-- The end of the years 1 to 9999, as an instant or as a local time. -/
def timeEnd : Int := Date.dayCount * day

/-- A time of the years 1 to 9999. -/
def inRange (t : Int) : Bool := decide (0 ≤ t) && decide (t < timeEnd)

/-- An instant given in UTC by its date and hour. -/
def utc (year month day' hour' : Nat) (minute' second' : Nat := 0) : Instant :=
  (Date.mk year month day').toNumber * day + hour' * hour + minute' * minute + second' * second

namespace Zone

/-- A change of the offset from UTC: the instant, and the offset from then on. -/
structure Change where
  start : Instant
  offset : Int

/-- The offset before the first change, local mean time. -/
def meanOffset : Int := 8 * hour + 5 * minute + 43 * second

/-- The offset of standard time. -/
def standard : Int := 8 * hour

/-- The offset of summer time. -/
def summer : Int := 9 * hour

/-- A summer: its first hour and its end, as changes of the offset. -/
def summerFrom (start stop : Instant) : List Change := [⟨start, summer⟩, ⟨stop, standard⟩]

/-- The changes of the offset in order. -/
def changes : List Change :=
  [⟨utc 1900 12 31 15 54 17, standard⟩]
  ++ summerFrom (utc 1919 4 12 16) (utc 1919 9 30 15)
  ++ summerFrom (utc 1940 5 31 16) (utc 1940 10 12 15)
  ++ summerFrom (utc 1941 3 14 16) (utc 1941 11 1 15)
  ++ summerFrom (utc 1942 1 30 16) (utc 1945 9 1 15)
  ++ summerFrom (utc 1946 5 14 16) (utc 1946 9 30 15)
  ++ summerFrom (utc 1947 4 14 16) (utc 1947 10 31 15)
  ++ summerFrom (utc 1948 4 30 16) (utc 1948 9 30 15)
  ++ summerFrom (utc 1949 4 30 16) (utc 1949 5 27 15)
  ++ summerFrom (utc 1986 5 3 18) (utc 1986 9 13 17)
  ++ summerFrom (utc 1987 4 11 18) (utc 1987 9 12 17)
  ++ summerFrom (utc 1988 4 16 18) (utc 1988 9 10 17)
  ++ summerFrom (utc 1989 4 15 18) (utc 1989 9 16 17)
  ++ summerFrom (utc 1990 4 14 18) (utc 1990 9 15 17)
  ++ summerFrom (utc 1991 4 13 18) (utc 1991 9 14 17)

/-- The offset at an instant, given the offset before the changes. -/
def offsetFrom (t : Instant) : Int → List Change → Int
  | offset, [] => offset
  | offset, c :: cs => if c.start ≤ t then offsetFrom t c.offset cs else offset

/-- The offset from UTC at an instant. -/
def offsetAt (t : Instant) : Int := offsetFrom t meanOffset changes

/-- The offset that a local time is read with, given the offset before the changes: a change counts
once the local time is past it by either offset. So a time that occurs twice is the earlier one,
and one that is skipped has the offset from before the change. -/
def localOffsetFrom (w : Int) : Int → List Change → Int
  | offset, [] => offset
  | offset, c :: cs =>
    if c.start + max offset c.offset ≤ w then localOffsetFrom w c.offset cs else offset

/-- The offset that a local time is read with. -/
def localOffset (w : Int) : Int := localOffsetFrom w meanOffset changes

end Zone

end CertRegistry
