/-!
# Instants and durations

An instant is a count of nanoseconds since 1970-01-01T00:00:00Z together with
the offset of the zone it is written in. Two instants are the same moment when
their nanosecond counts agree, whatever their zones; the zone only changes how
the instant is written.

A duration is a signed count of nanoseconds held in 64 bits. Arithmetic that
the service performs on durations wraps around at 64 bits (a lifetime of
99999999999 seconds is a wrapped value), while the distance between two
instants saturates at the largest and smallest duration.

Main statements: `Instant.sub` is the exact distance whenever that fits in 64
bits, and adding a duration and measuring back returns it.
-/

namespace Transclusion.Time

def nsPerSecond : Int := 1000000000

def nsPerMilli : Int := 1000000

/-- The smallest duration, -2^63 nanoseconds. -/
def minDuration : Int := -9223372036854775808

/-- The largest duration, 2^63 - 1 nanoseconds. -/
def maxDuration : Int := 9223372036854775807

/-- Reduces an integer to the 64-bit two's complement range, as fixed-width
arithmetic does. -/
def wrap64 (x : Int) : Int := Int.bmod x 18446744073709551616

def saturate (x : Int) : Int := max minDuration (min maxDuration x)

/-- A moment in time, written in a zone. -/
structure Instant where
  /-- Nanoseconds since 1970-01-01T00:00:00Z. -/
  ns : Int
  /-- Offset east of UTC, in seconds, of the zone the instant is written in. -/
  offset : Int := 0
  deriving Repr, Inhabited, DecidableEq

namespace Instant

/-- 1970-01-01T00:00:00Z, the expiry stamped on fragments that must never be
cached. -/
def epoch : Instant := ⟨0, 0⟩

/-- The zero instant, January 1 of year 1, 00:00:00 UTC: the value of an
instant that was never set. -/
def zero : Instant := ⟨-62135596800 * nsPerSecond, 0⟩

def utc (t : Instant) : Instant := { t with offset := 0 }

/-- Whether the instant was never set. -/
def isZero (t : Instant) : Bool := t.ns == zero.ns

/-- Moves the instant by `d` nanoseconds; the zone is kept. -/
def add (t : Instant) (d : Int) : Instant := { t with ns := t.ns + d }

/-- The duration from `u` to `t`, saturated to the range of durations. -/
def sub (t u : Instant) : Int := saturate (t.ns - u.ns)

/-- Whether `t` is strictly later than `u`. -/
def after (t u : Instant) : Bool := u.ns < t.ns

/-- Whether `t` and `u` are the same moment. -/
def same (t u : Instant) : Bool := t.ns == u.ns

/-- The nanoseconds since the epoch as a 64-bit count, which wraps outside the
years 1678 to 2262. -/
def unixNano (t : Instant) : Int := wrap64 t.ns

theorem sub_of_fits (t u : Instant) (h1 : minDuration ≤ t.ns - u.ns)
    (h2 : t.ns - u.ns ≤ maxDuration) : t.sub u = t.ns - u.ns := by
  simp only [sub, saturate]
  omega

theorem after_iff (t u : Instant) : t.after u = true ↔ u.ns < t.ns := by
  simp [after]

theorem add_sub (t : Instant) (d : Int) (h1 : minDuration ≤ d) (h2 : d ≤ maxDuration) :
    (t.add d).sub t = d := by
  simp only [add, sub, saturate]
  omega

end Instant

/-! ## The proleptic Gregorian calendar -/

/-- Whether a year is a leap year. -/
def isLeapYear (y : Int) : Bool := y % 4 == 0 && (y % 100 != 0 || y % 400 == 0)

/-- The number of days of a month (1 to 12) in a year. -/
def daysIn (month : Nat) (year : Int) : Nat :=
  match month with
  | 1 | 3 | 5 | 7 | 8 | 10 | 12 => 31
  | 4 | 6 | 9 | 11 => 30
  | 2 => if isLeapYear year then 29 else 28
  | _ => 0

/-- Days from 1970-01-01 to the given date. -/
def daysOfCivil (y : Int) (m d : Nat) : Int :=
  let y := if m ≤ 2 then y - 1 else y
  let era := y / 400
  let yoe := y - era * 400
  let mp : Int := if m > 2 then (m : Int) - 3 else (m : Int) + 9
  let doy := (153 * mp + 2) / 5 + (d : Int) - 1
  let doe := yoe * 365 + yoe / 4 - yoe / 100 + doy
  era * 146097 + doe - 719468

/-- The date `(year, month, day)` of a count of days since 1970-01-01. -/
def civilOfDays (z : Int) : Int × Nat × Nat :=
  let z := z + 719468
  let era := z / 146097
  let doe := z - era * 146097
  let yoe := (doe - doe / 1460 + doe / 36524 - doe / 146096) / 365
  let y := yoe + era * 400
  let doy := doe - (365 * yoe + yoe / 4 - yoe / 100)
  let mp := (5 * doy + 2) / 153
  let d := doy - (153 * mp + 2) / 5 + 1
  let m := if mp < 10 then mp + 3 else mp - 9
  (if m ≤ 2 then y + 1 else y, m.toNat, d.toNat)

def ofCivil (year : Int) (month day hour minute second : Nat) (nanos : Nat) : Instant :=
  ⟨((daysOfCivil year month day * 86400 + hour * 3600 + minute * 60 + second) : Int) *
    nsPerSecond + nanos, 0⟩

/-- The parts of an instant as read on a clock of its zone. -/
structure Civil where
  year : Int
  month : Nat
  day : Nat
  hour : Nat
  minute : Nat
  second : Nat
  nanos : Nat
  deriving Repr

def Instant.civil (t : Instant) : Civil :=
  let wall := t.ns + t.offset * nsPerSecond
  let secs := wall / nsPerSecond
  let nanos := (wall % nsPerSecond).toNat
  let days := secs / 86400
  let sod := (secs % 86400).toNat
  let (y, m, d) := civilOfDays days
  ⟨y, m, d, sod / 3600, sod % 3600 / 60, sod % 60, nanos⟩

/-! ## Writing instants -/

/-- Decimal digits of `n`, left-padded with zeros to at least `width`. -/
def padNat (n width : Nat) : String :=
  let s := toString n
  String.ofList (List.replicate (width - s.length) '0') ++ s

/-- A year with at least four digits and a minus sign when negative. -/
def yearText (y : Int) : String :=
  if y < 0 then "-" ++ padNat y.natAbs 4 else padNat y.toNat 4

/-- The nanoseconds of a second as a fraction: a point and nine digits with
trailing zeros dropped, or nothing at all when the fraction is zero. -/
def fractionText (nanos : Nat) : String :=
  if nanos = 0 then ""
  else
    let digits := (padNat nanos 9).toList
    "." ++ String.ofList ((digits.reverse.dropWhile (· == '0')).reverse)

/-- The zone of an offset: `Z` for UTC, else a sign and hours and minutes. -/
def zoneText (offset : Int) : String :=
  if offset = 0 then "Z"
  else
    let minutes := offset / 60
    let sign := if minutes < 0 then "-" else "+"
    let m := minutes.natAbs
    sign ++ padNat (m / 60) 2 ++ ":" ++ padNat (m % 60) 2

/-- RFC 3339 text with as many fractional digits as the instant needs:
`2024-03-01T12:00:00.5Z`, `2024-03-01T14:00:00+02:00`. -/
def Instant.rfc3339 (t : Instant) : String :=
  let c := t.civil
  yearText c.year ++ "-" ++ padNat c.month 2 ++ "-" ++ padNat c.day 2 ++ "T" ++
    padNat c.hour 2 ++ ":" ++ padNat c.minute 2 ++ ":" ++ padNat c.second 2 ++
    fractionText c.nanos ++ zoneText t.offset

def millisOf (d : Int) : Int := Int.tdiv d nsPerMilli

end Transclusion.Time
