import Transclusion.Text.Blank
import Transclusion.Text.Number
import Transclusion.Clock.Instant

/-!
# Per-source timeouts

A source's timeout attribute is a positive whole number of milliseconds,
optionally followed by `ms`, or of seconds followed by `s`: `250`, `250ms`,
`2s`. Blanks around it are ignored. The number must fit in 64 bits; the
duration is then computed in 64 bits and may wrap around.

The outcome says whether the attribute was present at all (not blank) and
whether it was valid; only a valid timeout replaces the configured request
timeout.
-/

namespace Transclusion

open Transclusion.Text Transclusion.Time

/-- The outcome of reading a timeout attribute. -/
structure TimeoutReading where
  /-- The timeout in nanoseconds; zero unless valid. -/
  ns : Int := 0
  /-- The attribute was not blank. -/
  present : Bool := false
  /-- The attribute was a valid positive timeout. -/
  ok : Bool := false
  deriving Repr, DecidableEq

def timeoutUnit (suffix : List Char) : Option Int :=
  match suffix with
  | [] => some nsPerMilli
  | ['m', 's'] => some nsPerMilli
  | ['s'] => some nsPerSecond
  | _ => none

def parseTimeout (v : String) : TimeoutReading :=
  let t := trimBlank v
  if t.isEmpty then {}
  else
    let cs := t.toList
    let digits := cs.takeWhile Char.isDigit
    let suffix := cs.drop digits.length
    match digitsValue digits, timeoutUnit suffix with
    | some n, some unit =>
      if 0 < n && n ≤ 9223372036854775807 then { ns := wrap64 (n * unit), present := true, ok := true }
      else { present := true }
    | _, _ => { present := true }

end Transclusion
