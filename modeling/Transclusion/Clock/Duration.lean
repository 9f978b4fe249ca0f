import Transclusion.Clock.Layout
import Transclusion.Numeric.Binary64

/-!
# Durations as text

A duration is written as an optional sign and a sequence of decimal numbers,
each with an optional fraction and a unit: `ns`, `us` (or `µs`, `μs`), `ms`,
`s`, `m`, `h`; for example `300ms`, `-1.5h` or `2h45m`. A lone `0` is zero.
Whole parts accumulate exactly and must stay within 2^63 nanoseconds;
fractions are scaled through a double, as the unit's share of the fraction.
-/

namespace Transclusion.Time

open Transclusion.Numeric

-- Powers take natural exponents through the core instance, so these definitions
-- elaborate to the same terms whatever else is imported beside them.
attribute [local instance (high)] instPowNat instNatPowNat

/-- Why a duration did not read. -/
inductive DurationError where
  | invalid (text : String)
  | missingUnit (text : String)
  | unknownUnit (unit : String) (text : String)
  deriving Repr, DecidableEq

def DurationError.message : DurationError → String
  | .invalid t => "time: invalid duration " ++ quoteText t
  | .missingUnit t => "time: missing unit in duration " ++ quoteText t
  | .unknownUnit u t => "time: unknown unit " ++ quoteText u ++ " in duration " ++ quoteText t

def durationUnits : List (String × Nat) :=
  [("ns", 1), ("us", 1000), ("µs", 1000), ("μs", 1000), ("ms", 1000000),
   ("s", 1000000000), ("m", 60000000000), ("h", 3600000000000)]

/-- Whether a byte is an ASCII digit. -/
def isDigitCode (b : UInt8) : Bool := 48 ≤ b && b ≤ 57

/-- Reads leading digits; `none` on overflow past 2^63. -/
def leadingInt (bs : List UInt8) : Option (Nat × List UInt8) :=
  let ds := bs.takeWhile isDigitCode
  let rest := bs.drop ds.length
  let step := fun (acc : Option Nat) (b : UInt8) => acc.bind fun x =>
    if x > 2 ^ (63 : Nat) / 10 then none
    else
      let y := x * 10 + (b.toNat - 48)
      if y > 2 ^ (63 : Nat) then none else some y
  (ds.foldl step (some 0)).map (·, rest)

/-- Reads leading fraction digits: the digits kept while they fit, the
power of ten they make, and the rest. -/
def leadingFraction (bs : List UInt8) : Nat × Nat × List UInt8 :=
  let ds := bs.takeWhile isDigitCode
  let rest := bs.drop ds.length
  let (x, scale, _) := ds.foldl (fun (x, scale, overflow) b =>
    if overflow then (x, scale, true)
    else if x > (2 ^ (63 : Nat) - 1) / 10 then (x, scale, true)
    else
      let y := x * 10 + (b.toNat - 48)
      if y > 2 ^ (63 : Nat) then (x, scale, true) else (y, scale * 10, false)) (0, 1, false)
  (x, scale, rest)

/-- The text of bytes known to be valid UTF-8 pieces of a text. -/
def textOf (bs : List UInt8) : String := (String.fromUTF8? (ByteArray.mk bs.toArray)).getD ""

/-- Reads the numbers and units after the sign, adding to `total`; every
round consumes at least one byte. -/
def readTerms (orig : String) : Nat → List UInt8 → Nat → Except DurationError Nat
  | 0, _, total => .ok total
  | _, [], total => .ok total
  | fuel + 1, b :: rest, total =>
    let s := b :: rest
    if !(b == 46 || isDigitCode b) then .error (.invalid orig)
    else match leadingInt s with
      | none => .error (.invalid orig)
      | some (v, s1) =>
        let pre := s1.length != s.length
        let (f, scale, s2, post) := match s1 with
          | 46 :: r => let (f, scale, r2) := leadingFraction r; (f, scale, r2, r2.length != r.length)
          | r => (0, 1, r, false)
        if !pre && !post then .error (.invalid orig)
        else
          let unitBytes := s2.takeWhile (fun c => !(c == 46 || isDigitCode c))
          let s3 := s2.drop unitBytes.length
          if unitBytes.isEmpty then .error (.missingUnit orig)
          else
            let u := textOf unitBytes
            match durationUnits.lookup u with
            | none => .error (.unknownUnit u orig)
            | some unit =>
              if v > 2 ^ (63 : Nat) / unit then .error (.invalid orig)
              else
                let v := v * unit
                let v := if f > 0 then
                    v + ((Binary64.ofInt f).mul ((Binary64.ofInt unit).div (Binary64.ofInt scale))).toInt64.toNat
                  else v
                if v > 2 ^ (63 : Nat) then .error (.invalid orig)
                else
                  let total := total + v
                  if total > 2 ^ (63 : Nat) then .error (.invalid orig)
                  else readTerms orig fuel s3 total

def parseDuration (s : String) : Except DurationError Int :=
  let bs := s.toUTF8.toList
  let (neg, body) := match bs with
    | 45 :: r => (true, r)
    | 43 :: r => (false, r)
    | r => (false, r)
  if body == [48] then .ok 0
  else if body.isEmpty then .error (.invalid s)
  else match readTerms s (body.length + 1) body 0 with
    | .error e => .error e
    | .ok d =>
      if neg then .ok (-(d : Int))
      else if d > 2 ^ (63 : Nat) - 1 then .error (.invalid s)
      else .ok d

end Transclusion.Time
