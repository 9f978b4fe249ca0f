import Transclusion.Numeric.Binary64
import Transclusion.Text.Quote

/-!
# Reading decimal numbers

Number text to the nearest double: an optional sign, then decimal digits
with at most one point and at least one digit and an optional exponent `e`
or `E` with an optional sign, or `0x` and hexadecimal digits with a required
binary exponent `p`; underscores may separate digits. Or, ignoring case,
`inf` or `infinity` after an optional sign, or `nan`. Anything else is
malformed, and a value beyond the largest double is a range error (the
result would be an infinity).
-/

namespace Transclusion.Numeric

open Transclusion.Text

-- Powers take natural exponents through the core instance, so these definitions
-- elaborate to the same terms whatever else is imported beside them.
attribute [local instance (high)] instPowNat instNatPowNat

/-- Why a number did not read. -/
inductive FloatError where
  | malformed
  | range
  deriving Repr, DecidableEq

/-- The error text for the input `input`. -/
def FloatError.message (e : FloatError) (input : List UInt8) : String :=
  "strconv.ParseFloat: parsing " ++ quoteBytes input ++ ": " ++
    (match e with
     | .malformed => "invalid syntax"
     | .range => "value out of range")

def lowerByte (b : UInt8) : UInt8 := if 65 ≤ b && b ≤ 90 then b + 32 else b

/-- Whether the bytes spell `word` ignoring case. -/
def spells (bs : List UInt8) (word : String) : Bool :=
  bs.map lowerByte == word.toUTF8.toList

/-- Whether a byte is an ASCII digit. -/
def isDigitByte (b : UInt8) : Bool := 48 ≤ b && b ≤ 57

def digitsOf (bs : List UInt8) : Nat := bs.foldl (fun a b => a * 10 + (b.toNat - 48)) 0

def exponentCap : Nat := 10000

/-- The value of a mantissa digit: decimal digits, and in hexadecimal also
the letters `a` to `f` in either case. -/
def mantissaDigit (hex : Bool) (b : UInt8) : Option Nat :=
  if isDigitByte b then some (b.toNat - 48)
  else if hex && 97 ≤ lowerByte b && lowerByte b ≤ 102 then some ((lowerByte b).toNat - 87)
  else none

/-- Reads mantissa digits with at most one point, skipping underscores:
the digits' value, the number of digits after the point, whether a digit
was seen, and the rest. -/
def readMantissa (hex : Bool) : List UInt8 → Nat → Nat → Bool → Bool → Nat × Nat × Bool × List UInt8
  | [], v, f, _, d => (v, f, d, [])
  | b :: rest, v, f, dot, d =>
    if b == 95 then readMantissa hex rest v f dot d
    else if b == 46 then
      if dot then (v, f, d, b :: rest) else readMantissa hex rest v f true d
    else match mantissaDigit hex b with
      | some x => readMantissa hex rest (v * (if hex then 16 else 10) + x) (if dot then f + 1 else f) dot true
      | none => (v, f, d, b :: rest)

/-- Reads exponent digits, skipping underscores; the value saturates at
`exponentCap`. -/
def readExponentDigits : List UInt8 → Nat → Nat × List UInt8
  | [], e => (e, [])
  | b :: rest, e =>
    if b == 95 then readExponentDigits rest e
    else if isDigitByte b then
      readExponentDigits rest (if e < exponentCap then e * 10 + (b.toNat - 48) else e)
    else (e, b :: rest)

/-- Reads an exponent after its letter: an optional sign and at least one
digit. -/
def readExponent (bs : List UInt8) : Option (Int × List UInt8) :=
  let (neg, r) := match bs with
    | 43 :: r => (false, r)
    | 45 :: r => (true, r)
    | r => (false, r)
  match r with
  | d :: _ =>
    if isDigitByte d then
      let (e, rest) := readExponentDigits r 0
      some (if neg then -(e : Int) else e, rest)
    else none
  | [] => none

/-- Whether underscores in a number stand only between digits (or after a
base prefix and before a digit). -/
def underscoresOk (bs : List UInt8) : Bool :=
  let bs := match bs with
    | 43 :: r | 45 :: r => r
    | r => r
  let (hex, start, saw) := match bs with
    | 48 :: p :: r =>
      if lowerByte p == 98 || lowerByte p == 111 || lowerByte p == 120 then (lowerByte p == 120, r, '0')
      else (false, bs, '^')
    | _ => (false, bs, '^')
  let rec go : List UInt8 → Char → Bool
    | [], saw => saw != '_'
    | b :: rest, saw =>
      if isDigitByte b || (hex && 97 ≤ lowerByte b && lowerByte b ≤ 102) then go rest '0'
      else if b == 95 then (if saw != '0' then false else go rest '_')
      else if saw == '_' then false
      else go rest '!'
  go start saw

/-- Reads a finite number: decimal digits with an optional point and
exponent `e`, or after `0x` hexadecimal digits with an optional point and a
required binary exponent `p`; underscores may separate digits. -/
def readNumber (neg : Bool) (signed body : List UInt8) : Except FloatError Binary64 :=
  let (hex, digits) := match body with
    | 48 :: x :: r :: rest => if lowerByte x == 120 then (true, r :: rest) else (false, body)
    | _ => (false, body)
  let (v, f, sawDigit, rest) := readMantissa hex digits 0 0 false false
  if !sawDigit then .error .malformed
  else
    let expLetter : UInt8 := if hex then 112 else 101
    let exp : Option (Int × List UInt8) := match rest with
      | b :: r => if lowerByte b == expLetter then readExponent r else if hex then none else some (0, rest)
      | [] => if hex then none else some (0, [])
    match exp with
    | none => .error .malformed
    | some (e, tail) =>
      let consumed := signed.take (signed.length - tail.length)
      if !tail.isEmpty then .error .malformed
      else if (consumed.contains 95) && !underscoresOk consumed then .error .malformed
      else
        let x := if hex then
            let k := e - 4 * (f : Int)
            let num : Int := (if neg then -1 else 1) * (v * 2 ^ k.toNat : Nat)
            if k ≥ 0 then Binary64.ofRat num 1
            else Binary64.ofRat ((if neg then -1 else 1) * (v : Int)) (2 ^ (-k).toNat)
          else Binary64.ofDecimal neg v (e - f)
        match x with
        | .infinity _ => .error .range
        | x => .ok x

/-- Reads a double as the standard conversion does: a number, or ignoring
case `inf` or `infinity` after an optional sign, or `nan`. -/
def parseFloat (bs : List UInt8) : Except FloatError Binary64 :=
  let (neg, body) := match bs with
    | 43 :: r => (false, r)
    | 45 :: r => (true, r)
    | r => (false, r)
  if spells body "inf" || spells body "infinity" then .ok (.infinity neg)
  else if spells bs "nan" then .ok .nan
  else readNumber neg bs body

end Transclusion.Numeric
