import Transclusion.Numeric.Elementary
import Transclusion.Numeric.Decimal
import Transclusion.Text.Quote
import Transclusion.Text.Case
import Transclusion.Text.Blank

/-!
# Human-readable byte sizes

Sizes are read as a decimal number followed by an optional unit: `b`, the
decimal units `k`, `m`, `g`, `t`, `p`, `e` (powers of 1000) and the binary
ones `ki`, `mi`, ... (powers of 1024), each with or without a trailing `b`,
in any case, with blanks between number and unit. Commas in the number are
ignored. The number is a double, multiplied by the unit and truncated; a
product of 2^64 or more is too large. Settings hold sizes as signed 64-bit
counts, so a size of 2^63 bytes or more is held as a negative count
(`signedSize`).

Sizes are written in binary units with one decimal below ten and none above,
after rounding to tenths.

The number's extent is counted in characters but cut in bytes, so a digit
of another script makes the number unreadable, as the conversion it models
does.
-/

namespace Transclusion.Text

open Transclusion.Numeric

-- Powers take natural exponents through the core instance, so these definitions
-- elaborate to the same terms whatever else is imported beside them.
attribute [local instance (high)] instPowNat instNatPowNat

/-- The code point ranges of the Unicode category "decimal digit number":
the ASCII digits and the digits of every other script, ascending. -/
def digitRanges : Array (Nat × Nat) := #[
  (48, 57), (1632, 1641), (1776, 1785), (1984, 1993), (2406, 2415), (2534, 2543), (2662, 2671),
  (2790, 2799), (2918, 2927), (3046, 3055), (3174, 3183), (3302, 3311), (3430, 3439), (3558, 3567),
  (3664, 3673), (3792, 3801), (3872, 3881), (4160, 4169), (4240, 4249), (6112, 6121), (6160, 6169),
  (6470, 6479), (6608, 6617), (6784, 6793), (6800, 6809), (6992, 7001), (7088, 7097), (7232, 7241),
  (7248, 7257), (42528, 42537), (43216, 43225), (43264, 43273), (43472, 43481), (43504, 43513),
  (43600, 43609), (44016, 44025), (65296, 65305), (66720, 66729), (68912, 68921), (68928, 68937),
  (69734, 69743), (69872, 69881), (69942, 69951), (70096, 70105), (70384, 70393), (70736, 70745),
  (70864, 70873), (71248, 71257), (71360, 71369), (71376, 71395), (71472, 71481), (71904, 71913),
  (72016, 72025), (72688, 72697), (72784, 72793), (73040, 73049), (73120, 73129), (73184, 73193),
  (73552, 73561), (90416, 90425), (92768, 92777), (92864, 92873), (93008, 93017), (93552, 93561),
  (118000, 118009), (120782, 120831), (123200, 123209), (123632, 123641), (124144, 124153),
  (124401, 124410), (125264, 125273), (130032, 130041)]

/-- Whether a character is a decimal digit of any script. -/
def isUnicodeDigit (c : Char) : Bool :=
  inRanges digitRanges c.toNat 16 0 digitRanges.size

def sizeUnits : List (String × Nat) :=
  [("b", 1), ("kib", 2 ^ (10 : Nat)), ("kb", 10 ^ (3 : Nat)), ("mib", 2 ^ (20 : Nat)), ("mb", 10 ^ (6 : Nat)),
   ("gib", 2 ^ (30 : Nat)), ("gb", 10 ^ (9 : Nat)), ("tib", 2 ^ (40 : Nat)), ("tb", 10 ^ (12 : Nat)),
   ("pib", 2 ^ (50 : Nat)), ("pb", 10 ^ (15 : Nat)), ("eib", 2 ^ (60 : Nat)), ("eb", 10 ^ (18 : Nat)),
   ("", 1), ("ki", 2 ^ (10 : Nat)), ("k", 10 ^ (3 : Nat)), ("mi", 2 ^ (20 : Nat)), ("m", 10 ^ (6 : Nat)),
   ("gi", 2 ^ (30 : Nat)), ("g", 10 ^ (9 : Nat)), ("ti", 2 ^ (40 : Nat)), ("t", 10 ^ (12 : Nat)),
   ("pi", 2 ^ (50 : Nat)), ("p", 10 ^ (15 : Nat)), ("ei", 2 ^ (60 : Nat)), ("e", 10 ^ (18 : Nat))]

/-- Why a size did not read. -/
inductive SizeError where
  | empty
  | negative (s : String)
  | number (e : FloatError) (digits : List UInt8)
  | tooLarge (s : String)
  | unknownUnit (unit : String)
  deriving Repr, DecidableEq

def SizeError.message : SizeError → String
  | .empty => "empty size"
  | .negative s => "negative size " ++ quote s
  | .number e digits => e.message digits
  | .tooLarge s => "too large: " ++ s
  | .unknownUnit u => "unhandled size name: " ++ u

/-- Whether a character belongs to the number part. -/
def isNumberChar (c : Char) : Bool := isUnicodeDigit c || c == '.' || c == ','

def readSize (s : String) : Except SizeError Nat :=
  let chars := s.toList
  let count := (chars.takeWhile isNumberChar).length
  let hasComma := (chars.take count).contains ','
  let digits := s.toUTF8.toList.take count
  let digits := if hasComma then digits.filter (· != 44) else digits
  match parseFloat digits with
  | .error e => .error (.number e digits)
  | .ok f =>
    let unit := lower (trimBlank (String.ofList (chars.drop count)))
    match sizeUnits.lookup unit with
    | none => .error (.unknownUnit unit)
    | some m =>
      let f := f.mul (Binary64.ofInt m)
      if !(f.lt (Binary64.ofInt (2 ^ (64 : Nat)))) then .error (.tooLarge s)
      else .ok f.truncNat

/-- Reads a configured size: blanks around it are ignored, and it may be
neither empty nor negative. -/
def parseSize (s : String) : Except SizeError Nat :=
  let s := trimBlank s
  if s.isEmpty then .error .empty
  else if s.startsWith "-" then .error (.negative s)
  else readSize s

/-- A size as the signed 64-bit count that settings hold: sizes from 2^63
bytes up wrap around to negative counts. -/
def signedSize (n : Nat) : Int := Int.bmod n (2 ^ (64 : Nat))

/-- The binary unit names by power of 1024. -/
def binaryUnits : List String := ["B", "KiB", "MiB", "GiB", "TiB", "PiB", "EiB"]

def formatSize (n : Nat) : String :=
  if n < 10 then toString n ++ " B"
  else
    let x := Binary64.ofInt n
    let power := (Binary64.floor ((Binary64.log x).div (Binary64.log (Binary64.ofInt 1024)))).toInt64
    let unit := binaryUnits.getD power.toNat ""
    let scaled := x.div (Binary64.ofInt (2 ^ (10 * power.toNat)))
    let val := (Binary64.floor ((scaled.mul (Binary64.ofInt 10)).add (Binary64.ofRat 1 2))).div
      (Binary64.ofInt 10)
    let digits := if val.lt (Binary64.ofInt 10) then 1 else 0
    val.fixedText digits ++ " " ++ unit

end Transclusion.Text
