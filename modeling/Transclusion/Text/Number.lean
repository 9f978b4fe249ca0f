/-!
# Numbers in text

Reading signed decimal integers the way protocol fields are read: an optional
sign, then one or more ASCII digits and nothing else, within the range of a
64-bit integer. Writing integers is plain decimal with a minus sign.

Bytes are written as lower-case hexadecimal digit pairs and read back from
pairs of either case.
-/

namespace Transclusion.Text

/-- The value of a list of ASCII digits, or nothing when a character is not a
digit or the list is empty. -/
def digitsValue (cs : List Char) : Option Nat :=
  if cs.isEmpty || !cs.all Char.isDigit then none
  else some (cs.foldl (fun acc c => acc * 10 + (c.toNat - '0'.toNat)) 0)

/-- A signed decimal integer in the 64-bit range: an optional `+` or `-`, then
one or more ASCII digits. -/
def parseInt64 (s : String) : Option Int :=
  let (neg, body) := match s.toList with
    | '-' :: r => (true, r)
    | '+' :: r => (false, r)
    | r => (false, r)
  match digitsValue body with
  | some n =>
    let v : Int := if neg then -(n : Int) else n
    if -9223372036854775808 ≤ v && v ≤ 9223372036854775807 then some v else none
  | none => none

/-- An unsigned decimal integer below 2^64: one or more ASCII digits. -/
def parseUInt64 (s : String) : Option Nat :=
  match digitsValue s.toList with
  | some n => if n < 18446744073709551616 then some n else none
  | none => none

def intText (i : Int) : String :=
  if i < 0 then "-" ++ toString i.natAbs else toString i.toNat

theorem digitsValue_nil : digitsValue [] = none := rfl

/-! ## Hexadecimal text

Bytes written as lower-case hexadecimal digit pairs, and read back from digit
pairs of either case. -/

/-- The lower-case hexadecimal digit of a value below 16. -/
def hexDigit (n : Nat) : Char :=
  if n < 10 then Char.ofNat ('0'.toNat + n) else Char.ofNat ('a'.toNat + n - 10)

def hexOfBytes (bs : List UInt8) : String :=
  String.ofList (bs.flatMap fun b => [hexDigit (b.toNat / 16), hexDigit (b.toNat % 16)])

def hexValue (b : UInt8) : Option Nat :=
  let c := b.toNat
  if 48 ≤ c && c ≤ 57 then some (c - 48)
  else if 97 ≤ c && c ≤ 102 then some (c - 87)
  else if 65 ≤ c && c ≤ 70 then some (c - 55)
  else none

/-- Why a text is not a sequence of hexadecimal digit pairs. -/
inductive HexError where
  /-- A byte that is not a hexadecimal digit. -/
  | invalidByte (b : UInt8)
  /-- An odd number of digits. -/
  | oddLength
  deriving Repr, DecidableEq

/-- Whether the code point of a byte value is a printable character: the
visible ASCII characters and space, and Latin-1 from U+00A1 on except the
soft hyphen. -/
def latin1Printable (n : Nat) : Bool :=
  (32 ≤ n && n ≤ 126) || (161 ≤ n && n ≤ 255 && n != 173)

/-- A code point as U+XXXX, followed by the quoted character when it is
printable. -/
def codePointText (n : Nat) : String :=
  let digits := (Nat.toDigits 16 n).map Char.toUpper
  let digits := List.replicate (4 - digits.length) '0' ++ digits
  let quoted := if latin1Printable n then " '" ++ (Char.ofNat n).toString ++ "'" else ""
  "U+" ++ String.ofList digits ++ quoted

def HexError.message : HexError → String
  | .invalidByte b => "encoding/hex: invalid byte: " ++ codePointText b.toNat
  | .oddLength => "encoding/hex: odd length hex string"

/-- Reads hexadecimal digit pairs from bytes. A bad byte is reported before an
odd length when it stands in a complete pair or is the lone last digit. -/
def bytesOfHexBytes : List UInt8 → Except HexError (List UInt8)
  | [] => .ok []
  | [c] => match hexValue c with
    | none => .error (.invalidByte c)
    | some _ => .error .oddLength
  | a :: b :: rest =>
    match hexValue a, hexValue b with
    | some x, some y => (bytesOfHexBytes rest).map ((x * 16 + y).toUInt8 :: ·)
    | none, _ => .error (.invalidByte a)
    | some _, none => .error (.invalidByte b)

/-- Reads hexadecimal digit pairs from the UTF-8 bytes of a text. -/
def bytesOfHex (s : String) : Except HexError (List UInt8) :=
  bytesOfHexBytes s.toUTF8.toList

end Transclusion.Text
