import Transclusion.Markup.Entity

/-!
# Character references in attribute values

An attribute value is read with its line breaks normalised (`CR LF` and a lone
`CR` become `LF`) and its character references decoded:

* `&#` digits or `&#x` hex digits, with an optional `;`, stand for that code
  point. Values that overflow 32 bits wrap around; 0x80 to 0x9F are read as
  Windows-1252; zero, surrogates, negative and too large values become U+FFFD.
  A reference of fewer than three characters after `&` (so `&#1` followed by
  anything but a digit or `;`) is not decoded.
* `&name;` or a legacy `&name` stands for its characters, unless the name has
  no `;` and is followed by `=`. An unknown name is left as written.
-/

namespace Transclusion.Markup

/-- What the C1 control code points stand for when a numeric reference names
them. -/
def windows1252 : List Nat :=
  [0x20AC, 0x0081, 0x201A, 0x0192, 0x201E, 0x2026, 0x2020, 0x2021, 0x02C6, 0x2030, 0x0160,
    0x2039, 0x0152, 0x008D, 0x017D, 0x008F, 0x0090, 0x2018, 0x2019, 0x201C, 0x201D, 0x2022,
    0x2013, 0x2014, 0x02DC, 0x2122, 0x0161, 0x203A, 0x0153, 0x009D, 0x017E, 0x0178]

/-- Reduces an integer to the signed 32-bit range. -/
def wrap32 (x : Int) : Int := Int.bmod x 4294967296

def numericChar (x : Int) : Char :=
  if 0x80 ≤ x && x ≤ 0x9F then Char.ofNat (windows1252.getD (x - 0x80).toNat 0xFFFD)
  else if x ≤ 0 || (0xD800 ≤ x && x ≤ 0xDFFF) || x > 0x10FFFF then '�'
  else Char.ofNat x.toNat

def hexDigitValue (c : Char) : Option Int :=
  if c.isDigit then some (c.toNat - '0'.toNat : Nat)
  else if 'a' ≤ c && c ≤ 'f' then some (c.toNat - 'a'.toNat + 10 : Nat)
  else if 'A' ≤ c && c ≤ 'F' then some (c.toNat - 'A'.toNat + 10 : Nat)
  else none

def referenceDigit (hex : Bool) (c : Char) : Option Int :=
  if hex then hexDigitValue c
  else if c.isDigit then some ((c.toNat - '0'.toNat : Nat) : Int) else none

/-- Reads the digits of a numeric reference: the value and the number of
characters read, digits and a closing `;`. -/
def numericDigits (hex : Bool) : List Char → Int → Nat → Int × Nat
  | [], x, n => (x, n)
  | c :: cs, x, n =>
    match referenceDigit hex c with
    | some v => numericDigits hex cs (wrap32 ((if hex then 16 else 10) * x + v)) (n + 1)
    | none => if c == ';' then (x, n + 1) else (x, n)

/-- Reads the name of a named reference: letters and digits, then an optional
`;` that belongs to the name. -/
def referenceName : List Char → List Char
  | [] => []
  | c :: cs =>
    if c.isAlphanum then c :: referenceName cs
    else if c == ';' then [';']
    else []

/-- Decodes the reference that follows an `&`: the characters it stands for
and how many characters after the `&` it used. -/
def decodeReference (s : List Char) : List Char × Nat :=
  match s with
  | [] => (['&'], 0)
  | '#' :: rest =>
    if s.length ≤ 2 then (['&'], 0)
    else
      let hex := match rest with
        | c :: _ => c == 'x' || c == 'X'
        | [] => false
      let used := if hex then 2 else 1
      let (x, n) := numericDigits hex (rest.drop (used - 1)) 0 0
      if used + 1 + n ≤ 3 then (['&'], 0)
      else ([numericChar x], used + n)
  | _ =>
    let name := referenceName s
    let after := s.drop name.length
    let written := '&' :: name
    if name.isEmpty then (['&'], 0)
    else if name.getLast? != some ';' && after.head? == some '=' then (written, name.length)
    else match lookupEntity (String.ofList name) with
      | some v => (v.toList, name.length)
      | none => (written, name.length)

/-- Decodes every character reference of an attribute value. -/
def decodeReferences (cs : List Char) : List Char :=
  match cs with
  | [] => []
  | '&' :: rest =>
    let (out, k) := decodeReference rest
    out ++ decodeReferences (rest.drop k)
  | c :: rest => c :: decodeReferences rest
termination_by cs.length
decreasing_by
  all_goals
    simp only [List.length_drop, List.length_cons]
    omega

/-- Line breaks normalised: `CR LF` and a lone `CR` become `LF`. -/
def normalizeNewlines : List Char → List Char
  | '\r' :: '\n' :: r => '\n' :: normalizeNewlines r
  | '\r' :: r => '\n' :: normalizeNewlines r
  | c :: r => c :: normalizeNewlines r
  | [] => []

def attributeText (raw : String) : String :=
  String.ofList (decodeReferences (normalizeNewlines raw.toList))

end Transclusion.Markup
