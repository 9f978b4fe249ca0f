import Transclusion.Numeric.Decimal

/-!
# What a plain scalar means

A plain scalar's text decides its type: a fixed table of spellings for
booleans, null, infinities and NaN; integers in any base the standard
integer reader accepts with base prefix (after removing `_`); decimal
floats; and dates that begin with a four-digit year. Anything else is a
string. Only the first character is used to decide which readings to try,
so `yes` and `on` stay strings.

Integers are kept exactly: those within the signed 64-bit range, and those
beyond it that fit in 64 unsigned bits.
-/

namespace Transclusion.Yaml

open Transclusion.Numeric

-- Powers take natural exponents through the core instance, so these definitions
-- elaborate to the same terms whatever else is imported beside them.
attribute [local instance (high)] instPowNat instNatPowNat

/-- The value a scalar resolves to. -/
inductive Resolved where
  | null
  | bool (b : Bool)
  /-- An integer within the signed 64-bit range. -/
  | int (i : Int)
  /-- An integer above the signed 64-bit range that fits in 64 bits. -/
  | uint (n : Nat)
  | float (x : Binary64)
  | timestamp
  | str
  deriving Repr, Inhabited

def fixedSpellings : List (String × String × Resolved) :=
  [("true", "!!bool", .bool true), ("True", "!!bool", .bool true), ("TRUE", "!!bool", .bool true),
   ("false", "!!bool", .bool false), ("False", "!!bool", .bool false), ("FALSE", "!!bool", .bool false),
   ("", "!!null", .null), ("~", "!!null", .null), ("null", "!!null", .null),
   ("Null", "!!null", .null), ("NULL", "!!null", .null),
   (".nan", "!!float", .float .nan), (".NaN", "!!float", .float .nan), (".NAN", "!!float", .float .nan),
   (".inf", "!!float", .float (.infinity false)), (".Inf", "!!float", .float (.infinity false)),
   (".INF", "!!float", .float (.infinity false)),
   ("+.inf", "!!float", .float (.infinity false)), ("+.Inf", "!!float", .float (.infinity false)),
   ("+.INF", "!!float", .float (.infinity false)),
   ("-.inf", "!!float", .float (.infinity true)), ("-.Inf", "!!float", .float (.infinity true)),
   ("-.INF", "!!float", .float (.infinity true))]

/-- Which readings a first character calls for: `S` sign, `D` digit, `M`
only the fixed spellings, `.` a float, `N` the empty text, and `none` for
a string. -/
def hintOf (text : String) : Option Char :=
  match text.toList with
  | [] => some 'N'
  | c :: _ =>
    if c == '+' || c == '-' then some 'S'
    else if c.isDigit then some 'D'
    else if "yYnNtTfFoO~".toList.contains c then some 'M'
    else if c == '.' then some '.'
    else none

/-! ## Integers -/

/-- The value of a digit in bases up to 36. -/
def digitValue (c : Char) : Nat :=
  if c.isDigit then c.toNat - 48
  else if 'a' ≤ c.toLower && c.toLower ≤ 'z' then c.toLower.toNat - 87
  else 36

/-- Reads digits in `base`; `none` when one is not a digit of the base. -/
def readDigits (base : Nat) (cs : List Char) : Option Nat :=
  cs.foldl (fun acc c => acc.bind fun n => if digitValue c < base then some (n * base + digitValue c) else none)
    (some 0)

/-- Reads an unsigned integer with an optional base prefix: `0b`, `0o`,
`0x` (followed by at least one character), or a leading `0` for octal. -/
def readPrefixed (cs : List Char) : Option Nat :=
  match cs with
  | [] => none
  | '0' :: p :: rest =>
    if !rest.isEmpty && p.toLower == 'b' then readDigits 2 rest
    else if !rest.isEmpty && p.toLower == 'o' then readDigits 8 rest
    else if !rest.isEmpty && p.toLower == 'x' then readDigits 16 rest
    else readDigits 8 (p :: rest)
  | ['0'] => some 0
  | _ => readDigits 10 cs

/-- The signed 64-bit reading with base prefixes. -/
def readInt64 (cs : List Char) : Option Int :=
  let (neg, body) := match cs with
    | '+' :: r => (false, r)
    | '-' :: r => (true, r)
    | r => (false, r)
  (readPrefixed body).bind fun u =>
    if neg then (if u ≤ 2 ^ (63 : Nat) then some (-(u : Int)) else none)
    else if u < 2 ^ (63 : Nat) then some u else none

/-- The unsigned 64-bit reading with base prefixes; no sign. -/
def readUInt64 (cs : List Char) : Option Nat :=
  (readPrefixed cs).bind fun u => if u < 2 ^ (64 : Nat) then some u else none

/-! ## Floats -/

/-- Whether a text has the float form `[-+]?(\.D+|D+(\.D*)?)([eE][-+]?D+)?`. -/
def isFloatForm (cs : List Char) : Bool :=
  let cs := match cs with
    | '+' :: r | '-' :: r => r
    | r => r
  let intPart := cs.takeWhile Char.isDigit
  let rest := cs.drop intPart.length
  let mantissaOk : Option (List Char) :=
    if intPart.isEmpty then
      match rest with
      | '.' :: r =>
        let f := r.takeWhile Char.isDigit
        if f.isEmpty then none else some (r.drop f.length)
      | _ => none
    else
      match rest with
      | '.' :: r => some (r.dropWhile Char.isDigit)
      | r => some r
  match mantissaOk with
  | none => false
  | some [] => true
  | some (e :: r) =>
    if e == 'e' || e == 'E' then
      let r := match r with
        | '+' :: q | '-' :: q => q
        | q => q
      !r.isEmpty && r.all Char.isDigit
    else false

/-- The float reading of a text, when it reads without error. -/
def readFloat (text : String) : Option Binary64 :=
  match parseFloat text.toUTF8.toList with
  | .ok x => some x
  | .error _ => none

/-! ## Dates -/

/-- One or two digits. -/
def readNum12 : List Char → Option (Nat × List Char)
  | a :: b :: rest =>
    if !a.isDigit then none
    else if b.isDigit then some ((a.toNat - 48) * 10 + (b.toNat - 48), rest)
    else some (a.toNat - 48, b :: rest)
  | [a] => if a.isDigit then some (a.toNat - 48, []) else none
  | [] => none

def readNum2 : List Char → Option Nat
  | [a, b] => if a.isDigit && b.isDigit then some ((a.toNat - 48) * 10 + (b.toNat - 48)) else none
  | _ => none

/-- Whether a year is a leap year. -/
def isLeap (y : Nat) : Bool := y % 4 == 0 && (y % 100 != 0 || y % 400 == 0)

def daysIn (month year : Nat) : Nat :=
  if month == 2 then (if isLeap year then 29 else 28)
  else if month == 4 || month == 6 || month == 9 || month == 11 then 30
  else 31

/-- Reads `h:m:s` with an optional fraction, each of one or two digits. -/
def readClock (cs : List Char) : Option (List Char) := do
  let (h, cs) ← readNum12 cs
  let cs ← match cs with | ':' :: r => some r | _ => none
  let (m, cs) ← readNum12 cs
  let cs ← match cs with | ':' :: r => some r | _ => none
  let (s, cs) ← readNum12 cs
  if h ≥ 24 || m ≥ 60 || s ≥ 60 then none
  let cs := match cs with
    | c :: d :: r => if (c == '.' || c == ',') && d.isDigit then r.dropWhile Char.isDigit else cs
    | _ => cs
  pure cs

/-- Reads a zone: `Z` or `±hh:mm`. -/
def readZone (cs : List Char) : Option (List Char) :=
  match cs with
  | 'Z' :: r => some r
  | sign :: h1 :: h2 :: ':' :: m1 :: m2 :: r => do
    let h ← readNum2 [h1, h2]
    let m ← readNum2 [m1, m2]
    if (sign == '+' || sign == '-') && h ≤ 24 && m ≤ 60 then some r else none
  | _ => none

/-- Whether a text is a date, a date and time with a zone after `T` or
`t`, or a date and time without a zone after spaces. -/
def isTimestamp (text : String) : Bool :=
  let cs := text.toList
  let year := cs.takeWhile Char.isDigit
  if year.length != 4 || (cs.drop 4).head? != some '-' then false
  else
    let date : Option (List Char) := do
      let (month, r) ← readNum12 (cs.drop 5)
      let r ← match r with | '-' :: q => some q | _ => none
      let (day, r) ← readNum12 r
      let y := (readDigits 10 year).getD 0
      if month < 1 || month > 12 || day < 1 || day > daysIn month y then none
      pure r
    match date with
    | none => false
    | some [] => true
    | some (c :: rest) =>
      if c == 'T' || c == 't' then
        match (readClock rest).bind readZone with
        | some [] => true
        | _ => false
      else if c == ' ' then
        match readClock (rest.dropWhile (· == ' ')) with
        | some [] => true
        | _ => false
      else false

/-! ## Resolution -/

/-- The tag and value of a text under an optional tag: the fixed
spellings, then by first character dates (when no other tag asks
otherwise), integers and floats. -/
def resolveText (tag text : String) : String × Resolved :=
  let fallback := ("!!str", Resolved.str)
  match hintOf text with
  | none => fallback
  | some hint =>
    if tag == "!!str" || tag == "!!binary" then fallback
    else match fixedSpellings.find? (·.1 == text) with
    | some (_, t, v) => (t, v)
    | none =>
      if hint == '.' then
        match readFloat text with
        | some x => ("!!float", .float x)
        | none => fallback
      else if hint == 'D' || hint == 'S' then
        if (tag == "" || tag == "!!timestamp") && isTimestamp text then ("!!timestamp", .timestamp)
        else
          let plain := text.toList.filter (· != '_')
          match readInt64 plain with
          | some i => ("!!int", .int i)
          | none =>
            match readUInt64 plain with
            | some u => ("!!int", .uint u)
            | none =>
              if isFloatForm plain then
                match readFloat (String.ofList plain) with
                | some x => ("!!float", .float x)
                | none => fallback
              else fallback
      else fallback

def plainTag (text : String) : String := (resolveText "" text).1

def resolvableTags : List String :=
  ["", "!!str", "!!bool", "!!int", "!!float", "!!timestamp", "!!null"]

/-- Resolves a scalar's text under its tag. A text that reads as another
type than its tag names fails, except an integer under `!!float`; a tag
that is not resolvable keeps the text as a string. -/
def resolve (tag text : String) : Except String (String × Resolved) :=
  if !resolvableTags.contains tag then .ok (tag, .str)
  else
    let (rtag, v) := resolveText tag text
    if tag == "" || tag == rtag || tag == "!!str" || tag == "!!binary" then .ok (rtag, v)
    else match tag, v with
      | "!!float", .int i => .ok ("!!float", .float (Binary64.ofInt i))
      | _, _ => .error ("yaml: cannot decode " ++ rtag ++ " `" ++ text ++ "` as a " ++ tag)

end Transclusion.Yaml
