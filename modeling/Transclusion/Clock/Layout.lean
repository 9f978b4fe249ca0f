import Transclusion.Clock.Instant

/-!
# Reading instants by layout

A layout is a list of elements: literal text and fields such as a four-digit
year, a month name or a zone offset. Reading a text against a layout consumes
the text element by element; the first element that does not fit decides the
error. Two layouts are used: RFC 3339 with an optional fraction of any length
(for instants given to the service), and the three date forms of HTTP
(`Fri, 01 Mar 2024 12:05:00 GMT`, `Friday, 01-Mar-24 12:01:00 GMT`,
`Fri Mar  1 12:02:00 2024`).

A space in the layout matches any run of spaces in the text (possibly none at
the end of the text); a weekday is read but never checked against the date; a
day is checked against its month once the whole text is read. Seconds may be
followed by a fraction (a point or comma and digits) in every layout, whether
or not the layout has one; only its first nine digits count.
-/

namespace Transclusion.Time

-- Powers take natural exponents through the core instance, so these definitions
-- elaborate to the same terms whatever else is imported beside them.
attribute [local instance (high)] instPowNat instNatPowNat

/-- One element of a layout. -/
inductive Elem where
  /-- Literal text. -/
  | text (s : String)
  /-- Four digits of year. -/
  | longYear
  /-- Two digits of year: 69 to 99 are 1969 to 1999, the rest 2000 to 2068. -/
  | shortYear
  /-- Two digits of month, 01 to 12. -/
  | zeroMonth
  /-- A three-letter month name, any case. -/
  | monthName
  /-- Two digits of day. -/
  | zeroDay
  /-- A day of one or two digits after an optional space. -/
  | spaceDay
  /-- A three-letter weekday name, any case. -/
  | weekdayName
  /-- A full weekday name, any case. -/
  | longWeekdayName
  /-- An hour of one or two digits, below 24. -/
  | hour
  /-- Two digits of minute, below 60. -/
  | zeroMinute
  /-- Two digits of second, below 60. -/
  | zeroSecond
  /-- An optional fraction of a second: a point or comma and digits. -/
  | fraction
  /-- `Z` or a signed offset `+hh:mm`. -/
  | isoZone
  /-- A zone abbreviation such as `GMT`, `PST` or `GMT+2`. -/
  | zoneName
  deriving Repr, DecidableEq

/-- The text of an element as it stands in a layout, used in error messages. -/
def Elem.label : Elem → String
  | .text s => s
  | .longYear => "2006"
  | .shortYear => "06"
  | .zeroMonth => "01"
  | .monthName => "Jan"
  | .zeroDay => "02"
  | .spaceDay => "_2"
  | .weekdayName => "Mon"
  | .longWeekdayName => "Monday"
  | .hour => "15"
  | .zeroMinute => "04"
  | .zeroSecond => "05"
  | .fraction => ".999999999"
  | .isoZone => "Z07:00"
  | .zoneName => "MST"

/-- The fields read so far. -/
structure Reading where
  year : Int := 0
  month : Int := -1
  day : Int := -1
  hour : Int := 0
  minute : Int := 0
  second : Int := 0
  nanos : Int := 0
  /-- The zone offset in seconds, when the text gave a numeric offset. -/
  offset : Option Int := none
  deriving Repr

/-- Why a text does not fit a layout. -/
inductive Misfit where
  /-- The element with this label cannot read the rest of the text. -/
  | cannotRead (rest : List Char) (label : String)
  /-- A field is out of its range. -/
  | outOfRange (field : String)
  /-- Text is left over after the last element. -/
  | extraText (rest : List Char)
  /-- The day does not exist in its month. -/
  | dayOutOfRange
  deriving Repr

def digitVal (c : Char) : Int := (c.toNat - '0'.toNat : Nat)

def leadingDigits : List Char → Nat → Nat × List Char
  | c :: cs, acc => if c.isDigit then leadingDigits cs (acc * 10 + (c.toNat - '0'.toNat)) else (acc, c :: cs)
  | [], acc => (acc, [])

/-- A signed decimal number filling the whole text; the empty text reads as 0. -/
def readInt (cs : List Char) : Option Int :=
  let (neg, body) := match cs with
    | '-' :: r => (true, r)
    | '+' :: r => (false, r)
    | r => (false, r)
  let (n, rest) := leadingDigits body 0
  if rest.isEmpty then some (if neg then -(n : Int) else n) else none

/-- One or two leading digits; with `fixed` exactly two. -/
def twoDigits (cs : List Char) (fixed : Bool) : Option (Int × List Char) :=
  match cs with
  | a :: b :: r =>
    if a.isDigit then
      if b.isDigit then some (digitVal a * 10 + digitVal b, r)
      else if fixed then none else some (digitVal a, b :: r)
    else none
  | [a] => if a.isDigit && !fixed then some (digitVal a, []) else none
  | [] => none

def dropSpaces (cs : List Char) : List Char := cs.dropWhile (· == ' ')

theorem length_dropSpaces_le (cs : List Char) : (dropSpaces cs).length ≤ cs.length :=
  (List.dropWhile_suffix _).sublist.length_le

def skipText : List Char → List Char → Option (List Char)
  | [], v => some v
  | ' ' :: p, v =>
    match v with
    | c :: _ => if c != ' ' then none else skipText (dropSpaces p) (dropSpaces v)
    | [] => skipText (dropSpaces p) []
  | c :: p, v =>
    match v with
    | d :: w => if c == d then skipText p w else none
    | [] => none
termination_by p => p.length
decreasing_by
  all_goals simp_wf
  all_goals (try have := length_dropSpaces_le p)
  all_goals omega

def namePrefix (name : List Char) (v : List Char) : Bool :=
  name.length ≤ v.length &&
    (List.zip name (v.take name.length)).all (fun (a, b) => a.toLower == b.toLower && (a == b || a.isAlpha))

/-- The index of the first name that starts the text, and the rest. -/
def lookupName (names : List String) (v : List Char) : Option (Nat × List Char) :=
  let rec go : List String → Nat → Option (Nat × List Char)
    | [], _ => none
    | n :: ns, i => if namePrefix n.toList v then some (i, v.drop n.length) else go ns (i + 1)
  go names 0

def shortDayNames : List String := ["Sun", "Mon", "Tue", "Wed", "Thu", "Fri", "Sat"]
def longDayNames : List String :=
  ["Sunday", "Monday", "Tuesday", "Wednesday", "Thursday", "Friday", "Saturday"]
def shortMonthNames : List String :=
  ["Jan", "Feb", "Mar", "Apr", "May", "Jun", "Jul", "Aug", "Sep", "Oct", "Nov", "Dec"]

/-- The length of a signed hour offset such as `+2` or `-11` (at most 12), or 0. -/
def signedOffsetLength (v : List Char) : Nat :=
  match v with
  | s :: r =>
    if s == '+' || s == '-' then
      let (n, rest) := leadingDigits r 0
      if rest.length == r.length || n > 12 then 0 else v.length - rest.length
    else 0
  | [] => 0

/-- The length of a zone abbreviation at the start of the text: three upper-case
letters, four ending in `T` (or `WITA`), five ending in `T`, `ChST`, `MeST`, or
`GMT` with an optional signed hour. -/
def zoneNameLength (v : List Char) : Option Nat :=
  if v.length < 3 then none
  else if v.take 4 == "ChST".toList || v.take 4 == "MeST".toList then some 4
  else if v.take 3 == "GMT".toList then some (3 + signedOffsetLength (v.drop 3))
  else if v.head? == some '+' || v.head? == some '-' then
    let n := signedOffsetLength v
    if n > 0 then some n else none
  else
    let upper := (v.take 6).takeWhile (fun c => 'A' ≤ c && c ≤ 'Z')
    match upper.length with
    | 3 => some 3
    | 4 => if v.getD 3 ' ' == 'T' || v.take 4 == "WITA".toList then some 4 else none
    | 5 => if v.getD 4 ' ' == 'T' then some 5 else none
    | _ => none

/-- The nanoseconds of a fraction: a separator and `n` digits, of which the
first nine count. -/
def fractionNanos (digits : List Char) : Int :=
  let ds := digits.take 9
  let (n, _) := leadingDigits ds 0
  (n : Int) * (10 : Int) ^ (9 - ds.length)

def readElem (e : Elem) (v : List Char) (r : Reading) : Except Misfit (List Char × Reading) :=
  let bad : Except Misfit (List Char × Reading) := .error (.cannotRead v e.label)
  match e with
  | .text s =>
    match skipText s.toList v with
    | some w => .ok (w, r)
    | none => bad
  | .longYear =>
    match v with
    | c :: _ =>
      if v.length < 4 || !c.isDigit then bad
      else match readInt (v.take 4) with
        | some y => .ok (v.drop 4, { r with year := y })
        | none => bad
    | [] => bad
  | .shortYear =>
    if v.length < 2 then bad
    else match readInt (v.take 2) with
      | some y => .ok (v.drop 2, { r with year := if y ≥ 69 then y + 1900 else y + 2000 })
      | none => bad
  | .zeroMonth =>
    match twoDigits v true with
    | some (m, w) => if m ≤ 0 || 12 < m then .error (.outOfRange "month") else .ok (w, { r with month := m })
    | none => bad
  | .monthName =>
    match lookupName shortMonthNames v with
    | some (i, w) => .ok (w, { r with month := i + 1 })
    | none => bad
  | .zeroDay =>
    match twoDigits v true with
    | some (d, w) => .ok (w, { r with day := d })
    | none => bad
  | .spaceDay =>
    let v' := match v with
      | ' ' :: w => w
      | w => w
    match twoDigits v' false with
    | some (d, w) => .ok (w, { r with day := d })
    | none => bad
  | .weekdayName =>
    match lookupName shortDayNames v with
    | some (_, w) => .ok (w, r)
    | none => bad
  | .longWeekdayName =>
    match lookupName longDayNames v with
    | some (_, w) => .ok (w, r)
    | none => bad
  | .hour =>
    match twoDigits v false with
    | some (h, w) => if h < 0 || 24 ≤ h then .error (.outOfRange "hour") else .ok (w, { r with hour := h })
    | none => bad
  | .zeroMinute =>
    match twoDigits v true with
    | some (m, w) => if m < 0 || 60 ≤ m then .error (.outOfRange "minute") else .ok (w, { r with minute := m })
    | none => bad
  | .zeroSecond =>
    match twoDigits v true with
    | some (s, w) => if s < 0 || 60 ≤ s then .error (.outOfRange "second") else .ok (w, { r with second := s })
    | none => bad
  | .fraction =>
    match v with
    | sep :: d :: _ =>
      if (sep == '.' || sep == ',') && d.isDigit then
        let digits := (v.drop 1).takeWhile Char.isDigit
        .ok (v.drop (1 + digits.length), { r with nanos := fractionNanos digits })
      else .ok (v, r)
    | _ => .ok (v, r)
  | .isoZone =>
    match v with
    | 'Z' :: w => .ok (w, { r with offset := some 0 })
    | _ =>
      if (String.ofList v).utf8ByteSize < 6 || v.getD 3 ' ' != ':' then bad
      else
        let hh := twoDigits ((v.drop 1).take 2) true
        let mm := twoDigits ((v.drop 4).take 2) true
        match hh, mm with
        | some (h, _), some (m, _) =>
          if h > 24 then .error (.outOfRange "time zone offset hour")
          else if m > 60 then .error (.outOfRange "time zone offset minute")
          else
            let off := (h * 60 + m) * 60
            match v.head? with
            | some '+' => .ok (v.drop 6, { r with offset := some off })
            | some '-' => .ok (v.drop 6, { r with offset := some (-off) })
            | _ => bad
        | some (h, _), none =>
          if h > 24 then .error (.outOfRange "time zone offset hour") else bad
        | none, _ => bad
  | .zoneName =>
    if v.take 3 == "UTC".toList then .ok (v.drop 3, r)
    else match zoneNameLength v with
      | some n => .ok (v.drop n, r)
      | none => bad

def readLayout (layout : List Elem) (v : List Char) : Except Misfit Reading :=
  let rec go : List Elem → List Char → Reading → Except Misfit Reading
    | [], v, r => if v.isEmpty then .ok r else .error (.extraText v)
    | e :: es, v, r => do
      let (w, r') ← readElem e v r
      -- a fraction of a second may follow the seconds even where the layout has none
      let (w, r') ← if e == .zeroSecond && es.head? != some .fraction then readElem .fraction w r'
        else pure (w, r')
      go es w r'
  match go layout v {} with
  | .ok r =>
    let month := if r.month < 0 then 1 else r.month
    let day := if r.day < 0 then 1 else r.day
    if day < 1 || day > (daysIn month.toNat r.year : Int) then .error .dayOutOfRange
    else .ok { r with month := month, day := day }
  | .error m => .error m

def Reading.instant (r : Reading) : Instant :=
  let base := ofCivil r.year r.month.toNat r.day.toNat r.hour.toNat r.minute.toNat r.second.toNat
    r.nanos.toNat
  match r.offset with
  | some off => ⟨base.ns - off * nsPerSecond, off⟩
  | none => base

/-- RFC 3339 with an optional fraction of any length. -/
def rfc3339Layout : List Elem :=
  [.longYear, .text "-", .zeroMonth, .text "-", .zeroDay, .text "T", .hour, .text ":",
    .zeroMinute, .text ":", .zeroSecond, .fraction, .isoZone]

def rfc3339LayoutText : String := "2006-01-02T15:04:05.999999999Z07:00"

/-- The preferred HTTP date: `Fri, 01 Mar 2024 12:05:00 GMT`. -/
def httpDateLayout : List Elem :=
  [.weekdayName, .text ", ", .zeroDay, .text " ", .monthName, .text " ", .longYear, .text " ",
    .hour, .text ":", .zeroMinute, .text ":", .zeroSecond, .text " GMT"]

/-- The obsolete RFC 850 date: `Friday, 01-Mar-24 12:01:00 GMT`. -/
def rfc850Layout : List Elem :=
  [.longWeekdayName, .text ", ", .zeroDay, .text "-", .monthName, .text "-", .shortYear,
    .text " ", .hour, .text ":", .zeroMinute, .text ":", .zeroSecond, .text " ", .zoneName]

/-- The asctime date: `Fri Mar  1 12:02:00 2024`. -/
def asctimeLayout : List Elem :=
  [.weekdayName, .text " ", .monthName, .text " ", .spaceDay, .text " ", .hour, .text ":",
    .zeroMinute, .text ":", .zeroSecond, .text " ", .longYear]

/-- Reads an HTTP date in any of its three forms, trying them in order. -/
def parseHttpDate (s : String) : Option Instant :=
  let v := s.toList
  [httpDateLayout, rfc850Layout, asctimeLayout].findSome? fun l =>
    match readLayout l v with
    | .ok r => some r.instant
    | .error _ => none

/-- Writes text between double quotes for an error message: quotes and
backslashes are escaped, and control and non-ASCII characters are written as
their UTF-8 bytes in `\xhh` form. -/
def quoteText (s : String) : String :=
  let hex := fun (n : Nat) => String.ofList [Nat.digitChar (n / 16), Nat.digitChar (n % 16)]
  let esc := fun (c : Char) =>
    if c.toNat < 0x20 || c.toNat ≥ 0x80 then
      String.join ((String.singleton c).toUTF8.toList.map fun b => "\\x" ++ hex b.toNat)
    else if c == '"' || c == '\\' then "\\" ++ String.singleton c
    else String.singleton c
  "\"" ++ String.join (s.toList.map esc) ++ "\""

/-- The message of a text that is not an RFC 3339 instant. -/
def Misfit.message (value : String) : Misfit → String
  | .cannotRead rest label =>
    "parsing time " ++ quoteText value ++ " as " ++ quoteText rfc3339LayoutText ++
      ": cannot parse " ++ quoteText (String.ofList rest) ++ " as " ++ quoteText label
  | .outOfRange field => "parsing time " ++ quoteText value ++ ": " ++ field ++ " out of range"
  | .extraText rest =>
    "parsing time " ++ quoteText value ++ ": extra text: " ++ quoteText (String.ofList rest)
  | .dayOutOfRange => "parsing time " ++ quoteText value ++ ": day out of range"

/-- Reads an RFC 3339 instant, or explains why the text is not one. A zero
offset is written as UTC. -/
def parseRfc3339 (s : String) : Except String Instant :=
  match readLayout rfc3339Layout s.toList with
  | .ok r => .ok r.instant
  | .error m => .error (m.message s)

end Transclusion.Time
