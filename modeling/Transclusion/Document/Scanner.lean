import Transclusion.Text.Quote

/-!
# YAML tokens

The scanner turns YAML text into tokens the way the reference YAML reader
does, including the points where it fails and the messages it gives.

Indentation is tracked as a stack of columns: a block collection opens when
content starts to the right of the current column, and closes (`blockEnd`)
when a line starts to its left. A scalar may turn out to be the key of a
block mapping only when the `:` after it arrives; the scanner remembers such
"simple key" candidates per flow level and inserts the `key` token (and, when
needed, the mapping start) back at the candidate's position. A candidate
must stay on one line and within 1024 characters; a candidate that stood at
the indentation column was required, and losing it is an error.

The scanner runs ahead of the reader of tokens: it keeps at least three
tokens queued, and more while the first one may still become a key.

Characters are checked as they are decoded, 512 bytes of text at a time, so
a character YAML does not allow is reported only when the scanner first asks
for a character of its chunk: an error met earlier in the text wins. The
scanner asks for one character before each token, for four at the start of
each token, and for the character after the last one a token reads.
-/

namespace Transclusion.Yaml

/-- A position: character index, line and column, all from zero. -/
structure Mark where
  index : Nat := 0
  line : Nat := 0
  column : Nat := 0
  deriving Repr, Inhabited, DecidableEq

/-- How a scalar was written. -/
inductive ScalarStyle where
  | plain
  | singleQuoted
  | doubleQuoted
  | literal
  | folded
  deriving Repr, Inhabited, DecidableEq

/-- The kinds of tokens. -/
inductive TokenKind where
  | streamStart
  | streamEnd
  | versionDirective (major minor : Nat)
  | tagDirective (handle pfx : String)
  | documentStart
  | documentEnd
  | blockSequenceStart
  | blockMappingStart
  | blockEnd
  | flowSequenceStart
  | flowSequenceEnd
  | flowMappingStart
  | flowMappingEnd
  | blockEntry
  | flowEntry
  | key
  | value
  | alias (name : String)
  | anchor (name : String)
  | tag (handle suffix : String)
  | scalar (text : String) (style : ScalarStyle)
  deriving Repr, Inhabited, DecidableEq

/-- A token with where it starts and ends. -/
structure Token where
  kind : TokenKind
  start : Mark
  stop : Mark
  deriving Repr, Inhabited

/-- A candidate for a simple key. -/
structure SimpleKey where
  possible : Bool := false
  required : Bool := false
  tokenNumber : Nat := 0
  mark : Mark := {}
  deriving Repr, Inhabited

/-- Which stage of reading failed. -/
inductive Stage where
  | reader
  | scanner
  | parser
  /-- A failure in building the tree, reported without a line. -/
  | composer
  deriving Repr, Inhabited, DecidableEq

/-- A failure to read YAML text. -/
structure YamlError where
  stage : Stage
  context : String := ""
  contextMark : Mark := {}
  problem : String
  problemMark : Mark := {}
  deriving Repr, Inhabited

/-- The message: the problem, after a line number taken from the context
mark, or else the problem mark, when that is not the first line. Scanner
lines are counted from one, parser lines from zero, as the reference reader
reports them. -/
def YamlError.message (e : YamlError) : String :=
  let bump := if e.stage == .scanner then 1 else 0
  let line := if e.contextMark.line != 0 then e.contextMark.line + bump
    else if e.problemMark.line != 0 then e.problemMark.line + bump
    else 0
  "yaml: " ++ (if line != 0 then "line " ++ toString line ++ ": " else "") ++ e.problem

/-- The scanner's state. -/
structure Scanner where
  input : Array Char
  mark : Mark := {}
  /-- Every token produced, in order; `head` is the first not yet taken. -/
  tokens : Array Token := #[]
  head : Nat := 0
  started : Bool := false
  indent : Int := -1
  indents : List Int := []
  simpleKeyAllowed : Bool := false
  /-- The simple key candidates, innermost flow level first. -/
  simpleKeys : List SimpleKey := []
  flowLevel : Nat := 0
  /-- How many characters the reader hands over before it meets a character
  YAML does not allow; none when it allows them all. The input holds only
  these characters. -/
  readable : Option Nat := none
  deriving Inhabited

abbrev ScanResult (α : Type) := Except YamlError α

/-! ## Characters -/

def endChar : Char := Char.ofNat 0

def isBlank (c : Char) : Bool := c == ' ' || c == '\t'
def isBreak (c : Char) : Bool :=
  c == '\r' || c == '\n' || c.toNat == 0x85 || c.toNat == 0x2028 || c.toNat == 0x2029
def isZ (c : Char) : Bool := c.toNat == 0
def isBreakZ (c : Char) : Bool := isBreak c || isZ c
def isBlankZ (c : Char) : Bool := isBlank c || isBreakZ c
/-- Letters, digits, `_` and `-`. -/
def isWordChar (c : Char) : Bool := c.isAlphanum || c == '_' || c == '-'
def isHexChar (c : Char) : Bool := c.isDigit || ('a' ≤ c && c ≤ 'f') || ('A' ≤ c && c ≤ 'F')
def hexCharValue (c : Char) : Nat :=
  if c.isDigit then c.toNat - 48 else if 'a' ≤ c && c ≤ 'f' then c.toNat - 87 else c.toNat - 55

/-- Whether a character may appear in YAML text: tab, line feed, carriage
return, printable ASCII, next line, and the printable planes. -/
def isAllowedChar (c : Char) : Bool :=
  let v := c.toNat
  v == 0x09 || v == 0x0A || v == 0x0D || (0x20 ≤ v && v ≤ 0x7E) || v == 0x85 ||
    (0xA0 ≤ v && v ≤ 0xD7FF) || (0xE000 ≤ v && v ≤ 0xFFFD) || (0x10000 ≤ v && v ≤ 0x10FFFF)

def chunkBytes : Nat := 512

/-- How many characters the reader hands over before it stops at a
character YAML does not allow, or none when it allows them all. The reader
decodes 512 bytes at a time (a character cut by a chunk's end starts the
next chunk) and checks every character of a chunk as it decodes it, so it
stops at the first character of the chunk holding the refused one. -/
def readableChars (cs : List Char) : Option Nat :=
  let rec go : List Char → Nat → Nat → Nat → Nat → Option Nat
    | [], _, _, _, _ => none
    | c :: rest, i, b, chunkStart, chunkByte =>
      let w := c.utf8Size
      let (chunkStart, chunkByte) :=
        if b + w ≤ chunkByte + chunkBytes then (chunkStart, chunkByte) else (i, b)
      if isAllowedChar c then go rest (i + 1) (b + w) chunkStart chunkByte else some chunkStart
  go cs 0 0 0 0

/-- The reader's error for a character YAML does not allow. -/
def readerError : YamlError := { stage := .reader, problem := "control characters are not allowed" }

namespace Scanner

/-- The character `k` places ahead. -/
def peek (s : Scanner) (k : Nat := 0) : Char := s.input.getD (s.mark.index + k) endChar

def skip (s : Scanner) : Scanner :=
  { s with mark := { s.mark with index := s.mark.index + 1, column := s.mark.column + 1 } }

def skipLine (s : Scanner) : Scanner :=
  if s.peek == '\r' && s.peek 1 == '\n' then
    { s with mark := { index := s.mark.index + 2, line := s.mark.line + 1, column := 0 } }
  else if isBreak s.peek then
    { s with mark := { index := s.mark.index + 1, line := s.mark.line + 1, column := 0 } }
  else s

/-- Takes one character into `acc`. -/
def read (s : Scanner) (acc : Array Char) : Scanner × Array Char := (s.skip, acc.push s.peek)

/-- Takes a line break into `acc`, normalised: CR LF, CR, LF and next line
become a line feed; the line and paragraph separators stay. -/
def readLine (s : Scanner) (acc : Array Char) : Scanner × Array Char :=
  let c := s.peek
  if c == '\r' && s.peek 1 == '\n' then (s.skipLine, acc.push '\n')
  else if c == '\r' || c == '\n' || c.toNat == 0x85 then (s.skipLine, acc.push '\n')
  else if c.toNat == 0x2028 || c.toNat == 0x2029 then (s.skipLine, acc.push c)
  else (s, acc)

def fail (s : Scanner) (context : String) (contextMark : Mark) (problem : String) : YamlError :=
  { stage := .scanner, context, contextMark, problem, problemMark := s.mark }

def push (s : Scanner) (kind : TokenKind) (start stop : Mark) : Scanner :=
  { s with tokens := s.tokens.push { kind, start, stop } }

def topKey (s : Scanner) : SimpleKey := s.simpleKeys.headD {}

def setTopKey (s : Scanner) (k : SimpleKey) : Scanner :=
  { s with simpleKeys := k :: s.simpleKeys.tail }

/-! ## Indentation and simple keys -/

/-- Closes block collections deeper than `column`. -/
def unrollIndent (s : Scanner) (column : Int) : Scanner :=
  if s.flowLevel > 0 then s
  else
    let rec go : Nat → Scanner → Scanner
      | 0, s => s
      | fuel + 1, s =>
        if s.indent > column then
          let s := s.push .blockEnd s.mark s.mark
          go fuel { s with indent := s.indents.headD (-1), indents := s.indents.tail }
        else s
    go (s.indents.length + 1) s

/-- The deepest nesting read: flow collections inside each other, or block
indentation levels. -/
def maxDepth : Nat := 10000

/-- Opens a block collection at `column` when it is deeper than the current
indentation; the start token goes at `number` when given, else at the end. -/
def rollIndent (s : Scanner) (column : Int) (number : Option Nat) (kind : TokenKind) (mark : Mark) :
    ScanResult Scanner :=
  if s.flowLevel > 0 then .ok s
  else if s.indent < column then
    let s := { s with indents := s.indent :: s.indents, indent := column }
    if s.indents.length > maxDepth then
      .error (s.fail "while increasing indent level" s.topKey.mark "exceeded max depth of 10000")
    else
    let tok : Token := { kind, start := mark, stop := mark }
    match number with
    | none => .ok { s with tokens := s.tokens.push tok }
    | some n => .ok { s with tokens := s.tokens.insertIdxIfInBounds n tok }
  else .ok s

def removeSimpleKey (s : Scanner) : ScanResult Scanner :=
  let k := s.topKey
  if k.possible then
    if k.required then
      .error (s.fail "while scanning a simple key" k.mark "could not find expected ':'")
    else .ok (s.setTopKey { k with possible := false })
  else .ok s

/-- Remembers the current position as a simple key candidate, if one may
start here. -/
def saveSimpleKey (s : Scanner) : ScanResult Scanner := do
  let required := s.flowLevel == 0 && s.indent == (s.mark.column : Int)
  if s.simpleKeyAllowed then
    let k : SimpleKey := { possible := true, required, tokenNumber := s.tokens.size, mark := s.mark }
    let s ← s.removeSimpleKey
    pure (s.setTopKey k)
  else pure s

/-- Whether a candidate can still be a key here; a candidate left behind
(another line, or more than 1024 characters back) is dropped, and a required
one fails. Returns the validity and the candidate as updated. -/
def checkKey (s : Scanner) (k : SimpleKey) : ScanResult (Bool × SimpleKey) :=
  if !k.possible then .ok (false, k)
  else if k.mark.line < s.mark.line || k.mark.index + 1024 < s.mark.index then
    if k.required then .error (s.fail "while scanning a simple key" k.mark "could not find expected ':'")
    else .ok (false, { k with possible := false })
  else .ok (true, k)

/-- Enters a flow collection; a flow level above `maxDepth` fails. -/
def increaseFlowLevel (s : Scanner) : ScanResult Scanner :=
  let s := { s with simpleKeys := { mark := s.mark } :: s.simpleKeys, flowLevel := s.flowLevel + 1 }
  if s.flowLevel > maxDepth then
    .error (s.fail "while increasing flow level" s.mark "exceeded max depth of 10000")
  else .ok s

def decreaseFlowLevel (s : Scanner) : Scanner :=
  if s.flowLevel > 0 then { s with flowLevel := s.flowLevel - 1, simpleKeys := s.simpleKeys.tail }
  else s

/-! ## Between tokens -/

/-- Skips blanks, comments and line breaks up to the next token. Tabs are
skipped only inside flow collections or where no simple key may start. -/
def scanToNextToken (s : Scanner) : Scanner :=
  let rec go : Nat → Scanner → Scanner
    | 0, s => s
    | fuel + 1, s =>
      let s := if s.mark.column == 0 && s.peek.toNat == 0xFEFF then s.skip else s
      let rec blanks : Nat → Scanner → Scanner
        | 0, s => s
        | f + 1, s =>
          if s.peek == ' ' || ((s.flowLevel > 0 || !s.simpleKeyAllowed) && s.peek == '\t') then
            blanks f s.skip
          else s
      let s := blanks (s.input.size + 1) s
      let rec comment : Nat → Scanner → Scanner
        | 0, s => s
        | f + 1, s => if isBreakZ s.peek then s else comment f s.skip
      let s := if s.peek == '#' then comment (s.input.size + 1) s else s
      if isBreak s.peek then
        let s := s.skipLine
        go fuel (if s.flowLevel == 0 then { s with simpleKeyAllowed := true } else s)
      else s
  go (s.input.size + 1) s

/-! ## Scalars -/

/-- Reads blanks and line breaks after a scalar's text: `leading` records
whether a line break was met, with the first break and the following ones;
blanks before the first break are kept. -/
structure Gap where
  blanks : Array Char := #[]
  leading : Bool := false
  firstBreak : Array Char := #[]
  moreBreaks : Array Char := #[]

/-- Joins a gap into the scalar text: a single line feed folds to a space,
several keep all but the first; other breaks stay. -/
def Gap.join (g : Gap) (acc : Array Char) : Array Char :=
  if g.leading then
    if g.firstBreak.toList.head? == some '\n' then
      if g.moreBreaks.isEmpty then acc.push ' ' else acc ++ g.moreBreaks
    else acc ++ g.firstBreak ++ g.moreBreaks
  else acc ++ g.blanks

/-- Whether a document marker `---` or `...` starts at the current
position, at the beginning of a line. -/
def atDocumentMarker (s : Scanner) : Bool :=
  s.mark.column == 0 &&
    ((s.peek == '-' && s.peek 1 == '-' && s.peek 2 == '-') ||
     (s.peek == '.' && s.peek 1 == '.' && s.peek 2 == '.')) && isBlankZ (s.peek 3)

/-- Whether the current character ends a plain scalar's run of text: a `:`
before a blank, and inside flow collections any of `,?[]` and braces. A `:`
before anything else stays part of the text, also inside flow collections. -/
def endsPlain (s : Scanner) : Bool :=
  (s.peek == ':' && isBlankZ (s.peek 1)) ||
  (s.flowLevel > 0 && ",?[]\x7b\x7d".toList.contains s.peek)

def scanPlain (s : Scanner) : ScanResult Scanner := do
  let indent := s.indent + 1
  let start := s.mark
  let rec loop : Nat → Scanner → Array Char → Gap → Mark → ScanResult (Scanner × Array Char × Gap × Mark)
    | 0, s, acc, g, stop => .ok (s, acc, g, stop)
    | fuel + 1, s, acc, g, stop =>
      if s.atDocumentMarker || s.peek == '#' then .ok (s, acc, g, stop)
      else
        let rec word : Nat → Scanner → Array Char → Gap → Mark → Scanner × Array Char × Gap × Mark
          | 0, s, acc, g, stop => (s, acc, g, stop)
          | f + 1, s, acc, g, stop =>
            if isBlankZ s.peek || s.endsPlain then (s, acc, g, stop)
            else
              let acc := if g.leading || !g.blanks.isEmpty then g.join acc else acc
              let g : Gap := {}
              let (s, acc) := s.read acc
              word f s acc g s.mark
        let (s, acc, g, stop) := word (s.input.size + 1) s acc g stop
        if !(isBlank s.peek || isBreak s.peek) then .ok (s, acc, g, stop)
        else
          let rec gap : Nat → Scanner → Gap → ScanResult (Scanner × Gap)
            | 0, s, g => .ok (s, g)
            | f + 1, s, g =>
              if isBlank s.peek then
                if g.leading && (s.mark.column : Int) < indent && s.peek == '\t' then
                  .error (s.fail "while scanning a plain scalar" start
                    "found a tab character that violates indentation")
                else if !g.leading then
                  let (s, b) := s.read g.blanks
                  gap f s { g with blanks := b }
                else gap f s.skip g
              else if isBreak s.peek then
                if !g.leading then
                  let (s, b) := s.readLine #[]
                  gap f s { g with blanks := #[], firstBreak := b, leading := true }
                else
                  let (s, b) := s.readLine g.moreBreaks
                  gap f s { g with moreBreaks := b }
              else .ok (s, g)
          match gap (s.input.size + 1) s g with
          | .error e => .error e
          | .ok (s, g) =>
            if s.flowLevel == 0 && (s.mark.column : Int) < indent then .ok (s, acc, g, stop)
            else loop fuel s acc g stop
  let (s, acc, g, stop) ← loop (s.input.size + 1) s #[] {} s.mark
  let s := s.push (.scalar (String.ofList acc.toList) .plain) start stop
  pure (if g.leading then { s with simpleKeyAllowed := true } else s)

/-- The UTF-8-free character of an escape code. -/
def escapeChar (c : Char) : Option Char :=
  match c with
  | '0' => some (Char.ofNat 0)
  | 'a' => some (Char.ofNat 7)
  | 'b' => some (Char.ofNat 8)
  | 't' => some '\t'
  | '\t' => some '\t'
  | 'n' => some '\n'
  | 'v' => some (Char.ofNat 11)
  | 'f' => some (Char.ofNat 12)
  | 'r' => some '\r'
  | 'e' => some (Char.ofNat 27)
  | ' ' => some ' '
  | '"' => some '"'
  | '\'' => some '\''
  | '\\' => some '\\'
  | 'N' => some (Char.ofNat 0x85)
  | '_' => some (Char.ofNat 0xA0)
  | 'L' => some (Char.ofNat 0x2028)
  | 'P' => some (Char.ofNat 0x2029)
  | _ => none

/-- Scans a single- or double-quoted scalar. -/
def scanQuoted (s : Scanner) (single : Bool) : ScanResult Scanner := do
  let start := s.mark
  let s := s.skip
  let rec loop : Nat → Scanner → Array Char → ScanResult (Scanner × Array Char)
    | 0, s, acc => .ok (s, acc)
    | fuel + 1, s, acc =>
      if s.atDocumentMarker then
        .error (s.fail "while scanning a quoted scalar" start "found unexpected document indicator")
      else if isZ s.peek then
        .error (s.fail "while scanning a quoted scalar" start "found unexpected end of stream")
      else
        let rec word : Nat → Scanner → Array Char → Bool → ScanResult (Scanner × Array Char × Bool)
          | 0, s, acc, lb => .ok (s, acc, lb)
          | f + 1, s, acc, lb =>
            let c := s.peek
            if isBlankZ c then .ok (s, acc, lb)
            else if single && c == '\'' && s.peek 1 == '\'' then word f s.skip.skip (acc.push '\'') lb
            else if single && c == '\'' then .ok (s, acc, lb)
            else if !single && c == '"' then .ok (s, acc, lb)
            else if !single && c == '\\' && isBreak (s.peek 1) then .ok (s.skip.skipLine, acc, true)
            else if !single && c == '\\' then
              let e := s.peek 1
              let codeLength := if e == 'x' then 2 else if e == 'u' then 4 else if e == 'U' then 8 else 0
              if codeLength == 0 then
                match escapeChar e with
                | none => .error (s.fail "while parsing a quoted scalar" start "found unknown escape character")
                | some ch => word f s.skip.skip (acc.push ch) lb
              else
                let s := s.skip.skip
                let digits := (List.range codeLength).map fun k => s.peek k
                if !digits.all isHexChar then
                  .error (s.fail "while parsing a quoted scalar" start "did not find expected hexdecimal number")
                else
                  let v := digits.foldl (fun a d => a * 16 + hexCharValue d) 0
                  if (0xD800 ≤ v && v ≤ 0xDFFF) || v > 0x10FFFF then
                    .error (s.fail "while parsing a quoted scalar" start
                      "found invalid Unicode character escape code")
                  else
                    let s := (List.range codeLength).foldl (fun s _ => s.skip) s
                    word f s (acc.push (Char.ofNat v)) lb
            else
              let (s, acc) := s.read acc
              word f s acc lb
        match word (s.input.size + 1) s acc false with
        | .error e => .error e
        | .ok (s, acc, lb) =>
          if (single && s.peek == '\'') || (!single && s.peek == '"') then .ok (s, acc)
          else
            let rec gap : Nat → Scanner → Gap → Scanner × Gap
              | 0, s, g => (s, g)
              | f + 1, s, g =>
                if isBlank s.peek then
                  if !g.leading then
                    let (s, b) := s.read g.blanks
                    gap f s { g with blanks := b }
                  else gap f s.skip g
                else if isBreak s.peek then
                  if !g.leading then
                    let (s, b) := s.readLine #[]
                    gap f s { g with blanks := #[], firstBreak := b, leading := true }
                  else
                    let (s, b) := s.readLine g.moreBreaks
                    gap f s { g with moreBreaks := b }
                else (s, g)
            let (s, g) := gap (s.input.size + 1) s { leading := lb }
            loop fuel s (g.join acc)
  let (s, acc) ← loop (s.input.size + 1) s #[]
  let s := s.skip
  let style := if single then ScalarStyle.singleQuoted else .doubleQuoted
  pure (s.push (.scalar (String.ofList acc.toList) style) start s.mark)

/-- Skips indentation spaces and empty lines before and between the lines
of a block scalar, collecting the breaks; fixes the indentation when it is
not yet known. Returns the scanner, the indentation, the breaks and the end
mark. -/
def blockBreaks (s : Scanner) (indent : Nat) (breaks : Array Char) (start : Mark) :
    ScanResult (Scanner × Nat × Array Char × Mark) :=
  let rec go : Nat → Scanner → Array Char → Nat → Mark → ScanResult (Scanner × Array Char × Nat × Mark)
    | 0, s, b, m, stop => .ok (s, b, m, stop)
    | fuel + 1, s, b, maxIndent, stop =>
      let rec spaces : Nat → Scanner → Scanner
        | 0, s => s
        | f + 1, s =>
          if (indent == 0 || s.mark.column < indent) && s.peek == ' ' then spaces f s.skip else s
      let s := spaces (s.input.size + 1) s
      let maxIndent := max maxIndent s.mark.column
      if (indent == 0 || s.mark.column < indent) && s.peek == '\t' then
        .error (s.fail "while scanning a block scalar" start
          "found a tab character where an indentation space is expected")
      else if !isBreak s.peek then .ok (s, b, maxIndent, stop)
      else
        let (s, b) := s.readLine b
        go fuel s b maxIndent s.mark
  match go (s.input.size + 1) s breaks 0 s.mark with
  | .error e => .error e
  | .ok (s, b, maxIndent, stop) =>
    let indent := if indent == 0 then
        let i : Int := max (max (maxIndent : Int) (s.indent + 1)) 1
        i.toNat
      else indent
    .ok (s, indent, b, stop)

/-- Scans a literal (`|`) or folded (`>`) block scalar. -/
def scanBlock (s : Scanner) (literal : Bool) : ScanResult Scanner := do
  let start := s.mark
  let s := s.skip
  let err := fun (s : Scanner) (p : String) => s.fail "while scanning a block scalar" start p
  -- chomping and indentation indicators, in either order
  let (s, chomping, increment) ← (do
    if s.peek == '+' || s.peek == '-' then
      let chomping : Int := if s.peek == '+' then 1 else -1
      let s := s.skip
      if s.peek.isDigit then
        if s.peek == '0' then throw (err s "found an indentation indicator equal to 0")
        pure (s.skip, chomping, s.peek.toNat - 48)
      else pure (s, chomping, 0)
    else if s.peek.isDigit then
      if s.peek == '0' then throw (err s "found an indentation indicator equal to 0")
      let increment := s.peek.toNat - 48
      let s := s.skip
      if s.peek == '+' || s.peek == '-' then
        pure (s.skip, (if s.peek == '+' then 1 else -1 : Int), increment)
      else pure (s, 0, increment)
    else pure (s, (0 : Int), 0) : ScanResult (Scanner × Int × Nat))
  let rec blanks : Nat → Scanner → Scanner
    | 0, s => s
    | f + 1, s => if isBlank s.peek then blanks f s.skip else s
  let s := blanks (s.input.size + 1) s
  let rec comment : Nat → Scanner → Scanner
    | 0, s => s
    | f + 1, s => if isBreakZ s.peek then s else comment f s.skip
  let s := if s.peek == '#' then comment (s.input.size + 1) s else s
  if !isBreakZ s.peek then throw (err s "did not find expected comment or line break")
  let s := if isBreak s.peek then s.skipLine else s
  let indent : Nat := if increment > 0 then
      (if s.indent ≥ 0 then (s.indent + increment).toNat else increment) else 0
  let (s, indent, trailing, stop) ← blockBreaks s indent #[] start
  let rec lines : Nat → Scanner → Array Char → Array Char → Array Char → Bool → Mark →
      ScanResult (Scanner × Array Char × Array Char × Array Char × Mark)
    | 0, s, acc, lead, trail, _, stop => .ok (s, acc, lead, trail, stop)
    | fuel + 1, s, acc, lead, trail, leadingBlank, stop =>
      if s.mark.column == indent && !isZ s.peek then
        let trailingBlank := isBlank s.peek
        let acc := if !literal && !leadingBlank && !trailingBlank && lead.toList.head? == some '\n' then
            (if trail.isEmpty then acc.push ' ' else acc)
          else acc ++ lead
        let acc := acc ++ trail
        let leadingBlank := isBlank s.peek
        let rec rest : Nat → Scanner → Array Char → Scanner × Array Char
          | 0, s, acc => (s, acc)
          | f + 1, s, acc => if isBreakZ s.peek then (s, acc) else let (s, acc) := s.read acc; rest f s acc
        let (s, acc) := rest (s.input.size + 1) s acc
        let (s, lead) := s.readLine #[]
        match blockBreaks s indent #[] start with
        | .error e => .error e
        | .ok (s, _, trail, stop) => lines fuel s acc lead trail leadingBlank stop
      else .ok (s, acc, lead, trail, stop)
  let (s, acc, lead, trail, stop) ← lines (s.input.size + 1) s #[] #[] trailing false stop
  let acc := if chomping != -1 then acc ++ lead else acc
  let acc := if chomping == 1 then acc ++ trail else acc
  let style := if literal then ScalarStyle.literal else .folded
  pure (s.push (.scalar (String.ofList acc.toList) style) start stop)

/-! ## Anchors, aliases and tags -/

/-- Scans an anchor (`&name`) or alias (`*name`). -/
def scanAnchor (s : Scanner) (isAlias : Bool) : ScanResult Scanner :=
  let start := s.mark
  let s := s.skip
  let rec name : Nat → Scanner → Array Char → Scanner × Array Char
    | 0, s, acc => (s, acc)
    | f + 1, s, acc => if isWordChar s.peek then let (s, acc) := s.read acc; name f s acc else (s, acc)
  let (s, n) := name (s.input.size + 1) s #[]
  if n.isEmpty || !(isBlankZ s.peek || "?:,]\x7d%@`".toList.contains s.peek) then
    .error (s.fail (if isAlias then "while scanning an alias" else "while scanning an anchor") start
      "did not find expected alphabetic or numeric character")
  else
    let text := String.ofList n.toList
    .ok (s.push (if isAlias then .alias text else .anchor text) start s.mark)

/-- Whether a character may appear in a tag's URI; `wide` admits `,`, `[`
and `]` too, as inside `!<...>` and in a `%TAG` prefix. -/
def isUriChar (wide : Bool) (c : Char) : Bool :=
  isWordChar c || ";/?:@&=+$.!~*'()%".toList.contains c || (wide && ",[]".toList.contains c)

/-- The length of the UTF-8 sequence that a leading byte announces, or 0
for a byte that cannot lead one. -/
def sequenceWidth (b : Nat) : Nat :=
  if b < 0x80 then 1
  else if b / 32 == 6 then 2
  else if b / 16 == 14 then 3
  else if b / 8 == 30 then 4
  else 0

theorem sequenceWidth_ascii (b : Nat) (h : b < 0x80) : sequenceWidth b = 1 := by
  simp [sequenceWidth, h]

/-- Reads one escaped character of a URI: the bytes of one UTF-8 sequence,
each written `%` and two hexadecimal digits, as many as the leading byte
announces, each later one of the form `10xxxxxx`. -/
def scanEscapes (s : Scanner) (fail : Scanner → String → YamlError) :
    ScanResult (Scanner × List UInt8) :=
  let rec go : Nat → Scanner → Option Nat → List UInt8 → ScanResult (Scanner × List UInt8)
    | 0, s, _, acc => .ok (s, acc)
    | fuel + 1, s, left, acc =>
      if left == some 0 then .ok (s, acc)
      else if !(s.peek == '%' && isHexChar (s.peek 1) && isHexChar (s.peek 2)) then
        .error (fail s "did not find URI escaped octet")
      else
        let b := hexCharValue (s.peek 1) * 16 + hexCharValue (s.peek 2)
        let next := s.skip.skip.skip
        match left with
        | none =>
          let w := sequenceWidth b
          if w == 0 then .error (fail s "found an incorrect leading UTF-8 octet")
          else go fuel next (some (w - 1)) (acc ++ [b.toUInt8])
        | some k =>
          if b / 64 != 2 then .error (fail s "found an incorrect trailing UTF-8 octet")
          else go fuel next (some (k - 1)) (acc ++ [b.toUInt8])
  go 5 s none []

/-- Reads URI characters into `acc`, decoding escapes; the decoded bytes are
kept as text, a byte outside a valid sequence standing as U+FFFD. -/
def scanUri (s : Scanner) (wide : Bool) (fail : Scanner → String → YamlError) (acc : Array Char) :
    ScanResult (Scanner × Array Char) :=
  let rec go : Nat → Scanner → Array Char → ScanResult (Scanner × Array Char)
    | 0, s, acc => .ok (s, acc)
    | f + 1, s, acc =>
      if s.peek == '%' then
        match scanEscapes s fail with
        | .error e => .error e
        | .ok (s, bytes) => go f s (acc ++ (Text.textOfBytesLossy bytes).toList.toArray)
      else if isUriChar wide s.peek then
        let (s, acc) := s.read acc
        go f s acc
      else .ok (s, acc)
  go (s.input.size + 1) s acc

/-- Scans a tag: verbatim `!<uri>`, `!handle!suffix`, or `!suffix`. -/
def scanTag (s : Scanner) : ScanResult Scanner := do
  let start := s.mark
  let err := fun (s : Scanner) (p : String) => s.fail "while scanning a tag" start p
  let (s, handle, suffix) ← (do
    if s.peek 1 == '<' then
      let (s, u) ← scanUri s.skip.skip true err #[]
      if u.isEmpty then throw (err s "did not find expected tag URI")
      if s.peek != '>' then throw (err s "did not find the expected '>'")
      pure (s.skip, "", String.ofList u.toList)
    else
      -- a handle is `!`, word characters, and a closing `!`
      let s1 := s.skip
      let rec word : Nat → Scanner → Array Char → Scanner × Array Char
        | 0, s, acc => (s, acc)
        | f + 1, s, acc => if isWordChar s.peek then let (s, acc) := s.read acc; word f s acc else (s, acc)
      let (s2, w) := word (s.input.size + 1) s1 #['!']
      if s2.peek == '!' then
        let (s3, u) ← scanUri s2.skip false err #[]
        if u.isEmpty then throw (err s3 "did not find expected tag URI")
        pure (s3, String.ofList (w.push '!').toList, String.ofList u.toList)
      else
        let (s3, u) ← scanUri s2 false err (w.extract 1 w.size)
        if u.isEmpty then pure (s3, "", "!")
        else pure (s3, "!", String.ofList u.toList) : ScanResult (Scanner × String × String))
  if !(isBlankZ s.peek || (s.flowLevel > 0 && s.peek == ',')) then
    throw (err s "did not find expected whitespace or line break")
  pure (s.push (.tag handle suffix) start s.mark)

/-- Scans a directive line: `%YAML major.minor` or `%TAG handle prefix`. -/
def scanDirective (s : Scanner) : ScanResult Scanner := do
  let start := s.mark
  let err := fun (s : Scanner) (p : String) => s.fail "while scanning a directive" start p
  let s := s.skip
  let rec word : Nat → Scanner → Array Char → Scanner × Array Char
    | 0, s, acc => (s, acc)
    | f + 1, s, acc => if isWordChar s.peek then let (s, acc) := s.read acc; word f s acc else (s, acc)
  let (s, name) := word (s.input.size + 1) s #[]
  if name.isEmpty then throw (err s "could not find expected directive name")
  if !isBlankZ s.peek then throw (err s "found unexpected non-alphabetical character")
  let rec blanks : Nat → Scanner → Scanner
    | 0, s => s
    | f + 1, s => if isBlank s.peek then blanks f s.skip else s
  let rec digits : Nat → Scanner → Array Char → Scanner × Array Char
    | 0, s, acc => (s, acc)
    | f + 1, s, acc => if s.peek.isDigit then let (s, acc) := s.read acc; digits f s acc else (s, acc)
  let (s, kind) ← (do
    if name == #['Y', 'A', 'M', 'L'] then
      let s := blanks (s.input.size + 1) s
      let (s, major) := digits 3 s #[]
      if major.size > 2 then throw (err s "found extremely long version number")
      if major.isEmpty then throw (err s "did not find expected version number")
      if s.peek != '.' then throw (err s "did not find expected digit or '.' character")
      let (s, minor) := digits 3 s.skip #[]
      if minor.size > 2 then throw (err s "found extremely long version number")
      if minor.isEmpty then throw (err s "did not find expected version number")
      let value := fun (a : Array Char) => a.foldl (fun n c => n * 10 + (c.toNat - 48)) 0
      pure (s, TokenKind.versionDirective (value major) (value minor))
    else if name == #['T', 'A', 'G'] then
      let s := blanks (s.input.size + 1) s
      if s.peek != '!' then throw (err s "did not find expected '!'")
      let (s, h) := word (s.input.size + 1) s.skip #['!']
      let (s, h) ← if s.peek == '!' then pure (s.skip, h.push '!')
        else if h.size > 1 then throw (err s "did not find expected '!'")
        else pure (s, h)
      if !isBlank s.peek then throw (err s "did not find expected whitespace")
      let s := blanks (s.input.size + 1) s
      let (s, p) ← scanUri s true err #[]
      if p.isEmpty then throw (err s "did not find expected tag URI")
      if !isBlankZ s.peek then throw (err s "did not find expected whitespace or line break")
      pure (s, TokenKind.tagDirective (String.ofList h.toList) (String.ofList p.toList))
    else throw (err s "found unknown directive name") : ScanResult (Scanner × TokenKind))
  let stop := s.mark
  let s := blanks (s.input.size + 1) s
  let rec comment : Nat → Scanner → Scanner
    | 0, s => s
    | f + 1, s => if isBreakZ s.peek then s else comment f s.skip
  let s := if s.peek == '#' then comment (s.input.size + 1) s else s
  if !isBreakZ s.peek then throw (err s "did not find expected comment or line break")
  let s := s.skipLine
  pure (s.push kind start stop)

/-! ## Fetching tokens -/

def indicator (s : Scanner) (kind : TokenKind) : Scanner :=
  let start := s.mark
  let s := s.skip
  s.push kind start s.mark

/-- Ends the stream: closes every block and drops the key candidate. -/
def fetchStreamEnd (s : Scanner) : ScanResult Scanner :=
  let s := if s.mark.column != 0 then
      { s with mark := { s.mark with column := 0, line := s.mark.line + 1 } } else s
  let s := s.unrollIndent (-1)
  match s.removeSimpleKey with
  | .error e => .error e
  | .ok s => .ok ({ s with simpleKeyAllowed := false }.push .streamEnd s.mark s.mark)

/-- A directive or document marker at the start of a line closes every
block first. -/
def closeBlocks (s : Scanner) : ScanResult Scanner :=
  match (s.unrollIndent (-1)).removeSimpleKey with
  | .error e => .error e
  | .ok s => .ok { s with simpleKeyAllowed := false }

/-- Scans a document marker (`---` or `...`). -/
def fetchDocumentMarker (s : Scanner) (kind : TokenKind) : ScanResult Scanner :=
  match s.closeBlocks with
  | .error e => .error e
  | .ok s =>
    let start := s.mark
    let s := s.skip.skip.skip
    .ok (s.push kind start s.mark)

/-- A block entry or explicit key in block context may open a collection
at its column, where a new entry is allowed. -/
def openBlock (s : Scanner) (kind : TokenKind) (problem : String) : ScanResult Scanner :=
  if s.flowLevel == 0 then
    if !s.simpleKeyAllowed then .error (s.fail "" s.mark problem)
    else s.rollIndent s.mark.column none kind s.mark
  else .ok s

/-- Scans a `:`. When the innermost key candidate is still valid, the key
(and, in block context, the mapping start) goes in at its position. -/
def fetchValue (s : Scanner) : ScanResult Scanner :=
  match s.checkKey s.topKey with
  | .error e => .error e
  | .ok (true, k) =>
    let tok : Token := { kind := .key, start := k.mark, stop := k.mark }
    let s := { s with tokens := s.tokens.insertIdxIfInBounds k.tokenNumber tok }
    match s.rollIndent k.mark.column (some k.tokenNumber) .blockMappingStart k.mark with
    | .error e => .error e
    | .ok s =>
      let s := s.setTopKey { k with possible := false }
      .ok ({ s with simpleKeyAllowed := false }.indicator .value)
  | .ok (false, k) =>
    let s := s.setTopKey k
    match s.openBlock .blockMappingStart "mapping values are not allowed in this context" with
    | .error e => .error e
    | .ok s => .ok ({ s with simpleKeyAllowed := s.flowLevel == 0 }.indicator .value)

/-- Whether a plain scalar may start at the current character. -/
def startsPlain (s : Scanner) (c : Char) : Bool :=
  !(isBlankZ c || "-?:,[]\x7b\x7d#&*!|>'\"%@`".toList.contains c) ||
    (c == '-' && !isBlank (s.peek 1)) ||
    (s.flowLevel == 0 && (c == '?' || c == ':') && !isBlankZ (s.peek 1))

/-- Runs `f` after saving a key candidate; the token it scans cannot be
followed by another key candidate. -/
def withKey (s : Scanner) (f : Scanner → ScanResult Scanner) : ScanResult Scanner :=
  match s.saveSimpleKey with
  | .error e => .error e
  | .ok s => f { s with simpleKeyAllowed := false }

/-- Runs `f` after dropping the key candidate, with `allowed` telling
whether a key may start next. -/
def withoutKey (s : Scanner) (allowed : Bool) (f : Scanner → ScanResult Scanner) : ScanResult Scanner :=
  match s.removeSimpleKey with
  | .error e => .error e
  | .ok s => f { s with simpleKeyAllowed := allowed }

/-- Whether the characters before index `upTo` go beyond what the reader
hands over. -/
def exceeds (s : Scanner) (upTo : Nat) : Bool :=
  match s.readable with
  | some r => upTo > r
  | none => false

/-- A reader that allows every character never runs short. -/
theorem exceeds_unlimited (s : Scanner) (h : s.readable = none) (n : Nat) : s.exceeds n = false := by
  simp [exceeds, h]

/-- Scans the next token (or several, when indentation closes blocks or a
key is inserted), asking for four characters once at its start. -/
def fetchToken (s : Scanner) : ScanResult Scanner :=
  if !s.started then
    let s := { s with started := true, simpleKeyAllowed := true, simpleKeys := [{}] }
    .ok (s.push .streamStart s.mark s.mark)
  else
  let s := s.scanToNextToken
  if s.exceeds (s.mark.index + 4) then .error readerError else
  let s := s.unrollIndent s.mark.column
  let c := s.peek
  let marker := fun (ch : Char) => s.mark.column == 0 && c == ch && s.peek 1 == ch && s.peek 2 == ch &&
    isBlankZ (s.peek 3)
  if isZ c then s.fetchStreamEnd
  else if s.mark.column == 0 && c == '%' then
    match s.closeBlocks with
    | .error e => .error e
    | .ok s => s.scanDirective
  else if marker '-' then s.fetchDocumentMarker .documentStart
  else if marker '.' then s.fetchDocumentMarker .documentEnd
  else if c == '[' || c == '{' then
    s.withKey fun s => match s.increaseFlowLevel with
      | .error e => .error e
      | .ok s => .ok ({ s with simpleKeyAllowed := true }.indicator
          (if c == '[' then .flowSequenceStart else .flowMappingStart))
  else if c == ']' || c == '}' then
    s.withoutKey false fun s => .ok (s.decreaseFlowLevel.indicator
      (if c == ']' then .flowSequenceEnd else .flowMappingEnd))
  else if c == ',' then s.withoutKey true fun s => .ok (s.indicator .flowEntry)
  else if c == '-' && isBlankZ (s.peek 1) then
    match s.openBlock .blockSequenceStart "block sequence entries are not allowed in this context" with
    | .error e => .error e
    | .ok s => s.withoutKey true fun s => .ok (s.indicator .blockEntry)
  else if c == '?' && (s.flowLevel > 0 || isBlankZ (s.peek 1)) then
    match s.openBlock .blockMappingStart "mapping keys are not allowed in this context" with
    | .error e => .error e
    | .ok s => s.withoutKey (s.flowLevel == 0) fun s => .ok (s.indicator .key)
  else if c == ':' && (s.flowLevel > 0 || isBlankZ (s.peek 1)) then s.fetchValue
  else if c == '*' || c == '&' then s.withKey fun s => s.scanAnchor (c == '*')
  else if c == '!' then s.withKey scanTag
  else if (c == '|' || c == '>') && s.flowLevel == 0 then
    s.withoutKey true fun s => s.scanBlock (c == '|')
  else if c == '\'' || c == '"' then s.withKey fun s => s.scanQuoted (c == '\'')
  else if s.startsPlain c then s.withKey scanPlain
  else .error (s.fail "while scanning for the next token" s.mark "found character that cannot start any token")

/-- Fetches the next tokens, or the reader's error when scanning them asked
for characters the reader does not hand over. -/
def fetchNext (s : Scanner) : ScanResult Scanner :=
  if s.exceeds (s.mark.index + 1) then .error readerError
  else match s.fetchToken with
    | .ok s' => if s'.exceeds (s'.mark.index + 1) then .error readerError else .ok s'
    | .error e => if s.exceeds (e.problemMark.index + 1) then .error readerError else .error e

/-- Fetches tokens until at least three are queued and the first cannot
still turn into a key. -/
def fetchMore (s : Scanner) : ScanResult Scanner :=
  let rec go : Nat → Scanner → ScanResult Scanner
    | 0, s => .ok s
    | fuel + 1, s =>
      if s.head + 2 < s.tokens.size then
        match s.simpleKeys.findIdx? (fun k => k.possible && k.tokenNumber == s.head) with
        | none => .ok s
        | some i =>
          match s.checkKey (s.simpleKeys.getD i {}) with
          | .error e => .error e
          | .ok (false, k) => .ok { s with simpleKeys := s.simpleKeys.set i k }
          | .ok (true, _) =>
            match s.fetchNext with
            | .error e => .error e
            | .ok s => go fuel s
      else
        match s.fetchNext with
        | .error e => .error e
        | .ok s => go fuel s
  go (s.input.size - s.mark.index + 8) s

/-- The first token not yet taken. -/
def peekToken (s : Scanner) : ScanResult (Token × Scanner) := do
  let s ← s.fetchMore
  match s.tokens[s.head]? with
  | some t => pure (t, s)
  | none => throw { stage := .scanner, problem := "unexpected end of tokens", problemMark := s.mark }

/-- Takes the first token. -/
def skipToken (s : Scanner) : Scanner := { s with head := s.head + 1 }

/-- A scanner over a text, or the reader's error when the text's first
chunk holds a character YAML does not allow; past the first chunk, the
scanner sees only what the reader hands over. -/
def start (text : String) : ScanResult Scanner :=
  match readableChars text.toList with
  | none => .ok { input := text.toList.toArray }
  | some 0 => .error readerError
  | some r => .ok { input := (text.toList.take r).toArray, readable := some r }

end Scanner

end Transclusion.Yaml
