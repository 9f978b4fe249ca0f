/-!
# Cutting markup into tokens

The lexer reads a document as bytes and cuts it into tokens following the
HTML tokenization rules: text runs until a `<` that opens a tag, an end tag,
a comment or markup declaration; tags read a name and attributes; the text
after a `script`, `style`, `textarea`, `title`, `xmp`, `iframe`, `noscript`,
`noembed` or `noframes` start tag runs to the matching end tag, and after
`plaintext` to the end of the document.

Tokenizing stops at the end of the input. When the input ends inside a tag or
end tag, that tag is not a token and nothing after it is.

A start tag is self-closing when its last character before `>` is `/`, unless
that `/` ends an unquoted attribute value: `<a href=/x/>` opens an element.

A token covers a span of bytes of the document, `[start, stop)`. Every
token covers at least one byte, and each token starts where the one before it
stopped, so the spans tile the document up to where tokenizing stopped. Tags
carry their lower-cased name and, for start tags, the spans of their
attributes' names and values as written.
-/

namespace Transclusion.Markup

/-- The kinds of token. -/
inductive TokenKind where
  | text
  | startTag
  | selfClosingTag
  | endTag
  | comment
  | doctype
  deriving Repr, DecidableEq, Inhabited

/-- An attribute as written: the byte spans of its name and of its value. -/
structure AttrSpan where
  keyStart : Nat
  keyStop : Nat
  valueStart : Nat
  valueStop : Nat
  deriving Repr, DecidableEq, Inhabited

/-- A token and the bytes `[start, stop)` it covers. -/
structure Token where
  kind : TokenKind
  start : Nat
  stop : Nat
  /-- The tag name as written (for tags). -/
  nameStart : Nat := 0
  nameStop : Nat := 0
  /-- The attributes of a start tag, in order. -/
  attrs : List AttrSpan := []
  deriving Repr, Inhabited

def isSpaceByte (c : UInt8) : Bool := c == 32 || c == 9 || c == 10 || c == 12 || c == 13

def isLetterByte (c : UInt8) : Bool := (65 ≤ c && c ≤ 90) || (97 ≤ c && c ≤ 122)

def lowerByte (c : UInt8) : UInt8 := if 65 ≤ c && c ≤ 90 then c + 32 else c

def rawTextElements : List String :=
  ["iframe", "noembed", "noframes", "noscript", "plaintext", "script", "style", "textarea",
    "title", "xmp"]

/-- Where the lexer stands between two tokens. -/
structure LexState where
  /-- The next byte to read. -/
  pos : Nat := 0
  /-- The element whose raw text comes next, lower case. -/
  rawTag : Option String := none
  /-- The input ended inside the last token. -/
  ended : Bool := false
  deriving Repr, Inhabited

section
variable (doc : ByteArray)

/-- The first position at or after `i` that is not a blank, or `none` when the
input ends first. -/
def skipBlanks (i : Nat) : Option Nat :=
  if h : i < doc.size then
    if isSpaceByte doc[i] then skipBlanks (i + 1) else some i
  else none
termination_by doc.size - i

/-- The end of a tag name read from `i`, and where reading goes on: a blank
ends the name and is consumed, `/` and `>` end it and are not. -/
def tagNameEnd (i : Nat) : Option (Nat × Nat) :=
  if h : i < doc.size then
    let c := doc[i]
    if isSpaceByte c then some (i, i + 1)
    else if c == 47 || c == 62 then some (i, i)
    else tagNameEnd (i + 1)
  else none
termination_by doc.size - i

/-- The end of an attribute name that starts at `start`: a blank, `/`, `>`, or
`=` other than as its first character. -/
def attrNameEnd (start i : Nat) : Option Nat :=
  if h : i < doc.size then
    let c := doc[i]
    if c == 61 then (if i == start then attrNameEnd start (i + 1) else some i)
    else if isSpaceByte c || c == 47 || c == 62 then some i
    else attrNameEnd start (i + 1)
  else none
termination_by doc.size - i

/-- The first position at or after `i` holding byte `b`. -/
def findByte (b : UInt8) (i : Nat) : Option Nat :=
  if h : i < doc.size then
    if doc[i] == b then some i else findByte b (i + 1)
  else none
termination_by doc.size - i

/-- The end of an unquoted attribute value: the next blank or `>`. -/
def unquotedEnd (i : Nat) : Option Nat :=
  if h : i < doc.size then
    let c := doc[i]
    if isSpaceByte c || c == 62 then some i else unquotedEnd (i + 1)
  else none
termination_by doc.size - i

/-- Reads what follows an attribute name at `i`: the value's span (empty when
there is none) and where reading goes on. -/
def attrValue (i : Nat) : Option (Nat × Nat × Nat) :=
  match skipBlanks doc i with
  | none => none
  | some j =>
    let c := doc.get! j
    if c == 47 then some (i, i, j + 1)
    else if c != 61 then some (i, i, j)
    else match skipBlanks doc (j + 1) with
      | none => none
      | some k =>
        let q := doc.get! k
        if q == 62 then some (i, i, k)
        else if q == 34 || q == 39 then
          match findByte doc q (k + 1) with
          | some e => some (k + 1, e, e + 1)
          | none => none
        else match unquotedEnd doc (k + 1) with
          | some e => some (k, e, e)
          | none => none

/-- Reads attributes from `i` up to and including the closing `>`: the
attributes with a non-empty name, and the position after `>`. -/
def tagAttrs (i : Nat) (acc : List AttrSpan) : Option (List AttrSpan × Nat) :=
  if h : i < doc.size then
    if doc[i] == 62 then some (acc.reverse, i + 1)
    else
      match attrNameEnd doc i i with
      | none => none
      | some ke =>
        match attrValue doc ke with
        | none => none
        | some (vs, ve, r) =>
          let acc := if i < ke then ⟨i, ke, vs, ve⟩ :: acc else acc
          match skipBlanks doc r with
          | none => none
          | some p => if i < p then tagAttrs p acc else none
  else none
termination_by doc.size - i

/-- Reads a tag whose name starts just before `i`: the end of the name, the
attributes, and the position after `>`. -/
def readTag (i : Nat) : Option (Nat × List AttrSpan × Nat) :=
  match tagNameEnd doc i with
  | none => none
  | some (ne, p) =>
    match skipBlanks doc p with
    | none => none
    | some q => (tagAttrs doc q []).map fun (as, e) => (ne, as, e)

/-- The position after the next `>`, or the end of the input (and `true`). -/
def untilCloseAngle (i : Nat) : Nat × Bool :=
  match findByte doc 62 i with
  | some k => (k + 1, false)
  | none => (doc.size, true)

/-- Reads the body of a `<!--` comment from `i`: it ends at `-->`, at `--!>`,
or at a `>` right after the opening (`<!-->`, `<!--->`). -/
def commentEnd (i : Nat) (dashes : Nat) (beginning : Bool) : Nat × Bool :=
  if h : i < doc.size then
    let c := doc[i]
    if c == 45 then commentEnd (i + 1) (dashes + 1) beginning
    else if c == 62 && (dashes ≥ 2 || beginning) then (i + 1, false)
    else if c == 33 && dashes ≥ 2 then
      if h2 : i + 1 < doc.size then
        let d := doc[i + 1]
        if d == 62 then (i + 2, false)
        else if d == 45 then commentEnd (i + 2) 1 false
        else commentEnd (i + 2) 0 false
      else (doc.size, true)
    else commentEnd (i + 1) 0 false
  else (doc.size, true)
termination_by doc.size - i

/-- How many bytes from `i` spell `word` in either case. -/
def caselessMatch (word : List UInt8) (i : Nat) : Nat :=
  match word with
  | [] => 0
  | w :: ws =>
    if h : i < doc.size then
      if lowerByte doc[i] == w then 1 + caselessMatch ws (i + 1) else 0
    else 0

/-- Reads a markup declaration whose `<!` starts at `start`: a comment, a
doctype, or a bogus comment up to the next `>`. -/
def markupDecl (start : Nat) : Token × Nat × Bool :=
  let j := start + 2
  if j + 1 < doc.size then
    if doc.get! j == 45 && doc.get! (j + 1) == 45 then
      let (e, ended) := commentEnd doc (j + 2) 0 true
      (⟨.comment, start, e, 0, 0, []⟩, e, ended)
    else
      let m := caselessMatch doc "doctype".toUTF8.toList j
      if m == 7 then
        match skipBlanks doc (j + 7) with
        | none => (⟨.doctype, start, doc.size, 0, 0, []⟩, doc.size, true)
        | some k =>
          let (e, ended) := untilCloseAngle doc k
          (⟨.doctype, start, e, 0, 0, []⟩, e, ended)
      else if j + m ≥ doc.size then (⟨.comment, start, doc.size, 0, 0, []⟩, doc.size, true)
      else
        let (e, ended) := untilCloseAngle doc j
        (⟨.comment, start, e, 0, 0, []⟩, e, ended)
  else (⟨.comment, start, doc.size, 0, 0, []⟩, doc.size, true)

/-- How an attempt to read the end tag of a raw text element went. -/
inductive EndTagRead where
  /-- The end tag is there; raw text stops before its `<`. -/
  | found
  /-- The input ended first. -/
  | ended
  /-- It is not the end tag; reading goes on at this position. -/
  | resume (k : Nat)

/-- Reads the name of a raw text element after `</` at `k`, followed by a
blank, `/` or `>`. -/
def rawEndTag (name : List UInt8) (k : Nat) : EndTagRead :=
  let m := caselessMatch doc name k
  if m < name.length then
    if k + m < doc.size then .resume (k + m) else .ended
  else if h : k + m < doc.size then
    let c := doc[k + m]
    if isSpaceByte c || c == 47 || c == 62 then .found else .resume (k + m)
  else .ended

/-- The end of the raw text of element `name` from `i`: the `<` of its end
tag, or the end of the input (and `true`). -/
def rawTextEnd (name : List UInt8) (i : Nat) : Nat × Bool :=
  if h : i < doc.size then
    if doc[i] != 60 then rawTextEnd name (i + 1)
    else if i + 1 < doc.size then
      if doc.get! (i + 1) != 47 then rawTextEnd name (i + 1)
      else match rawEndTag doc name (i + 2) with
        | .found => (i, false)
        | .ended => (doc.size, true)
        | .resume k => if i < k then rawTextEnd name k else (doc.size, true)
    else (doc.size, true)
  else (doc.size, true)
termination_by doc.size - i

/-- The states of script text. -/
inductive ScriptState where
  | data | lessThan | escapeStart | escapeStartDash
  | escaped | escapedDash | escapedDashDash | escapedLessThan
  | doubleEscapeStart | doubleEscaped | doubleEscapedDash | doubleEscapedDashDash
  | doubleEscapedLessThan
  deriving Repr, DecidableEq

/-- The end of script text: the `<` of `</script`, following the rules that
hide an end tag inside `<!--` and `<script` escapes, or the end of the input
(and `true`). Each step reads at most a few bytes and never moves back past
what an earlier step read, so `fuel` steps proportional to the input are
always enough. -/
def scriptEnd (fuel : Nat) (st : ScriptState) (i : Nat) : Nat × Bool :=
  match fuel with
  | 0 => (doc.size, true)
  | fuel + 1 =>
    if h : i < doc.size then
      let c := doc[i]
      let next := scriptEnd fuel
      let word := "script".toUTF8.toList
      match st with
      | .data => if c == 60 then next .lessThan (i + 1) else next .data (i + 1)
      | .lessThan =>
        if c == 47 then
          match rawEndTag doc word (i + 1) with
          | .found => (i - 1, false)
          | .ended => (doc.size, true)
          | .resume k => next .data k
        else if c == 33 then next .escapeStart (i + 1)
        else next .data i
      | .escapeStart => if c == 45 then next .escapeStartDash (i + 1) else next .data i
      | .escapeStartDash => if c == 45 then next .escapedDashDash (i + 1) else next .data i
      | .escaped =>
        if c == 45 then next .escapedDash (i + 1)
        else if c == 60 then next .escapedLessThan (i + 1)
        else next .escaped (i + 1)
      | .escapedDash =>
        if c == 45 then next .escapedDashDash (i + 1)
        else if c == 60 then next .escapedLessThan (i + 1)
        else next .escaped (i + 1)
      | .escapedDashDash =>
        if c == 45 then next .escapedDashDash (i + 1)
        else if c == 60 then next .escapedLessThan (i + 1)
        else if c == 62 then next .data (i + 1)
        else next .escaped (i + 1)
      | .escapedLessThan =>
        if c == 47 then
          match rawEndTag doc word (i + 1) with
          | .found => (i - 1, false)
          | .ended => (doc.size, true)
          | .resume k => next .escaped k
        else if isLetterByte c then next .doubleEscapeStart i
        else next .data i
      | .doubleEscapeStart =>
        let m := caselessMatch doc word i
        if m < 6 then
          if i + m < doc.size then next .escaped (i + m) else (doc.size, true)
        else if h2 : i + 6 < doc.size then
          let d := doc[i + 6]
          if isSpaceByte d || d == 47 || d == 62 then next .doubleEscaped (i + 7)
          else next .escaped (i + 6)
        else (doc.size, true)
      | .doubleEscaped =>
        if c == 45 then next .doubleEscapedDash (i + 1)
        else if c == 60 then next .doubleEscapedLessThan (i + 1)
        else next .doubleEscaped (i + 1)
      | .doubleEscapedDash =>
        if c == 45 then next .doubleEscapedDashDash (i + 1)
        else if c == 60 then next .doubleEscapedLessThan (i + 1)
        else next .doubleEscaped (i + 1)
      | .doubleEscapedDashDash =>
        if c == 45 then next .doubleEscapedDashDash (i + 1)
        else if c == 60 then next .doubleEscapedLessThan (i + 1)
        else if c == 62 then next .data (i + 1)
        else next .doubleEscaped (i + 1)
      | .doubleEscapedLessThan =>
        if c == 47 then
          match rawEndTag doc word (i + 1) with
          | .found => next .escaped (i + 8)
          | .ended => (doc.size, true)
          | .resume k => next .doubleEscaped k
        else next .doubleEscaped i
    else (doc.size, true)

/-- The next `<` from `i` that opens a start tag, an end tag or a markup
declaration, and which of them; `none` when the text runs to the end. -/
def nextOpening (i : Nat) : Option (Nat × UInt8) :=
  if h : i < doc.size then
    if doc[i] == 60 then
      if h2 : i + 1 < doc.size then
        let c := doc[i + 1]
        if isLetterByte c || c == 47 || c == 33 || c == 63 then some (i, c)
        else nextOpening (i + 1)
      else none
    else nextOpening (i + 1)
  else none
termination_by doc.size - i

/-- The lower-case text of the bytes `[a, b)`. -/
def lowerSlice (a b : Nat) : String :=
  (String.fromUTF8? ((doc.extract a b).data.map lowerByte |> ByteArray.mk)).getD ""

/-- The next token of ordinary markup from `p`, and the state after it. -/
def markupToken (p : Nat) : Option (Token × LexState) :=
  match nextOpening doc p with
  | none => if p < doc.size then some (⟨.text, p, doc.size, 0, 0, []⟩, ⟨doc.size, none, true⟩) else none
  | some (i, c) =>
    if p < i then some (⟨.text, p, i, 0, 0, []⟩, ⟨i, none, false⟩)
    else if isLetterByte c then
      match readTag doc (i + 2) with
      | none => none
      | some (ne, attrs, e) =>
        let name := lowerSlice doc (i + 1) ne
        let raw := if rawTextElements.contains name then some name else none
        let slashEnd := doc.get! (e - 2) == 47
        let valueEnds := match attrs.getLast? with
          | some a => a.valueStop + 1 == e
          | none => false
        let kind := if slashEnd && !valueEnds then TokenKind.selfClosingTag else .startTag
        some (⟨kind, i, e, i + 1, ne, attrs⟩, ⟨e, raw, false⟩)
    else if c == 47 then
      let j := i + 2
      if h : j < doc.size then
        let d := doc[j]
        if d == 62 then some (⟨.comment, i, j + 1, 0, 0, []⟩, ⟨j + 1, none, false⟩)
        else if isLetterByte d then
          match readTag doc (j + 1) with
          | none => none
          | some (ne, _, e) => some (⟨.endTag, i, e, j, ne, []⟩, ⟨e, none, false⟩)
        else
          let (e, ended) := untilCloseAngle doc j
          some (⟨.comment, i, e, 0, 0, []⟩, ⟨e, none, ended⟩)
      else some (⟨.text, i, doc.size, 0, 0, []⟩, ⟨doc.size, none, true⟩)
    else if c == 33 then
      let (t, e, ended) := markupDecl doc i
      some (t, ⟨e, none, ended⟩)
    else
      let (e, ended) := untilCloseAngle doc (i + 1)
      some (⟨.comment, i, e, 0, 0, []⟩, ⟨e, none, ended⟩)

/-- The next token and the state after it; `none` once the input is used up
or ends inside a tag. -/
def nextToken (st : LexState) : Option (Token × LexState) :=
  if st.ended then none
  else match st.rawTag with
  | some "plaintext" =>
    if st.pos < doc.size then
      some (⟨.text, st.pos, doc.size, 0, 0, []⟩, ⟨doc.size, st.rawTag, true⟩)
    else none
  | some name =>
    let (e, ended) :=
      if name == "script" then scriptEnd doc (4 * (doc.size - st.pos) + 8) .data st.pos
      else rawTextEnd doc name.toUTF8.toList st.pos
    if st.pos < e then some (⟨.text, st.pos, e, 0, 0, []⟩, ⟨e, none, ended⟩)
    else markupToken doc st.pos
  | none => markupToken doc st.pos

def tokensFrom (st : LexState) : List Token :=
  match nextToken doc st with
  | none => []
  | some (t, st') =>
    if _h : st.pos < st'.pos ∧ st'.pos ≤ doc.size then t :: tokensFrom st' else [t]
termination_by doc.size - st.pos

def tokens : List Token := tokensFrom doc {}

end

end Transclusion.Markup
