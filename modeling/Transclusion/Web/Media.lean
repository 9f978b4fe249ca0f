import Transclusion.Text.Blank
import Transclusion.Text.Case

/-!
# Media types

Reads a `Content-Type` value: the media type before the first semicolon,
lower-cased and trimmed, must be a token optionally followed by a slash and
a second token; then come `; name=value` parameters, where a value is a
token or a quoted string. A trailing lone semicolon is allowed; a parameter
that does not read, or a repeated name with a different value, makes the
whole value unreadable. Parameter names containing `*` (extended
parameters) are tracked apart per base name.
-/

namespace Transclusion.Http

open Transclusion.Text

/-- The separators that may not appear in a token. -/
def isSeparator (c : Char) : Bool := "()<>@,;:\\\"/[]?=".contains c

/-- Whether a character may appear in a token: visible ASCII other than the
separators. -/
def isMediaTokenChar (c : Char) : Bool := c.toNat > 0x20 && c.toNat < 0x7f && !isSeparator c

def consumeToken (v : List Char) : List Char × List Char :=
  (v.takeWhile isMediaTokenChar, v.dropWhile isMediaTokenChar)

def dropBlanks (v : List Char) : List Char := v.dropWhile isBlank

/-- Reads a quoted string after its opening quote: the unescaped value and
the rest after the closing quote. A backslash escapes a following separator;
a line break or a missing closing quote fails. -/
def quotedValue : List Char → List Char → Option (List Char × List Char)
  | [], _ => none
  | '"' :: rest, acc => some (acc.reverse, rest)
  | '\\' :: c :: rest, acc =>
    if isSeparator c then quotedValue rest (c :: acc) else quotedValue (c :: rest) ('\\' :: acc)
  | c :: rest, acc => if c == '\r' || c == '\n' then none else quotedValue rest (c :: acc)

/-- Reads a parameter value: a quoted string or a token. -/
def consumeValue (v : List Char) : List Char × List Char :=
  match v with
  | [] => ([], [])
  | '"' :: rest =>
    match quotedValue rest [] with
    | some r => r
    | none => ([], v)
  | _ => consumeToken v

/-- Reads one `; name=value` parameter: the lower-cased name, the value and
the rest, or nothing. -/
def consumeParam (v : List Char) : Option (String × String × List Char) :=
  match dropBlanks v with
  | ';' :: rest =>
    let (name, rest) := consumeToken (dropBlanks rest)
    let name := lower (String.ofList name)
    if name.isEmpty then none
    else match dropBlanks rest with
      | '=' :: rest =>
        let rest := dropBlanks rest
        let (value, rest2) := consumeValue rest
        if value.isEmpty && rest2 == rest then none
        else some (name, String.ofList value, rest2)
      | _ => none
  | _ => none

/-- Whether a media type reads: a token, or two tokens around a slash. -/
def validMediaType (mt : String) : Bool :=
  let (typ, rest) := consumeToken mt.toList
  if typ.isEmpty then false
  else match rest with
    | [] => true
    | '/' :: rest =>
      let (sub, rest) := consumeToken rest
      !sub.isEmpty && rest.isEmpty
    | _ => false

abbrev ParamTable := List (String × String)

/-- Reads the parameters; `none` when one does not read or conflicts.
Every round consumes at least the semicolon. -/
def readParams : Nat → List Char → ParamTable → Option ParamTable
  | 0, _, t => some t
  | fuel + 1, v, t =>
    let v := dropBlanks v
    if v.isEmpty then some t
    else match consumeParam v with
      | none => if trimBlank (String.ofList v) == ";" then some t else none
      | some (name, value, rest) =>
        -- extended parameters are kept apart, keyed by their base name
        let slot := match name.splitOn "*" with
          | base :: _ :: _ => base ++ "\x00" ++ name
          | _ => name
        match t.lookup slot with
        | some old => if old != value then none else readParams fuel rest t
        | none => readParams fuel rest (t ++ [(slot, value)])

/-- The media type of a header value, when the value reads. -/
def mediaType (v : String) : Option String :=
  let chars := v.toList
  let base := chars.takeWhile (· != ';')
  let mt := trimBlank (lower (String.ofList base))
  if !validMediaType mt then none
  else (readParams (chars.length + 1) (chars.drop base.length) []).map fun _ => mt

end Transclusion.Http
