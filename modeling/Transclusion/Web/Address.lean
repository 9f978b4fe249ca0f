import Transclusion.Text.Quote

/-!
# URLs

Reads a URL the way the standard library's parser does, closely enough to
tell which URLs it refuses and to write an accepted one back in its
canonical form.

A URL is split at the first `#` (the fragment), then a scheme is read up to
the first `:` when it starts with a letter and holds only letters, digits,
`+`, `-` and `.`; the scheme is lower-cased. The query follows the first
`?`. A scheme followed by text not starting with `/` makes the URL rootless.
Otherwise `//` starts an authority up to the next `/`: user information
before the last `@`, then a host, possibly a bracketed IPv6 literal, with an
optional all-digit port. Percent escapes must be complete everywhere, and a
host may hold only a fixed set of characters. Control characters are
refused anywhere.
-/

namespace Transclusion.Http

open Transclusion.Text

/-- A URL as read. Byte strings are kept as the text wrote them unless
said otherwise. -/
structure Url where
  scheme : String := ""
  /-- The text after `scheme:` when it does not start with `/`. -/
  rootless : List UInt8 := []
  /-- The user information before `@`: the user and, after `:`, a password,
  both decoded. -/
  user : Option (List UInt8 × Option (List UInt8)) := none
  /-- The host, decoded, with its port. -/
  host : List UInt8 := []
  /-- The path as written. -/
  path : List UInt8 := []
  /-- Whether a `?` ends the URL with nothing after it. -/
  forceQuery : Bool := false
  query : List UInt8 := []
  /-- The fragment as written. -/
  fragment : List UInt8 := []
  deriving Repr, Inhabited

/-- Which part of a URL a text is, for escaping. -/
inductive UrlPart where
  | path
  | host
  | userInfo
  | fragment
  deriving Repr, DecidableEq

def isAlnumByte (c : UInt8) : Bool :=
  (97 ≤ c && c ≤ 122) || (65 ≤ c && c ≤ 90) || (48 ≤ c && c ≤ 57)

def isHexByte (c : UInt8) : Bool :=
  (48 ≤ c && c ≤ 57) || (97 ≤ c && c ≤ 102) || (65 ≤ c && c ≤ 70)

def hexByteValue (c : UInt8) : Nat :=
  if 48 ≤ c && c ≤ 57 then c.toNat - 48 else if 97 ≤ c && c ≤ 102 then c.toNat - 87 else c.toNat - 55

/-- Whether a byte is written escaped in a part of a URL. -/
def mustEscape (c : UInt8) (part : UrlPart) : Bool :=
  if isAlnumByte c then false
  else if part == .host && "!$&'()*+,;=:[]<>\"".toUTF8.toList.contains c then false
  else if "-_.~".toUTF8.toList.contains c then false
  else if "$&+,/:;=?@".toUTF8.toList.contains c then
    match part with
    | .path => c == 63
    | .userInfo => c == 64 || c == 47 || c == 63 || c == 58
    | _ => true
  else if part == .fragment && "!()*".toUTF8.toList.contains c then false
  else true

/-- Checks percent escapes and, in a host, the characters; returns the
decoded bytes. -/
def unescapeUrl (part : UrlPart) : List UInt8 → Option (List UInt8)
  | [] => some []
  | 37 :: a :: b :: rest =>
    if !(isHexByte a && isHexByte b) then none
    else if part == .host && hexByteValue a < 8 && !(a == 50 && b == 53) then none
    else (unescapeUrl part rest).map (UInt8.ofNat (hexByteValue a * 16 + hexByteValue b) :: ·)
  | 37 :: _ => none
  | c :: rest =>
    if part == .host && c < 128 && mustEscape c .host then none
    else (unescapeUrl part rest).map (c :: ·)

/-- The upper-case hexadecimal digit of a value below 16. -/
def upperHexDigit (n : Nat) : UInt8 := if n < 10 then UInt8.ofNat (48 + n) else UInt8.ofNat (55 + n)

def escapeUrl (part : UrlPart) (bs : List UInt8) : List UInt8 :=
  bs.flatMap fun c =>
    if mustEscape c part then [37, upperHexDigit (c.toNat / 16), upperHexDigit (c.toNat % 16)] else [c]

/-- Whether a text is already a valid escaped form for a part. -/
def validEncoded (part : UrlPart) (bs : List UInt8) : Bool :=
  bs.all fun c => "!$&'()*+,;=:@[]%".toUTF8.toList.contains c || !mustEscape c part

/-- The escaped form of a written path or fragment: the text itself when it
is a valid escaped form, else its decoding escaped. -/
def escapedForm (part : UrlPart) (written : List UInt8) : List UInt8 :=
  if validEncoded part written then written
  else escapeUrl part ((unescapeUrl part written).getD written)

/-- Splits a list at the first occurrence of a byte. -/
def splitFirst (b : UInt8) (bs : List UInt8) : List UInt8 × Option (List UInt8) :=
  match bs.idxOf? b with
  | some i => (bs.take i, some (bs.drop (i + 1)))
  | none => (bs, none)

/-- Splits a list at the last occurrence of a byte. -/
def splitLast (b : UInt8) (bs : List UInt8) : Option (List UInt8 × List UInt8) :=
  match (bs.reverse.idxOf? b) with
  | some j => let i := bs.length - 1 - j; some (bs.take i, bs.drop (i + 1))
  | none => none

/-- Whether a port part, with its colon, is empty or all digits. -/
def validPort : List UInt8 → Bool
  | [] => true
  | 58 :: ds => ds.all fun d => 48 ≤ d && d ≤ 57
  | _ => false

def readHost (bs : List UInt8) : Option (List UInt8) :=
  match bs with
  | 91 :: _ =>
    match splitLast 93 bs with
    | none => none
    | some (_, colonPort) => if validPort colonPort then unescapeUrl .host bs else none
  | _ =>
    match splitLast 58 bs with
    | some (_, port) => if validPort (58 :: port) then unescapeUrl .host bs else none
    | none => unescapeUrl .host bs

/-- Whether user information holds only the characters it may. -/
def validUserInfo (bs : List UInt8) : Bool :=
  bs.all fun c => isAlnumByte c || "-._:~!$&'()*+,;=%@".toUTF8.toList.contains c

def readAuthority (bs : List UInt8) : Option (Option (List UInt8 × Option (List UInt8)) × List UInt8) :=
  match splitLast 64 bs with
  | none => (readHost bs).map fun h => (none, h)
  | some (info, hostPart) => do
    let h ← readHost hostPart
    if !validUserInfo info then none
    let (name, pass) := splitFirst 58 info
    let name ← unescapeUrl .userInfo name
    let pass ← match pass with
      | none => some none
      | some p => (unescapeUrl .userInfo p).map some
    pure (some (name, pass), h)

/-- Reads a scheme: `none` when the text has none, an error when it starts
with `:`. -/
def readScheme (bs : List UInt8) : Except Unit (Option (List UInt8 × List UInt8)) :=
  let rec go : List UInt8 → List UInt8 → Except Unit (Option (List UInt8 × List UInt8))
    | [], _ => .ok none
    | c :: rest, acc =>
      if (97 ≤ c && c ≤ 122) || (65 ≤ c && c ≤ 90) then go rest (acc ++ [c])
      else if (48 ≤ c && c ≤ 57) || c == 43 || c == 45 || c == 46 then
        if acc.isEmpty then .ok none else go rest (acc ++ [c])
      else if c == 58 then
        if acc.isEmpty then .error () else .ok (some (acc, rest))
      else .ok none
  go bs []

def lowerAscii (bs : List UInt8) : List UInt8 := bs.map fun c => if 65 ≤ c && c ≤ 90 then c + 32 else c

/-- Text of bytes, replacing what is not UTF-8. -/
def textOfBytes (bs : List UInt8) : String :=
  match String.fromUTF8? (ByteArray.mk bs.toArray) with
  | some s => s
  | none => String.ofList (bs.map fun b => Char.ofNat b.toNat)

/-- Reads a URL, or `none` when it is refused. -/
def parseUrl (text : String) : Option Url := do
  let bs := text.toUTF8.toList
  let (beforeHash, frag) := splitFirst 35 bs
  if beforeHash.any (fun c => c < 32 || c == 127) then none
  let (scheme, rest) ← match readScheme beforeHash with
    | .error () => none
    | .ok none => some ([], beforeHash)
    | .ok (some (s, r)) => some (lowerAscii s, r)
  let (rest, query, forceQuery) :=
    if rest.getLast? == some 63 && rest.count 63 == 1 then (rest.dropLast, [], true)
    else match splitFirst 63 rest with
      | (r, some q) => (r, q, false)
      | (r, none) => (r, [], false)
  let schemeText := textOfBytes scheme
  let fragment ← match frag with
    | none => some []
    | some f => (unescapeUrl .fragment f).map fun _ => f
  if rest.head? != some 47 then
    if !scheme.isEmpty then
      return { scheme := schemeText, rootless := rest, query, forceQuery, fragment }
    if (splitFirst 47 rest).1.contains 58 then none
  let (user, host, path) ← match rest with
    | 47 :: 47 :: auth =>
      if scheme.isEmpty && auth.head? == some 47 then some (none, [], rest)
      else
        let (authority, path) := match splitFirst 47 auth with
          | (a, some p) => (a, 47 :: p)
          | (a, none) => (a, [])
        (readAuthority authority).map fun (u, h) => (u, h, path)
    | _ => some (none, [], rest)
  let _ ← unescapeUrl .path path
  pure { scheme := schemeText, user, host, path, query, forceQuery, fragment }

namespace Url

def hostname (u : Url) : List UInt8 :=
  let (h, _) := match splitLast 58 u.host with
    | some (h, p) => if validPort (58 :: p) then (h, p) else (u.host, [])
    | none => (u.host, [])
  match h with
  | 91 :: inner => if inner.getLast? == some 93 then inner.dropLast else h
  | _ => h

/-- The port, or empty. -/
def port (u : Url) : List UInt8 :=
  match splitLast 58 u.host with
  | some (_, p) => if validPort (58 :: p) then p else []
  | none => []

def userText (u : Url) : List UInt8 :=
  match u.user with
  | none => []
  | some (name, none) => escapeUrl .userInfo name
  | some (name, some pass) => escapeUrl .userInfo name ++ [58] ++ escapeUrl .userInfo pass

/-- The URL written back, with a password shown as `***`. -/
def text (u : Url) (hidePassword : Bool := false) : String :=
  let schemePart := if u.scheme.isEmpty then [] else u.scheme.toUTF8.toList ++ [58]
  let body : List UInt8 :=
    if !u.rootless.isEmpty then u.rootless
    else
      let userPart := match u.user with
        | none => []
        | some (name, some _) => if hidePassword then name ++ ":***@".toUTF8.toList else userText u ++ [64]
        | some _ => userText u ++ [64]
      let auth := if !u.host.isEmpty || u.user.isSome then
          (if !u.host.isEmpty || !u.path.isEmpty || u.user.isSome then [47, 47] else []) ++
            userPart ++ escapeUrl .host u.host
        else if !u.scheme.isEmpty && u.path.head? == some 47 then []
        else []
      let p := escapedForm .path u.path
      auth ++ (if !p.isEmpty && p.head? != some 47 && !u.host.isEmpty then [47] else []) ++ p
  let queryPart := if u.forceQuery || !u.query.isEmpty then 63 :: u.query else []
  let fragPart := if u.fragment.isEmpty then [] else 35 :: escapedForm .fragment u.fragment
  textOfBytes (schemePart ++ body ++ queryPart ++ fragPart)

end Url

end Transclusion.Http
