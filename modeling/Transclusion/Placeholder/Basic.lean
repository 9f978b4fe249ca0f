import Transclusion.Digest.TreeHash
import Transclusion.Text.Blank
import Transclusion.Text.Case
import Transclusion.Text.Number

/-!
# Include directives

A directive is one occurrence of the `stitch-include` element in a document:
either self-closing, or a container whose content is the fallback markup shown
when no source can be loaded. It records the exact text of the element, its
byte span in the document, and the attributes of its opening tag (names in
lower case, the first occurrence of a name winning).

The attributes the service reads are `src` and `fallback-src` (the two sources
in order), `src-timeout` and `fallback-src-timeout` (their request timeouts),
`primary` (the include that decides the page's status and headers) and `id`
(its name in statistics).
-/

namespace Transclusion

open Transclusion.Text

def directiveTag : String := "stitch-include"

/-- One include element in a document. -/
structure Directive where
  /-- The complete element, the document's bytes `[start, stop)`. -/
  raw : List UInt8
  start : Nat
  stop : Nat
  /-- The opening tag's attributes: lower-case names, decoded values. -/
  attrs : List (String × String)
  /-- The markup between the opening and closing tag; empty when
  self-closing. -/
  fallback : List UInt8 := []
  deriving Repr, Inhabited, DecidableEq

namespace Directive

def attr? (d : Directive) (name : String) : Option String :=
  (d.attrs.find? (·.1 == name)).map (·.2)

/-- The first source URL, trimmed; empty when absent. -/
def src (d : Directive) : String := trimBlank ((d.attr? "src").getD "")

/-- The second source URL, trimmed; empty when absent. -/
def fallbackSrc (d : Directive) : String := trimBlank ((d.attr? "fallback-src").getD "")

/-- Whether the directive decides the page's status and headers: the
`primary` attribute is present and, trimmed and in lower case, empty or
`primary`. -/
def primary (d : Directive) : Bool :=
  match d.attr? "primary" with
  | some v =>
    let w := lower (trimBlank v)
    w.isEmpty || w == "primary"
  | none => false

/-- A character allowed in a directive id: ASCII letters, digits, `_` and
`-`. -/
def isIdChar (c : Char) : Bool := c.isAlphanum || c == '_' || c == '-'

/-- The directive's name in statistics: its `id` attribute without the
characters an id may not hold, or when that leaves nothing, the first seven
hexadecimal digits of the BLAKE3 digest of the element's bytes. -/
def id (d : Directive) : String :=
  let given := ((d.attr? "id").getD "").toList.filter isIdChar
  if given.isEmpty then
    (hexOfBytes (Digest.Blake3.hash d.raw)).take 7 |>.toString
  else String.ofList given

end Directive

end Transclusion
