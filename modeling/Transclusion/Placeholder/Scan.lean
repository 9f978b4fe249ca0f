import Transclusion.Placeholder.Basic
import Transclusion.Markup.Lexer
import Transclusion.Markup.Reference

/-!
# Finding directives in a document

The scanner walks the tokens of a document. A self-closing `stitch-include`
tag is a directive at once. A `stitch-include` start tag opens a container,
and the next `stitch-include` end tag closes it: the directive spans both tags
and its fallback is the markup between them. While a container is open no
other start tag opens one; self-closing directives inside it are kept aside and
dropped when the container closes, but if the document ends with the container
still open, the container is not a directive and the directives kept aside are.

The document is any bytes, and offsets count them.
-/

namespace Transclusion

open Transclusion.Markup

/-- The bytes `[a, b)` of a document as text. -/
def sliceText (doc : ByteArray) (a b : Nat) : String :=
  (String.fromUTF8? (doc.extract a b)).getD ""

/-- The bytes `[a, b)` of a document. -/
def sliceBytes (doc : ByteArray) (a b : Nat) : List UInt8 := (doc.extract a b).toList

/-- The attributes of a start tag: lower-case names with decoded values, the
first occurrence of a name winning. -/
def tagAttributes (doc : ByteArray) (spans : List AttrSpan) : List (String × String) :=
  spans.foldl (fun acc a =>
    let key := lowerSlice doc a.keyStart a.keyStop
    if acc.any (·.1 == key) then acc
    else acc ++ [(key, attributeText (sliceText doc a.valueStart a.valueStop))]) []

/-- What the scanner holds between tokens. -/
structure ScanState where
  /-- The container waiting for its end tag. -/
  open? : Option Directive := none
  /-- Self-closing directives met inside the open container. -/
  aside : List Directive := []
  /-- Directives found so far, in order. -/
  found : List Directive := []

def ScanState.step (doc : ByteArray) (s : ScanState) (t : Token) : ScanState :=
  let isDirective := lowerSlice doc t.nameStart t.nameStop == directiveTag
  match t.kind with
  | .startTag =>
    if isDirective && s.open?.isNone then
      { s with open? := some ⟨sliceBytes doc t.start t.stop, t.start, t.stop,
          tagAttributes doc t.attrs, []⟩ }
    else s
  | .selfClosingTag =>
    if isDirective then
      let d : Directive := ⟨sliceBytes doc t.start t.stop, t.start, t.stop, tagAttributes doc t.attrs, []⟩
      if s.open?.isSome then { s with aside := s.aside ++ [d] } else { s with found := s.found ++ [d] }
    else s
  | .endTag =>
    match s.open? with
    | some o =>
      if isDirective then
        let d := { o with fallback := sliceBytes doc o.stop t.start, raw := sliceBytes doc o.start t.stop,
                          stop := t.stop }
        { open? := none, aside := [], found := s.found ++ [d] }
      else s
    | none => s
  | _ => s

def scan (doc : ByteArray) : List Directive :=
  let s := (tokens doc).foldl (ScanState.step doc) {}
  s.found ++ s.aside

end Transclusion
