import Transclusion.Web.Media
import Transclusion.Web.Header

/-!
# Response headers of the proxy

Which origin responses are composed, and the headers the proxy adds to what
it sends back. Only uncompressed HTML is composed: the media type must be
`text/html` and the content encoding absent or `identity`. Every response is
marked with how the proxy handled it in `X-Stitch`, and that header is
exposed to cross-origin scripts.

Proved: `exposeHeader_empty` (exposing into headers without the list sets it
to the name).
-/

namespace Transclusion.Proxy

open Transclusion.Http Transclusion.Text

/-- Whether an origin response may be composed. -/
def composable (h : Header) : Bool :=
  mediaType (h.get "Content-Type") == some "text/html" &&
    (let enc := trimBlank (h.get "Content-Encoding"); enc.isEmpty || equalFold enc "identity")

def exposeList : String := "Access-Control-Expose-Headers"

/-- Adds `name` to the exposed headers unless it is listed already (compared
ignoring case and blanks); the existing lines are joined with commas. -/
def exposeHeader (h : Header) (name : String) : Header :=
  if name.isEmpty then h
  else
    match h.values exposeList with
    | [] => h.set exposeList name
    | current =>
      let merged := ",".intercalate current
      if (merged.splitOn ",").any (fun part => equalFold (trimBlank part) name) then h
      else h.set exposeList (trimBlank merged ++ ", " ++ name)

def markerHeader : String := "X-Stitch"

def markHandling (h : Header) (how : String) : Header :=
  let h := if how.isEmpty then h else h.set markerHeader how
  exposeHeader h markerHeader

theorem exposeHeader_empty (h : Header) (name : String) (hn : name.isEmpty = false)
    (hv : h.values exposeList = []) : exposeHeader h name = h.set exposeList name := by
  simp [exposeHeader, hn, hv]

end Transclusion.Proxy
