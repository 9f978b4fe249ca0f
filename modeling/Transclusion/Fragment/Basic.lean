import Transclusion.Web.Header
import Transclusion.Clock.Instant

/-!
# Fragments and fetch requests

A fragment is the resolved content of one include source: where it came from,
its status, body and forwarded headers, and the instant it stops being fresh.
A fragment built from a directive's literal fallback content has no URL and
expires at the epoch, so it is never cached.

A fetch request is what the cache keeps next to a fragment so that it can
repeat the fetch when it refreshes the fragment.
-/

namespace Transclusion

open Transclusion.Http Transclusion.Time

/-- The resolved content of one include source. -/
structure Fragment where
  /-- The source URL; empty for fallback content. -/
  url : String := ""
  status : Int := 200
  body : String := ""
  header : Header := {}
  /-- The instant the fragment stops being fresh; the epoch when it must never
  be cached. -/
  expiresAt : Instant := Instant.epoch
  deriving Repr, Inhabited, DecidableEq

namespace Fragment

/-- The fragment of literal fallback content: status 200, no headers, already
expired. -/
def fallback (content : String) : Fragment :=
  { url := "", status := 200, body := content, header := {}, expiresAt := Instant.epoch }

/-- Whether the fragment was built from fallback content. -/
def literal (f : Fragment) : Bool := f.url.isEmpty

/-- Whether the fragment is still fresh at `now`. -/
def freshAt (f : Fragment) (now : Instant) : Bool := f.expiresAt.after now

/-- The remaining lifetime at `now`, zero once expired. -/
def ttl (f : Fragment) (now : Instant) : Int := max 0 (f.expiresAt.sub now)

theorem fallback_not_fresh (content : String) (now : Instant) (h : 0 ≤ now.ns) :
    (fallback content).freshAt now = false := by
  simp only [fallback, freshAt, Instant.after, Instant.epoch]
  exact decide_eq_false (by omega)

end Fragment

/-- One outbound fetch: URL, forwarded headers and timeout in nanoseconds. -/
structure FetchRequest where
  url : String := ""
  header : Header := {}
  timeout : Int := 0
  deriving Repr, Inhabited, DecidableEq

end Transclusion
