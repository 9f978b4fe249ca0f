import Transclusion.Composition.Resolve
import Transclusion.Placeholder.Scan
import Transclusion.Web.Lifetime

/-!
# Composed pages

A composed page is the document with every resolved include substituted,
plus what the includes decide for the page: the status and forwarded headers
of the first primary include, and a freshness no longer than that of the
page or of any fragment.

Includes are substituted in document order; one that overlaps the previous
substitution is skipped. The statistics comment lists every include by id
with its time, origin and cacheability, then the cache counters.

Proved: `cacheControl_no_includes` (without includes the page keeps its own
Cache-Control).
-/

namespace Transclusion.Composition

open Transclusion.Http Transclusion.Time Transclusion.Config Transclusion.Cache
open Transclusion.Numeric

/-- A composed page. -/
structure Page where
  document : String
  /-- The includes in document order. -/
  includes : List Include
  primary : Option Include
  /-- The document with the includes substituted. -/
  content : String
  /-- Nanoseconds spent resolving. -/
  elapsed : Int
  cache : CacheStats
  deriving Repr, Inhabited

/-- Substitutes one include into the document's bytes after the pieces so
far, which end at `cursor`, unless its span starts before the cursor or ends
past the document; keeps the first primary include substituted. -/
def substituteStep (doc : ByteArray) (acc : List String × Nat × Option Include) (inc : Include) :
    List String × Nat × Option Include :=
  let (parts, cursor, primary) := acc
  let d := inc.directive
  if d.start < cursor || d.stop > doc.size then (parts, cursor, primary)
  else
    let parts := parts ++ [sliceText doc cursor d.start, inc.fragment.body]
    let primary := if inc.primary && primary.isNone then some inc else primary
    (parts, d.stop, primary)

/-- Substitutes includes, in document order, into the document's bytes;
returns the text and the first primary include substituted. -/
def substitute (doc : ByteArray) (includes : List Include) : String × Option Include :=
  let (parts, cursor, primary) := includes.foldl (substituteStep doc) ([], 0, none)
  (String.join (parts ++ [sliceText doc cursor doc.size]), primary)

/-- Seals a page: orders the includes by position, substitutes them and
elects the primary include. -/
def Page.build (document : String) (includes : List Include) (elapsed : Int) (cache : CacheStats) :
    Page :=
  let includes := includes.mergeSort (fun a b => decide (a.directive.start ≤ b.directive.start))
  let (content, primary) := substitute document.toUTF8 includes
  { document, includes, primary, content, elapsed, cache }

namespace Page

/-- The page status: the primary fragment's, or `default`. -/
def status (p : Page) (default : Int) : Int :=
  match p.primary with
  | some inc => inc.fragment.status
  | none => default

def header (p : Page) (forward : List String) : Header :=
  match p.primary with
  | some inc => inc.fragment.header.filter forward
  | none => {}

/-- A duration in seconds as a double: whole seconds plus the fraction, each
converted and the fraction divided, then added. -/
def seconds (d : Int) : Binary64 :=
  (Binary64.ofInt (d.tdiv nsPerSecond)).add
    ((Binary64.ofInt (d.tmod nsPerSecond)).div (Binary64.ofInt nsPerSecond))

def ceilSeconds (d : Int) : Int := (seconds d).ceilToInt64

/-- Folds one include into the running bound on the page's lifetime at `now`:
nothing once some include has no lifetime left, else the smaller of the bound
(when there is one) and the include's remaining lifetime. -/
def tightenBound (now : Instant) (acc : Option (Option Int)) (inc : Include) :
    Option (Option Int) :=
  match acc with
  | none => none
  | some bound =>
    let remaining := inc.fragment.expiresAt.sub now
    if remaining ≤ 0 then none
    else match bound with
      | some l => some (some (if remaining < l then remaining else l))
      | none => some (some remaining)

/-- The page's Cache-Control at `now`: its own without includes; `no-store`
once the page or any fragment has no lifetime left; otherwise the shortest
remaining lifetime in whole seconds, rounded up. -/
def cacheControl (p : Page) (page : Header) (now : Instant) : String :=
  if p.includes.isEmpty then page.get "Cache-Control"
  else
    let own := lifetime page now
    if own.any (· ≤ 0) then "no-store"
    else
      match p.includes.foldl (tightenBound now) (some own) with
      | none => "no-store"
      | some bound => "max-age=" ++ toString (ceilSeconds (bound.getD 0))

/-- Applies the page's merged metadata to response headers: the primary's
forwarded headers replace those of the same name, and a nonempty
Cache-Control replaces the page's and drops Expires. -/
def applyTo (p : Page) (forward : List String) (h : Header) (now : Instant) : Header :=
  let cc := p.cacheControl h now
  let h := (p.header forward).entries.foldl (fun h (k, vs) => h.store k vs) h
  if cc.isEmpty then h else (h.set "Cache-Control" cc).del "Expires"

/-- The first line of the statistics comment. -/
def processedLine (p : Page) : String :=
  let n := p.includes.length
  let noun := if n == 1 then "include" else "includes"
  let ms := millisOf p.elapsed
  s!"Processed {n} {noun} in {ms}ms"

def statsRow (stats : StatsConfig) (inc : Include) (now : Instant) : String :=
  let id := if inc.primary then inc.id ++ " (primary)" else inc.id
  let cacheability :=
    if inc.fragment.literal then "-"
    else if inc.fragment.expiresAt.same Instant.epoch then "not cacheable"
    else
      let secs := ceilSeconds (inc.fragment.expiresAt.sub now)
      s!"expires in {secs}s"
  let ms := millisOf inc.duration
  let origin := inc.resolvedWith
  let row := s!"{ms}ms | {id} | {origin} | {cacheability}"
  if stats.exposeFragmentUrl then
    row ++ " | " ++ (if inc.fragment.url.isEmpty then "-" else inc.fragment.url)
  else row

def cacheLine (s : CacheStats) : String :=
  let c := s.counters
  let items := s.items
  let hits := c.hits
  let misses := c.misses
  let ok := c.refreshSuccesses
  let failed := c.refreshFailures
  s!"Cache: {items} items, {hits} hits, {misses} misses, " ++
  s!"{ok} successful refreshs, {failed} failed refreshs"

/-- The statistics comment at `now`. -/
def statsComment (p : Page) (stats : StatsConfig) (now : Instant) : String :=
  let table :=
    if p.includes.isEmpty then ""
    else
      let rows := p.includes.mergeSort (fun a b => decide (a.id ≤ b.id))
      "\n\nTime | Include | Resolved With | Fragment Cacheability" ++
      (if stats.exposeFragmentUrl then " | Fragment URL" else "") ++
      "\n------------------------------------------------------" ++
      String.join (rows.map fun inc => "\n" ++ statsRow stats inc now)
  "\n<!-- " ++ p.processedLine ++ table ++ "\n\n" ++ cacheLine p.cache ++ "\n-->"

/-- The composed text, with the statistics comment when configured. -/
def text (p : Page) (stats : StatsConfig) (now : Instant) : String :=
  if stats.appendToContent then p.content ++ p.statsComment stats now else p.content

theorem cacheControl_no_includes (p : Page) (page : Header) (now : Instant)
    (h : p.includes = []) : p.cacheControl page now = page.get "Cache-Control" := by
  simp [cacheControl, h]

end Page

end Transclusion.Composition
