import Transclusion.Composition.Page

/-!
# Composing a page

Scans a document for directives, resolves each one, and seals the page. An
include whose resolution never finishes is replaced, once the page deadline
passes, by its fallback content marked as timed out. With transclusion
disabled the document is returned as it is.

Resolutions finish in any order. The wait takes includes as they arrive
until every one has arrived, the page deadline passes or the request is
cancelled (`awaitIncludes`); the page then holds the includes that arrived,
in arrival order, followed by the timed-out fallbacks of the others
(`gather`), and sealing puts them in document order.

Proved: `transclude_disabled` (with transclusion off the page has no
includes).
-/

namespace Transclusion.Composition

open Transclusion.Http Transclusion.Time Transclusion.Config

/-- Resolves every directive in order; `none` marks one that never finished. -/
def resolveAll (cfg : TransclusionConfig) (header : Header) :
    List (Nat × Directive) → Node → List (Nat × Directive × Option Include) × Node
  | [], n => ([], n)
  | (i, d) :: rest, n =>
    let (r, n) := resolve cfg n d i header
    let (more, n) := resolveAll cfg header rest n
    ((i, d, r) :: more, n)

/-- What the wait for a page's resolutions sees next. -/
inductive Arrival where
  /-- A resolution finished and its include comes through. -/
  | resolved (inc : Include)
  /-- The page deadline passed. -/
  | deadline
  /-- The page request was cancelled. -/
  | cancelled
  deriving Repr, Inhabited

/-- Waits for `pending` resolutions: takes includes in the order they arrive
until none is pending, the deadline passes or the request is cancelled. -/
def awaitIncludes : Nat → List Arrival → List Include
  | 0, _ => []
  | _ + 1, [] => []
  | pending + 1, .resolved inc :: rest => inc :: awaitIncludes pending rest
  | _ + 1, .deadline :: _ => []
  | _ + 1, .cancelled :: _ => []

/-- The includes of a page: those that arrived, in arrival order, then the
fallback content, marked as timed out, of every directive whose include did
not arrive, in document order. -/
def gather (directives : List Directive) (arrived : List Include) (elapsed : Int) : List Include :=
  arrived ++ directives.zipIdx.filterMap fun (d, i) =>
    if arrived.any (·.index == i) then none
    else some { fallbackInclude d i with timedOut := true, duration := elapsed }

/-- The page of `doc` with `directives` whose resolutions arrived as
`schedule` has it, sealed after `elapsed` nanoseconds. -/
def composeWith (doc : String) (directives : List Directive) (schedule : List Arrival) (elapsed : Int)
    (cache : Cache.CacheStats) : Page :=
  Page.build doc (gather directives (awaitIncludes directives.length schedule) elapsed) elapsed cache

/-- Composes `doc` for a page request carrying `header`. -/
def transclude (cfg : TransclusionConfig) (n : Node) (doc : String) (header : Header) : Page × Node :=
  let start := n.clock
  if !cfg.enabled then (Page.build doc [] 0 n.store.stats, n)
  else
    let directives := scan doc.toUTF8
    if directives.isEmpty then (Page.build doc [] (n.clock.sub start) n.store.stats, n)
    else
      let (results, n) := resolveAll cfg header ((List.range directives.length).zip directives) n
      -- resolutions come through in document order, and the deadline ends the wait
      let schedule := results.filterMap (fun (_, _, r) => r.map .resolved) ++ [.deadline]
      (composeWith doc directives schedule (n.clock.sub start) n.store.stats, n)

theorem transclude_disabled (cfg : TransclusionConfig) (n : Node) (doc : String) (header : Header)
    (h : cfg.enabled = false) : ((transclude cfg n doc header).1).includes = [] := by
  simp [transclude, h, Page.build]

end Transclusion.Composition
