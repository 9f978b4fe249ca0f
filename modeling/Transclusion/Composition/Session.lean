import Transclusion.Composition.Assemble
import Transclusion.Composition.Renewal

/-!
# Sessions

A session drives one node through a sequence of steps on its own clock: the
clock moves only when a step advances it or a scripted response does. Every
step reports its outcome together with the fetches made during it and the
cache's size after it. After every step the disk tier, when there is one, is
reopened, which drops records that expired by the wall clock.

Proved: `advance_moves_clock` (an advance step moves the clock and nothing
else is fetched).
-/

namespace Transclusion.Composition

open Transclusion.Http Transclusion.Time Transclusion.Config Transclusion.Cache

/-- A fragment as a step describes it, its expiry relative to the step's
clock; without one it is already expired. -/
structure FragmentSpec where
  url : String := ""
  status : Int := 200
  body : String := ""
  header : Header := {}
  expiry : Expiry := .unset
  deriving Repr, Inhabited

/-- The fragment at `now`. -/
def FragmentSpec.build (s : FragmentSpec) (now : Instant) : Fragment :=
  { url := s.url, status := s.status, body := s.body, header := s.header
    expiresAt := s.expiry.resolve now Instant.epoch }

/-- One step of a session. -/
inductive Step where
  | advance (ns : Int)
  /-- Stores a fragment; the request defaults to the fragment's URL alone. -/
  | put (key : String) (fragment : FragmentSpec) (request : Option FetchRequest)
  | get (key : String)
  | remove (key : String)
  /-- Inspects an entry without reading it. -/
  | entry (key : String)
  | keys
  | stats
  | refresh
  /-- Resolves the first directive of `tag` as the include at `index`. -/
  | resolve (tag : String) (index : Nat) (header : Header)
  | transclude (doc : String) (header : Header) (pageHeader : Header) (defaultStatus : Int)
  | prewarm (urls : List String)
  | flushDisk
  deriving Repr, Inhabited

/-- What a composed page answers. -/
structure ComposedPage where
  content : String
  status : Int
  hasPrimary : Bool
  /-- The primary fragment's forwarded headers. -/
  header : Header
  elapsed : Int
  cacheControl : String
  /-- The page headers with the page's metadata applied. -/
  applied : Header
  includes : List Include
  deriving Repr, Inhabited

/-- What a step gives. -/
inductive Outcome where
  | clock (now : Instant)
  | stored
  | refused (e : PutError)
  | found (f : Option Fragment)
  | entry (e : Option Entry)
  | keys (ks : List String)
  | stats (s : CacheStats)
  | refreshed (count : Nat)
  /-- The include, or `none` when it never finished. -/
  | resolved (inc : Option Include)
  | noDirective
  | composed (c : ComposedPage)
  | prewarmed (warmed failed : Nat)
  | flushed
  | noDisk
  deriving Repr, Inhabited

/-- A step's report. -/
structure Report where
  outcome : Outcome
  /-- The fetches made during the step, in order. -/
  fetches : List FetchRequest
  items : Nat
  total : Int
  /-- The disk tier's record count and bytes, when there is one. -/
  disk : Option (Nat × Int)
  deriving Repr, Inhabited

/-- A session: the finalized settings, the node, and the wall-clock instant
at which the disk tier is reopened. -/
structure Session where
  settings : Settings
  node : Node
  wall : Instant
  deriving Repr, Inhabited

/-- A new session: an empty cache sized by the settings, with a disk tier of
`diskMax` bytes when given. -/
def Session.start (settings : Settings) (clock : Instant) (servers : Servers)
    (diskMax : Option Int) (wall : Instant) : Session :=
  { settings, wall
    node := { clock, servers
              store := { memory := Memory.empty settings.cache.maxSize, disk := diskMax.map Disk.empty } } }

def runStep (cfg : Settings) (n : Node) : Step → Outcome × Node
  | .advance ns => let n := { n with clock := n.clock.add ns }; (.clock n.clock, n)
  | .put key spec req =>
    let f := spec.build n.clock
    let req := req.getD { url := f.url }
    match n.store.put key f req n.clock with
    | .ok store => (.stored, { n with store })
    | .error e => (.refused e, n)
  | .get key => let (store, f) := n.store.get key n.clock; (.found f, { n with store })
  | .remove key => (.stored, { n with store := n.store.remove key })
  | .entry key => (.entry (n.store.memory.find? key), n)
  | .keys => (.keys n.store.memory.keys, n)
  | .stats => (.stats n.store.stats, n)
  | .refresh => let (count, n) := refreshDue cfg.cache.autoRefresh n; (.refreshed count, n)
  | .resolve tag index header =>
    match scan tag.toUTF8 with
    | [] => (.noDirective, n)
    | d :: _ => let (inc, n) := resolve cfg.transclusion n d index header; (.resolved inc, n)
  | .transclude doc header pageHeader defaultStatus =>
    let (page, n) := transclude cfg.transclusion n doc header
    let forward := cfg.transclusion.responseForward
    (.composed
      { content := page.text cfg.stats n.clock
        status := page.status defaultStatus
        hasPrimary := page.primary.isSome
        header := page.header forward
        elapsed := page.elapsed
        cacheControl := page.cacheControl pageHeader n.clock
        applied := page.applyTo forward pageHeader n.clock
        includes := page.includes }, n)
  | .prewarm urls =>
    let ((warmed, failed), n) := prewarm cfg.transclusion n urls
    (.prewarmed warmed failed, n)
  | .flushDisk => (if n.store.disk.isSome then .flushed else .noDisk, n)

def Session.step (s : Session) (st : Step) : Report × Session :=
  let (outcome, n) := runStep s.settings { s.node with fetched := [] } st
  let n := { n with store := n.store.reopen s.wall }
  ({ outcome, fetches := n.fetched, items := n.store.memory.count, total := n.store.memory.total
     disk := n.store.disk.map fun d => (d.count, d.total) }, { s with node := n })

def Session.run (s : Session) : List Step → List Report
  | [] => []
  | st :: rest => let (r, s) := s.step st; r :: s.run rest

theorem advance_moves_clock (s : Session) (ns : Int) :
    (s.step (.advance ns)).2.node.clock = s.node.clock.add ns ∧ (s.step (.advance ns)).1.fetches = [] := by
  simp [Session.step, runStep]

end Transclusion.Composition
