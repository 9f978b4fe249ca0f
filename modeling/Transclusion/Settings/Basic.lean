import Transclusion.Settings.Rule
import Transclusion.Numeric.Binary64
import Transclusion.Clock.Instant

/-!
# Configuration

The service's settings, their defaults, and the checks and completions run
once all sources are read. Durations are nanoseconds and sizes bytes, both
as signed 64-bit values.

`finalize` refuses a non-positive request timeout and negative page timeout
or default lifetime, fills a zero page timeout with twice the request
timeout, checks the refresh interval and ratio when auto-refresh is on,
raises a non-positive refresh concurrency to one, requires a disk budget
when a disk path is set, strips trailing slashes from the origin, compiles
every rule's match expression and orders rules by priority, keeping the
given order among equal priorities.
-/

namespace Transclusion.Config

open Transclusion.Numeric Transclusion.Time

def kib : Int := 1024
def mib : Int := 1024 * 1024
def gib : Int := 1024 * 1024 * 1024

/-- Where the service listens and what it proxies. -/
structure ServerConfig where
  port : Int := 8080
  origin : String := ""
  deriving Repr, Inhabited

/-- How includes are resolved. -/
structure TransclusionConfig where
  enabled : Bool := true
  /-- Bounds one fragment fetch. -/
  requestTimeout : Int := 3 * nsPerSecond
  /-- Bounds resolving all includes of a page; zero means twice the request
  timeout. -/
  pageTimeout : Int := 0
  /-- The lifetime of fragments whose response says nothing about it. -/
  defaultTtl : Int := 10 * nsPerSecond
  maxFragmentSize : Int := 5 * mib
  /-- Page request headers passed on to fragment requests. -/
  forward : List String := ["Correlation-ID", "X-Correlation-ID", "X-Request-ID"]
  /-- Page request headers passed on and made part of the cache key. -/
  forwardVary : List String := []
  /-- Primary fragment response headers copied to the page. -/
  responseForward : List String := ["Content-Language", "Location", "Refresh"]
  deriving Repr, Inhabited

/-- The refresh scheduler. -/
structure RefreshConfig where
  enabled : Bool := false
  /-- Failed refreshes in a row before an entry is given up; zero never. -/
  maxAttempts : Int := 3
  /-- Refreshes without a read in between before an entry stops; zero never. -/
  inactiveMax : Int := 2
  interval : Int := nsPerSecond
  /-- An entry is due once its remaining lifetime is at most the larger of
  `margin` and `ratio` times its lifetime at the last write. -/
  margin : Int := 2 * nsPerSecond
  ratio : Binary64 := Binary64.ofDecimal false 15 (-2)
  concurrency : Int := 32
  deriving Repr, Inhabited

/-- The disk tier. -/
structure DiskConfig where
  path : String := ""
  max : Int := 0
  deriving Repr, Inhabited

/-- Fragments loaded into the cache ahead of requests. -/
structure PrewarmConfig where
  urls : List String := []
  initialDelay : Int := 0
  every : Int := 0
  deriving Repr, Inhabited

/-- The fragment cache. -/
structure CacheConfig where
  maxSize : Int := 50 * mib
  disk : DiskConfig := {}
  autoRefresh : RefreshConfig := {}
  prewarm : PrewarmConfig := {}
  deriving Repr, Inhabited

/-- The statistics comment appended to composed pages. -/
structure StatsConfig where
  appendToContent : Bool := false
  exposeFragmentUrl : Bool := false
  deriving Repr, Inhabited

/-- Log output. -/
structure LoggingConfig where
  level : String := "info"
  format : String := "text"
  logStatsEvery : Int := 0
  deriving Repr, Inhabited

/-- Trace export. -/
structure TracingConfig where
  endpoint : String := ""
  serviceName : String := "stitch"
  deriving Repr, Inhabited

/-- A page rule: the pages whose path matches are composed or, with
`bypass`, passed through untouched. -/
structure Rule where
  expr : String := ""
  priority : Int := 0
  bypass : Bool := false
  /-- The compiled prefixes; empty until finalized. -/
  prefixes : List String := []
  deriving Repr, Inhabited

/-- Whether a rule matches a path. -/
def Rule.matches (r : Rule) (path : String) : Bool := matchesAny r.prefixes path

/-- All settings. -/
structure Settings where
  server : ServerConfig := {}
  transclusion : TransclusionConfig := {}
  cache : CacheConfig := {}
  stats : StatsConfig := {}
  logging : LoggingConfig := {}
  tracing : TracingConfig := {}
  rules : List Rule := []
  deriving Repr, Inhabited

/-- Compiles the rules in order, reporting the first refused expression with
its position. -/
def compileRules (rules : List Rule) : Except String (List Rule) :=
  let rec go : Nat → List Rule → Except String (List Rule)
    | _, [] => .ok []
    | i, r :: rest =>
      match parseMatch r.expr with
      | .error e => .error ("rules[" ++ toString i ++ "].match: " ++ e.message)
      | .ok ps => (go (i + 1) rest).map ({ r with prefixes := ps } :: ·)
  go 0 rules

def trimTrailingSlashes (s : String) : String :=
  String.ofList (s.toList.reverse.dropWhile (· == '/')).reverse

/-- Checks the include settings: the request timeout must be positive and
neither the page timeout nor the default lifetime negative. A zero page
timeout becomes twice the request timeout. -/
def TransclusionConfig.finalize (t : TransclusionConfig) : Except String TransclusionConfig :=
  if t.requestTimeout ≤ 0 then .error "transclusion.requestTimeout must be positive"
  else if t.pageTimeout < 0 || t.defaultTtl < 0 then
    .error "transclusion timeouts must not be negative"
  else .ok (if t.pageTimeout == 0 then { t with pageTimeout := wrap64 (2 * t.requestTimeout) } else t)

/-- Checks the refresh interval and ratio when auto-refresh is on, and raises
a non-positive concurrency to one. -/
def RefreshConfig.finalize (ar : RefreshConfig) : Except String RefreshConfig :=
  if ar.enabled && ar.interval ≤ 0 then .error "cache.autoRefresh.interval must be positive"
  else if ar.enabled &&
      (ar.ratio.lt (Binary64.ofInt 0) || !(ar.ratio.lt (Binary64.ofInt 1)) && !ar.ratio.isNaN) then
    .error ("cache.autoRefresh.ratio must be in [0, 1), got " ++ ar.ratio.generalText)
  else .ok (if ar.concurrency ≤ 0 then { ar with concurrency := 1 } else ar)

def DiskConfig.check (d : DiskConfig) : Except String Unit :=
  if !d.path.isEmpty && d.max ≤ 0 then .error "cache.disk.max is required when cache.disk.path is set"
  else .ok ()

/-- Checks and completes the settings, section by section in this order. -/
def Settings.finalize (cfg : Settings) : Except String Settings := do
  let t ← cfg.transclusion.finalize
  let ar ← cfg.cache.autoRefresh.finalize
  cfg.cache.disk.check
  let rules ← compileRules cfg.rules
  pure { cfg with
    transclusion := t
    cache := { cfg.cache with autoRefresh := ar }
    server := { cfg.server with origin := trimTrailingSlashes cfg.server.origin }
    rules := rules.mergeSort (fun a b => decide (a.priority ≤ b.priority)) }

end Transclusion.Config
