import Transclusion.Composition.Assemble
import Transclusion.Proxy.Headers
import Transclusion.Proxy.PageStats
import Transclusion.Text.Case
import Transclusion.Web.Address
import Transclusion.Composition.Offline

/-!
# The composition proxy

Each page request is forwarded to the origin, and what comes back decides
the answer:
- a request whose path the first matching rule marks `bypass`, and any
  request that is not a `GET`, is passed through as the origin answered it
  (without a body for `HEAD`), marked `bypass` or `passthrough`;
- an answer that is not uncompressed HTML is passed through;
- HTML is composed: its includes are resolved and substituted, the primary
  fragment's status and forwarded headers and the merged cache lifetime
  apply, and the validators `ETag` and `Last-Modified` are dropped when the
  text changed; the page is counted in the page statistics;
- when the origin gives no answer at all, the proxy answers 502 with the
  plain-text body `bad gateway`.
Every answer states its length and carries the `X-Stitch` marker; a marker
the origin sent is dropped.
-/

namespace Transclusion.Proxy

open Transclusion.Http Transclusion.Time Transclusion.Config Transclusion.Composition
open Transclusion.Cache Transclusion.Text

/-- A request to the proxy. -/
structure PageRequest where
  method : String := "GET"
  /-- The request target: a path with an optional query. -/
  target : String := "/"
  header : Header := {}
  body : String := ""
  deriving Repr, Inhabited

/-- What the origin gave for a forwarded request. -/
inductive OriginAnswer where
  /-- No response came back. -/
  | failed (reason : String)
  | response (status : Int) (header : Header) (body : String)
  deriving Repr, Inhabited

/-- An answer of the proxy. -/
structure PageResponse where
  status : Int
  header : Header
  body : String
  deriving Repr, Inhabited

/-- The proxy's state. -/
structure Service where
  settings : Settings
  node : Node
  pages : PageStats := {}
  deriving Repr, Inhabited

/-- Starts the proxy at `clock`; it needs an origin. -/
def Service.start (settings : Settings) (clock : Instant) : Except String Service :=
  if settings.server.origin.isEmpty then .error "server.origin is required"
  else
    let disk := if settings.cache.disk.path.isEmpty then none else some (Disk.empty settings.cache.disk.max)
    .ok { settings, node := { clock, store := { memory := Memory.empty settings.cache.maxSize, disk } } }

/-- Decodes percent escapes; a text with an incomplete escape is kept as
it is. -/
def percentDecode (s : String) : String :=
  match unescapeUrl .path s.toUTF8.toList with
  | some bs => textOfBytes bs
  | none => s

def targetPath (target : String) : String :=
  percentDecode (String.ofList (target.toList.takeWhile fun c => c != '?' && c != '#'))

def Service.originUrl (s : Service) (req : PageRequest) : String := s.settings.server.origin ++ req.target

def Service.offlineOrigin (s : Service) (req : PageRequest) : OriginAnswer :=
  .failed (fetchOffline (s.originUrl req)).message

/-- The answer when the origin gives none. -/
def badGateway : PageResponse :=
  let h := markHandling {} "bad-gateway"
  let h := (h.set "Content-Type" "text/plain; charset=utf-8").set "X-Content-Type-Options" "nosniff"
  { status := 502, header := h, body := "bad gateway\n" }

/-- An answer built from a status, headers and body: the origin's marker
is dropped, the length is stated, and the answer is marked `how`. -/
def writeAnswer (status : Int) (header : Header) (body : String) (how : String) : PageResponse :=
  let h := header.entries.foldl (fun (acc : Header) (k, vs) =>
    if equalFold k markerHeader then acc else (vs.getD []).foldl (fun acc v => acc.add k v) acc) {}
  let h := h.set "Content-Length" (toString body.utf8ByteSize)
  { status, header := markHandling h how, body }

/-- Passes the origin's answer through, marked `how`. -/
def passThrough (req : PageRequest) (origin : OriginAnswer) (how : String) : PageResponse :=
  match origin with
  | .failed _ => badGateway
  | .response status header body =>
    writeAnswer status (header.del "Content-Length") (if req.method == "HEAD" then "" else body) how

/-- Whether the first rule matching a path, if any, bypasses composition. -/
def bypasses (rules : List Rule) (path : String) : Bool :=
  match rules.find? (·.matches path) with
  | some r => r.bypass
  | none => false

def Service.handle (s : Service) (req : PageRequest) (origin : OriginAnswer) : PageResponse × Service :=
  let path := targetPath req.target
  if bypasses s.settings.rules path then (passThrough req origin "bypass", s)
  else if req.method != "GET" then (passThrough req origin "passthrough", s)
  else
    match origin with
    | .failed _ => (badGateway, s)
    | .response status header doc =>
      let header := header.del "Content-Length"
      if !composable header then (writeAnswer status header doc "passthrough", s)
      else
        let cfg := s.settings
        let (page, node) := transclude cfg.transclusion s.node doc req.header
        let h := page.applyTo cfg.transclusion.responseForward header node.clock
        let body := page.text cfg.stats node.clock
        let h := if body != doc then (h.del "ETag").del "Last-Modified" else h
        let pages := s.pages.observe body.utf8ByteSize page.includes.length
        (writeAnswer (page.status status) h body "composed", { s with node, pages })

def Service.advance (s : Service) (ns : Int) : Service :=
  { s with node := { s.node with clock := s.node.clock.add ns } }

/-! ## Prewarm URLs

The configured prewarm URLs as the service fetches them: trimmed, blanks
dropped, absolute `http://` and `https://` URLs kept, and every other URL
taken relative to the origin, with a leading slash added when missing. -/

/-- One URL relative to `origin`; empty when blank. -/
def normalizeUrl (origin u : String) : String :=
  let u := trimBlank u
  if u.isEmpty then u
  else if u.startsWith "http://" || u.startsWith "https://" then u
  else origin ++ (if u.startsWith "/" then u else "/" ++ u)

def prewarmUrls (origin : String) (urls : List String) : List String :=
  (urls.map (normalizeUrl origin)).filter (!·.isEmpty)

end Transclusion.Proxy
