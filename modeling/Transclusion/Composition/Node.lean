import Transclusion.Composition.Sources
import Transclusion.Store.Tiered
import Transclusion.Web.Header

/-!
# A running node

Everything the composition service holds while it runs: the clock, the
fragment store, the fragment servers it fetches from, the fetches made so
far, and the cache keys whose fetch never returned.

`load` is the one way fragments enter through requests: the cache answers
when it can; otherwise the fragment is fetched and, when its status may be
cached, stored. A key whose fetch never returned is joined rather than
fetched again, so it never returns either.

Proved: `load_hit` (a cache hit makes no fetch).
-/

namespace Transclusion.Composition

open Transclusion.Http Transclusion.Time Transclusion.Cache

/-- The service's state. -/
structure Node where
  clock : Instant
  store : Store
  servers : Servers := {}
  /-- The fetches made, oldest first. -/
  fetched : List FetchRequest := []
  /-- Cache keys whose fetch never returned. -/
  stalled : List String := []
  deriving Repr, Inhabited

/-- What loading a fragment gives. -/
inductive Loaded where
  /-- The fragment, and whether the cache supplied it. -/
  | fragment (f : Fragment) (cached : Bool)
  | failure (e : FetchError)
  /-- The load never finishes. -/
  | stall
  deriving Repr, Inhabited

namespace Node

def fetch (n : Node) (req : FetchRequest) : Reply × Node :=
  let (reply, servers, clock) := n.servers.serve req n.clock
  (reply, { n with servers, clock, fetched := n.fetched ++ [req] })

/-- Loads the fragment at `url` for a request carrying `header`, whose vary
headers `vary` are part of the cache key. -/
def load (n : Node) (vary : List String) (url : String) (timeout : Int) (header : Header) :
    Loaded × Node :=
  let key := cacheKey url header vary
  let (store, hit) := n.store.get key n.clock
  let n := { n with store }
  match hit with
  | some f => (.fragment f true, n)
  | none =>
    if n.stalled.contains key then (.stall, n)
    else
      let req : FetchRequest := { url, header, timeout }
      match n.fetch req with
      | (.stall, n) => (.stall, { n with stalled := n.stalled ++ [key] })
      | (.failure e, n) => (.failure e, n)
      | (.fragment f, n) =>
        let n := if isCacheable f.status then
            match n.store.put key f req n.clock with
            | .ok store => { n with store }
            | .error _ => n
          else n
        (.fragment f false, n)

theorem load_hit (n : Node) (vary : List String) (url : String) (timeout : Int) (header : Header)
    (f : Fragment) (h : (n.store.get (cacheKey url header vary) n.clock).2 = some f) :
    (n.load vary url timeout header).2.fetched = n.fetched := by
  simp only [load]
  split
  · simp
  · rename_i hnone
    simp_all

end Node

end Transclusion.Composition
