import Transclusion.Store.Memory
import Transclusion.Store.DiskTier
import Transclusion.Text.Case

/-!
# The tiered fragment store

The memory cache backed by an optional disk tier. Entries evicted from memory
spill to disk; a memory miss is answered from disk when the disk holds a
fresh record, which is then stored in memory again and counts as read.
Removing a key removes it from both tiers.

Hits and misses are counted here, once per lookup, whichever tier answers.

Fetched fragments are cached under a key made of their URL, then for each
name of the vary list, in order, `|name=value` with the name in lower case and
the value the header's values joined by commas in lower case. A vary header
with no value adds nothing, and headers outside the vary list never change
the key.

Proved: `get_fresh_hit` (a fresh entry in memory is returned and counted as
a hit).
-/

namespace Transclusion

open Transclusion.Http Transclusion.Text

def varyPart (h : Header) (name : String) : String :=
  let v := lower (",".intercalate (h.values name))
  if v.isEmpty then "" else "|" ++ lower name ++ "=" ++ v

/-- The cache key of a fetch of `url` with headers `h` under vary list
`vary`. -/
def cacheKey (url : String) (h : Header) (vary : List String) : String :=
  vary.foldl (fun acc name => acc ++ varyPart h name) url

end Transclusion

namespace Transclusion.Cache

open Transclusion.Time

/-- The cache's state as reports show it: entries, bytes and counters. -/
structure CacheStats where
  items : Nat := 0
  size : Int := 0
  counters : Counters := {}
  deriving Repr, Inhabited

/-- The memory cache and its optional disk tier. -/
structure Store where
  memory : Memory
  disk : Option Disk := none
  deriving Repr, Inhabited

namespace Store

def spill (s : Store) (evicted : List Entry) (now : Instant) : Store :=
  match s.disk with
  | none => s
  | some d =>
    { s with disk := some (evicted.foldl
        (fun d e => d.put e.key { fragment := e.fragment, request := e.request } now) d) }

def put (s : Store) (key : String) (f : Fragment) (req : FetchRequest) (now : Instant) :
    Except PutError Store :=
  match s.memory.put key f req now with
  | .error e => .error e
  | .ok (m, evicted) => .ok ({ s with memory := m }.spill evicted now)

def hit (s : Store) : Store :=
  { s with memory := s.memory.tally fun c => { c with hits := c.hits + 1 } }

def miss (s : Store) : Store :=
  { s with memory := s.memory.tally fun c => { c with misses := c.misses + 1 } }

def getFromDisk (s : Store) (key : String) (now : Instant) : Store × Option Fragment :=
  match s.disk with
  | none => (s.miss, none)
  | some d =>
    let (d, found) := d.get key now
    let s := { s with disk := some d }
    match found with
    | some r =>
      if r.fragment.freshAt now then
        match s.put key r.fragment r.request now with
        | .ok s => ({ s with memory := s.memory.markRead key now }.hit, some r.fragment)
        | .error _ => (s.hit, some r.fragment)
      else (s.miss, none)
    | none => (s.miss, none)

/-- Looks `key` up at `now`. A fresh memory entry is a hit and moves to the
back of the read queue; an expired one is dropped and the disk consulted. -/
def get (s : Store) (key : String) (now : Instant) : Store × Option Fragment :=
  match s.memory.find? key with
  | some e =>
    if e.fragment.freshAt now then
      ({ s with memory := s.memory.markRead key now }.hit, some e.fragment)
    else { s with memory := s.memory.detach key }.getFromDisk key now
  | none => s.getFromDisk key now

/-- Removes `key` from both tiers. -/
def remove (s : Store) (key : String) : Store :=
  { memory := s.memory.detach key, disk := s.disk.map (·.delete key) }

def stats (s : Store) : CacheStats :=
  { items := s.memory.count, size := s.memory.total, counters := s.memory.counters }

/-- Reopens the disk tier at the wall-clock instant `wall`. -/
def reopen (s : Store) (wall : Instant) : Store :=
  { s with disk := s.disk.map (·.reopen wall) }

theorem get_fresh_hit (s : Store) (key : String) (now : Instant) (e : Entry)
    (h : s.memory.find? key = some e) (hf : e.fragment.freshAt now = true) :
    (s.get key now).2 = some e.fragment := by
  simp [get, h, hf]

end Store

end Transclusion.Cache
