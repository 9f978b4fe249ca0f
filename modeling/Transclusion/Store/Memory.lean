import Transclusion.Fragment.Encoding
import Transclusion.Digest.TreeHash

/-!
# The in-memory fragment cache

A size-bounded store of fragments by cache key. Every entry sits in one of
two queues: `unread` holds entries never read since they were stored, oldest
first; `read` holds entries that were read, least recently read first. When
room is needed, eviction takes the head of `unread` and, once that is empty,
the head of `read`. An entry's size is the length of its fragment's CBOR
encoding; `total` is the sum over all entries and never exceeds `maxBytes`
after a store.

Each stored entry gets a fresh sequence number, so a refresh that started
before the entry was replaced can tell that it no longer owns it.
-/

namespace Transclusion.Cache

open Transclusion.Time

/-- One cached fragment with its bookkeeping. -/
structure Entry where
  key : String
  /-- The fetch that refreshing repeats. -/
  request : FetchRequest
  created : Instant
  /-- The store that made this entry, counted from one. -/
  seq : Nat
  fragment : Fragment
  size : Int
  /-- The BLAKE3 digest of the body, to tell unchanged refreshes. -/
  digest : List UInt8
  writtenAt : Instant
  /-- The last read; the zero instant until the first. -/
  lastRead : Instant := Instant.zero
  readSinceWrite : Bool := false
  refreshAttempts : Nat := 0
  inactiveRefreshes : Nat := 0
  refreshStopped : Bool := false
  deriving Repr, Inhabited

/-- Activity counters since startup. -/
structure Counters where
  hits : Nat := 0
  misses : Nat := 0
  evictions : Nat := 0
  refreshSuccesses : Nat := 0
  refreshFailures : Nat := 0
  refreshUnchanged : Nat := 0
  deriving Repr, Inhabited, DecidableEq

/-- Why a fragment was not stored. -/
inductive PutError where
  /-- The fragment is not fresh at the moment of the store. -/
  | notCacheable
  /-- The fragment alone is larger than the whole cache. -/
  | tooLarge
  deriving Repr, DecidableEq

def PutError.kind : PutError → String
  | .notCacheable => "ErrNotCacheable"
  | .tooLarge => "ErrFragmentTooLarge"

def PutError.message : PutError → String
  | .notCacheable => "fragment is not cacheable"
  | .tooLarge => "fragment exceeds cache size"

/-- The cache: its budget, its two queues, their byte total and counters. -/
structure Memory where
  maxBytes : Int
  unread : List Entry := []
  read : List Entry := []
  total : Int := 0
  seq : Nat := 0
  counters : Counters := {}
  deriving Repr, Inhabited

namespace Memory

/-- An empty cache with the given budget. -/
def empty (maxBytes : Int) : Memory := { maxBytes }

/-- Every entry, never-read ones first. -/
def entries (m : Memory) : List Entry := m.unread ++ m.read

/-- The entry stored under `key`. -/
def find? (m : Memory) (key : String) : Option Entry :=
  m.entries.find? (·.key == key)

def count (m : Memory) : Nat := m.unread.length + m.read.length

def keys (m : Memory) : List String :=
  (m.entries.map (·.key)).mergeSort (fun a b => decide (a ≤ b))

/-- Drops the entry under `key` from its queue and from the total. -/
def detach (m : Memory) (key : String) : Memory :=
  match m.find? key with
  | none => m
  | some e =>
    { m with
      unread := m.unread.filter (·.key != key)
      read := m.read.filter (·.key != key)
      total := m.total - e.size }

def update (m : Memory) (e : Entry) : Memory :=
  let swap := fun (x : Entry) => if x.key == e.key then e else x
  { m with unread := m.unread.map swap, read := m.read.map swap }

/-- The first entry of a queue other than the one with sequence number
`keep`. -/
def victimIn (q : List Entry) (keep : Option Nat) : Option Entry :=
  q.find? (fun e => some e.seq != keep)

/-- The next entry to evict: never-read entries first, then by least recent
read; never the entry `keep`. -/
def victim (m : Memory) (keep : Option Nat) : Option Entry :=
  (victimIn m.unread keep).or (victimIn m.read keep)

/-- Evicts entries until `incoming` more bytes fit, never evicting `keep`.
Returns the evicted entries in eviction order. Each round removes an entry,
so the number of entries bounds the rounds. -/
def evictFor (fuel : Nat) (m : Memory) (incoming : Int) (keep : Option Nat) :
    Memory × List Entry :=
  match fuel with
  | 0 => (m, [])
  | fuel + 1 =>
    if m.total + incoming > m.maxBytes then
      match m.victim keep with
      | none => (m, [])
      | some v =>
        let m := m.detach v.key
        let m := { m with counters := { m.counters with evictions := m.counters.evictions + 1 } }
        let (m, more) := evictFor fuel m incoming keep
        (m, v :: more)
    else (m, [])

/-- Makes room for `incoming` bytes. -/
def evict (m : Memory) (incoming : Int) (keep : Option Nat) : Memory × List Entry :=
  evictFor (m.count + 1) m incoming keep

/-- Stores `f` under `key` at `now`, replacing any previous entry and its
bookkeeping. Returns the new cache and the entries evicted to make room. -/
def put (m : Memory) (key : String) (f : Fragment) (req : FetchRequest) (now : Instant) :
    Except PutError (Memory × List Entry) :=
  if !f.freshAt now then .error .notCacheable
  else
    let size : Int := f.size
    if size > m.maxBytes then .error .tooLarge
    else
      let m := m.detach key
      let (m, evicted) := m.evict size none
      let seq := m.seq + 1
      let e : Entry :=
        { key, request := req, created := now, seq, fragment := f, size
          digest := Digest.Blake3.hash f.body.toUTF8.toList, writtenAt := now }
      .ok ({ m with unread := m.unread ++ [e], total := m.total + size, seq }, evicted)

/-- Records a read of the entry under `key`: it moves to the back of the read
queue. -/
def markRead (m : Memory) (key : String) (now : Instant) : Memory :=
  match m.find? key with
  | none => m
  | some e =>
    let e := { e with lastRead := now, readSinceWrite := true }
    let m := m.detach key
    { m with read := m.read ++ [e], total := m.total + e.size }

def tally (m : Memory) (f : Counters → Counters) : Memory :=
  { m with counters := f m.counters }

theorem detach_absent (m : Memory) (key : String) (h : m.find? key = none) :
    m.detach key = m := by
  simp [detach, h]

end Memory

end Transclusion.Cache
