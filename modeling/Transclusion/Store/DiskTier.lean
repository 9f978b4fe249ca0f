import Transclusion.Fragment.Encoding
import Transclusion.Record.Frame

/-!
# The disk tier

Fragments evicted from memory are kept on disk while still fresh, so they can
be promoted back. The tier's database holds, per key, the record (the CBOR map
`{1: fragment, 2: request}` packed into a record frame) and its bookkeeping:
the packed length, the last access and the expiry, each instant as a 64-bit
nanosecond count (`Instant.unixNano`). In memory the tier keeps an index of the
bookkeeping of the records it can read, and their total size.

One writer applies stores, accesses and deletions in order. Each writes one
batch to the database, and a batch may fail: a store whose batch fails changes
nothing, while a deletion or an access whose batch fails still changes the
index. A store that takes the total over budget shrinks the tier: every indexed
record expired then goes, then live ones by least recent access, until the
excess is gone. The tier sorts with an unstable sort, so records of equal last
access go in any order. `Choices` holds what the writer's surroundings decide:
which batches succeed and how ties fall.

Opening the tier rebuilds the index from the database at the wall clock and
purges the records expired then. When that purge's batch fails, the tier does
not open.
-/

namespace Transclusion.Cache

open Transclusion.Time Transclusion.Cbor

-- Sums of integers start from the core zero, so these definitions elaborate to
-- the same terms whatever else is imported beside them.
attribute [local instance (high)] Zero.ofOfNat0

structure DiskRecord where
  fragment : Fragment
  request : FetchRequest
  deriving Repr, Inhabited

def DiskRecord.toCbor (r : DiskRecord) : Item :=
  .map [(.uint 1, r.fragment.toCbor), (.uint 2, r.request.toCbor)]

def DiskRecord.packed (r : DiskRecord) : List UInt8 :=
  Record.pack (Cbor.encode r.toCbor)

/-- The bookkeeping of a record: its packed length, and its last access and
expiry as 64-bit nanosecond counts. -/
structure DiskMeta where
  size : Nat
  lastAccess : Int
  expiresAt : Int
  deriving Repr, Inhabited, DecidableEq

def DiskMeta.expiredAt (m : DiskMeta) (now : Int) : Bool := m.expiresAt ≤ now

/-- The bookkeeping a store at `now` writes for a record. -/
def DiskRecord.infoAt (r : DiskRecord) (now : Instant) : DiskMeta :=
  { size := r.packed.length, lastAccess := now.unixNano, expiresAt := r.fragment.expiresAt.unixNano }

/-- What the database holds under one key: a record and its bookkeeping as
last written. -/
structure Stored where
  key : String
  info : DiskMeta
  record : DiskRecord
  deriving Repr, Inhabited

/-- One entry of the tier's index. -/
structure IndexEntry where
  key : String
  info : DiskMeta
  deriving Repr, Inhabited, DecidableEq

/-- The tier: its budget, what its database holds, its index in the order keys
joined it, and the total size of the indexed records. -/
structure Disk where
  maxBytes : Int
  db : List Stored := []
  index : List IndexEntry := []
  total : Int := 0
  deriving Repr, Inhabited

/-- What the writer's surroundings decide during one operation: whether its
batch write succeeds, which of a shrink's deletions reach the database, and
how a shrink orders live records of equal last access (least `rank` first). -/
structure Choices where
  written : Bool := true
  deleted : String → Bool := fun _ => true
  rank : String → Nat := fun _ => 0

/-- Sets `a` under its key in a list keyed by `key`: in place of the element
with that key when there is one, at the end otherwise. -/
def setByKey {α : Type} (key : α → String) (l : List α) (a : α) : List α :=
  if l.any (key · == key a) then l.map (fun x => if key x == key a then a else x) else l ++ [a]

namespace Disk

def empty (maxBytes : Int) : Disk := { maxBytes }

def count (d : Disk) : Nat := d.index.length

def indexed? (d : Disk) (key : String) : Option IndexEntry := d.index.find? (·.key == key)

def stored? (d : Disk) (key : String) : Option Stored := d.db.find? (·.key == key)

/-- The size the index holds for `key`, or nothing. -/
def indexedSize (d : Disk) (key : String) : Nat := ((d.indexed? key).map (·.info.size)).getD 0

/-- The record the tier reads for `key`: the database's record under the
index's bookkeeping. -/
def find? (d : Disk) (key : String) : Option Stored := do
  let e ← d.indexed? key
  let s ← d.stored? key
  pure { s with info := e.info }

/-- Deletes `key` from the index and the total; the database loses it when the
batch is `written`. -/
def deleteWith (d : Disk) (key : String) (written : Bool) : Disk :=
  { d with db := if written then d.db.filter (·.key != key) else d.db
           index := d.index.filter (·.key != key)
           total := d.total - d.indexedSize key }

def delete (d : Disk) (key : String) : Disk := d.deleteWith key true

/-- The order in which a shrink visits live records: least recent access
first, ties by least rank. -/
def accessOrder (rank : String → Nat) (a b : IndexEntry) : Bool :=
  a.info.lastAccess < b.info.lastAccess || (a.info.lastAccess == b.info.lastAccess && rank a.key ≤ rank b.key)

/-- Drops every record expired at `now`, then live ones in access order while
the excess lasts. -/
def shrinkWith (d : Disk) (now : Int) (c : Choices) : Disk :=
  let excess := d.total - d.maxBytes
  let expired := d.index.filter (·.info.expiredAt now)
  let live := (d.index.filter (!·.info.expiredAt now)).mergeSort (accessOrder c.rank)
  let d := expired.foldl (fun d e => d.deleteWith e.key (c.deleted e.key)) d
  let excess := excess - (expired.map (·.info.size : IndexEntry → Int)).sum
  let (d, _) := live.foldl (fun (d, excess) e =>
    if excess ≤ 0 then (d, excess) else (d.deleteWith e.key (c.deleted e.key), excess - e.info.size)) (d, excess)
  d

/-- Stores a record at `now`. A record no longer fresh is deleted instead. A
store whose batch fails changes nothing; otherwise the database and the index
take the record under `key`, and a total over budget shrinks the tier. -/
def putWith (d : Disk) (key : String) (r : DiskRecord) (now : Instant) (c : Choices) : Disk :=
  if !r.fragment.freshAt now then d.deleteWith key c.written
  else if !c.written then d
  else
    let m := r.infoAt now
    let d := { d with db := setByKey (·.key) d.db { key, info := m, record := r }
                      index := setByKey (·.key) d.index ⟨key, m⟩
                      total := d.total - d.indexedSize key + m.size }
    if d.total > d.maxBytes then d.shrinkWith now.unixNano c else d

def put (d : Disk) (key : String) (r : DiskRecord) (now : Instant) : Disk := d.putWith key r now {}

/-- Records an access at `now` in the index; the database takes the new
bookkeeping when the batch is `written`. -/
def touchWith (d : Disk) (key : String) (now : Instant) (written : Bool) : Disk :=
  match d.indexed? key with
  | none => d
  | some e =>
    let m := { e.info with lastAccess := now.unixNano }
    { d with index := setByKey (·.key) d.index ⟨key, m⟩
             db := if written then d.db.map (fun s => if s.key == key then { s with info := m } else s)
                   else d.db }

def touch (d : Disk) (key : String) (now : Instant) : Disk := d.touchWith key now true

/-- Reads the record under `key` at `now`: an indexed record expired by then is
deleted and missed, one the database does not hold is missed, and a read
counts as an access. -/
def get (d : Disk) (key : String) (now : Instant) : Disk × Option DiskRecord :=
  match d.indexed? key with
  | none => (d, none)
  | some e =>
    if e.info.expiredAt now.unixNano then (d.delete key, none)
    else
      match d.stored? key with
      | none => (d, none)
      | some s => (d.touch key now, some s.record)

/-- Reopens the tier at the wall clock `wall`: the index is rebuilt from the
database, without the records expired then, which the database drops. -/
def reopen (d : Disk) (wall : Instant) : Disk :=
  let kept := d.db.filter (!·.info.expiredAt wall.unixNano)
  { d with db := kept, index := kept.map (fun s => ⟨s.key, s.info⟩)
           total := (kept.map (·.info.size : Stored → Int)).sum }

/-- Opens the tier over what the database holds: as `reopen`, except that when
records expired and the batch purging them fails, the tier does not open. -/
def openWith (d : Disk) (wall : Instant) (written : Bool) : Option Disk :=
  if !written && d.db.any (·.info.expiredAt wall.unixNano) then none else some (d.reopen wall)

inductive Op where
  | put (key : String) (r : DiskRecord) (now : Instant)
  | touch (key : String) (now : Instant)
  | delete (key : String)

def applyWith (d : Disk) (c : Choices) : Op → Disk
  | .put key r now => d.putWith key r now c
  | .touch key now => d.touchWith key now c.written
  | .delete key => d.deleteWith key c.written

def applyAll (d : Disk) (ops : List (Choices × Op)) : Disk :=
  ops.foldl (fun d op => d.applyWith op.1 op.2) d

end Disk

end Transclusion.Cache
