import Transclusion.Composition.Node
import Transclusion.Settings.Basic

/-!
# Refreshing cached fragments

One pass of the refresh scheduler. An entry is due once its remaining
lifetime has dropped to the larger of the margin and the configured share
of its lifetime at the last write. The pass first selects the due entries:
it skips entries without a request URL, drops stopped entries once they have
expired, and stops entries that were refreshed too often without being read.
Then it fetches every selected entry again and applies the outcome:

* a failure or an unsuccessful status counts an attempt, and enough attempts
  in a row stop the entry;
* a fragment that may not be cached any more removes the entry;
* otherwise the entry takes the new fragment, its bookkeeping restarts, and
  eviction makes room for any growth without evicting the entry itself.

An entry replaced while its fetch was in flight is left alone.

Proved: `due_of_expired` (an expired entry is due whenever the margin is not
negative).
-/

namespace Transclusion.Composition

open Transclusion.Time Transclusion.Cache Transclusion.Numeric Transclusion.Config
open Transclusion.Http

/-- The refresh threshold of an entry: the larger of the margin and the
configured share of the lifetime the entry had when last written. -/
def threshold (cfg : RefreshConfig) (e : Entry) : Int :=
  let lifetime := e.fragment.expiresAt.sub e.writtenAt
  let share := (cfg.ratio.mul (Binary64.ofInt lifetime)).toInt64
  if cfg.margin > share then cfg.margin else share

/-- Whether an entry is due for a refresh at `now`. -/
def isDue (cfg : RefreshConfig) (e : Entry) (now : Instant) : Bool :=
  e.fragment.expiresAt.sub now ≤ threshold cfg e

/-- Whether an entry was refreshed too often without being read. -/
def inactiveTooLong (cfg : RefreshConfig) (e : Entry) : Bool :=
  cfg.inactiveMax > 0 && !e.readSinceWrite && (e.inactiveRefreshes : Int) ≥ cfg.inactiveMax

/-- Looks at one entry during selection: an entry without a request URL or
not yet due is passed over, a stopped one is dropped once expired, an inactive
one is stopped, and any other is selected. -/
def selectStep (cfg : RefreshConfig) (now : Instant) (acc : Memory × List Entry) (e : Entry) :
    Memory × List Entry :=
  let (m, due) := acc
  if e.request.url.isEmpty then (m, due)
  else if e.refreshStopped then
    (if e.fragment.freshAt now then m else m.detach e.key, due)
  else if !isDue cfg e now then (m, due)
  else if inactiveTooLong cfg e then (m.update { e with refreshStopped := true }, due)
  else (m, due ++ [e])

/-- Selects the due entries at `now`, dropping expired stopped entries and
stopping inactive ones on the way. -/
def selectDue (cfg : RefreshConfig) (m : Memory) (now : Instant) : Memory × List Entry :=
  m.entries.foldl (selectStep cfg now) (m, [])

def countFailure (c : Counters) : Counters := { c with refreshFailures := c.refreshFailures + 1 }

/-- Applies the outcome of refetching the entry `cur` at `now`. -/
def applyRefresh (cfg : RefreshConfig) (s : Store) (cur : Entry) (reply : Reply) (now : Instant) :
    Store :=
  let m := s.memory
  let failed : Store :=
    let attempts := cur.refreshAttempts + 1
    let stop := cfg.maxAttempts > 0 && (attempts : Int) ≥ cfg.maxAttempts
    let cur := { cur with refreshAttempts := attempts
                          refreshStopped := cur.refreshStopped || stop }
    { s with memory := (m.update cur).tally countFailure }
  match reply with
  | .stall => s
  | .failure _ => failed
  | .fragment f =>
    if !isSuccess f.status then failed
    else
      let size : Int := f.size
      if !f.freshAt now || size > m.maxBytes then
        { s with memory := (m.detach cur.key).tally countFailure }
      else
        let digest := Digest.Blake3.hash f.body.toUTF8.toList
        let unchanged := digest == cur.digest
        let next := { cur with
          fragment := f, size, digest, writtenAt := now, refreshAttempts := 0
          readSinceWrite := false
          inactiveRefreshes := if cur.readSinceWrite then 0 else cur.inactiveRefreshes + 1 }
        let m := { m.update next with total := m.total + size - cur.size }
        let m := if unchanged then m.tally fun c => { c with refreshUnchanged := c.refreshUnchanged + 1 }
          else m
        let (m, evicted) := m.evict 0 (some cur.seq)
        let m := m.tally fun c => { c with refreshSuccesses := c.refreshSuccesses + 1 }
        { s with memory := m }.spill evicted now

/-- Completes the refresh of the selected entry `e` with the fetch's reply at
`now`: the outcome applies to the entry stored under `e`'s key only while that
is still `e`, not one that replaced it. -/
def completeRefresh (cfg : RefreshConfig) (s : Store) (e : Entry) (reply : Reply) (now : Instant) :
    Store :=
  match s.memory.find? e.key with
  | some cur => if cur.seq == e.seq then applyRefresh cfg s cur reply now else s
  | none => s

/-- Refetches one selected entry and applies the outcome, unless the entry
was replaced or removed meanwhile. -/
def refreshEntry (cfg : RefreshConfig) (n : Node) (e : Entry) : Node :=
  let (reply, n) := n.fetch e.request
  { n with store := completeRefresh cfg n.store e reply n.clock }

def refreshDue (cfg : RefreshConfig) (n : Node) : Nat × Node :=
  let (memory, due) := selectDue cfg n.store.memory n.clock
  let n := { n with store := { n.store with memory } }
  (due.length, due.foldl (refreshEntry cfg) n)

theorem due_of_expired (cfg : RefreshConfig) (e : Entry) (now : Instant)
    (hm : 0 ≤ cfg.margin) (h : e.fragment.expiresAt.sub now ≤ 0) : isDue cfg e now = true := by
  unfold isDue threshold
  apply decide_eq_true
  simp only
  split <;> omega

end Transclusion.Composition
