import Transclusion.Composition.Renewal
import Transclusion.Proofs.Cache.Entries
import Mathlib.Logic.Function.Basic

/-!
# Runs of the cache

A run of the fragment cache is any interleaving of stores, lookups (a lookup
may promote a record from the disk tier), removals, changes of the disk tier
on its own (its writer applying queued operations, a reopen), and refresh
passes. A refresh pass is split in two, as the service runs it: the selection
of the due entries, and then one completion per selected entry, in any order,
each with any reply and at any instant, interleaved with everything else. A
new pass starts only when the previous one has completed.

A run records what it does to entries in a history: when each entry was
stored and last read, how many refresh fetches of it failed since the last
successful one, and how many succeeded since it was last read. Entries are
named by their sequence numbers.

The model's own pass, `refreshDue`, is such a run (`refreshDue_reach`).
-/

namespace Transclusion.Composition

open Transclusion.Http

/-- Whether a reply counts as a failed refresh: no response, or an
unsuccessful status. -/
def Reply.failed : Reply → Bool
  | .fragment f => !isSuccess f.status
  | .failure _ => true
  | .stall => false

end Transclusion.Composition

namespace Transclusion.Cache

open Transclusion.Time Transclusion.Composition Transclusion.Config Transclusion.Http

/-- What a run does to an entry, as its history records it. -/
inductive Event where
  /-- A store made the entry. -/
  | stored (seq : Nat)
  /-- A lookup was answered by the entry. -/
  | read (seq : Nat)
  /-- A refresh fetch of the entry completed; `ok` when it answered with a
  successful status. -/
  | fetched (seq : Nat) (ok : Bool)
  deriving Repr, DecidableEq

/-- What a history says about each entry. -/
structure History where
  /-- How many events happened. -/
  clock : Nat := 0
  /-- When the entry was stored. -/
  storedAt : Nat → Nat := fun _ => 0
  /-- When a lookup last read the entry, if one did since it was stored. -/
  readAt : Nat → Option Nat := fun _ => none
  /-- Failed refresh fetches since the last successful one, or since the
  entry was stored. -/
  failures : Nat → Nat := fun _ => 0
  /-- Successful refresh fetches since the entry was last read, or since it
  was stored. -/
  quiet : Nat → Nat := fun _ => 0

namespace History

/-- Adds one event to a history. -/
def record (h : History) : Event → History
  | .stored n =>
    { clock := h.clock + 1, storedAt := Function.update h.storedAt n h.clock
      readAt := Function.update h.readAt n none, failures := Function.update h.failures n 0
      quiet := Function.update h.quiet n 0 }
  | .read n =>
    { h with clock := h.clock + 1, readAt := Function.update h.readAt n (some h.clock)
             quiet := Function.update h.quiet n 0 }
  | .fetched n ok =>
    { h with clock := h.clock + 1
             failures := Function.update h.failures n (if ok then 0 else h.failures n + 1)
             quiet := Function.update h.quiet n (if ok then h.quiet n + 1 else h.quiet n) }

/-- Adds events in order. -/
def recordAll (h : History) (es : List Event) : History := es.foldl record h

@[simp] theorem recordAll_nil (h : History) : h.recordAll [] = h := rfl

@[simp] theorem recordAll_cons (h : History) (e : Event) (es : List Event) :
    h.recordAll (e :: es) = (h.record e).recordAll es := rfl

@[simp] theorem record_clock (h : History) (e : Event) : (h.record e).clock = h.clock + 1 := by
  cases e <;> rfl

@[simp] theorem record_stored_storedAt (h : History) (n : Nat) :
    (h.record (.stored n)).storedAt = Function.update h.storedAt n h.clock := rfl
@[simp] theorem record_stored_readAt (h : History) (n : Nat) :
    (h.record (.stored n)).readAt = Function.update h.readAt n none := rfl
@[simp] theorem record_stored_failures (h : History) (n : Nat) :
    (h.record (.stored n)).failures = Function.update h.failures n 0 := rfl
@[simp] theorem record_stored_quiet (h : History) (n : Nat) :
    (h.record (.stored n)).quiet = Function.update h.quiet n 0 := rfl

@[simp] theorem record_read_storedAt (h : History) (n : Nat) : (h.record (.read n)).storedAt = h.storedAt := rfl
@[simp] theorem record_read_readAt (h : History) (n : Nat) :
    (h.record (.read n)).readAt = Function.update h.readAt n (some h.clock) := rfl
@[simp] theorem record_read_failures (h : History) (n : Nat) : (h.record (.read n)).failures = h.failures := rfl
@[simp] theorem record_read_quiet (h : History) (n : Nat) :
    (h.record (.read n)).quiet = Function.update h.quiet n 0 := rfl

@[simp] theorem record_fetched_storedAt (h : History) (n : Nat) (ok : Bool) :
    (h.record (.fetched n ok)).storedAt = h.storedAt := rfl
@[simp] theorem record_fetched_readAt (h : History) (n : Nat) (ok : Bool) :
    (h.record (.fetched n ok)).readAt = h.readAt := rfl
@[simp] theorem record_fetched_failures (h : History) (n : Nat) (ok : Bool) :
    (h.record (.fetched n ok)).failures = Function.update h.failures n (if ok then 0 else h.failures n + 1) := rfl
@[simp] theorem record_fetched_quiet (h : History) (n : Nat) (ok : Bool) :
    (h.record (.fetched n ok)).quiet = Function.update h.quiet n (if ok then h.quiet n + 1 else h.quiet n) := rfl

end History

/-- A cache in a run: the store, the history of its entries, and the entries
selected by the refresh pass in flight whose fetch has not completed. -/
structure Tracked where
  store : Store
  history : History := {}
  inflight : List Entry := []

/-- The events of a lookup of `key` at `now`: promoting a disk record stores
a new entry, and the entry that answers is read. -/
def lookupEvents (s : Store) (key : String) (now : Instant) : List Event :=
  let r := s.get key now
  (if r.1.memory.seq = s.memory.seq then [] else [.stored r.1.memory.seq]) ++
    match r.2, r.1.memory.find? key with
    | some _, some e => [.read e.seq]
    | _, _ => []

/-- The events of completing the refresh of `e` with `reply`; a fetch that
never returns completes nothing. -/
def fetchEvents (e : Entry) : Reply → List Event
  | .fragment f => [.fetched e.seq (isSuccess f.status)]
  | .failure _ => [.fetched e.seq false]
  | .stall => []

variable (cfg : RefreshConfig)

/-- One step of a run. -/
inductive Step : Tracked → Tracked → Prop
  | put (t : Tracked) (key : String) (f : Fragment) (req : FetchRequest) (now : Instant) {s : Store} :
      t.store.put key f req now = .ok s →
      Step t { t with store := s, history := t.history.record (.stored s.memory.seq) }
  | get (t : Tracked) (key : String) (now : Instant) :
      Step t { t with store := (t.store.get key now).1
                      history := t.history.recordAll (lookupEvents t.store key now) }
  | remove (t : Tracked) (key : String) : Step t { t with store := t.store.remove key }
  /-- The disk tier changes on its own. -/
  | disk (t : Tracked) (d : Option Disk) : Step t { t with store := { t.store with disk := d } }
  | select (t : Tracked) (now : Instant) : t.inflight = [] →
      Step t { t with store := { t.store with memory := (selectDue cfg t.store.memory now).1 }
                      inflight := (selectDue cfg t.store.memory now).2 }
  | complete (t : Tracked) (pre post : List Entry) (e : Entry) (reply : Reply) (now : Instant) :
      t.inflight = pre ++ e :: post →
      Step t { store := completeRefresh cfg t.store e reply now
               history := t.history.recordAll (fetchEvents e reply)
               inflight := pre ++ post }

/-- The states a run reaches from an empty cache of `maxBytes` bytes, with or
without a disk tier. -/
inductive Reach (maxBytes : Int) : Tracked → Prop
  | start (disk : Option Disk) : Reach maxBytes { store := { memory := Memory.empty maxBytes, disk } }
  | step {t t' : Tracked} : Reach maxBytes t → Step cfg t t' → Reach maxBytes t'

/-! ## What each step does to the memory -/

@[simp] theorem Store.spill_memory (s : Store) (ev : List Entry) (now : Instant) :
    (s.spill ev now).memory = s.memory := by
  unfold Store.spill; split <;> rfl

@[simp] theorem Store.hit_memory (s : Store) : s.hit.memory = s.memory.tally fun c => { c with hits := c.hits + 1 } := rfl
@[simp] theorem Store.miss_memory (s : Store) : s.miss.memory = s.memory.tally fun c => { c with misses := c.misses + 1 } := rfl

theorem Store.put_memory {s s' : Store} {key : String} {f : Fragment} {req : FetchRequest} {now : Instant}
    (h : s.put key f req now = .ok s') : ∃ r, s.memory.put key f req now = .ok r ∧ s'.memory = r.1 := by
  unfold Store.put at h
  split at h
  · cases h
  · rename_i m ev hm
    cases h
    exact ⟨(m, ev), hm, by simp⟩

/-- A lookup that misses memory: either nothing is stored, or a fresh disk
record is stored and read. -/
theorem getFromDisk_cases (s : Store) (key : String) (now : Instant) :
    (∃ g, (s.getFromDisk key now).1.memory = s.memory.tally g) ∨
    (∃ f req r g, s.memory.put key f req now = .ok r ∧ (s.getFromDisk key now).2.isSome ∧
        (s.getFromDisk key now).1.memory = (r.1.markRead key now).tally g) := by
  cases hd : s.disk with
  | none => exact .inl ⟨_, by simp [Store.getFromDisk, hd]; rfl⟩
  | some d =>
    cases hg : d.get key now with
    | mk d' found =>
      cases found with
      | none => exact .inl ⟨_, by simp [Store.getFromDisk, hd, hg]; rfl⟩
      | some rec =>
        by_cases hfr : rec.fragment.freshAt now = true
        · cases hp : Store.put { s with disk := some d' } key rec.fragment rec.request now with
          | error e => exact .inl ⟨_, by simp [Store.getFromDisk, hd, hg, hfr, hp]; rfl⟩
          | ok s' =>
            obtain ⟨r, hr, hm⟩ := Store.put_memory hp
            refine .inr ⟨rec.fragment, rec.request, r, fun c => { c with hits := c.hits + 1 }, hr, ?_, ?_⟩
            · simp [Store.getFromDisk, hd, hg, hfr, hp]
            · simp [Store.getFromDisk, hd, hg, hfr, hp, hm]
        · exact .inl ⟨_, by simp [Store.getFromDisk, hd, hg, hfr]; rfl⟩

theorem get_cases (s : Store) (key : String) (now : Instant) :
    (∃ e g, s.memory.find? key = some e ∧ e.fragment.freshAt now = true ∧
        (s.get key now).1.memory = (s.memory.markRead key now).tally g ∧
        lookupEvents s key now = [.read e.seq]) ∨
    (∃ g, (s.get key now).1.memory = (s.memory.detach key).tally g ∧ lookupEvents s key now = []) ∨
    (∃ f req r g, (s.memory.detach key).put key f req now = .ok r ∧
        (s.get key now).1.memory = (r.1.markRead key now).tally g ∧
        lookupEvents s key now = [.stored r.1.seq, .read r.1.seq]) := by
  -- a miss consults the disk with the key dropped from memory
  have miss : ∀ s₀ : Store, s₀.memory = s.memory.detach key → s.get key now = s₀.getFromDisk key now →
      (∃ g, (s.get key now).1.memory = (s.memory.detach key).tally g ∧ lookupEvents s key now = []) ∨
      (∃ f req r g, (s.memory.detach key).put key f req now = .ok r ∧
        (s.get key now).1.memory = (r.1.markRead key now).tally g ∧
        lookupEvents s key now = [.stored r.1.seq, .read r.1.seq]) := by
    intro s₀ hs₀ hget
    have hnone : (s.memory.detach key).find? key = none := by
      cases h : (s.memory.detach key).find? key with
      | none => rfl
      | some x => exact absurd (Memory.find?_key h) (Memory.mem_detach.mp (Memory.find?_mem h)).2
    rcases getFromDisk_cases s₀ key now with ⟨g, hm⟩ | ⟨f, req, r, g, hr, hsome, hm⟩
    · refine .inl ⟨g, by rw [hget, hm, hs₀], ?_⟩
      simp [lookupEvents, hget, hm, hs₀, hnone]
    · rw [hs₀] at hr
      obtain ⟨e, he, hseq, -⟩ := Memory.find?_put hr
      refine .inr ⟨f, req, r, g, hr, by rw [hget, hm], ?_⟩
      obtain ⟨x, hx⟩ := Option.isSome_iff_exists.mp hsome
      simp [lookupEvents, hget, hm, hx, Memory.find?_markRead he, Memory.readEntry, hseq, Memory.put_seq hr]
  cases hf : s.memory.find? key with
  | none =>
    right
    exact miss s (Memory.detach_absent _ _ hf).symm (by simp [Store.get, hf])
  | some e =>
    by_cases hfr : e.fragment.freshAt now = true
    · left
      refine ⟨e, fun c => { c with hits := c.hits + 1 }, rfl, hfr, by simp [Store.get, hf, hfr], ?_⟩
      simp [lookupEvents, Store.get, hf, hfr, Memory.find?_markRead hf, Memory.readEntry]
    · right
      exact miss { s with memory := s.memory.detach key } rfl (by simp [Store.get, hf, hfr])


/-- The entry a failed refresh leaves: one more attempt, and stopped once the
attempts reach a positive limit. -/
def failedEntry (cfg : RefreshConfig) (cur : Entry) : Entry :=
  { cur with refreshAttempts := cur.refreshAttempts + 1
             refreshStopped := cur.refreshStopped ||
               (cfg.maxAttempts > 0 && ((cur.refreshAttempts + 1 : Nat) : Int) ≥ cfg.maxAttempts) }

/-- The entry a successful refresh leaves: the new fragment, its size and
digest, written now, with its bookkeeping restarted. -/
def refreshedEntry (cur : Entry) (f : Fragment) (now : Instant) : Entry :=
  { cur with fragment := f, size := f.size, digest := Digest.Blake3.hash f.body.toUTF8.toList
             writtenAt := now, refreshAttempts := 0, readSinceWrite := false
             inactiveRefreshes := if cur.readSinceWrite then 0 else cur.inactiveRefreshes + 1 }

/-- What applying a refresh's reply does to the memory: nothing for a fetch
that never returns; a failure counts an attempt on the entry in place; a
fragment that may no longer be cached drops the entry; otherwise the entry
takes the fragment in place and eviction, sparing it, makes room for the
growth. -/
theorem applyRefresh_cases (s : Store) (cur : Entry) (reply : Reply) (now : Instant) :
    (reply = .stall ∧ (applyRefresh cfg s cur reply now).memory = s.memory) ∨
    (reply.failed = true ∧ ∃ g, (applyRefresh cfg s cur reply now).memory =
        (s.memory.update (failedEntry cfg cur)).tally g) ∨
    (∃ f, reply = .fragment f ∧ isSuccess f.status = true ∧
        (f.freshAt now = false ∨ (f.size : Int) > s.memory.maxBytes) ∧
        ∃ g, (applyRefresh cfg s cur reply now).memory = (s.memory.detach cur.key).tally g) ∨
    (∃ f, reply = .fragment f ∧ isSuccess f.status = true ∧ f.freshAt now = true ∧
        (f.size : Int) ≤ s.memory.maxBytes ∧ ∃ (m₀ : Memory) (g : Counters → Counters),
        m₀.unread = (s.memory.update (refreshedEntry cur f now)).unread ∧
        m₀.read = (s.memory.update (refreshedEntry cur f now)).read ∧
        m₀.total = s.memory.total + f.size - cur.size ∧ m₀.seq = s.memory.seq ∧
        m₀.maxBytes = s.memory.maxBytes ∧
        (applyRefresh cfg s cur reply now).memory = (m₀.evict 0 (some cur.seq)).1.tally g) := by
  cases reply with
  | stall => exact .inl ⟨rfl, rfl⟩
  | failure err => exact .inr (.inl ⟨rfl, countFailure, rfl⟩)
  | fragment f =>
    by_cases hok : isSuccess f.status = true
    · by_cases hfit : f.freshAt now = true ∧ (f.size : Int) ≤ s.memory.maxBytes
      · obtain ⟨hfr, hle⟩ := hfit
        refine .inr (.inr (.inr ⟨f, rfl, hok, hfr, hle, ?_⟩))
        let m₁ : Memory := { s.memory.update (refreshedEntry cur f now) with
          total := s.memory.total + f.size - cur.size }
        have hgt : ¬ (f.size : Int) > s.memory.maxBytes := by omega
        refine ⟨if Digest.Blake3.hash f.body.toUTF8.toList == cur.digest then
            m₁.tally fun c => { c with refreshUnchanged := c.refreshUnchanged + 1 } else m₁,
          fun c => { c with refreshSuccesses := c.refreshSuccesses + 1 },
          by split <;> rfl, by split <;> rfl, by split <;> rfl, by split <;> rfl, by split <;> rfl, ?_⟩
        simp only [applyRefresh, hok, hfr, hgt, Bool.not_true, Bool.false_or, decide_false,
          Bool.false_eq_true, if_false, Store.spill_memory]
        rfl
      · refine .inr (.inr (.inl ⟨f, rfl, hok, ?_, countFailure, ?_⟩))
        · by_cases hfr : f.freshAt now = true
          · have hgt : ¬ (f.size : Int) ≤ s.memory.maxBytes := fun h => hfit ⟨hfr, h⟩
            exact .inr (by omega)
          · exact .inl (by simpa using hfr)
        · have hdrop : (!f.freshAt now || decide ((f.size : Int) > s.memory.maxBytes)) = true := by
            by_cases hfr : f.freshAt now = true
            · have hgt : ¬ (f.size : Int) ≤ s.memory.maxBytes := fun h => hfit ⟨hfr, h⟩
              have : (f.size : Int) > s.memory.maxBytes := by omega
              simp [this]
            · simp [hfr]
          simp [applyRefresh, hok, hdrop]
    · exact .inr (.inl ⟨by simp [Reply.failed, hok], countFailure, by simp [applyRefresh, hok]; rfl⟩)

/-- What one step of selection does: it passes over the entry, drops a
stopped entry that has expired, stops an inactive due entry, or selects a due
entry. -/
theorem selectStep_cases (now : Instant) (acc : Memory × List Entry) (e : Entry) :
    selectStep cfg now acc e = acc ∨
    (e.request.url.isEmpty = false ∧ e.refreshStopped = true ∧ e.fragment.freshAt now = false ∧
      selectStep cfg now acc e = (acc.1.detach e.key, acc.2)) ∨
    (e.request.url.isEmpty = false ∧ e.refreshStopped = false ∧ isDue cfg e now = true ∧
      inactiveTooLong cfg e = true ∧
      selectStep cfg now acc e = (acc.1.update { e with refreshStopped := true }, acc.2)) ∨
    (e.request.url.isEmpty = false ∧ e.refreshStopped = false ∧ isDue cfg e now = true ∧
      inactiveTooLong cfg e = false ∧ selectStep cfg now acc e = (acc.1, acc.2 ++ [e])) := by
  obtain ⟨m, due⟩ := acc
  cases hu : e.request.url.isEmpty
  · cases hs : e.refreshStopped
    · cases hd : isDue cfg e now
      · exact .inl (by simp [selectStep, hu, hs, hd])
      · cases hi : inactiveTooLong cfg e
        · exact .inr (.inr (.inr ⟨rfl, rfl, rfl, rfl, by simp [selectStep, hu, hs, hd, hi]⟩))
        · exact .inr (.inr (.inl ⟨rfl, rfl, rfl, rfl, by simp [selectStep, hu, hs, hd, hi]⟩))
    · cases hf : e.fragment.freshAt now
      · exact .inr (.inl ⟨rfl, rfl, rfl, by simp [selectStep, hu, hs, hf]⟩)
      · exact .inl (by simp [selectStep, hu, hs, hf])
  · exact .inl (by simp [selectStep, hu])

/-- A completion applies its reply to the entry it selected while that entry
is still stored, and changes nothing otherwise. -/
theorem completeRefresh_cases (s : Store) (e : Entry) (reply : Reply) (now : Instant) :
    completeRefresh cfg s e reply now = s ∨
    ∃ cur, s.memory.find? e.key = some cur ∧ cur.seq = e.seq ∧
      completeRefresh cfg s e reply now = applyRefresh cfg s cur reply now := by
  unfold completeRefresh
  split
  · rename_i cur hcur
    split
    · rename_i hseq; exact .inr ⟨cur, hcur, by simpa using hseq, rfl⟩
    · exact .inl rfl
  · exact .inl rfl

/-- Whatever every step of selection keeps, selection keeps, where a step
looks at an entry that is still stored and whose key no selected entry has. -/
theorem selectDue_induct (P : Memory × List Entry → Prop) (now : Instant)
    (hstep : ∀ acc e, P acc → e ∈ acc.1.entries → (∀ d ∈ acc.2, d.key ≠ e.key) →
      P (selectStep cfg now acc e))
    {m : Memory} (hk : m.KeysDistinct) (hm : P (m, [])) : P (selectDue cfg m now) := by
  -- the entries not looked at yet are still stored, and no selected entry shares their keys
  suffices h : ∀ (l : List Entry) (acc : Memory × List Entry), (l.map (·.key)).Nodup →
      (∀ x ∈ l, x ∈ acc.1.entries) → (∀ d ∈ acc.2, ∀ x ∈ l, d.key ≠ x.key) → P acc →
      P (l.foldl (selectStep cfg now) acc) from
    h m.entries (m, []) hk (fun _ hx => hx) (fun _ hd => by cases hd) hm
  intro l
  induction l with
  | nil => intro acc _ _ _ hp; exact hp
  | cons e rest ih =>
    intro acc hnd hin hdue hp
    simp only [List.map_cons, List.nodup_cons, List.mem_map] at hnd
    have hne : ∀ x ∈ rest, x.key ≠ e.key := fun x hx hxe => hnd.1 ⟨x, hx, hxe⟩
    have hstay : ∀ m' : Memory, (∀ x, x ∈ acc.1.entries → x.key ≠ e.key → x ∈ m'.entries) →
        ∀ x ∈ rest, x ∈ m'.entries := fun m' hm' x hx => hm' x (hin x (List.mem_cons_of_mem _ hx)) (hne x hx)
    have hp' := hstep acc e hp (hin e List.mem_cons_self) (fun d hd => hdue d hd e List.mem_cons_self)
    rw [List.foldl_cons]
    refine ih _ hnd.2 ?_ ?_ hp'
    · rcases selectStep_cases cfg now acc e with h | ⟨-, -, -, h⟩ | ⟨-, -, -, -, h⟩ | ⟨-, -, -, -, h⟩ <;>
        rw [h] <;> apply hstay
      · exact fun x hx _ => hx
      · exact fun x hx hxk => Memory.mem_detach.mpr ⟨hx, hxk⟩
      · intro x hx hxk
        rw [Memory.update_entries, Memory.mem_map_swapIn]
        exact .inr ⟨hx, by simpa using hxk⟩
      · exact fun x hx _ => hx
    · intro d hd x hx
      rcases selectStep_cases cfg now acc e with h | ⟨-, -, -, h⟩ | ⟨-, -, -, -, h⟩ | ⟨-, -, -, -, h⟩ <;>
        rw [h] at hd
      · exact hdue d hd x (List.mem_cons_of_mem _ hx)
      · exact hdue d hd x (List.mem_cons_of_mem _ hx)
      · exact hdue d hd x (List.mem_cons_of_mem _ hx)
      · rcases List.mem_append.mp hd with hd | hd
        · exact hdue d hd x (List.mem_cons_of_mem _ hx)
        · rw [List.mem_singleton.mp hd]; exact (hne x hx).symm

/-! ## The model's refresh pass is a run -/

@[simp] theorem fetch_store (n : Node) (req : FetchRequest) : (n.fetch req).2.store = n.store := rfl

theorem refreshEntry_store (n : Node) (e : Entry) :
    (refreshEntry cfg n e).store =
      completeRefresh cfg n.store e (n.fetch e.request).1 (n.fetch e.request).2.clock := rfl

theorem refreshEntries_reach {maxBytes : Int} :
    ∀ (due : List Entry) (n : Node) (h : History),
      Reach cfg maxBytes { store := n.store, history := h, inflight := due } →
      ∃ h', Reach cfg maxBytes { store := (due.foldl (refreshEntry cfg) n).store, history := h', inflight := [] } := by
  intro due
  induction due with
  | nil => intro n h hr; exact ⟨h, hr⟩
  | cons e rest ih =>
    intro n h hr
    have hs := Reach.step hr (Step.complete _ [] rest e (n.fetch e.request).1 (n.fetch e.request).2.clock rfl)
    rw [← refreshEntry_store] at hs
    exact ih _ _ hs

/-- A refresh pass of the model, started when no pass is in flight, is a run:
its selection followed by the completion of every selected entry in order. -/
theorem refreshDue_reach {maxBytes : Int} {t : Tracked} (n : Node) (ht : Reach cfg maxBytes t)
    (hs : t.store = n.store) (hi : t.inflight = []) :
    ∃ h, Reach cfg maxBytes { store := (refreshDue cfg n).2.store, history := h, inflight := [] } := by
  have h1 := Reach.step ht (Step.select t n.clock hi)
  rw [hs] at h1
  exact refreshEntries_reach cfg _ _ _ h1

/-! ## A sample run

Two fragments of 47 bytes are stored at the zero instant in a cache of 100
bytes, `"a"` and then `"b"`; a second later `"a"` is read; at ten seconds, when
both expire, a refresh pass selects them. The examples of later sections run
from here. -/

/-- The sample fragment under `key`, fresh until ten seconds. -/
def sampleFragment (key : String) : Fragment :=
  { url := "https://f.test/" ++ key, body := key, expiresAt := ⟨10 * nsPerSecond, 0⟩ }

/-- The entry that the `seq`-th store makes of the sample fragment under `key`
at the zero instant. -/
def sampleEntry (key : String) (seq : Nat) : Entry :=
  { key, request := { url := (sampleFragment key).url }, created := ⟨0, 0⟩, seq, fragment := sampleFragment key
    size := 47, digest := Digest.Blake3.hash (sampleFragment key).body.toUTF8.toList, writtenAt := ⟨0, 0⟩ }

/-- The sample run after the read: `"b"` unread, `"a"` read. -/
def sampleRead : Tracked where
  store :=
    { memory := { maxBytes := 100, unread := [sampleEntry "b" 2]
                  read := [Memory.readEntry (sampleEntry "a" 1) ⟨nsPerSecond, 0⟩], total := 94, seq := 2
                  counters := { hits := 1 } } }
  history := ((({} : History).record (.stored 1)).record (.stored 2)).record (.read 1)

/-- The sample run after the selection at ten seconds. -/
def sampleSelected : Tracked :=
  { sampleRead with inflight := [sampleEntry "b" 2, Memory.readEntry (sampleEntry "a" 1) ⟨nsPerSecond, 0⟩] }

theorem reach_sampleRead : Reach {} 100 sampleRead := by
  let m₁ : Memory := { maxBytes := 100, unread := [sampleEntry "a" 1], total := 47, seq := 1 }
  let m₂ : Memory := { maxBytes := 100, unread := [sampleEntry "a" 1, sampleEntry "b" 2], total := 94, seq := 2 }
  have ha : (sampleFragment "a").size = 47 := by cbv
  have hb : (sampleFragment "b").size = 47 := by cbv
  have hput₁ : ({ memory := Memory.empty 100 } : Store).put "a" (sampleFragment "a")
      { url := (sampleFragment "a").url } ⟨0, 0⟩ = .ok { memory := m₁ } := by
    have hfr : (sampleFragment "a").freshAt ⟨0, 0⟩ = true := by decide
    simp [hfr, ha, Store.put, Memory.put, Memory.evict, Memory.evictFor, Memory.detach, Memory.find?,
      Memory.entries, Memory.empty, Store.spill, m₁, sampleEntry]
  have hput₂ : ({ memory := m₁ } : Store).put "b" (sampleFragment "b")
      { url := (sampleFragment "b").url } ⟨0, 0⟩ = .ok { memory := m₂ } := by
    have hfr : (sampleFragment "b").freshAt ⟨0, 0⟩ = true := by decide
    simp [hfr, hb, Store.put, Memory.put, Memory.evict, Memory.evictFor, Memory.detach, Memory.find?,
      Memory.entries, Store.spill, m₁, m₂, sampleEntry]
  have hget : ({ memory := m₂ } : Store).get "a" ⟨nsPerSecond, 0⟩ = (sampleRead.store, some (sampleFragment "a")) := by
    have hfr : (sampleFragment "a").freshAt ⟨nsPerSecond, 0⟩ = true := by decide
    simp [Store.get, hfr, Memory.markRead, Store.hit, Memory.tally, Memory.detach, Memory.find?,
      Memory.entries, m₂, sampleRead, sampleEntry, Memory.readEntry]
  have hev : lookupEvents { memory := m₂ } "a" ⟨nsPerSecond, 0⟩ = [.read 1] := by
    simp only [lookupEvents, hget]
    simp [sampleRead, Memory.find?, Memory.entries, m₂, Memory.readEntry, sampleEntry]
  have hr : Reach ({} : RefreshConfig) 100 _ := Reach.step (Reach.step (Reach.step (.start none)
    (Step.put _ "a" _ _ ⟨0, 0⟩ hput₁)) (Step.put _ "b" _ _ ⟨0, 0⟩ hput₂)) (Step.get _ "a" ⟨nsPerSecond, 0⟩)
  rw [hget, hev] at hr
  exact hr

/-- At ten seconds both sample entries have expired, have a request, and are
neither stopped nor inactive, so selection takes them in queue order and
changes nothing else. -/
theorem selectDue_sampleRead :
    selectDue {} sampleRead.store.memory ⟨10 * nsPerSecond, 0⟩ = (sampleRead.store.memory, sampleSelected.inflight) := by
  have hchosen : ∀ e ∈ sampleSelected.inflight, ∀ acc : Memory × List Entry,
      selectStep {} ⟨10 * nsPerSecond, 0⟩ acc e = (acc.1, acc.2 ++ [e]) := by
    intro e he acc
    simp only [sampleSelected, List.mem_cons, List.not_mem_nil, or_false] at he
    have hdue : isDue {} e ⟨10 * nsPerSecond, 0⟩ = true :=
      due_of_expired {} _ _ (by decide) (by rcases he with rfl | rfl <;> decide)
    have hlive : e.request.url.isEmpty = false ∧ e.refreshStopped = false ∧ inactiveTooLong {} e = false := by
      rcases he with rfl | rfl <;> decide
    simp [selectStep, hdue, hlive]
  simp only [selectDue, sampleRead, Memory.entries, List.cons_append, List.nil_append, List.foldl_cons,
    List.foldl_nil]
  rw [hchosen _ (by simp [sampleSelected]), hchosen _ (by simp [sampleSelected])]
  rfl

theorem reach_sampleSelected : Reach {} 100 sampleSelected := by
  have hr := Reach.step reach_sampleRead (Step.select _ ⟨10 * nsPerSecond, 0⟩ rfl)
  rw [selectDue_sampleRead] at hr
  exact hr

end Transclusion.Cache
