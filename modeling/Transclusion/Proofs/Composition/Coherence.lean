import Transclusion.Proofs.Cache.Admission
import Transclusion.Proofs.Cache.Representation
import Transclusion.Proofs.Composition.Fallbacks
import Mathlib.Data.List.Basic

/-!
# Cache coherence of the resolver

Resolving a directive, composing a page and prewarming URLs reach the cache
only through lookups (`Node.load`), each made from the node the one before it
left, with the clock free to move between them (`Lookups`). A lookup reads
the key made from its URL and the headers the page request forwards, and
with no disk tier it does one of four things (`Lookup.load_cases`): it
answers from a fresh entry; or it drops the stale entry and then joins a
fetch that never returned, fetches and stores nothing, or fetches and
stores the fragment fetched.

Main statement: `resolver_cache_coherent`. Over every sequence of resolves,
page compositions and prewarms, with any fragment servers and any moves of
the clock, from a node with no disk tier whose cache keeps its books, the
run is coherent (`CoherentRun`):

* the fetcher is called only for a key with no entry fresh at the lookup's
  instant, and once, with the URL and the forwarded headers of the key;
* a fetched fragment is stored under the key exactly when its status is
  cacheable, it is fresh at the instant of the store and it fits the budget;
* an entry answers every later lookup of its key, as cached and with no
  fetch, until it expires, is evicted or is replaced;
* nothing else is stored: every entry records a store made before the run,
  or holds the fragment a lookup of the run fetched. The fallback content of
  a directive and the expired copy of an errored primary response are built
  after the lookups and never reach the cache.

What a run keeps of the entries it starts with is `Memory.Descends`: entries
are read, dropped and added, never rewritten, and sequence numbers tell them
apart.
-/

namespace Transclusion.Http

theorem Header.filter_empty (names : List String) : Header.empty.filter names = Header.empty :=
  List.foldl_fixed' (fun _ => rfl) names

end Transclusion.Http

namespace Transclusion.Cache

open Transclusion.Time

namespace Memory

/-- An entry after a successful store is one the store kept, under another
key, or the new entry: the fetched fragment for its request, under the key,
with the next sequence number. -/
theorem mem_put_stored {m : Memory} {key : String} {f : Fragment} {req : FetchRequest} {now : Instant}
    {r : Memory × List Entry} (h : m.put key f req now = .ok r) {y : Entry} (hy : y ∈ r.1.entries) :
    (y ∈ m.entries ∧ y.key ≠ key) ∨ (y.key = key ∧ y.seq = m.seq + 1 ∧ y.fragment = f ∧ y.request = req) := by
  obtain ⟨-, -, e, -, hr, hk, hs, hq, hf, -⟩ := put_ok h
  have hsub := evictFor_sublist ((m.detach key).count + 1) (m.detach key) f.size none
  rw [hr] at hy
  simp only [entries_eq, List.mem_append, List.mem_singleton] at hy
  rcases hy with (hy | rfl) | hy
  · exact .inl (mem_detach.mp (List.mem_append_left _ (hsub.1.subset hy)))
  · exact .inr ⟨hk, hs, hf, hq⟩
  · exact .inl (mem_detach.mp (List.mem_append_right _ (hsub.2.subset hy)))

end Memory

/-- Two entries record the same store: the same sequence number, key,
fragment and request, whatever reads have stamped on them since. -/
def Entry.SameStore (x y : Entry) : Prop :=
  x.seq = y.seq ∧ x.key = y.key ∧ x.fragment = y.fragment ∧ x.request = y.request

theorem Entry.SameStore.refl (x : Entry) : x.SameStore x := ⟨rfl, rfl, rfl, rfl⟩

theorem Entry.SameStore.trans {x y z : Entry} (h₁ : x.SameStore y) (h₂ : y.SameStore z) : x.SameStore z :=
  ⟨h₁.1.trans h₂.1, h₁.2.1.trans h₂.2.1, h₁.2.2.1.trans h₂.2.2.1, h₁.2.2.2.trans h₂.2.2.2⟩

theorem Entry.SameStore.readEntry (e : Entry) (now : Instant) : e.SameStore (Memory.readEntry e now) :=
  ⟨rfl, rfl, rfl, rfl⟩

/-- The store a lookup leaves that found no fresh entry, when there is no
disk tier: the stale entry under the key dropped, and a miss counted. -/
def Store.missed (s : Store) (key : String) : Store := { s with memory := s.memory.detach key }.miss

@[simp] theorem Store.missed_disk (s : Store) (key : String) : (s.missed key).disk = s.disk := rfl

@[simp] theorem Store.missed_memory (s : Store) (key : String) :
    (s.missed key).memory = (s.memory.detach key).tally fun c => { c with misses := c.misses + 1 } := rfl

theorem Store.find?_missed_self (s : Store) (key : String) : (s.missed key).memory.find? key = none := by
  simp [Memory.find?_detach_self]

theorem Store.mem_missed {s : Store} {key : String} {x : Entry} (hx : x ∈ (s.missed key).memory.entries) :
    x ∈ s.memory.entries := by
  simp only [Store.missed_memory, Memory.tally_entries] at hx
  exact (Memory.mem_detach.mp hx).1

/-- With no disk tier, a lookup that finds no fresh entry drops the stale
one and answers nothing. -/
theorem Store.get_of_stale {s : Store} {key : String} {now : Instant} (hd : s.disk = none)
    (h : ∀ e, s.memory.find? key = some e → e.fragment.freshAt now = false) :
    s.get key now = (s.missed key, none) := by
  obtain ⟨m, d⟩ := s
  subst hd
  cases hf : m.find? key with
  | none => simp [Store.get, hf, Store.getFromDisk, Store.missed, Memory.detach_absent _ _ hf]
  | some e => simp [Store.get, hf, h e hf, Store.getFromDisk, Store.missed]

/-- The entries of `m` numbered no later than the last store `n` made are
copies of entries `n` holds: the same stores, whatever reads did to them. -/
structure Memory.Descends (n m : Memory) : Prop where
  seq_le : n.seq ≤ m.seq
  old : ∀ y ∈ m.entries, y.seq ≤ n.seq → ∃ x ∈ n.entries, x.SameStore y

theorem Memory.Descends.refl (m : Memory) : m.Descends m :=
  ⟨le_refl _, fun y hy _ => ⟨y, hy, .refl y⟩⟩

theorem Store.put_disk_none {s s' : Store} {key : String} {f : Fragment} {req : FetchRequest} {now : Instant}
    (hd : s.disk = none) (h : s.put key f req now = .ok s') : s'.disk = none := by
  unfold Store.put at h
  split at h
  · cases h
  · cases h
    simp [Store.spill, hd]

end Transclusion.Cache

namespace Transclusion.Composition

open Transclusion.Http Transclusion.Time Transclusion.Cache Transclusion.Config

@[simp] theorem Node.fetch_fetched (n : Node) (req : FetchRequest) : (n.fetch req).2.fetched = n.fetched ++ [req] := rfl

/-- One lookup a resolver makes: the node it starts from, and the URL,
timeout and forwarded headers it loads with. -/
structure Lookup where
  node : Node
  url : String
  timeout : Int
  header : Header

namespace Lookup

variable (vary : List String) (l : Lookup)

/-- The cache key the lookup reads and writes. -/
def key : String := cacheKey l.url l.header vary

/-- The fetch the lookup makes when the cache cannot answer. -/
def request : FetchRequest := { url := l.url, header := l.header, timeout := l.timeout }

/-- What the lookup gives. -/
def result : Loaded := (l.node.load vary l.url l.timeout l.header).1

/-- The node the lookup leaves. -/
def after : Node := (l.node.load vary l.url l.timeout l.header).2

/-- No entry under the lookup's key is fresh at the lookup's instant. -/
def Misses : Prop := ∀ e, l.node.store.memory.find? (l.key vary) = some e → e.fragment.freshAt l.node.clock = false

/-- Everything one lookup can do when there is no disk tier: answer from a
fresh entry; or, after dropping the stale entry, join a fetch that never
returned; fetch once and store nothing; or fetch once and store the
fragment fetched. -/
theorem load_cases (hd : l.node.store.disk = none) :
    (∃ e, l.node.store.memory.find? (l.key vary) = some e ∧ e.fragment.freshAt l.node.clock = true ∧
      l.result vary = .fragment e.fragment true ∧
      l.after vary = { l.node with
        store := { l.node.store with memory := l.node.store.memory.markRead (l.key vary) l.node.clock }.hit }) ∨
    (l.Misses vary ∧ l.node.stalled.contains (l.key vary) = true ∧ l.result vary = .stall ∧
      l.after vary = { l.node with store := l.node.store.missed (l.key vary) }) ∨
    (l.Misses vary ∧ (l.after vary).fetched = l.node.fetched ++ [l.request] ∧
      (l.after vary).store = l.node.store.missed (l.key vary) ∧
      ∀ f, l.result vary = .fragment f false →
        ¬ (isCacheable f.status = true ∧ f.freshAt (l.after vary).clock = true ∧
          (f.size : Int) ≤ l.node.store.memory.maxBytes)) ∨
    (l.Misses vary ∧ (l.after vary).fetched = l.node.fetched ++ [l.request] ∧
      ∃ f, l.result vary = .fragment f false ∧ isCacheable f.status = true ∧
        (l.node.store.missed (l.key vary)).put (l.key vary) f l.request (l.after vary).clock =
          .ok (l.after vary).store) := by
  by_cases hfresh : ∃ e, l.node.store.memory.find? (l.key vary) = some e ∧ e.fragment.freshAt l.node.clock = true
  · obtain ⟨e, hf, hfr⟩ := hfresh
    left
    refine ⟨e, hf, hfr, ?_⟩
    simp only [key] at hf
    simp [result, after, Node.load, Store.get, hf, hfr, key]
  · have hmiss : l.Misses vary := fun e he => by simpa using fun h => hfresh ⟨e, he, h⟩
    have hget : l.node.store.get (cacheKey l.url l.header vary) l.node.clock =
        (l.node.store.missed (cacheKey l.url l.header vary), none) := Store.get_of_stale hd hmiss
    right
    simp only [result, after, Node.load, key, request] at hmiss ⊢
    rw [hget]
    simp only
    by_cases hst : l.node.stalled.contains (cacheKey l.url l.header vary) = true
    · left
      exact ⟨hmiss, by simp only [hst, if_true, and_self]⟩
    · right
      simp only [hst, Bool.false_eq_true, if_false]
      obtain ⟨⟨reply, n₂⟩, hfe⟩ : ∃ p, Node.fetch { l.node with store := l.node.store.missed (cacheKey l.url l.header vary) }
          { url := l.url, header := l.header, timeout := l.timeout } = p := ⟨_, rfl⟩
      have hfetched : n₂.fetched = l.node.fetched ++ [{ url := l.url, header := l.header, timeout := l.timeout }] := by
        simpa using (congrArg (·.2.fetched) hfe).symm
      have hstore : n₂.store = l.node.store.missed (cacheKey l.url l.header vary) := by
        simpa using (congrArg (·.2.store) hfe).symm
      rw [hfe]
      cases reply with
      | stall => exact .inl ⟨hmiss, hfetched, hstore, fun f h => by cases h⟩
      | failure e => exact .inl ⟨hmiss, hfetched, hstore, fun f h => by cases h⟩
      | fragment f =>
        simp only
        by_cases hc : isCacheable f.status = true
        · simp only [hc, if_true]
          cases hp : n₂.store.put (cacheKey l.url l.header vary) f
              { url := l.url, header := l.header, timeout := l.timeout } n₂.clock with
          | ok s' =>
            rw [hstore] at hp
            exact .inr ⟨hmiss, hfetched, f, rfl, hc, hp⟩
          | error err =>
            -- a fresh fragment within the budget would have been admitted
            refine .inl ⟨hmiss, hfetched, hstore, ?_⟩
            rintro f' hf' ⟨-, hfr, hfit⟩
            cases hf'
            rw [hstore, Store.put_error_iff] at hp
            have hroom : (f.size : Int) ≤ (l.node.store.missed (cacheKey l.url l.header vary)).memory.maxBytes := by
              simpa using hfit
            obtain ⟨r, hr⟩ := (Memory.put_ok_iff _ _ f _ n₂.clock).mpr ⟨hfr, hroom⟩
            rw [hr] at hp
            cases hp
        · simp only [hc, Bool.false_eq_true, if_false]
          refine .inl ⟨hmiss, hfetched, hstore, ?_⟩
          rintro f' hf' ⟨hc', -⟩
          cases hf'
          exact hc hc'

/-- What one lookup does with the cache. A fresh entry under the key
answers, as cached, and nothing is fetched; the fetcher is called only when
no entry under the key is fresh at the lookup's instant, and then once, with
the URL and the headers the key was made from. After a fetch the key holds
the fragment fetched, for its request, exactly when its status is
cacheable, it is fresh at the instant of the store and it fits the budget,
and nothing else. Every other entry after the lookup records a store made
before it. -/
structure Coherent : Prop where
  hit : ∀ e, l.node.store.memory.find? (l.key vary) = some e → e.fragment.freshAt l.node.clock = true →
    l.result vary = .fragment e.fragment true ∧ (l.after vary).fetched = l.node.fetched
  fetchOnMiss : (l.after vary).fetched = l.node.fetched ∨
    ((l.after vary).fetched = l.node.fetched ++ [l.request] ∧ l.Misses vary)
  stored : ∀ f, l.result vary = .fragment f false →
    (∀ x, (l.after vary).store.memory.find? (l.key vary) = some x → x.fragment = f ∧ x.request = l.request) ∧
    (((l.after vary).store.memory.find? (l.key vary)).isSome = true ↔
      isCacheable f.status = true ∧ f.freshAt (l.after vary).clock = true ∧
        (f.size : Int) ≤ l.node.store.memory.maxBytes)
  kept : ∀ x ∈ (l.after vary).store.memory.entries,
    (∃ y ∈ l.node.store.memory.entries, y.SameStore x) ∨
    (x.seq = l.node.store.memory.seq + 1 ∧ x.key = l.key vary ∧ x.request = l.request ∧
      l.result vary = .fragment x.fragment false)

variable {vary l}

theorem Misses.not_fresh (h : l.Misses vary) {e : Entry}
    (he : l.node.store.memory.find? (l.key vary) = some e) (hfr : e.fragment.freshAt l.node.clock = true) : False := by
  simp [h e he] at hfr

theorem coherent (hd : l.node.store.disk = none) : l.Coherent vary := by
  rcases l.load_cases vary hd with ⟨e, hf, hfr, hres, hafter⟩ | ⟨hmiss, -, hres, hafter⟩ |
    ⟨hmiss, hfet, hstore, hnot⟩ | ⟨hmiss, hfet, f, hres, hc, hput⟩
  · -- a hit
    refine ⟨fun e' he' _ => ?_, .inl (by rw [hafter]), fun f hf' => by simp [hres] at hf', fun x hx => .inl ?_⟩
    · obtain rfl : e' = e := Option.some.inj (he'.symm.trans hf)
      exact ⟨hres, by rw [hafter]⟩
    · rw [hafter] at hx
      simp only [Store.hit_memory, Memory.tally_entries, Memory.markRead_entries hf, List.mem_append,
        List.mem_singleton] at hx
      rcases hx with hx | rfl
      · exact ⟨x, (Memory.mem_detach.mp hx).1, .refl x⟩
      · exact ⟨e, Memory.find?_mem hf, .readEntry e _⟩
  · -- a key whose fetch never returned
    refine ⟨fun e he hfr => (hmiss.not_fresh he hfr).elim, .inl (by rw [hafter]), fun f hf' => by simp [hres] at hf',
      fun x hx => .inl ⟨x, Store.mem_missed (by rwa [hafter] at hx), .refl x⟩⟩
  · -- a fetch that stores nothing
    refine ⟨fun e he hfr => (hmiss.not_fresh he hfr).elim, .inr ⟨hfet, hmiss⟩, fun f hf' => ?_,
      fun x hx => .inl ⟨x, Store.mem_missed (by rwa [hstore] at hx), .refl x⟩⟩
    rw [hstore, Store.find?_missed_self]
    refine ⟨fun x hx => (nomatch hx), ?_⟩
    simp only [Option.isSome_none, Bool.false_eq_true, false_iff]
    exact hnot f hf'
  · -- a fetch whose fragment is stored
    obtain ⟨r, hr, hm⟩ := Store.put_memory hput
    obtain ⟨hfr, hfit, -⟩ := Memory.put_ok hr
    refine ⟨fun e he hfr => (hmiss.not_fresh he hfr).elim, .inr ⟨hfet, hmiss⟩, fun f' hf' => ?_, fun x hx => ?_⟩
    · obtain rfl : f = f' := by simpa [hres] using hf'
      rw [hm]
      refine ⟨fun x hx => ?_, ?_⟩
      · rcases Memory.mem_put_stored hr (Memory.find?_mem hx) with ⟨-, hne⟩ | ⟨-, -, hxf, hxr⟩
        · exact absurd (Memory.find?_key hx) hne
        · exact ⟨hxf, hxr⟩
      · obtain ⟨x, hx, -⟩ := Memory.find?_put hr
        simp only [Store.missed_memory, Memory.tally_maxBytes, Memory.detach_maxBytes] at hfit
        simp [hx, hc, hfr, hfit]
    · rw [hm] at hx
      rcases Memory.mem_put_stored hr hx with ⟨hx, -⟩ | ⟨hk, hs, hxf, hxr⟩
      · exact .inl ⟨x, Store.mem_missed hx, .refl x⟩
      · refine .inr ⟨by simpa using hs, hk, hxr, by rw [hres, hxf]⟩

/-- The store a lookup leaves: the key read, the stale entry dropped, or that
followed by a successful store. -/
theorem store_after (hd : l.node.store.disk = none) :
    (l.after vary).store = { l.node.store with memory := l.node.store.memory.markRead (l.key vary) l.node.clock }.hit ∨
    (l.after vary).store = l.node.store.missed (l.key vary) ∨
    ∃ f, (l.node.store.missed (l.key vary)).put (l.key vary) f l.request (l.after vary).clock = .ok (l.after vary).store := by
  rcases l.load_cases vary hd with ⟨-, -, -, -, hafter⟩ | ⟨-, -, -, hafter⟩ | ⟨-, -, hstore, -⟩ | ⟨-, -, f, -, -, hput⟩
  · exact .inl (by rw [hafter])
  · exact .inr (.inl (by rw [hafter]))
  · exact .inr (.inl hstore)
  · exact .inr (.inr ⟨f, hput⟩)

theorem seq_le_after (hd : l.node.store.disk = none) :
    l.node.store.memory.seq ≤ (l.after vary).store.memory.seq := by
  rcases l.store_after hd with hs | hs | ⟨f, hput⟩
  · rw [hs]; simp
  · rw [hs]; simp
  · obtain ⟨r, hr, hm⟩ := Store.put_memory hput
    rw [hm, Memory.put_seq hr]
    simp

theorem disk_after (hd : l.node.store.disk = none) : (l.after vary).store.disk = none := by
  rcases l.store_after hd with hs | hs | ⟨f, hput⟩
  · rw [hs]; exact hd
  · rw [hs]; exact hd
  · exact Store.put_disk_none (by simpa using hd) hput

theorem books_after (hd : l.node.store.disk = none) (hb : l.node.store.memory.Books) :
    (l.after vary).store.memory.Books := by
  have hmissed := (hb.detach (l.key vary)).tally fun c => { c with misses := c.misses + 1 }
  rcases l.store_after hd with hs | hs | ⟨f, hput⟩
  · rw [hs]
    exact (hb.markRead (l.key vary) l.node.clock).tally fun c => { c with hits := c.hits + 1 }
  · rw [hs]
    exact hmissed
  · obtain ⟨r, hr, hm⟩ := Store.put_memory hput
    rw [hm]
    exact hmissed.put hr

/-- A lookup keeps the copies: it only reads, drops and adds entries, and an
entry it adds is numbered after every store before it. -/
theorem descends {a : Memory} (hd : l.node.store.disk = none)
    (h : a.Descends l.node.store.memory) : a.Descends (l.after vary).store.memory := by
  refine ⟨h.seq_le.trans (l.seq_le_after hd), fun y hy hya => ?_⟩
  rcases (coherent hd).kept y hy with ⟨z, hz, hzy⟩ | ⟨hs, -⟩
  · obtain ⟨x, hx, hxz⟩ := h.old z hz (hzy.1 ▸ hya)
    exact ⟨x, hx, hxz.trans hzy⟩
  · have := h.seq_le
    omega

end Lookup

/-- A run of lookups from one node to another: each lookup is made from the
node the one before it left, and the clock may move between lookups. -/
inductive Lookups (vary : List String) : Node → List Lookup → Node → Prop
  | nil (n : Node) : Lookups vary n [] n
  | lookup (l : Lookup) {rest : List Lookup} {n' : Node} :
      Lookups vary (l.after vary) rest n' → Lookups vary l.node (l :: rest) n'
  | tick (n : Node) (t : Instant) {rest : List Lookup} {n' : Node} :
      Lookups vary { n with clock := t } rest n' → Lookups vary n rest n'

namespace Lookups

variable {vary : List String}

theorem append {n m k : Node} {t₁ t₂ : List Lookup} (h₁ : Lookups vary n t₁ m) (h₂ : Lookups vary m t₂ k) :
    Lookups vary n (t₁ ++ t₂) k := by
  induction h₁ with
  | nil => exact h₂
  | lookup l _ ih => exact .lookup l (ih h₂)
  | tick n t _ ih => exact .tick n t (ih h₂)

theorem split {n n' : Node} {pre post : List Lookup} (h : Lookups vary n (pre ++ post) n') :
    ∃ m, Lookups vary n pre m ∧ Lookups vary m post n' := by
  generalize ht : pre ++ post = trace at h
  induction h generalizing pre with
  | nil n =>
    obtain ⟨rfl, rfl⟩ := List.append_eq_nil_iff.mp ht
    exact ⟨n, .nil n, .nil n⟩
  | lookup l h ih =>
    cases pre with
    | nil =>
      simp only [List.nil_append] at ht
      subst ht
      exact ⟨l.node, .nil _, .lookup l h⟩
    | cons l' pre =>
      obtain ⟨rfl, hrest⟩ := List.cons.inj ht
      obtain ⟨m, h₁, h₂⟩ := ih hrest
      exact ⟨m, .lookup l' h₁, h₂⟩
  | tick n t _ ih =>
    obtain ⟨m, h₁, h₂⟩ := ih ht
    exact ⟨m, .tick n t h₁, h₂⟩

/-- The lookups after the first one make a run from the node it left. -/
theorem tail {m n' : Node} {l : Lookup} {post : List Lookup} (h : Lookups vary m (l :: post) n') :
    Lookups vary (l.after vary) post n' := by
  generalize ht : l :: post = trace at h
  induction h with
  | nil => cases ht
  | lookup l' h => obtain ⟨rfl, rfl⟩ := List.cons.inj ht; exact h
  | tick n t _ ih => exact ih ht

/-- What every lookup and every move of the clock keeps holds at every
lookup of a run and at its end. -/
theorem invariant {P : Node → Prop} (hl : ∀ l : Lookup, P l.node → P (l.after vary))
    (ht : ∀ n t, P n → P { n with clock := t }) {n n' : Node} {trace : List Lookup}
    (h : Lookups vary n trace n') (hn : P n) : (∀ l ∈ trace, P l.node) ∧ P n' := by
  induction h with
  | nil => exact ⟨fun _ h => (nomatch h), hn⟩
  | lookup l _ ih =>
    obtain ⟨hrest, hend⟩ := ih (hl l hn)
    exact ⟨fun l' hl' => (List.mem_cons.mp hl').elim (fun h => h ▸ hn) (hrest l'), hend⟩
  | tick n t _ ih => exact ih (ht n t hn)

/-- Across a run with no disk tier, every entry at the end records a store
that an entry at the start records, or holds the fragment a lookup of the
run fetched, under that lookup's key and for its request. -/
theorem origin {n n' : Node} {trace : List Lookup} (h : Lookups vary n trace n') (hd : n.store.disk = none) :
    ∀ x ∈ n'.store.memory.entries, (∃ y ∈ n.store.memory.entries, y.SameStore x) ∨
      ∃ l ∈ trace, x.key = l.key vary ∧ x.request = l.request ∧ l.result vary = .fragment x.fragment false := by
  induction h with
  | nil n => exact fun x hx => .inl ⟨x, hx, .refl x⟩
  | lookup l _ ih =>
    intro x hx
    rcases ih (l.disk_after hd) x hx with ⟨y, hy, hyx⟩ | ⟨l', hl', hk⟩
    · rcases (Lookup.coherent hd).kept y hy with ⟨z, hz, hzy⟩ | ⟨-, hk, hr, hres⟩
      · exact .inl ⟨z, hz, hzy.trans hyx⟩
      · -- the entry was stored by this lookup
        refine .inr ⟨l, List.mem_cons_self, hyx.2.1 ▸ hk, hyx.2.2.2 ▸ hr, hyx.2.2.1 ▸ hres⟩
    · exact .inr ⟨l', List.mem_cons_of_mem _ hl', hk⟩
  | tick n t _ ih => exact ih hd

/-- Across a run with no disk tier from a cache whose books balance, an entry
held at the start answers every lookup of its key, as cached and with no
fetch, for as long as it is the entry stored under the key (neither evicted
nor replaced) and is fresh at the lookup's instant. -/
theorem answers {n n' : Node} {trace : List Lookup} (h : Lookups vary n trace n') (hd : n.store.disk = none)
    (hb : n.store.memory.Books) {x : Entry} (hx : x ∈ n.store.memory.entries) {l : Lookup} (hl : l ∈ trace)
    (hk : l.key vary = x.key) (hy : ∃ y, l.node.store.memory.find? x.key = some y ∧ y.seq = x.seq)
    (hf : x.fragment.freshAt l.node.clock = true) :
    l.result vary = .fragment x.fragment true ∧ (l.after vary).fetched = l.node.fetched := by
  -- along the run no disk tier appears, and the entries numbered up to the
  -- start's last store are copies of the start's
  have hl' := (h.invariant (P := fun m => m.store.disk = none ∧ n.store.memory.Descends m.store.memory)
    (fun l hl => ⟨l.disk_after hl.1, l.descends hl.1 hl.2⟩) (fun _ _ hm => hm) ⟨hd, .refl _⟩).1 l hl
  obtain ⟨y, hfy, hys⟩ := hy
  obtain ⟨x', hx', hxy⟩ := hl'.2.old y (Memory.find?_mem hfy) (hys ▸ hb.seq_le x hx)
  obtain rfl : x' = x := hb.eq_of_seq hx' hx (hxy.1.trans hys)
  rw [hxy.2.2.1]
  exact (Lookup.coherent hl'.1).hit y (hk ▸ hfy) (hxy.2.2.1 ▸ hf)

end Lookups

/-! ## The resolver's calls are runs of lookups -/

/-- The loads of a chain of sources are a run of lookups, each with the
chain's headers. -/
theorem LoadChain.lookups {cfg : TransclusionConfig} {header : Header} {srcs : List Source} {n n' : Node}
    {trace : List (Source × Loaded)} (h : LoadChain cfg header srcs n trace n') :
    ∃ ls, Lookups cfg.forwardVary n ls n' ∧ ∀ l ∈ ls, l.header = header := by
  induction h with
  | exhausted n => exact ⟨[], .nil n, fun _ h => (nomatch h)⟩
  | @stop s rest n n' ld hl _ =>
    have hrun : Lookups cfg.forwardVary n [⟨n, s.url, s.timeout, header⟩]
        ((Lookup.mk n s.url s.timeout header).after cfg.forwardVary) := .lookup ⟨n, s.url, s.timeout, header⟩ (.nil _)
    rw [show (Lookup.mk n s.url s.timeout header).after cfg.forwardVary = n' from congrArg Prod.snd hl] at hrun
    exact ⟨_, hrun, by simp⟩
  | @pass s rest n n₁ n' ld trace hl _ _ ih =>
    obtain ⟨ls, hls, hh⟩ := ih
    rw [← show (Lookup.mk n s.url s.timeout header).after cfg.forwardVary = n₁ from congrArg Prod.snd hl] at hls
    exact ⟨⟨n, s.url, s.timeout, header⟩ :: ls, .lookup _ hls, by simpa using hh⟩

theorem resolve_lookups (cfg : TransclusionConfig) (n : Node) (d : Directive) (i : Nat) (parent : Header) :
    ∃ ls, Lookups cfg.forwardVary n ls (resolve cfg n d i parent).2 ∧
      ∀ l ∈ ls, l.header = parent.filter (forwardedNames cfg) := by
  obtain ⟨trace, n', hc, h2, -⟩ := trySources_chain cfg (parent.filter (forwardedNames cfg)) (sources cfg d) {} n
  have hnode : (resolve cfg n d i parent).2 = n' := by
    rcases ht : trySources cfg (parent.filter (forwardedNames cfg)) (sources cfg d) {} n with ⟨_ | acc, n''⟩ <;>
      rw [ht] at h2 <;> simp only [resolve, ht, h2]
  rw [hnode]
  exact hc.lookups

theorem resolveAll_lookups (cfg : TransclusionConfig) (header : Header) :
    ∀ (ds : List (Nat × Directive)) (n : Node),
      ∃ ls, Lookups cfg.forwardVary n ls (resolveAll cfg header ds n).2 ∧
        ∀ l ∈ ls, l.header = header.filter (forwardedNames cfg)
  | [], n => ⟨[], .nil n, fun _ h => (nomatch h)⟩
  | (i, d) :: rest, n => by
    obtain ⟨ls₁, h₁, hh₁⟩ := resolve_lookups cfg n d i header
    obtain ⟨ls₂, h₂, hh₂⟩ := resolveAll_lookups cfg header rest (resolve cfg n d i header).2
    rw [resolveAll_cons]
    refine ⟨ls₁ ++ ls₂, h₁.append h₂, fun l hl => ?_⟩
    rcases List.mem_append.mp hl with hl | hl
    · exact hh₁ l hl
    · exact hh₂ l hl

theorem transclude_lookups (cfg : TransclusionConfig) (n : Node) (doc : String) (header : Header) :
    ∃ ls, Lookups cfg.forwardVary n ls (transclude cfg n doc header).2 ∧
      ∀ l ∈ ls, l.header = header.filter (forwardedNames cfg) := by
  simp only [transclude]
  split
  · exact ⟨[], .nil n, fun _ h => by cases h⟩
  · split
    · exact ⟨[], .nil n, fun _ h => by cases h⟩
    · exact resolveAll_lookups cfg header _ n

/-- A fold whose every step loads one URL without headers is a run of
lookups. -/
theorem foldl_load_lookups {α : Type} (vary : List String) (timeout : Int) (F : α × Node → String → α × Node)
    (hF : ∀ a n u, (F (a, n) u).2 = (n.load vary u timeout {}).2) :
    ∀ (urls : List String) (a : α) (n : Node),
      ∃ ls, Lookups vary n ls (urls.foldl F (a, n)).2 ∧ ∀ l ∈ ls, l.header = {}
  | [], _, n => ⟨[], .nil n, fun _ h => (nomatch h)⟩
  | u :: rest, a, n => by
    obtain ⟨ls, h, hh⟩ := foldl_load_lookups vary timeout F hF rest (F (a, n) u).1 (F (a, n) u).2
    have h' : Lookups vary (Lookup.after vary ⟨n, u, timeout, {}⟩) ls (rest.foldl F (F (a, n) u)).2 := by
      rw [Lookup.after, ← hF a n u]
      exact h
    exact ⟨⟨n, u, timeout, {}⟩ :: ls, .lookup ⟨n, u, timeout, {}⟩ h', by simpa using hh⟩

theorem prewarm_lookups (cfg : TransclusionConfig) (n : Node) (urls : List String) :
    ∃ ls, Lookups cfg.forwardVary n ls (prewarm cfg n urls).2 ∧ ∀ l ∈ ls, l.header = {} := by
  refine foldl_load_lookups cfg.forwardVary cfg.requestTimeout _ (fun ⟨w, f⟩ n u => ?_) urls (0, 0) n
  simp only
  split <;> rename_i hl
  · split_ifs <;> simp [hl]
  · simp [hl]

/-- The session steps a resolver serves: resolving a directive, composing a
page, prewarming URLs, and moving the clock between them. -/
def Step.resolves : Step → Bool
  | .advance _ | .resolve .. | .transclude .. | .prewarm _ => true
  | _ => false

/-- The node reached from `n` by running `steps` in order. -/
def runSteps (cfg : Settings) (n : Node) (steps : List Step) : Node :=
  steps.foldl (fun n st => (runStep cfg n st).2) n

theorem runStep_lookups (cfg : Settings) (n : Node) {st : Step} (h : st.resolves = true) :
    ∃ ls, Lookups cfg.transclusion.forwardVary n ls (runStep cfg n st).2 ∧
      ∀ l ∈ ls, ∃ parent : Header, l.header = parent.filter (forwardedNames cfg.transclusion) := by
  cases st with
  | advance ns => exact ⟨[], .tick n _ (.nil _), fun _ h => (nomatch h)⟩
  | resolve tag index header =>
    simp only [runStep]
    split
    · exact ⟨[], .nil n, fun _ h => (nomatch h)⟩
    · rename_i d _ _
      obtain ⟨ls, hls, hh⟩ := resolve_lookups cfg.transclusion n d index header
      rcases hr : resolve cfg.transclusion n d index header with ⟨inc, n'⟩
      rw [hr] at hls
      exact ⟨ls, hls, fun l hl => ⟨header, hh l hl⟩⟩
  | transclude doc header pageHeader status =>
    obtain ⟨ls, hls, hh⟩ := transclude_lookups cfg.transclusion n doc header
    rcases ht : transclude cfg.transclusion n doc header with ⟨page, n'⟩
    rw [ht] at hls
    simp only [runStep, ht]
    exact ⟨ls, hls, fun l hl => ⟨header, hh l hl⟩⟩
  | prewarm urls =>
    -- a prewarm forwards nothing: its lookups carry the headers of an empty page request
    obtain ⟨ls, hls, hh⟩ := prewarm_lookups cfg.transclusion n urls
    exact ⟨ls, hls, fun l hl => ⟨Header.empty, by rw [hh l hl, Header.filter_empty]; rfl⟩⟩
  | _ => simp [Step.resolves] at h

theorem runSteps_lookups (cfg : Settings) :
    ∀ (steps : List Step) (n : Node), (∀ st ∈ steps, st.resolves = true) →
      ∃ ls, Lookups cfg.transclusion.forwardVary n ls (runSteps cfg n steps) ∧
        ∀ l ∈ ls, ∃ parent : Header, l.header = parent.filter (forwardedNames cfg.transclusion)
  | [], n, _ => ⟨[], .nil n, fun _ h => (nomatch h)⟩
  | st :: rest, n, h => by
    obtain ⟨ls₁, h₁, hh₁⟩ := runStep_lookups cfg n (h st List.mem_cons_self)
    obtain ⟨ls₂, h₂, hh₂⟩ :=
      runSteps_lookups cfg rest (runStep cfg n st).2 fun st' hs => h st' (List.mem_cons_of_mem _ hs)
    refine ⟨ls₁ ++ ls₂, h₁.append h₂, fun l hl => ?_⟩
    rcases List.mem_append.mp hl with hl | hl
    · exact hh₁ l hl
    · exact hh₂ l hl

/-! ## Coherence of the cache over every run -/

/-- What a run of lookups from `n` to `n'` does with a cache that has no disk
tier: every lookup carries the headers a page request forwards and does
with the cache what `Lookup.Coherent` says; an entry answers every later
lookup of its key, as cached and with no fetch, while it is still the entry
stored under the key and is fresh; and every entry at the end records a store
that one at the start records, or holds the fragment a lookup of the run
fetched, under that lookup's key and for its request. -/
structure CoherentRun (vary forward : List String) (n : Node) (trace : List Lookup) (n' : Node) : Prop where
  run : Lookups vary n trace n'
  forwarded : ∀ l ∈ trace, ∃ parent : Header, l.header = parent.filter forward
  coherent : ∀ l ∈ trace, l.Coherent vary
  answers : ∀ pre l post, trace = pre ++ l :: post → ∀ x ∈ (l.after vary).store.memory.entries, ∀ l' ∈ post,
    l'.key vary = x.key → (∃ y, l'.node.store.memory.find? x.key = some y ∧ y.seq = x.seq) →
    x.fragment.freshAt l'.node.clock = true →
    l'.result vary = .fragment x.fragment true ∧ (l'.after vary).fetched = l'.node.fetched
  origin : ∀ x ∈ n'.store.memory.entries, (∃ y ∈ n.store.memory.entries, y.SameStore x) ∨
    ∃ l ∈ trace, x.key = l.key vary ∧ x.request = l.request ∧ l.result vary = .fragment x.fragment false

/-- Every sequence of resolves, page compositions and prewarms, with the
clock moved freely between them, over any fragment servers, from a node with
no disk tier whose cache keeps its books, is a coherent run of lookups. -/
theorem resolver_cache_coherent (cfg : Settings) (steps : List Step) (hsteps : ∀ st ∈ steps, st.resolves = true)
    {n : Node} (hdisk : n.store.disk = none) (hbooks : n.store.memory.Books) :
    ∃ trace, CoherentRun cfg.transclusion.forwardVary (forwardedNames cfg.transclusion) n trace
      (runSteps cfg n steps) := by
  obtain ⟨trace, hrun, hfwd⟩ := runSteps_lookups cfg steps n hsteps
  have hkept := (hrun.invariant (P := fun m => m.store.disk = none ∧ m.store.memory.Books)
    (fun l hl => ⟨l.disk_after hl.1, l.books_after hl.1 hl.2⟩) (fun _ _ hm => hm) ⟨hdisk, hbooks⟩).1
  refine ⟨trace, hrun, hfwd, fun l hl => Lookup.coherent (hkept l hl).1, ?_, hrun.origin hdisk⟩
  intro pre l post htrace x hx l' hl' hk hy hf
  -- the lookups after `l` run from the node it left
  obtain ⟨m, -, hsuffix⟩ := (htrace ▸ hrun).split
  have hl : l ∈ trace := htrace ▸ List.mem_append_right _ List.mem_cons_self
  exact hsuffix.tail.answers (l.disk_after (hkept l hl).1) (l.books_after (hkept l hl).1 (hkept l hl).2) hx hl' hk hy hf

/-- A node whose one server answers `http://a/x` with a fragment it may
cache: a prewarm loads the URL, the clock moves a second, and a directive for
the same URL is resolved; the run is coherent. -/
theorem resolver_cache_coherent_served :
    let n : Node :=
      { clock := ⟨0, 0⟩, store := { memory := Memory.empty 1024 }
        servers := { routes := [{ url := "http://a/x", responses := [{ body := "x" }] }] } }
    let steps := [Step.prewarm ["http://a/x"], .advance nsPerSecond,
      .resolve "<stitch-include src=\"http://a/x\"/>" 0 {}]
    (∃ f, (n.fetch { url := "http://a/x" }).1 = .fragment f ∧ isCacheable f.status = true) ∧
      (∀ st ∈ steps, st.resolves = true) ∧ n.store.disk = none ∧ n.store.memory.Books ∧
      ∃ trace, CoherentRun ({} : Settings).transclusion.forwardVary (forwardedNames ({} : Settings).transclusion)
        n trace (runSteps {} n steps) := by
  intro n steps
  have hsteps : ∀ st ∈ steps, st.resolves = true := by decide
  have hbooks : n.store.memory.Books := (consistent_start (by decide) none).sound.books
  exact ⟨⟨_, rfl, by decide⟩, hsteps, rfl, hbooks, resolver_cache_coherent {} steps hsteps rfl hbooks⟩

end Transclusion.Composition
