import Transclusion.Proofs.Cache.Run

/-!
# The representation invariant of the cache

The cache keeps its entries in two queues and a running byte total. Over
every run from an empty cache with a budget that is not negative, whatever
the order of stores, lookups (disk promotions included), removals, refresh
selections and refresh completions with any replies:

* every entry stands in exactly one queue, once, and is what looking up its
  key finds;
* the unread queue holds exactly the entries no lookup has read since they
  were stored, in the order they were stored, and the read queue holds the
  others, in the order of their last reads;
* the total is the sum of the entries' sizes, and each size is that of the
  entry's current fragment;
* the total never exceeds the budget.

The books (`Memory.Books`) and the budget (`Memory.Sound`) are facts of the
memory alone; the order of the queues (`Ordered`) is read against the run's
history. Each operation keeps both (`Consistent`), so every reachable state
satisfies them (`reach_consistent`).

Proved: `representation`, and on the sample run `representation_sample`.
-/

namespace Transclusion.Cache

open Transclusion.Time Transclusion.Composition Transclusion.Config

namespace Memory

/-- The cache's books balance: no two entries share a key or a sequence
number, every sequence number was issued, the total is the bytes of the
entries, and each entry's size is its fragment's. -/
structure Books (m : Memory) : Prop where
  keys : m.KeysDistinct
  seqs : (m.entries.map (·.seq)).Nodup
  seq_le : ∀ e ∈ m.entries, e.seq ≤ m.seq
  weighed : m.total = weight m.entries
  sized : ∀ e ∈ m.entries, e.size = e.fragment.size

/-- The books balance within a budget that is not negative. -/
structure Sound (m : Memory) : Prop where
  books : m.Books
  budget : 0 ≤ m.maxBytes
  fits : m.total ≤ m.maxBytes

theorem weight_nonneg {l : List Entry} (h : ∀ e ∈ l, e.size = e.fragment.size) : 0 ≤ weight l := by
  induction l with
  | nil => simp
  | cons x l ih =>
    have hx := h x List.mem_cons_self
    have hl := ih fun e he => h e (List.mem_cons_of_mem _ he)
    simp only [weight_cons]
    omega

theorem Books.congr {m m' : Memory} (h : m.Books) (hu : m'.unread = m.unread) (hr : m'.read = m.read)
    (hs : m'.seq = m.seq) (ht : m'.total = m.total) : m'.Books := by
  have he : m'.entries = m.entries := by rw [entries_eq, entries_eq, hu, hr]
  refine ⟨?_, ?_, ?_, ?_, ?_⟩
  · unfold KeysDistinct; rw [he]; exact h.keys
  · rw [he]; exact h.seqs
  · rw [he, hs]; exact h.seq_le
  · rw [he, ht]; exact h.weighed
  · rw [he]; exact h.sized

theorem Books.tally {m : Memory} (h : m.Books) (f : Counters → Counters) : (m.tally f).Books :=
  h.congr rfl rfl rfl rfl

/-- Entries with distinct sequence numbers and different keys are different
entries, so their sequence numbers differ. -/
theorem Books.seq_ne {m : Memory} (h : m.Books) {x e : Entry} (hx : x ∈ m.entries) (he : e ∈ m.entries)
    (hk : x.key ≠ e.key) : x.seq ≠ e.seq := fun hs =>
  hk (congrArg Entry.key (List.inj_on_of_nodup_map h.seqs hx he hs))

theorem Books.detach {m : Memory} (h : m.Books) (key : String) : (m.detach key).Books := by
  have hsub : List.Sublist (m.detach key).entries m.entries := by
    rw [detach_entries]; exact List.filter_sublist
  refine ⟨keysDistinct_detach h.keys key, h.seqs.sublist (hsub.map _), ?_, detach_total h.keys key h.weighed, ?_⟩
  · intro e he
    rw [detach_seq]
    exact h.seq_le e (hsub.subset he)
  · exact fun e he => h.sized e (hsub.subset he)

theorem detach_total_le {m : Memory} (h : m.Books) (key : String) : (m.detach key).total ≤ m.total := by
  cases hf : m.find? key with
  | none => exact Int.le_of_eq (detach_total_of_none hf)
  | some e =>
    have hz := h.sized e (find?_mem hf)
    rw [detach_total_of_find? hf]
    omega

theorem Books.evictOne {m : Memory} (h : m.Books) (v : Entry) : (m.evictOne v).Books :=
  (h.detach v.key).congr rfl rfl (by simp) rfl

theorem Books.evict {m : Memory} (h : m.Books) (incoming : Int) (keep : Option Nat) :
    (m.evict incoming keep).1.Books :=
  evictFor_induct Books (fun _ v h _ => h.evictOne v) _ m h

theorem Sound.detach {m : Memory} (h : m.Sound) (key : String) : (m.detach key).Sound :=
  ⟨h.books.detach key, by simpa using h.budget, by
    have := detach_total_le h.books key
    have := h.fits
    simp only [detach_maxBytes]; omega⟩

/-- A read moves the entry to the back of the read queue and keeps the
books. -/
theorem Books.markRead {m : Memory} (h : m.Books) (key : String) (now : Instant) :
    (m.markRead key now).Books := by
  cases hf : m.find? key with
  | none => rw [markRead_of_none hf]; exact h
  | some e =>
    have hm := find?_mem hf
    have hk := find?_key hf
    have hd := h.detach key
    have hkey : ∀ x ∈ (m.detach key).entries, x.key ≠ e.key := fun x hx => by
      rw [hk]; exact (mem_detach.mp hx).2
    have hseq : ∀ x ∈ (m.detach key).entries, x.seq ≠ e.seq := fun x hx =>
      h.seq_ne (mem_detach.mp hx).1 hm (hkey x hx)
    have hent : (m.markRead key now).entries = (m.detach key).entries ++ [readEntry e now] := by
      rw [markRead_of_find? hf, entries_eq, entries_eq]; simp
    refine ⟨?_, ?_, ?_, ?_, ?_⟩
    · unfold KeysDistinct
      rw [hent, List.map_append, List.nodup_append]
      refine ⟨hd.keys, by simp, ?_⟩
      intro a ha b hb
      simp only [List.mem_map] at ha
      simp only [List.map_cons, List.map_nil, List.mem_singleton] at hb
      obtain ⟨x, hx, rfl⟩ := ha
      rw [hb]; exact hkey x hx
    · rw [hent, List.map_append, List.nodup_append]
      refine ⟨hd.seqs, by simp, ?_⟩
      intro a ha b hb
      simp only [List.mem_map] at ha
      simp only [List.map_cons, List.map_nil, List.mem_singleton] at hb
      obtain ⟨x, hx, rfl⟩ := ha
      rw [hb]; exact hseq x hx
    · intro x hx
      rw [markRead_seq]
      rw [hent] at hx
      rcases List.mem_append.mp hx with hx | hx
      · exact h.seq_le x (mem_detach.mp hx).1
      · rw [List.mem_singleton.mp hx]; exact h.seq_le e hm
    · rw [hent, weight_append, ← hd.weighed, markRead_of_find? hf]
      simp [readEntry]
    · intro x hx
      rw [hent] at hx
      rcases List.mem_append.mp hx with hx | hx
      · exact hd.sized x hx
      · rw [List.mem_singleton.mp hx]; exact h.sized e hm

theorem markRead_total {m : Memory} (h : m.Books) (key : String) (now : Instant) :
    (m.markRead key now).total = m.total := by
  cases hf : m.find? key with
  | none => rw [markRead_of_none hf]
  | some e =>
    have hz := h.sized e (find?_mem hf)
    rw [markRead_of_find? hf]
    simp only [detach_total_of_find? hf]
    omega

theorem Sound.markRead {m : Memory} (h : m.Sound) (key : String) (now : Instant) :
    (m.markRead key now).Sound :=
  ⟨h.books.markRead key now, by simpa using h.budget, by
    rw [markRead_total h.books, markRead_maxBytes]; exact h.fits⟩

/-! ## Replacing an entry in place -/

theorem Books.eq_of_key {m : Memory} (h : m.Books) {x y : Entry} (hx : x ∈ m.entries) (hy : y ∈ m.entries)
    (hk : x.key = y.key) : x = y :=
  List.inj_on_of_nodup_map h.keys hx hy hk

theorem Books.eq_of_seq {m : Memory} (h : m.Books) {x y : Entry} (hx : x ∈ m.entries) (hy : y ∈ m.entries)
    (hs : x.seq = y.seq) : x = y :=
  List.inj_on_of_nodup_map h.seqs hx hy hs

/-- Replacing an entry in place by one with its key and sequence number keeps
the books, once the total trades the old entry's bytes for the new one's. -/
theorem Books.swap {m m' : Memory} (h : m.Books) (cur e : Entry) (hc : cur ∈ m.entries) (hk : e.key = cur.key)
    (hs : e.seq = cur.seq) (hz : e.size = e.fragment.size) (hu : m'.unread = m.unread.map (swapIn e))
    (hr : m'.read = m.read.map (swapIn e)) (hq : m'.seq = m.seq) (ht : m'.total = m.total - cur.size + e.size) :
    m'.Books := by
  have hent : m'.entries = m.entries.map (swapIn e) := by rw [entries_eq, entries_eq, hu, hr, List.map_append]
  have hsame : ∀ y ∈ m.entries, y.key = e.key → y = cur := fun y hy hye => h.eq_of_key hy hc (hye.trans hk)
  refine ⟨?_, ?_, ?_, ?_, ?_⟩
  · unfold KeysDistinct
    rw [hent, map_swapIn _ fun y _ hye => hye]
    exact h.keys
  · rw [hent, map_swapIn _ fun y hy hye => by rw [hsame y hy hye, hs]]
    exact h.seqs
  · intro x hx
    rw [hent, mem_map_swapIn] at hx
    rw [hq]
    rcases hx with ⟨rfl, -⟩ | ⟨hx, -⟩
    · rw [hs]; exact h.seq_le cur hc
    · exact h.seq_le x hx
  · rw [hent, ht, weight_map_swapIn h.keys hc hk.symm, h.weighed]
  · intro x hx
    rw [hent, mem_map_swapIn] at hx
    rcases hx with ⟨rfl, -⟩ | ⟨hx, -⟩
    · exact hz
    · exact h.sized x hx

/-! ## Storing a fragment -/

/-- Entries that all carry one sequence number are at most one entry. -/
theorem subsingleton_of_seq {l : List Entry} (hn : (l.map (·.seq)).Nodup) {n : Nat} (h : ∀ x ∈ l, x.seq = n) :
    l = [] ∨ ∃ x, l = [x] := by
  match l, hn with
  | [], _ => exact .inl rfl
  | [x], _ => exact .inr ⟨x, rfl⟩
  | x :: y :: rest, hn =>
    simp only [List.map_cons, List.nodup_cons, List.mem_cons, List.mem_map] at hn
    exact absurd (Or.inl ((h x List.mem_cons_self).trans (h y (by simp)).symm)) hn.1

/-- When eviction finds nothing but the entry it must keep, the total is at
most that entry's size. -/
theorem total_le_of_victim_none {m : Memory} (h : m.Books) {n : Nat} (hv : m.victim (some n) = none) {B : Int}
    (h0 : 0 ≤ B) (hb : ∀ x ∈ m.entries, x.seq = n → x.size ≤ B) : m.total ≤ B := by
  have hall : ∀ x ∈ m.entries, x.seq = n := fun x hx => by simpa using victim_none hv x hx
  rw [h.weighed]
  rcases subsingleton_of_seq h.seqs hall with he | ⟨x, he⟩
  · rw [he]; exact h0
  · have hx : x ∈ m.entries := by rw [he]; exact List.mem_singleton_self x
    rw [he]
    simpa using hb x hx (hall x hx)

/-- When eviction spares nothing and still finds no victim, the cache is
empty. -/
theorem total_eq_zero_of_victim_none {m : Memory} (h : m.Books) (hv : m.victim none = none) : m.total = 0 := by
  have hnil : m.entries = [] := List.eq_nil_iff_forall_not_mem.mpr fun x hx => by
    simpa using victim_none hv x hx
  rw [h.weighed, hnil, weight_nil]

theorem Books.put {m : Memory} (h : m.Books) {key : String} {f : Fragment} {req : FetchRequest} {now : Instant}
    {r : Memory × List Entry} (hp : m.put key f req now = .ok r) : r.1.Books := by
  obtain ⟨-, -, e, -, hr, hk, hs, -, hf, hz, -⟩ := put_ok hp
  have hd := h.detach key
  have hev := hd.evict f.size none
  have hsub := evictFor_sublist ((m.detach key).count + 1) (m.detach key) f.size none
  set ev := ((m.detach key).evict f.size none).1 with hev_def
  have hin : ∀ x ∈ ev.entries, x ∈ (m.detach key).entries := fun x hx => by
    rcases List.mem_append.mp hx with hx | hx
    · exact List.mem_append_left _ (hsub.1.subset hx)
    · exact List.mem_append_right _ (hsub.2.subset hx)
  have hevseq : ev.seq = m.seq := by rw [hev_def, Memory.evict, evictFor_seq, detach_seq]
  have hru : r.1.unread = ev.unread ++ [e] := by rw [hr]
  have hrr : r.1.read = ev.read := by rw [hr]
  have hrs : r.1.seq = m.seq + 1 := by rw [hr]
  have hrt : r.1.total = ev.total + f.size := by rw [hr]
  have hperm : List.Perm r.1.entries (e :: ev.entries) := by
    rw [entries_eq, entries_eq, hru, hrr, List.append_assoc, List.singleton_append]
    exact List.perm_middle
  have hkey : ∀ x ∈ ev.entries, x.key ≠ e.key := fun x hx => by
    rw [hk]; exact (mem_detach.mp (hin x hx)).2
  have hseq : ∀ x ∈ ev.entries, x.seq ≠ e.seq := fun x hx => by
    have := hev.seq_le x hx
    omega
  refine ⟨?_, ?_, ?_, ?_, ?_⟩
  · unfold KeysDistinct
    rw [(hperm.map _).nodup_iff, List.map_cons, List.nodup_cons]
    exact ⟨fun hm => by obtain ⟨x, hx, hxe⟩ := List.mem_map.mp hm; exact hkey x hx hxe, hev.keys⟩
  · rw [(hperm.map _).nodup_iff, List.map_cons, List.nodup_cons]
    exact ⟨fun hm => by obtain ⟨x, hx, hxe⟩ := List.mem_map.mp hm; exact hseq x hx hxe, hev.seqs⟩
  · intro x hx
    rw [hrs]
    rcases List.mem_cons.mp (hperm.subset hx) with rfl | hx
    · omega
    · have := hev.seq_le x hx; omega
  · rw [hrt, entries_eq, hru, hrr, hev.weighed, entries_eq]
    simp only [weight_append, weight_cons, weight_nil, hz]
    omega
  · intro x hx
    rcases List.mem_cons.mp (hperm.subset hx) with rfl | hx
    · rw [hz, hf]
    · exact hev.sized x hx

theorem Sound.put {m : Memory} (h : m.Sound) {key : String} {f : Fragment} {req : FetchRequest} {now : Instant}
    {r : Memory × List Entry} (hp : m.put key f req now = .ok r) : r.1.Sound := by
  obtain ⟨-, hle, e, -, hr, -⟩ := put_ok hp
  have hev := (h.books.detach key).evict f.size none
  have hmax : ((m.detach key).evict f.size none).1.maxBytes = m.maxBytes := by
    rw [Memory.evict, evictFor_maxBytes, detach_maxBytes]
  refine ⟨h.books.put hp, by rw [hr]; simpa [hmax] using h.budget, ?_⟩
  rw [hr]
  rcases evict_fits (m.detach key) f.size none with hfit | hnone
  · exact hfit
  · have := total_eq_zero_of_victim_none hev hnone
    simp only [hmax, this]
    omega

theorem Sound.tally {m : Memory} (h : m.Sound) (f : Counters → Counters) : (m.tally f).Sound :=
  ⟨h.books.tally f, h.budget, h.fits⟩

/-! ## Keeping part of the entries -/

/-- `m'` keeps part of `m`'s entries within `m`'s budget: each queue of `m'`,
read by sequence number, is a subsequence of the same queue of `m`. -/
structure Within (m' m : Memory) : Prop where
  unread : List.Sublist (m'.unread.map (·.seq)) (m.unread.map (·.seq))
  read : List.Sublist (m'.read.map (·.seq)) (m.read.map (·.seq))
  budget : m'.maxBytes = m.maxBytes

theorem Within.refl (m : Memory) : m.Within m := ⟨.refl _, .refl _, rfl⟩

theorem Within.trans {m₁ m₂ m₃ : Memory} (h₁ : m₁.Within m₂) (h₂ : m₂.Within m₃) : m₁.Within m₃ :=
  ⟨h₁.unread.trans h₂.unread, h₁.read.trans h₂.read, h₁.budget.trans h₂.budget⟩

theorem Within.tally {m' m : Memory} (h : m'.Within m) (f : Counters → Counters) : (m'.tally f).Within m :=
  ⟨h.unread, h.read, h.budget⟩

theorem within_detach (m : Memory) (key : String) : (m.detach key).Within m := by
  refine ⟨?_, ?_, detach_maxBytes m key⟩
  · rw [detach_unread]; exact List.filter_sublist.map _
  · rw [detach_read]; exact List.filter_sublist.map _

theorem within_evict (m : Memory) (incoming : Int) (keep : Option Nat) : (m.evict incoming keep).1.Within m :=
  ⟨(evictFor_sublist (m.count + 1) m incoming keep).1.map _,
    (evictFor_sublist (m.count + 1) m incoming keep).2.map _, evictFor_maxBytes _ m incoming keep⟩

/-- Replacing an entry in place by one with its key and sequence number
keeps the sequence numbers of both queues. -/
theorem Books.within_swap {m m' : Memory} (h : m.Books) (cur e : Entry) (hc : cur ∈ m.entries)
    (hk : e.key = cur.key) (hs : e.seq = cur.seq) (hu : m'.unread = m.unread.map (swapIn e))
    (hr : m'.read = m.read.map (swapIn e)) (hx : m'.maxBytes = m.maxBytes) : m'.Within m := by
  have hsame : ∀ y ∈ m.entries, y.key = e.key → y.seq = e.seq := fun y hy hye => by
    rw [h.eq_of_key hy hc (hye.trans hk), hs]
  refine ⟨?_, ?_, hx⟩
  · rw [hu, map_swapIn _ fun y hy => hsame y (List.mem_append_left _ hy)]
  · rw [hr, map_swapIn _ fun y hy => hsame y (List.mem_append_right _ hy)]

theorem put_maxBytes {m : Memory} {key : String} {f : Fragment} {req : FetchRequest} {now : Instant}
    {r : Memory × List Entry} (hp : m.put key f req now = .ok r) : r.1.maxBytes = m.maxBytes := by
  obtain ⟨-, -, e, -, hr, -⟩ := put_ok hp
  rw [hr]
  exact (within_evict (m.detach key) f.size none).budget.trans (detach_maxBytes m key)

end Memory

open Memory

/-! ## Every operation keeps the memory sound -/

variable (cfg : RefreshConfig)

theorem Memory.Sound.get {s : Store} (h : s.memory.Sound) (key : String) (now : Instant) :
    (s.get key now).1.memory.Sound := by
  rcases get_cases s key now with ⟨e, g, -, -, hm, -⟩ | ⟨g, hm, -⟩ | ⟨f, req, r, g, hp, hm, -⟩
  · rw [hm]; exact (h.markRead key now).tally g
  · rw [hm]; exact (h.detach key).tally g
  · rw [hm]; exact (((h.detach key).put hp).markRead key now).tally g

theorem Memory.Sound.remove {s : Store} (h : s.memory.Sound) (key : String) : (s.remove key).memory.Sound :=
  h.detach key

/-- A refresh that fails, or succeeds, replaces the entry in place; one whose
fragment may no longer be cached drops it; eviction after a success brings
the total back within the budget, since the refreshed fragment alone fits.
Either way the refresh keeps part of the entries, in their queues. -/
theorem Memory.Sound.applyRefresh {s : Store} (h : s.memory.Sound) {cur : Entry} (hc : cur ∈ s.memory.entries)
    (reply : Reply) (now : Instant) :
    (applyRefresh cfg s cur reply now).memory.Sound ∧ (applyRefresh cfg s cur reply now).memory.Within s.memory := by
  have hb := h.books
  rcases applyRefresh_cases cfg s cur reply now with ⟨-, hm⟩ | ⟨-, g, hm⟩ | ⟨f, -, -, -, g, hm⟩ |
      ⟨f, -, -, -, hle, m₀, g, hu, hr, ht, hq, hx, hm⟩
  · rw [hm]; exact ⟨h, .refl _⟩
  · rw [hm]
    have hs : (s.memory.update (failedEntry cfg cur)).Books :=
      hb.swap cur (failedEntry cfg cur) hc rfl rfl (hb.sized cur hc) (by simp) (by simp) (by simp)
        (by simp [failedEntry])
    exact ⟨Sound.tally ⟨hs, h.budget, h.fits⟩ g,
      (hb.within_swap cur (failedEntry cfg cur) hc rfl rfl (by simp) (by simp) (by simp)).tally g⟩
  · rw [hm]; exact ⟨(h.detach cur.key).tally g, (within_detach _ _).tally g⟩
  · rw [hm]
    have hz : (refreshedEntry cur f now).size = (refreshedEntry cur f now).fragment.size := rfl
    have h₀ : m₀.Books := hb.swap cur (refreshedEntry cur f now) hc rfl rfl hz hu hr hq (by rw [ht]; simp [refreshedEntry]; omega)
    have hw : m₀.Within s.memory := hb.within_swap cur (refreshedEntry cur f now) hc rfl rfl hu hr hx
    have hwe := within_evict m₀ 0 (some cur.seq)
    have hmax : (m₀.evict 0 (some cur.seq)).1.maxBytes = s.memory.maxBytes := hwe.budget.trans hx
    refine ⟨Sound.tally ⟨h₀.evict 0 (some cur.seq), by rw [hmax]; exact h.budget, ?_⟩ g, (hwe.trans hw).tally g⟩
    rcases evict_fits m₀ 0 (some cur.seq) with hfit | hnone
    · simpa using hfit
    · rw [hmax]
      refine total_le_of_victim_none (h₀.evict 0 (some cur.seq)) hnone h.budget ?_
      -- the only entry eviction spares is the refreshed one
      have hsub := evictFor_sublist (m₀.count + 1) m₀ 0 (some cur.seq)
      intro x hx hxs
      have hx₀ : x ∈ m₀.entries := by
        rcases List.mem_append.mp hx with hx | hx
        · exact List.mem_append_left _ (hsub.1.subset hx)
        · exact List.mem_append_right _ (hsub.2.subset hx)
      rw [entries_eq, hu, hr, update_unread, update_read, ← List.map_append, ← entries_eq,
        mem_map_swapIn] at hx₀
      rcases hx₀ with ⟨rfl, -⟩ | ⟨hx₀, hxk⟩
      · exact hle
      · exact absurd hxs (hb.seq_ne hx₀ hc hxk)

theorem Memory.Sound.completeRefresh {s : Store} (h : s.memory.Sound) (e : Entry) (reply : Reply) (now : Instant) :
    (completeRefresh cfg s e reply now).memory.Sound ∧
      (completeRefresh cfg s e reply now).memory.Within s.memory := by
  rcases completeRefresh_cases cfg s e reply now with hc | ⟨cur, hcur, -, hc⟩
  · rw [hc]; exact ⟨h, .refl _⟩
  · rw [hc]; exact h.applyRefresh cfg (find?_mem hcur) reply now

/-- One step of selection keeps the memory sound and keeps part of its
entries: it drops an expired stopped entry or marks an entry stopped in
place. -/
theorem Memory.Sound.selectStep {acc : Memory × List Entry} (h : acc.1.Sound) (now : Instant) {e : Entry}
    (he : e ∈ acc.1.entries) :
    (selectStep cfg now acc e).1.Sound ∧ (selectStep cfg now acc e).1.Within acc.1 := by
  rcases selectStep_cases cfg now acc e with hs | ⟨-, -, -, hs⟩ | ⟨-, -, -, -, hs⟩ | ⟨-, -, -, -, hs⟩ <;>
    rw [hs]
  · exact ⟨h, .refl _⟩
  · exact ⟨h.detach e.key, within_detach _ _⟩
  · have hb := h.books
    exact ⟨⟨hb.swap e { e with refreshStopped := true } he rfl rfl (hb.sized e he) (by simp) (by simp) (by simp)
      (by simp), h.budget, h.fits⟩,
      hb.within_swap e { e with refreshStopped := true } he rfl rfl (by simp) (by simp) (by simp)⟩
  · exact ⟨h, .refl _⟩

theorem Memory.Sound.selectDue {m : Memory} (h : m.Sound) (now : Instant) :
    (selectDue cfg m now).1.Sound ∧ (selectDue cfg m now).1.Within m := by
  refine selectDue_induct cfg (fun acc => acc.1.Sound ∧ acc.1.Within m) now ?_ h.books.keys ⟨h, .refl _⟩
  intro acc e hacc he _
  obtain ⟨hs, hw⟩ := hacc.1.selectStep cfg now he
  exact ⟨hs, hw.trans hacc.2⟩

/-! ## The order of the queues -/

/-- The order a history gives the queues, stated on their sequence numbers:
the unread queue holds entries no lookup read since they were stored, in the
order they were stored; the read queue holds entries that were read, in the
order of their last reads; and what the history says of them lies in the
past. -/
structure Ordered (h : History) (unread read : List Nat) : Prop where
  unread_unread : ∀ n ∈ unread, h.readAt n = none
  read_read : ∀ n ∈ read, h.readAt n ≠ none
  unread_sorted : unread.Pairwise fun a b => h.storedAt a < h.storedAt b
  read_sorted : read.Pairwise fun a b => h.readAt a < h.readAt b
  stored_past : ∀ n ∈ unread ++ read, h.storedAt n < h.clock
  read_past : ∀ n ∈ unread ++ read, ∀ x, h.readAt n = some x → x < h.clock

namespace Ordered

variable {h : History} {u r u' r' : List Nat}

theorem sublist (ho : Ordered h u r) (hu : List.Sublist u' u) (hr : List.Sublist r' r) : Ordered h u' r' := by
  have hsub : ∀ n ∈ u' ++ r', n ∈ u ++ r := fun n hn => by
    rcases List.mem_append.mp hn with hn | hn
    · exact List.mem_append_left _ (hu.subset hn)
    · exact List.mem_append_right _ (hr.subset hn)
  exact ⟨fun n hn => ho.unread_unread n (hu.subset hn), fun n hn => ho.read_read n (hr.subset hn),
    ho.unread_sorted.sublist hu, ho.read_sorted.sublist hr,
    fun n hn => ho.stored_past n (hsub n hn), fun n hn => ho.read_past n (hsub n hn)⟩

theorem fetched (ho : Ordered h u r) (n : Nat) (ok : Bool) : Ordered (h.record (.fetched n ok)) u r := by
  refine ⟨?_, ?_, ?_, ?_, ?_, ?_⟩
  · simpa using ho.unread_unread
  · simpa using ho.read_read
  · simpa using ho.unread_sorted
  · simpa using ho.read_sorted
  · intro m hm; have := ho.stored_past m hm; simp; omega
  · intro m hm x hx; have := ho.read_past m hm x (by simpa using hx); simp; omega

theorem stored (ho : Ordered h u r) {n : Nat} (hn : n ∉ u ++ r) : Ordered (h.record (.stored n)) (u ++ [n]) r := by
  have hne : ∀ m ∈ u ++ r, m ≠ n := fun m hm hmn => hn (hmn ▸ hm)
  have hu : ∀ m ∈ u, m ≠ n := fun m hm => hne m (List.mem_append_left _ hm)
  have hr : ∀ m ∈ r, m ≠ n := fun m hm => hne m (List.mem_append_right _ hm)
  refine ⟨?_, ?_, ?_, ?_, ?_, ?_⟩
  · intro m hm
    rcases List.mem_append.mp hm with hm | hm
    · simp [Function.update_of_ne (hu m hm), ho.unread_unread m hm]
    · simp [List.mem_singleton.mp hm]
  · intro m hm
    simpa [Function.update_of_ne (hr m hm)] using ho.read_read m hm
  · rw [List.pairwise_append]
    refine ⟨?_, List.pairwise_singleton _ _, ?_⟩
    · refine (List.pairwise_iff_forall_sublist.mpr fun {a b} hab => ?_)
      have ha := hu a (hab.subset (by simp))
      have hb := hu b (hab.subset (by simp))
      simpa [Function.update_of_ne ha, Function.update_of_ne hb] using
        List.pairwise_iff_forall_sublist.mp ho.unread_sorted hab
    · intro a ha b hb
      rw [List.mem_singleton.mp hb]
      have := ho.stored_past a (List.mem_append_left _ ha)
      simp [Function.update_of_ne (hu a ha), this]
  · refine (List.pairwise_iff_forall_sublist.mpr fun {a b} hab => ?_)
    have ha := hr a (hab.subset (by simp))
    have hb := hr b (hab.subset (by simp))
    simpa [Function.update_of_ne ha, Function.update_of_ne hb] using
      List.pairwise_iff_forall_sublist.mp ho.read_sorted hab
  · intro m hm
    by_cases hmn : m = n
    · subst hmn; simp
    · have hm' : m ∈ u ++ r := by simp at hm ⊢; tauto
      have := ho.stored_past m hm'
      simp [Function.update_of_ne hmn]; omega
  · intro m hm x hx
    by_cases hmn : m = n
    · subst hmn; simp at hx
    · have hm' : m ∈ u ++ r := by simp at hm ⊢; tauto
      have := ho.read_past m hm' x (by simpa [Function.update_of_ne hmn] using hx)
      simp; omega

/-- A read moves its entry, wherever it stood, to the back of the read
queue. -/
theorem read (ho : Ordered h u r) (hu : List.Sublist u' u) (hr : List.Sublist r' r) {n : Nat}
    (hn : n ∉ u' ++ r') (hmem : n ∈ u ++ r) : Ordered (h.record (.read n)) u' (r' ++ [n]) := by
  have hs := ho.sublist hu hr
  have hne : ∀ m ∈ u' ++ r', m ≠ n := fun m hm hmn => hn (hmn ▸ hm)
  have hu' : ∀ m ∈ u', m ≠ n := fun m hm => hne m (List.mem_append_left _ hm)
  have hr' : ∀ m ∈ r', m ≠ n := fun m hm => hne m (List.mem_append_right _ hm)
  refine ⟨?_, ?_, ?_, ?_, ?_, ?_⟩
  · intro m hm
    simpa [Function.update_of_ne (hu' m hm)] using hs.unread_unread m hm
  · intro m hm
    rcases List.mem_append.mp hm with hm | hm
    · simpa [Function.update_of_ne (hr' m hm)] using hs.read_read m hm
    · simp [List.mem_singleton.mp hm]
  · simpa using hs.unread_sorted
  · rw [List.pairwise_append]
    refine ⟨?_, List.pairwise_singleton _ _, ?_⟩
    · refine (List.pairwise_iff_forall_sublist.mpr fun {a b} hab => ?_)
      have ha := hr' a (hab.subset (by simp))
      have hb := hr' b (hab.subset (by simp))
      simpa [Function.update_of_ne ha, Function.update_of_ne hb] using
        List.pairwise_iff_forall_sublist.mp hs.read_sorted hab
    · intro a ha b hb
      rw [List.mem_singleton.mp hb]
      obtain ⟨x, hx⟩ := Option.ne_none_iff_exists'.mp (hs.read_read a ha)
      have := hs.read_past a (List.mem_append_right _ ha) x hx
      simp [Function.update_of_ne (hr' a ha), hx, this]
  · intro m hm
    by_cases hmn : m = n
    · subst hmn; have := ho.stored_past m hmem; simp; omega
    · have hm' : m ∈ u' ++ r' := by simp at hm ⊢; tauto
      have := hs.stored_past m hm'
      simp; omega
  · intro m hm x hx
    by_cases hmn : m = n
    · subst hmn; simp at hx; simp; omega
    · have hm' : m ∈ u' ++ r' := by simp at hm ⊢; tauto
      have := hs.read_past m hm' x (by simpa [Function.update_of_ne hmn] using hx)
      simp; omega

end Ordered

/-! ## The order of the queues along a run -/

section Queues

variable {h : History} {m : Memory}

theorem Ordered.within (ho : Ordered h (m.unread.map (·.seq)) (m.read.map (·.seq))) {m' : Memory}
    (hw : m'.Within m) : Ordered h (m'.unread.map (·.seq)) (m'.read.map (·.seq)) :=
  ho.sublist hw.unread hw.read

theorem Ordered.markRead (ho : Ordered h (m.unread.map (·.seq)) (m.read.map (·.seq))) (hb : m.Books)
    {key : String} {e : Entry} (hf : m.find? key = some e) (now : Instant) :
    Ordered (h.record (.read e.seq)) ((m.markRead key now).unread.map (·.seq))
      ((m.markRead key now).read.map (·.seq)) := by
  have hw := within_detach m key
  rw [markRead_of_find? hf]
  simp only [List.map_append, List.map_cons, List.map_nil, readEntry]
  refine ho.read hw.unread hw.read ?_ ?_
  · -- the entries left after dropping the key have other keys, so other sequence numbers
    intro hn
    rw [← List.map_append, ← entries_eq] at hn
    obtain ⟨x, hx, hxs⟩ := List.mem_map.mp hn
    obtain ⟨hx, hxk⟩ := mem_detach.mp hx
    exact hb.seq_ne hx (find?_mem hf) (by rw [find?_key hf]; exact hxk) hxs
  · rw [← List.map_append, ← entries_eq]
    exact List.mem_map_of_mem (find?_mem hf)

theorem Ordered.put (ho : Ordered h (m.unread.map (·.seq)) (m.read.map (·.seq))) (hb : m.Books)
    {key : String} {f : Fragment} {req : FetchRequest} {now : Instant} {r : Memory × List Entry}
    (hp : m.put key f req now = .ok r) :
    Ordered (h.record (.stored r.1.seq)) (r.1.unread.map (·.seq)) (r.1.read.map (·.seq)) := by
  obtain ⟨-, -, e, -, hr, -, hs, -⟩ := put_ok hp
  set ev := ((m.detach key).evict f.size none).1 with hev_def
  have hw : ev.Within m := (within_evict _ _ _).trans (within_detach m key)
  have hevb : ev.Books := (hb.detach key).evict f.size none
  have hevseq : ev.seq = m.seq := by rw [hev_def, Memory.evict, evictFor_seq, detach_seq]
  have hru : r.1.unread = ev.unread ++ [e] := by rw [hr]
  have hrr : r.1.read = ev.read := by rw [hr]
  rw [put_seq hp, hru, hrr, List.map_append, List.map_singleton, hs]
  refine (ho.within hw).stored ?_
  -- every sequence number still stored was issued before the new one
  intro hn
  rw [← List.map_append, ← entries_eq] at hn
  obtain ⟨x, hx, hxs⟩ := List.mem_map.mp hn
  have := hevb.seq_le x hx
  omega

theorem Ordered.fetchEvents {u r : List Nat} (ho : Ordered h u r) (e : Entry) (reply : Reply) :
    Ordered (h.recordAll (fetchEvents e reply)) u r := by
  cases reply with
  | fragment f => exact ho.fetched _ _
  | failure err => exact ho.fetched _ _
  | stall => exact ho

end Queues

/-! ## The invariant of a run -/

/-- The invariant of a run from an empty cache of `maxBytes` bytes: the
memory is sound within that budget and the history orders its queues. -/
structure Consistent (maxBytes : Int) (t : Tracked) : Prop where
  sound : t.store.memory.Sound
  budget : t.store.memory.maxBytes = maxBytes
  ordered : Ordered t.history (t.store.memory.unread.map (·.seq)) (t.store.memory.read.map (·.seq))

namespace Consistent

variable {maxBytes : Int} {t : Tracked}

/-- A run's invariant holds again after any memory that keeps part of the
entries, with a history that still orders them. -/
theorem of_within (hc : Consistent maxBytes t) {t' : Tracked} (hs : t'.store.memory.Sound)
    (hw : t'.store.memory.Within t.store.memory)
    (ho : Ordered t.history (t'.store.memory.unread.map (·.seq)) (t'.store.memory.read.map (·.seq)) →
      Ordered t'.history (t'.store.memory.unread.map (·.seq)) (t'.store.memory.read.map (·.seq))) :
    Consistent maxBytes t' :=
  ⟨hs, hw.budget.trans hc.budget, ho (hc.ordered.within hw)⟩

theorem put (hc : Consistent maxBytes t) {key : String} {f : Fragment} {req : FetchRequest} {now : Instant}
    {s : Store} (hp : t.store.put key f req now = .ok s) :
    Consistent maxBytes { t with store := s, history := t.history.record (.stored s.memory.seq) } := by
  obtain ⟨r, hr, hm⟩ := Store.put_memory hp
  refine ⟨?_, ?_, ?_⟩ <;> dsimp only <;> rw [hm]
  · exact hc.sound.put hr
  · exact (put_maxBytes hr).trans hc.budget
  · exact hc.ordered.put hc.sound.books hr

theorem get (hc : Consistent maxBytes t) (key : String) (now : Instant) :
    Consistent maxBytes { t with store := (t.store.get key now).1
                                 history := t.history.recordAll (lookupEvents t.store key now) } := by
  have hs := hc.sound
  rcases get_cases t.store key now with ⟨e, g, hf, -, hm, hev⟩ | ⟨g, hm, hev⟩ | ⟨f, req, r, g, hp, hm, hev⟩
  · refine ⟨hs.get key now, ?_, ?_⟩ <;> dsimp only <;> rw [hm]
    · simpa using hc.budget
    · rw [hev]; exact hc.ordered.markRead hs.books hf now
  · refine hc.of_within (hs.get key now) (by rw [hm]; exact (within_detach _ _).tally g) ?_
    dsimp only; rw [hev]; exact id
  · -- a disk record is promoted: stored, then read
    have hd := hs.detach key
    obtain ⟨e, he, hseq, -⟩ := find?_put hp
    have hre : e.seq = r.1.seq := by rw [hseq, put_seq hp]
    refine ⟨hs.get key now, ?_, ?_⟩ <;> dsimp only <;> rw [hm]
    · simpa [put_maxBytes hp] using hc.budget
    · rw [hev, History.recordAll_cons, History.recordAll_cons, History.recordAll_nil, ← hre]
      have ho := (hc.ordered.within (within_detach _ key)).put hd.books hp
      rw [← hre] at ho
      exact ho.markRead (hd.books.put hp) he now

theorem remove (hc : Consistent maxBytes t) (key : String) :
    Consistent maxBytes { t with store := t.store.remove key } :=
  hc.of_within (hc.sound.remove key) (within_detach _ key) id

theorem disk (hc : Consistent maxBytes t) (d : Option Disk) :
    Consistent maxBytes { t with store := { t.store with disk := d } } :=
  ⟨hc.sound, hc.budget, hc.ordered⟩

theorem select (hc : Consistent maxBytes t) (cfg : RefreshConfig) (now : Instant) :
    Consistent maxBytes { t with store := { t.store with memory := (selectDue cfg t.store.memory now).1 }
                                 inflight := (selectDue cfg t.store.memory now).2 } :=
  hc.of_within (hc.sound.selectDue cfg now).1 (hc.sound.selectDue cfg now).2 id

theorem complete (hc : Consistent maxBytes t) (cfg : RefreshConfig) (e : Entry) (reply : Reply) (now : Instant)
    (rest : List Entry) :
    Consistent maxBytes { store := completeRefresh cfg t.store e reply now
                          history := t.history.recordAll (fetchEvents e reply), inflight := rest } :=
  hc.of_within (hc.sound.completeRefresh cfg e reply now).1 (hc.sound.completeRefresh cfg e reply now).2
    fun ho => ho.fetchEvents e reply

theorem step (hc : Consistent maxBytes t) {cfg : RefreshConfig} {t' : Tracked} (hs : Step cfg t t') :
    Consistent maxBytes t' := by
  cases hs with
  | put key f req now hp => exact hc.put hp
  | get key now => exact hc.get key now
  | remove key => exact hc.remove key
  | disk d => exact hc.disk d
  | select now _ => exact hc.select cfg now
  | complete pre post e reply now _ => exact hc.complete cfg e reply now _

end Consistent

theorem consistent_start {maxBytes : Int} (hmax : 0 ≤ maxBytes) (disk : Option Disk) :
    Consistent maxBytes { store := { memory := Memory.empty maxBytes, disk } } := by
  refine ⟨⟨⟨?_, ?_, ?_, ?_, ?_⟩, hmax, hmax⟩, rfl, ⟨?_, ?_, ?_, ?_, ?_, ?_⟩⟩ <;>
    simp [Memory.empty, KeysDistinct, Memory.entries]

theorem reach_consistent {cfg : RefreshConfig} {maxBytes : Int} {t : Tracked} (hmax : 0 ≤ maxBytes)
    (h : Reach cfg maxBytes t) : Consistent maxBytes t := by
  induction h with
  | start disk => exact consistent_start hmax disk
  | step _ hs ih => exact ih.step hs

/-! ## The representation of every reachable cache -/

/-- What the cache's representation promises of a state: its entries stand
once each in one of the two queues and are what their keys find; the unread
queue holds exactly the entries not read since they were stored, in the order
they were stored, and the read queue the others, in the order of their last
reads; the total is the bytes of the entries, each sized by its current
fragment; and the total stays within the budget. -/
structure Represented (maxBytes : Int) (t : Tracked) : Prop where
  queued_once : ((t.store.memory.unread ++ t.store.memory.read).map (·.key)).Nodup
  found : ∀ e ∈ t.store.memory.unread ++ t.store.memory.read, t.store.memory.find? e.key = some e
  unread_unread : ∀ e ∈ t.store.memory.unread, t.history.readAt e.seq = none
  read_read : ∀ e ∈ t.store.memory.read, t.history.readAt e.seq ≠ none
  unread_order : t.store.memory.unread.Pairwise fun a b => t.history.storedAt a.seq < t.history.storedAt b.seq
  read_order : t.store.memory.read.Pairwise fun a b => t.history.readAt a.seq < t.history.readAt b.seq
  weighed : t.store.memory.total = weight (t.store.memory.unread ++ t.store.memory.read)
  sized : ∀ e ∈ t.store.memory.unread ++ t.store.memory.read, e.size = e.fragment.size
  within_budget : t.store.memory.total ≤ maxBytes

/-- Every state of every run from an empty cache with a budget that is not
negative is represented faithfully, whatever the order of stores, lookups,
removals, disk changes and refresh selections and completions. -/
theorem representation {cfg : RefreshConfig} {maxBytes : Int} {t : Tracked} (hmax : 0 ≤ maxBytes)
    (h : Reach cfg maxBytes t) : Represented maxBytes t := by
  obtain ⟨hs, hb, ho⟩ := reach_consistent hmax h
  refine ⟨hs.books.keys, fun e he => find?_of_mem hs.books.keys he, ?_, ?_, ?_, ?_, hs.books.weighed,
    hs.books.sized, hb ▸ hs.fits⟩
  · exact fun e he => ho.unread_unread e.seq (List.mem_map_of_mem he)
  · exact fun e he => ho.read_read e.seq (List.mem_map_of_mem he)
  · exact (List.pairwise_map (f := Entry.seq)).mp ho.unread_sorted
  · exact (List.pairwise_map (f := Entry.seq)).mp ho.read_sorted

/-- In the sample run, after `"a"` is read, `"b"` stands alone in the unread
queue and `"a"` in the read queue, both faithfully represented. -/
theorem representation_sample :
    (0 : Int) ≤ 100 ∧ Reach {} 100 sampleRead ∧ sampleRead.store.memory.unread.map (·.key) = ["b"] ∧
      sampleRead.store.memory.read.map (·.key) = ["a"] ∧ Represented 100 sampleRead :=
  ⟨by decide, reach_sampleRead, rfl, rfl, representation (by decide) reach_sampleRead⟩

end Transclusion.Cache
