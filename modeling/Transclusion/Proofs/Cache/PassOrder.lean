import Transclusion.Proofs.Cache.Completion
import Transclusion.Proofs.Cache.Reads
import Transclusion.Proofs.Cache.Throttling
import Mathlib.Algebra.Order.BigOperators.Group.List

/-!
# Refresh passes complete in any order

A refresh pass selects its due entries at one instant and then completes
their fetches in whatever order they return. A completion touches its own
entry's key, the byte total and the counters, and nothing else unless the
refreshed fragment pushes the total over the budget, when it evicts other
entries. A completion that evicts nothing is a `Footprint`: the entry it
leaves under its key (none when it drops the entry), what it adds to the
total, and what it counts (`completeRefresh_settles`). Footprints at
different keys commute (`Memory.settle_comm`).

Main statement: `refresh_order_independent`. When applying any part of a
pass's successful refreshes keeps the total within the budget, every order
of the pass's completions, each with its reply fixed and at one instant,
leaves the same store: the same entries in the same places, with the same
fragments, sizes and bookkeeping, the same total and the same counters.
-/

namespace Transclusion.Cache

open Transclusion.Time Transclusion.Composition Transclusion.Config Transclusion.Http

/-! ## Footprints -/

/-- Counts added field by field. -/
def Counters.plus (c d : Counters) : Counters :=
  { hits := c.hits + d.hits, misses := c.misses + d.misses, evictions := c.evictions + d.evictions
    refreshSuccesses := c.refreshSuccesses + d.refreshSuccesses
    refreshFailures := c.refreshFailures + d.refreshFailures
    refreshUnchanged := c.refreshUnchanged + d.refreshUnchanged }

theorem Counters.plus_right_comm (c d d' : Counters) : (c.plus d).plus d' = (c.plus d').plus d := by
  simp only [plus, Nat.add_right_comm]

/-- What a completion that evicts nothing does to the cache at one key. -/
structure Footprint where
  /-- The entry it leaves under the key; none when it drops the entry. -/
  entry : Option Entry
  /-- What it adds to the byte total. -/
  growth : Int
  /-- What it counts. -/
  counts : Counters

/-- A footprint at `key` leaves only an entry under that key. -/
def Footprint.At (p : Footprint) (key : String) : Prop := ∀ x ∈ p.entry, x.key = key

namespace Memory

/-- An entry under `key` becomes `next`; every other entry stays. -/
def settleAt (key : String) (next : Option Entry) (x : Entry) : Option Entry :=
  if x.key = key then next else some x

/-- Applies a footprint at `key`: the entries under the key are replaced or
dropped in place, and the total and the counters move. -/
def settle (m : Memory) (key : String) (p : Footprint) : Memory :=
  { m with unread := m.unread.filterMap (settleAt key p.entry)
           read := m.read.filterMap (settleAt key p.entry)
           total := m.total + p.growth
           counters := m.counters.plus p.counts }

@[simp] theorem settle_total (m : Memory) (key : String) (p : Footprint) :
    (m.settle key p).total = m.total + p.growth := rfl
@[simp] theorem settle_maxBytes (m : Memory) (key : String) (p : Footprint) :
    (m.settle key p).maxBytes = m.maxBytes := rfl

theorem settleAt_comm {k₁ k₂ : String} (hk : k₁ ≠ k₂) {p₁ p₂ : Footprint} (h₁ : p₁.At k₁) (h₂ : p₂.At k₂)
    (x : Entry) :
    (settleAt k₁ p₁.entry x).bind (settleAt k₂ p₂.entry) =
      (settleAt k₂ p₂.entry x).bind (settleAt k₁ p₁.entry) := by
  -- an entry the footprint leaves stays under its key, so the other footprint passes over it
  have keep : ∀ {k k' : String} {p : Footprint}, p.At k → k ≠ k' →
      p.entry.bind (settleAt k' p₂.entry) = p.entry ∧ p.entry.bind (settleAt k' p₁.entry) = p.entry := by
    intro k k' p hp hne
    cases hx : p.entry with
    | none => simp
    | some y => simp [settleAt, hp y hx, hne]
  by_cases hx₁ : x.key = k₁
  · have hx₂ : x.key ≠ k₂ := hx₁ ▸ hk
    simp [settleAt, hx₁, hk, (keep h₁ hk).1]
  · by_cases hx₂ : x.key = k₂
    · simp [settleAt, hx₂, Ne.symm hk, (keep h₂ (Ne.symm hk)).2]
    · simp [settleAt, hx₁, hx₂]

theorem settle_comm (m : Memory) {k₁ k₂ : String} (hk : k₁ ≠ k₂) {p₁ p₂ : Footprint} (h₁ : p₁.At k₁)
    (h₂ : p₂.At k₂) : (m.settle k₁ p₁).settle k₂ p₂ = (m.settle k₂ p₂).settle k₁ p₁ := by
  have hl : ∀ l : List Entry, (l.filterMap (settleAt k₁ p₁.entry)).filterMap (settleAt k₂ p₂.entry) =
      (l.filterMap (settleAt k₂ p₂.entry)).filterMap (settleAt k₁ p₁.entry) := fun l => by
    rw [List.filterMap_filterMap, List.filterMap_filterMap]
    exact List.filterMap_congr fun x _ => settleAt_comm hk h₁ h₂ x
  simp only [settle, hl, Counters.plus_right_comm, Int.add_right_comm]

theorem find?_filterMap_settleAt {k key : String} (hk : k ≠ key) {next : Option Entry}
    (hn : ∀ y ∈ next, y.key = k) (l : List Entry) :
    (l.filterMap (settleAt k next)).find? (·.key == key) = l.find? (·.key == key) := by
  induction l with
  | nil => rfl
  | cons x l ih =>
    by_cases hx : x.key = k
    · have hxk : (k == key) = false := by simpa using hk
      cases hnext : next with
      | none =>
        rw [hnext] at ih
        simp only [List.filterMap_cons, settleAt, hx, if_true, List.find?_cons, hxk, ih]
      | some y =>
        have hy : (y.key == key) = false := by simpa [hn y hnext] using hk
        rw [hnext] at ih
        simp only [List.filterMap_cons, settleAt, hx, if_true, List.find?_cons, hxk, hy, ih]
    · simp only [List.filterMap_cons, settleAt, hx, if_false, List.find?_cons, ih]

theorem find?_settle_of_ne (m : Memory) {k key : String} (hk : k ≠ key) {p : Footprint} (hp : p.At k) :
    (m.settle k p).find? key = m.find? key := by
  simp only [find?, entries, settle, List.find?_append, find?_filterMap_settleAt hk hp]

theorem filterMap_settleAt_some {k : String} {n : Entry} (hn : n.key = k) (l : List Entry) :
    l.filterMap (settleAt k (some n)) = l.map (swapIn n) := by
  induction l with
  | nil => rfl
  | cons x l ih =>
    by_cases hx : x.key = k
    · simp [settleAt, swapIn, hx, hn, ih]
    · simp [settleAt, swapIn, hx, hn, ih]

theorem filterMap_settleAt_none (k : String) (l : List Entry) :
    l.filterMap (settleAt k none) = l.filter (·.key != k) := by
  induction l with
  | nil => rfl
  | cons x l ih =>
    by_cases hx : x.key = k
    · simp [settleAt, hx, ih]
    · simp [settleAt, hx, ih]

theorem settle_some (m : Memory) {n : Entry} (d : Counters) :
    m.settle n.key ⟨some n, 0, d⟩ = (m.update n).tally (·.plus d) := by
  simp [settle, update, tally, filterMap_settleAt_some rfl, swapIn]

theorem settle_none {m : Memory} {key : String} {e : Entry} (he : m.find? key = some e) (d : Counters) :
    m.settle key ⟨none, -e.size, d⟩ = (m.detach key).tally (·.plus d) := by
  simp [settle, detach, tally, he, filterMap_settleAt_none, Int.sub_eq_add_neg]

theorem settle_self {m : Memory} (hk : m.KeysDistinct) {e : Entry} (he : m.find? e.key = some e) :
    m.settle e.key ⟨some e, 0, {}⟩ = m := by
  have hsame : ∀ l : List Entry, (∀ x ∈ l, x ∈ m.entries) → l.map (swapIn e) = l := fun l hl =>
    (List.map_congr_left fun x hx => by
      by_cases hxk : x.key = e.key
      · have hx := find?_of_mem hk (hl x hx)
        rw [hxk, he] at hx
        simp [swapIn, hxk, Option.some.inj hx]
      · simp [swapIn, hxk]).trans (List.map_id _)
  have hu := hsame m.unread fun x hx => List.mem_append_left _ hx
  have hr := hsame m.read fun x hx => List.mem_append_right _ hx
  simp only [settle, filterMap_settleAt_some rfl, hu, hr, Int.add_zero]
  rfl

end Memory

/-! ## The footprint of a completion -/

/-- The footprint of completing the refresh of the stored entry `e` with
`reply` at `now`, in a cache of `maxBytes` bytes, while nothing is evicted: a
reply that never comes leaves `e`; a failure counts an attempt on `e` and a
failed refresh; a fragment that may no longer be cached drops `e` and counts
a failed refresh; any other fragment takes `e`'s place, grows the total by
the difference in size, and counts a success, and an unchanged body. -/
def footprint (cfg : RefreshConfig) (maxBytes : Int) (now : Instant) (e : Entry) : Reply → Footprint
  | .stall => ⟨some e, 0, {}⟩
  | .failure _ => ⟨some (failedEntry cfg e), 0, { refreshFailures := 1 }⟩
  | .fragment f =>
    if !isSuccess f.status then ⟨some (failedEntry cfg e), 0, { refreshFailures := 1 }⟩
    else if !f.freshAt now || decide ((f.size : Int) > maxBytes) then ⟨none, -e.size, { refreshFailures := 1 }⟩
    else ⟨some (refreshedEntry e f now), f.size - e.size,
      { refreshSuccesses := 1
        refreshUnchanged := if Digest.Blake3.hash f.body.toUTF8.toList == e.digest then 1 else 0 }⟩

/-- The bytes a successful refresh of `e` with `reply` at `now` adds to the
total of a cache of `maxBytes` bytes; nothing for any other reply. -/
def refreshGrowth (maxBytes : Int) (now : Instant) (e : Entry) : Reply → Int
  | .fragment f =>
    if isSuccess f.status && f.freshAt now && decide ((f.size : Int) ≤ maxBytes) then f.size - e.size else 0
  | _ => 0

theorem footprint_at (cfg : RefreshConfig) (maxBytes : Int) (now : Instant) (e : Entry) (reply : Reply) :
    (footprint cfg maxBytes now e reply).At e.key := by
  intro x hx
  cases reply with
  | stall => simp only [footprint, Option.mem_def, Option.some.injEq] at hx; rw [← hx]
  | failure err => simp only [footprint, Option.mem_def, Option.some.injEq] at hx; rw [← hx]; rfl
  | fragment f =>
    simp only [footprint] at hx
    split at hx
    · simp only [Option.mem_def, Option.some.injEq] at hx; rw [← hx]; rfl
    · split at hx
      · cases hx
      · simp only [Option.mem_def, Option.some.injEq] at hx; rw [← hx]; rfl

/-- A completion grows the total by at most the growth of a successful
refresh: a dropped entry's bytes leave it. -/
theorem footprint_growth_le (cfg : RefreshConfig) (maxBytes : Int) (now : Instant) {e : Entry} (he : 0 ≤ e.size)
    (reply : Reply) : (footprint cfg maxBytes now e reply).growth ≤ max 0 (refreshGrowth maxBytes now e reply) := by
  cases reply with
  | stall => simp [footprint, refreshGrowth]
  | failure err => simp [footprint, refreshGrowth]
  | fragment f =>
    simp only [footprint, refreshGrowth]
    split
    · exact Int.le_max_left 0 _
    · split
      · -- a dropped entry's bytes leave the total
        simp only
        omega
      · rename_i hok hdrop
        have hfit : (isSuccess f.status && f.freshAt now && decide ((f.size : Int) ≤ maxBytes)) = true := by
          simp only [Bool.not_eq_true', Bool.not_eq_false] at hok
          simp only [Bool.or_eq_true, Bool.not_eq_true', decide_eq_true_eq, not_or, Bool.not_eq_false] at hdrop
          simp only [hok, hdrop.1, Bool.true_and, decide_eq_true_eq]
          omega
        rw [if_pos hfit]
        dsimp only
        omega

theorem refreshedMemory_nil (m : Memory) (e : Entry) (f : Fragment) (now : Instant) :
    refreshedMemory m e f now [] = m.settle e.key ⟨some (refreshedEntry e f now), f.size - e.size,
      { refreshSuccesses := 1
        refreshUnchanged := if Digest.Blake3.hash f.body.toUTF8.toList == e.digest then 1 else 0 }⟩ := by
  have hl : ∀ l : List Entry, l.filterMap (Memory.settleAt e.key (some (refreshedEntry e f now))) =
      (l.map (Memory.swapIn (refreshedEntry e f now))).filter (Memory.survives []) := fun l => by
    rw [@Memory.filterMap_settleAt_some e.key (refreshedEntry e f now) rfl l, Memory.survives_nil, List.filter_true]
  simp only [refreshedMemory, Memory.settle, hl, Memory.weight_nil, List.length_nil, Int.sub_zero,
    Nat.add_zero, Int.add_sub_assoc]
  congr 1
  simp only [Counters.plus, Nat.add_zero]
  split <;> rfl

section Completion

variable (cfg : RefreshConfig)

/-- Completing the refresh of the stored entry `e` applies its footprint
when the footprint's growth keeps the total within the budget: nothing is
evicted and the disk tier is left alone. -/
theorem completeRefresh_settles {s : Store} (hb : s.memory.Books) {e : Entry} (he : s.memory.find? e.key = some e)
    (reply : Reply) (now : Instant)
    (hroom : s.memory.total + (footprint cfg s.memory.maxBytes now e reply).growth ≤ s.memory.maxBytes) :
    completeRefresh cfg s e reply now =
      { s with memory := s.memory.settle e.key (footprint cfg s.memory.maxBytes now e reply) } := by
  have hfail : ∀ r : Reply, r.failed = true →
      completeRefresh cfg s e r now = { s with memory := s.memory.settle e.key ⟨some (failedEntry cfg e), 0,
        { refreshFailures := 1 }⟩ } := fun r hr => by
    rw [completeRefresh_current cfg r now he rfl, applyRefresh_failed cfg s e now hr]
    congr 1
    exact (@Memory.settle_some s.memory (failedEntry cfg e) { refreshFailures := 1 }).symm
  cases reply with
  | stall =>
    rw [completeRefresh_stall, show footprint cfg s.memory.maxBytes now e .stall = ⟨some e, 0, {}⟩ from rfl,
      Memory.settle_self hb.keys he]
  | failure err => exact hfail _ rfl
  | fragment f =>
    by_cases hok : isSuccess f.status = true
    · by_cases hdrop : (!f.freshAt now || decide ((f.size : Int) > s.memory.maxBytes)) = true
      · -- a fragment that may no longer be cached drops the entry
        have hd : f.freshAt now = false ∨ s.memory.maxBytes < f.size := by
          simpa [Bool.or_eq_true] using hdrop
        rw [completeRefresh_current cfg _ now he rfl, applyRefresh_dropped cfg s e hok hd]
        simp only [footprint, hok, hdrop, Bool.not_true, Bool.false_eq_true, if_false, if_true]
        congr 1
        exact (Memory.settle_none he { refreshFailures := 1 }).symm
      · -- any other fragment takes the entry's place, and the room left means no eviction
        obtain ⟨hfr, hle⟩ : f.freshAt now = true ∧ (f.size : Int) ≤ s.memory.maxBytes := by
          simpa [Bool.or_eq_true] using hdrop
        have hgrow : (footprint cfg s.memory.maxBytes now e (.fragment f)).growth = f.size - e.size := by
          simp [footprint, hok, hdrop]
        obtain ⟨k, hsf, heq⟩ := applyRefresh_refreshed cfg hb (Memory.find?_mem he) hok hfr hle
        have hw : Memory.weight (s.memory.entries.filter (·.key != e.key)) = s.memory.total - e.size := by
          rw [Memory.weight_filter_key hb.keys (Memory.find?_mem he), hb.weighed]
        have hk0 : k = 0 := by
          by_contra hk
          have := hsf.2 0 (by omega)
          rw [List.drop_zero, hw] at this
          omega
        subst hk0
        rw [completeRefresh_current cfg _ now he rfl, heq, List.take_zero, Store.spill_nil, refreshedMemory_nil]
        simp only [footprint, hok, hdrop, Bool.not_true, Bool.false_eq_true, if_false]
    · have hnot : isSuccess f.status = false := by simpa using hok
      rw [hfail (.fragment f) (by simp [Reply.failed, hnot])]
      simp [footprint, hnot]

end Completion

/-! ## The entries a pass selects -/

/-- The entry is one selection picks for refreshing: it has a request URL,
is not stopped, is due, and was read recently enough. -/
def Chosen (cfg : RefreshConfig) (now : Instant) (e : Entry) : Prop :=
  e.request.url.isEmpty = false ∧ e.refreshStopped = false ∧ isDue cfg e now = true ∧
    inactiveTooLong cfg e = false

theorem selectStep_chosen {cfg : RefreshConfig} {now : Instant} {e : Entry} (h : Chosen cfg now e)
    (acc : Memory × List Entry) : selectStep cfg now acc e = (acc.1, acc.2 ++ [e]) := by
  obtain ⟨hu, hs, hd, hi⟩ := h
  simp [selectStep, hu, hs, hd, hi]

/-- Selection picks, in their order, some of the entries it looks at, and
each one it picks is chosen. -/
theorem foldl_selectStep_due (cfg : RefreshConfig) (now : Instant) :
    ∀ (l : List Entry) (acc : Memory × List Entry), ∃ sub, sub.Sublist l ∧ (∀ x ∈ sub, Chosen cfg now x) ∧
      (l.foldl (selectStep cfg now) acc).2 = acc.2 ++ sub := by
  intro l
  induction l with
  | nil => exact fun acc => ⟨[], .slnil, by simp, by simp⟩
  | cons e rest ih =>
    intro acc
    rw [List.foldl_cons]
    rcases selectStep_cases cfg now acc e with h | ⟨-, -, -, h⟩ | ⟨-, -, -, -, h⟩ | ⟨hu, hs, hd, hi, h⟩
    -- an entry passed over, dropped or stopped adds nothing to the selection
    · obtain ⟨sub, hsub, hch, heq⟩ := ih (selectStep cfg now acc e)
      exact ⟨sub, hsub.cons e, hch, by rw [heq, h]⟩
    · obtain ⟨sub, hsub, hch, heq⟩ := ih (selectStep cfg now acc e)
      exact ⟨sub, hsub.cons e, hch, by rw [heq, h]⟩
    · obtain ⟨sub, hsub, hch, heq⟩ := ih (selectStep cfg now acc e)
      exact ⟨sub, hsub.cons e, hch, by rw [heq, h]⟩
    · obtain ⟨sub, hsub, hch, heq⟩ := ih (selectStep cfg now acc e)
      refine ⟨e :: sub, hsub.cons_cons e, ?_, by rw [heq, h]; simp⟩
      intro x hx
      rcases List.mem_cons.mp hx with rfl | hx
      · exact ⟨hu, hs, hd, hi⟩
      · exact hch x hx

/-- Every entry a pass selects is still stored under its key once selection
is over, and no two share a key. -/
theorem selectDue_stored (cfg : RefreshConfig) (now : Instant) {m : Memory} (hb : m.Books) :
    ((selectDue cfg m now).2.map (·.key)).Nodup ∧
      ∀ e ∈ (selectDue cfg m now).2, (selectDue cfg m now).1.find? e.key = some e := by
  obtain ⟨sub, hsub, hch, heq⟩ := foldl_selectStep_due cfg now m.entries (m, [])
  have hdue : (selectDue cfg m now).2 = sub := by rw [selectDue, heq, List.nil_append]
  rw [hdue]
  refine ⟨hb.keys.sublist (hsub.map _), fun e he => ?_⟩
  have hmem : e ∈ m.entries := hsub.subset he
  rw [find?_selectDue now hb.keys hmem, selectStep_chosen (hch e he)]
  exact Memory.find?_of_mem hb.keys hmem

/-! ## A pass in any order -/

/-- Of all parts of a list, the one of the positive growths grows most. -/
theorem sum_max_zero (g : Entry → Int) (l : List Entry) :
    (l.map fun e => max 0 (g e)).sum = ((l.filter fun e => decide (0 < g e)).map g).sum := by
  induction l with
  | nil => rfl
  | cons e l ih =>
    by_cases h : 0 < g e
    · simp only [List.map_cons, List.sum_cons, List.filter_cons, h, decide_true, if_true, ih]
      omega
    · simp only [List.map_cons, List.sum_cons, List.filter_cons, h, decide_false, Bool.false_eq_true,
        if_false, ih]
      omega

section Pass

variable (cfg : RefreshConfig) (now : Instant) (reply : Entry → Reply)

/-- Completes the refreshes of the entries of `l` in that order, each with
its reply, at `now`. -/
def completeInOrder (l : List Entry) (s : Store) : Store :=
  l.foldl (fun s e => completeRefresh cfg s e (reply e) now) s

/-- Applies the footprints of the entries of `l` in that order. -/
def settleInOrder (maxBytes : Int) (l : List Entry) (m : Memory) : Memory :=
  l.foldl (fun m e => m.settle e.key (footprint cfg maxBytes now e (reply e))) m

/-- The completions `l` left of a pass can run without evicting: the books
balance, the entries have distinct keys and each is still stored under its
key, and the total together with every remaining successful refresh's growth
stays within the budget. -/
structure Roomy (s : Store) (l : List Entry) : Prop where
  sound : s.memory.Sound
  keys : (l.map (·.key)).Nodup
  stored : ∀ e ∈ l, s.memory.find? e.key = some e
  room : s.memory.total + (l.map fun e => max 0 (refreshGrowth s.memory.maxBytes now e (reply e))).sum ≤
    s.memory.maxBytes

variable {cfg now reply}

theorem Roomy.perm {s : Store} {l l' : List Entry} (h : Roomy now reply s l) (hp : l.Perm l') :
    Roomy now reply s l' :=
  ⟨h.sound, (hp.map _).nodup_iff.mp h.keys, fun e he => h.stored e (hp.mem_iff.mpr he),
    ((hp.map fun e => max 0 (refreshGrowth s.memory.maxBytes now e (reply e))).sum_eq) ▸ h.room⟩

/-- The first remaining completion applies its footprint, and the rest can
still run without evicting. -/
theorem Roomy.complete {s : Store} {e : Entry} {l : List Entry} (h : Roomy now reply s (e :: l)) :
    completeRefresh cfg s e (reply e) now =
        { s with memory := s.memory.settle e.key (footprint cfg s.memory.maxBytes now e (reply e)) } ∧
      Roomy now reply { s with memory := s.memory.settle e.key (footprint cfg s.memory.maxBytes now e (reply e)) } l := by
  have he := h.stored e List.mem_cons_self
  have hsize : 0 ≤ e.size := by
    rw [h.sound.books.sized e (Memory.find?_mem he)]
    exact Int.natCast_nonneg _
  have hgrow := footprint_growth_le cfg s.memory.maxBytes now hsize (reply e)
  have hrest : 0 ≤ (l.map fun e => max 0 (refreshGrowth s.memory.maxBytes now e (reply e))).sum :=
    List.sum_nonneg fun x hx => by
      obtain ⟨y, -, rfl⟩ := List.mem_map.mp hx
      exact Int.le_max_left 0 _
  have hroom := h.room
  simp only [List.map_cons, List.sum_cons] at hroom
  have heq := completeRefresh_settles cfg h.sound.books he (reply e) now (by omega)
  refine ⟨heq, ⟨?_, (List.nodup_cons.mp h.keys).2, fun x hx => ?_, ?_⟩⟩
  · rw [← heq]
    exact (Memory.Sound.completeRefresh cfg h.sound e (reply e) now).1
  · -- the others keep their keys' entries
    have hne : e.key ≠ x.key := fun hk =>
      (List.nodup_cons.mp h.keys).1 (List.mem_map.mpr ⟨x, hx, hk.symm⟩)
    rw [Memory.find?_settle_of_ne _ hne (footprint_at cfg _ now e _)]
    exact h.stored x (List.mem_cons_of_mem _ hx)
  · simp only [Memory.settle_total, Memory.settle_maxBytes]
    omega

/-- While they can run without evicting, the completions of a pass apply
their footprints one after another, and the disk tier is left alone. -/
theorem Roomy.completeInOrder {s : Store} {l : List Entry} (h : Roomy now reply s l) :
    completeInOrder cfg now reply l s = { s with memory := settleInOrder cfg now reply s.memory.maxBytes l s.memory } := by
  induction l generalizing s with
  | nil => rfl
  | cons e l ih =>
    obtain ⟨heq, hnext⟩ := h.complete
    have := ih hnext
    simp only [Memory.settle_maxBytes] at this
    simp only [Transclusion.Cache.completeInOrder, settleInOrder, List.foldl_cons] at this ⊢
    rw [heq, this]

/-- Footprints of entries with distinct keys apply in any order alike. -/
theorem settleInOrder_perm (maxBytes : Int) {l l' : List Entry} (hp : l.Perm l') (hk : (l.map (·.key)).Nodup)
    (m : Memory) : settleInOrder cfg now reply maxBytes l m = settleInOrder cfg now reply maxBytes l' m := by
  refine hp.foldl_eq' (fun x hx y hy z => ?_) m
  by_cases hxy : x.key = y.key
  · rw [List.inj_on_of_nodup_map hk hx hy hxy]
  · exact Memory.settle_comm z hxy (footprint_at cfg _ now x _) (footprint_at cfg _ now y _)

end Pass

/-- In every run from an empty cache with a budget that is not negative,
take a refresh pass that selects its due entries at `now` and completes them
at `now`, each with its fixed reply. If applying the successful refreshes of
any part of the selection keeps the total within the budget, every order of
the completions leaves the same store as the order of selection: the same
entries in the same places with the same fragments, sizes and bookkeeping,
the same total, the same counters and the same disk tier. -/
theorem refresh_order_independent {cfg : RefreshConfig} {maxBytes : Int} {t : Tracked} (hmax : 0 ≤ maxBytes)
    (ht : Reach cfg maxBytes t) (now : Instant) (reply : Entry → Reply)
    (hroom : ∀ part : List Entry, part.Sublist (selectDue cfg t.store.memory now).2 →
      (selectDue cfg t.store.memory now).1.total +
        (part.map fun e => refreshGrowth t.store.memory.maxBytes now e (reply e)).sum ≤ t.store.memory.maxBytes)
    {order : List Entry} (horder : order.Perm (selectDue cfg t.store.memory now).2) :
    completeInOrder cfg now reply order { t.store with memory := (selectDue cfg t.store.memory now).1 } =
      completeInOrder cfg now reply (selectDue cfg t.store.memory now).2
        { t.store with memory := (selectDue cfg t.store.memory now).1 } := by
  have hsound := (reach_consistent hmax ht).sound
  obtain ⟨hsel, hwithin⟩ := Memory.Sound.selectDue cfg hsound now
  obtain ⟨hkeys, hstored⟩ := selectDue_stored cfg now hsound.books
  have hmaxsel : (selectDue cfg t.store.memory now).1.maxBytes = t.store.memory.maxBytes := hwithin.budget
  -- the part of the selection whose refreshes grow the total is the worst case
  have hworst := hroom ((selectDue cfg t.store.memory now).2.filter
    fun e => decide (0 < refreshGrowth t.store.memory.maxBytes now e (reply e))) List.filter_sublist
  have hroomy : Roomy now reply { t.store with memory := (selectDue cfg t.store.memory now).1 }
      (selectDue cfg t.store.memory now).2 :=
    ⟨hsel, hkeys, hstored, by simpa only [hmaxsel, sum_max_zero] using hworst⟩
  rw [(hroomy.perm horder.symm).completeInOrder, hroomy.completeInOrder,
    settleInOrder_perm _ horder (horder.map _ |>.nodup_iff.mpr hkeys)]

/-- The sample pass at ten seconds, with both refreshes succeeding and each
fragment one byte larger: every part of the selection fits the budget with
its growth, and completing the two in the order opposite to selection leaves
the same store. -/
theorem refresh_order_independent_growth :
    let now : Instant := ⟨10 * nsPerSecond, 0⟩
    let reply : Entry → Reply := fun e =>
      .fragment { url := e.request.url, body := e.key ++ e.key, expiresAt := ⟨20 * nsPerSecond, 0⟩ }
    (0 : Int) ≤ 100 ∧ Reach {} 100 sampleRead ∧
      (∀ part : List Entry, part.Sublist (selectDue {} sampleRead.store.memory now).2 →
        (selectDue {} sampleRead.store.memory now).1.total +
          (part.map fun e => refreshGrowth sampleRead.store.memory.maxBytes now e (reply e)).sum ≤
            sampleRead.store.memory.maxBytes) ∧
      (selectDue {} sampleRead.store.memory now).2.map
          (fun e => refreshGrowth sampleRead.store.memory.maxBytes now e (reply e)) = [1, 1] ∧
      (selectDue {} sampleRead.store.memory now).2.reverse.Perm (selectDue {} sampleRead.store.memory now).2 ∧
      completeInOrder {} now reply (selectDue {} sampleRead.store.memory now).2.reverse
          { sampleRead.store with memory := (selectDue {} sampleRead.store.memory now).1 } =
        completeInOrder {} now reply (selectDue {} sampleRead.store.memory now).2
          { sampleRead.store with memory := (selectDue {} sampleRead.store.memory now).1 } := by
  intro now reply
  have hgrow : ∀ (e : Entry) (f : Fragment), e.size = 47 → f.size = 48 → f.freshAt now = true →
      f.status = 200 → refreshGrowth 100 now e (.fragment f) = 1 := by
    intro e f he hf hfr hst
    simp [refreshGrowth, he, hf, hfr, hst, isSuccess]
  have hb : ({ url := "https://f.test/b", body := "bb", expiresAt := ⟨20 * nsPerSecond, 0⟩ } : Fragment).size = 48 := by
    cbv
  have ha : ({ url := "https://f.test/a", body := "aa", expiresAt := ⟨20 * nsPerSecond, 0⟩ } : Fragment).size = 48 := by
    cbv
  have hgrowth : sampleSelected.inflight.map (fun e => refreshGrowth 100 now e (reply e)) = [1, 1] := by
    simp only [sampleSelected, List.map_cons, List.map_nil, reply]
    rw [hgrow _ _ rfl (by rw [← hb]; rfl) (by decide) rfl, hgrow _ _ rfl (by rw [← ha]; rfl) (by decide) rfl]
  have hroom : ∀ part : List Entry, part.Sublist (selectDue {} sampleRead.store.memory now).2 →
      (selectDue {} sampleRead.store.memory now).1.total +
        (part.map fun e => refreshGrowth sampleRead.store.memory.maxBytes now e (reply e)).sum ≤
          sampleRead.store.memory.maxBytes := by
    intro part hp
    rw [selectDue_sampleRead] at hp ⊢
    have hle : (part.map fun e => refreshGrowth 100 now e (reply e)).sum ≤ 2 := by
      simpa [hgrowth] using (hp.map fun e => refreshGrowth 100 now e (reply e)).sum_le_sum (by simp [hgrowth])
    simp only [sampleRead]
    omega
  refine ⟨by decide, reach_sampleRead, hroom, by rw [selectDue_sampleRead]; exact hgrowth, List.reverse_perm _, ?_⟩
  exact refresh_order_independent (by decide) reach_sampleRead now reply hroom (List.reverse_perm _)

end Transclusion.Cache
