import Transclusion.Proofs.Cache.Representation

/-!
# The order of eviction

When the cache needs room it takes entries in one order: the entries no
lookup has read since they were stored, oldest store first, and then the read
ones, least recently read first (`History.evictsBefore`). A refresh that makes
room for its new fragment passes over the entry it refreshes. Eviction takes
the shortest prefix of that order whose removal lets the incoming bytes fit
(`ShortestFit`), counts each entry it takes, and leaves every other entry in
its queue and in its place (`Memory.evict_eq`).

A store first drops the entry it replaces, which is neither counted as an
eviction nor written to disk, then evicts for the new fragment, hands
exactly the evicted entries to the disk tier and appends the new entry to the
unread queue (`put_evicts_shortest_prefix`).

Proved: `put_evicts_shortest_prefix`, and on the sample run, where a store
must evict, `put_evicts_shortest_prefix_sample`.
-/

namespace Transclusion.Cache

open Transclusion.Time Transclusion.Config

/-! ## The order -/

/-- Whether eviction takes `a` before `b` by what a history says of them: an
entry never read since it was stored goes before every read one, two unread
entries go in the order they were stored, two read ones in the order of their
last reads. -/
def History.evictsBefore (h : History) (a b : Entry) : Prop :=
  match h.readAt a.seq, h.readAt b.seq with
  | none, none => h.storedAt a.seq < h.storedAt b.seq
  | none, some _ => True
  | some _, none => False
  | some x, some y => x < y

/-- Queues in the order a history gives them list their entries in the order
eviction takes them. -/
theorem Ordered.evictsBefore {h : History} {u r : List Entry} (ho : Ordered h (u.map (·.seq)) (r.map (·.seq))) :
    (u ++ r).Pairwise h.evictsBefore := by
  have hu : ∀ a ∈ u, h.readAt a.seq = none := fun a ha => ho.unread_unread a.seq (List.mem_map_of_mem ha)
  have hr : ∀ a ∈ r, ∃ x, h.readAt a.seq = some x := fun a ha =>
    Option.ne_none_iff_exists'.mp (ho.read_read a.seq (List.mem_map_of_mem ha))
  rw [List.pairwise_append]
  refine ⟨?_, ?_, ?_⟩
  · refine (List.pairwise_map.mp ho.unread_sorted).imp_of_mem fun {a b} ha hb hab => ?_
    simp only [History.evictsBefore, hu a ha, hu b hb]
    exact hab
  · refine (List.pairwise_map.mp ho.read_sorted).imp_of_mem fun {a b} ha hb hab => ?_
    obtain ⟨x, hx⟩ := hr a ha
    obtain ⟨y, hy⟩ := hr b hb
    rw [hx, hy] at hab
    simp only [History.evictsBefore, hx, hy]
    exact Option.some_lt_some.mp hab
  · -- every unread entry goes before every read one
    intro a ha b hb
    obtain ⟨y, hy⟩ := hr b hb
    simp only [History.evictsBefore, hu a ha, hy]

/-! ## The shortest prefix that makes room -/

/-- `k` is the length of the shortest prefix of `order` whose removal leaves
the rest, with `extra` more bytes, within `budget`. -/
def ShortestFit (order : List Entry) (extra budget : Int) (k : Nat) : Prop :=
  Memory.weight (order.drop k) + extra ≤ budget ∧ ∀ j < k, budget < Memory.weight (order.drop j) + extra

theorem ShortestFit.zero {order : List Entry} {extra budget : Int}
    (h : Memory.weight order + extra ≤ budget) : ShortestFit order extra budget 0 :=
  ⟨by simpa using h, fun _ hj => absurd hj (Nat.not_lt_zero _)⟩

/-- When the whole order does not fit, the shortest prefix is one entry longer
than the shortest prefix of the rest. -/
theorem ShortestFit.cons {v : Entry} {rest : List Entry} {extra budget : Int} {k : Nat}
    (h : ShortestFit rest extra budget k) (hgt : budget < Memory.weight (v :: rest) + extra) :
    ShortestFit (v :: rest) extra budget (k + 1) := by
  refine ⟨by simpa using h.1, fun j hj => ?_⟩
  cases j with
  | zero => simpa using hgt
  | succ j => simpa using h.2 j (by omega)

/-- When the extra bytes alone fit, the shortest prefix is no longer than the
order. -/
theorem ShortestFit.le_length {order : List Entry} {extra budget : Int} {k : Nat}
    (h : ShortestFit order extra budget k) (hx : extra ≤ budget) : k ≤ order.length := by
  by_contra hlt
  have := h.2 order.length (by omega)
  simp only [List.drop_length, Memory.weight_nil] at this
  omega

namespace Memory

/-! ## Evicting a list of entries -/

/-- Whether `x` is left after the entries `gone` are evicted: none of them
has its key. -/
def survives (gone : List Entry) (x : Entry) : Bool := gone.all fun g => x.key != g.key

/-- The cache after evicting `gone`: their keys leave both queues, every other
entry stays where it was, their bytes leave the total, and each is counted. -/
def evictAll (m : Memory) (gone : List Entry) : Memory :=
  { m with unread := m.unread.filter (survives gone), read := m.read.filter (survives gone)
           total := m.total - weight gone
           counters := { m.counters with evictions := m.counters.evictions + gone.length } }

/-- The entries eviction may take, in the order it takes them: every entry
but the one with sequence number `keep`. -/
def candidates (m : Memory) (keep : Option Nat) : List Entry := m.entries.filter fun e => some e.seq != keep

theorem survives_nil : survives [] = fun _ => true := rfl

theorem survives_singleton (v : Entry) : survives [v] = fun x => x.key != v.key := by
  funext x
  simp [survives]

theorem survives_append (a b : List Entry) (x : Entry) :
    survives (a ++ b) x = (survives a x && survives b x) := by
  simp [survives, List.all_append]

theorem evictAll_nil (m : Memory) : m.evictAll [] = m := by
  simp [evictAll, survives_nil]

theorem evictAll_append (m : Memory) (a b : List Entry) : (m.evictAll a).evictAll b = m.evictAll (a ++ b) := by
  have hf : ∀ l : List Entry, (l.filter (survives a)).filter (survives b) = l.filter (survives (a ++ b)) :=
    fun l => by
      rw [List.filter_filter]
      exact List.filter_congr fun x _ => by rw [survives_append, Bool.and_comm]
  simp only [evictAll, hf, weight_append, List.length_append, Int.sub_sub, Nat.add_assoc]

theorem victim_eq_head (m : Memory) (keep : Option Nat) : m.victim keep = (m.candidates keep).head? := by
  rw [candidates, List.head?_filter, entries_eq, List.find?_append]
  rfl

/-- Evicting an entry whose key no other entry has evicts exactly it. -/
theorem evictOne_eq {m : Memory} (hk : m.KeysDistinct) {v : Entry} (hv : v ∈ m.entries) :
    m.evictOne v = m.evictAll [v] := by
  have hf := find?_of_mem hk hv
  simp [evictOne, detach, hf, evictAll, survives_singleton]

/-- Once the first candidate is evicted, the candidates are the others. -/
theorem candidates_evictOne {m : Memory} (hk : m.KeysDistinct) {keep : Option Nat} {v : Entry}
    {rest : List Entry} (hc : m.candidates keep = v :: rest) : (m.evictOne v).candidates keep = rest := by
  have hsub : List.Sublist (v :: rest) m.entries := hc ▸ List.filter_sublist
  have hnd : ((v :: rest).map (·.key)).Nodup := hk.sublist (hsub.map _)
  simp only [List.map_cons, List.nodup_cons, List.mem_map, not_exists, not_and] at hnd
  rw [candidates, evictOne_entries, detach_entries, List.filter_comm, ← candidates, hc,
    List.filter_cons_of_neg (by simp)]
  exact filter_key_self fun x hx hxk => hnd.1 x hx hxk

/-! ## What eviction does -/

/-- Eviction with more rounds than entries, when the entries it must keep fit
with the incoming bytes: it evicts the shortest prefix of the candidates that
makes room, and nothing else changes. -/
theorem evictFor_eq (incoming : Int) (keep : Option Nat) :
    ∀ (fuel : Nat) (m : Memory), m.KeysDistinct → m.count < fuel →
      m.total - weight (m.candidates keep) + incoming ≤ m.maxBytes →
      ∃ k, ShortestFit (m.candidates keep) (m.total - weight (m.candidates keep) + incoming) m.maxBytes k ∧
        evictFor fuel m incoming keep = (m.evictAll ((m.candidates keep).take k), (m.candidates keep).take k)
  | 0, _, _, hc, _ => absurd hc (Nat.not_lt_zero _)
  | fuel + 1, m, hk, hc, hfit => by
    rw [evictFor_succ]
    by_cases hgt : m.total + incoming > m.maxBytes
    · rw [if_pos hgt, victim_eq_head]
      cases hcand : m.candidates keep with
      | nil => simp only [hcand, weight_nil] at hfit; omega
      | cons v rest =>
        have hv : v ∈ m.entries := (List.mem_filter.mp (hcand ▸ List.mem_cons_self : v ∈ m.candidates keep)).1
        have hrest := candidates_evictOne hk hcand
        -- the victim's bytes leave the total, so the bytes kept with the incoming ones stay the same
        have htot : (m.evictOne v).total = m.total - v.size := by
          rw [evictOne_total, detach_total_of_find? (find?_of_mem hk hv)]
        obtain ⟨k, hs, heq⟩ := evictFor_eq incoming keep fuel (m.evictOne v)
          (by unfold KeysDistinct; rw [evictOne_entries]; exact keysDistinct_detach hk v.key)
          (by have := count_evictOne_lt hv; omega)
          (by rw [hrest, htot, evictOne_maxBytes]; simp only [hcand, weight_cons] at hfit; omega)
        rw [hrest, htot, evictOne_maxBytes] at hs
        rw [hrest] at heq
        refine ⟨k + 1, ?_, ?_⟩
        · have hext : m.total - v.size - weight rest + incoming = m.total - weight (v :: rest) + incoming := by
            simp only [weight_cons]; omega
          rw [hext] at hs
          exact hs.cons (by simp only [weight_cons] at hext ⊢; omega)
        · simp only [List.head?_cons]
          rw [heq, evictOne_eq hk hv, evictAll_append, List.singleton_append, List.take_succ_cons]
    · rw [if_neg hgt]
      refine ⟨0, ShortestFit.zero (by omega), ?_⟩
      simp [evictAll_nil]

/-- Making room for `incoming` bytes in a cache whose keys are distinct, when
what it must keep fits with them, evicts the shortest prefix of the candidates
that makes room. -/
theorem evict_eq {m : Memory} (hk : m.KeysDistinct) {incoming : Int} {keep : Option Nat}
    (hfit : m.total - weight (m.candidates keep) + incoming ≤ m.maxBytes) :
    ∃ k, ShortestFit (m.candidates keep) (m.total - weight (m.candidates keep) + incoming) m.maxBytes k ∧
      m.evict incoming keep = (m.evictAll ((m.candidates keep).take k), (m.candidates keep).take k) :=
  evictFor_eq incoming keep _ m hk (Nat.lt_succ_self _) hfit

/-! ## The survivors of a prefix -/

/-- Evicting the first `k` entries of a list whose keys are distinct leaves
the rest. -/
theorem filter_survives_take :
    ∀ {l : List Entry}, (l.map (·.key)).Nodup → ∀ k, l.filter (survives (l.take k)) = l.drop k
  | [], _, k => by simp
  | x :: l, _, 0 => by simp [survives_nil]
  | x :: l, hnd, k + 1 => by
    simp only [List.map_cons, List.nodup_cons, List.mem_map, not_exists, not_and] at hnd
    rw [List.take_succ_cons, List.filter_cons_of_neg (by simp [survives]), List.drop_succ_cons,
      ← filter_survives_take hnd.2 k]
    -- no later entry has the first one's key, so evicting it spares them
    exact List.filter_congr fun y hy => by simp [survives, hnd.1 y hy]

/-- Evicting the first `k` entries of two queues taken one after the other
takes the queues' shares of the prefix, in order. -/
theorem filter_survives_take_append :
    ∀ {u r : List Entry}, ((u ++ r).map (·.key)).Nodup → ∀ k,
      u.filter (survives ((u ++ r).take k)) = u.drop k ∧
        r.filter (survives ((u ++ r).take k)) = r.drop (k - u.length)
  | [], r, hnd, k => ⟨by simp, by simpa using filter_survives_take hnd k⟩
  | x :: u, r, _, 0 => by simp [survives_nil]
  | x :: u, r, hnd, k + 1 => by
    simp only [List.cons_append, List.map_cons, List.nodup_cons, List.mem_map, not_exists, not_and] at hnd
    obtain ⟨ih₁, ih₂⟩ := filter_survives_take_append hnd.2 k
    have hspare : ∀ y ∈ u ++ r, survives (x :: (u ++ r).take k) y = survives ((u ++ r).take k) y :=
      fun y hy => by simp [survives, hnd.1 y hy]
    rw [List.cons_append, List.take_succ_cons]
    refine ⟨?_, ?_⟩
    · rw [List.filter_cons_of_neg (by simp [survives]), List.drop_succ_cons, ← ih₁]
      exact List.filter_congr fun y hy => hspare y (List.mem_append_left _ hy)
    · rw [List.length_cons, Nat.add_sub_add_right, ← ih₂]
      exact List.filter_congr fun y hy => hspare y (List.mem_append_right _ hy)

/-! ## What a store does -/

@[simp] theorem detach_counters (m : Memory) (key : String) : (m.detach key).counters = m.counters := by
  unfold detach; split <;> rfl

theorem candidates_none (m : Memory) : m.candidates none = m.entries := by
  simp [candidates]

/-- A store into a cache whose books balance, of a fragment fresh at the
store's instant and within the budget: the key's old entry leaves uncounted,
the shortest prefix of the other entries, in eviction order, that makes room
for the fragment is evicted and counted, every other entry keeps its queue and
its place, and the new entry joins the back of the unread queue. -/
theorem put_eq {m : Memory} (hb : m.Books) {key : String} {f : Fragment} (req : FetchRequest)
    {now : Instant} (hf : f.freshAt now = true) (hs : (f.size : Int) ≤ m.maxBytes) :
    ∃ (k : Nat) (e : Entry), ShortestFit (m.entries.filter (·.key != key)) f.size m.maxBytes k ∧
      e.key = key ∧ e.seq = m.seq + 1 ∧ e.fragment = f ∧
      m.put key f req now = .ok ({ m with
          unread := (m.unread.filter (·.key != key)).drop k ++ [e]
          read := (m.read.filter (·.key != key)).drop (k - (m.unread.filter (·.key != key)).length)
          total := weight ((m.entries.filter (·.key != key)).drop k) + f.size
          seq := m.seq + 1
          counters := { m.counters with evictions := m.counters.evictions + k } },
        (m.entries.filter (·.key != key)).take k) := by
  have hd := hb.detach key
  -- after the key's entry leaves, the candidates are all the other entries and weigh the total
  have hcand : (m.detach key).candidates none = m.entries.filter (·.key != key) := by
    rw [candidates_none, detach_entries]
  have hw : (m.detach key).total = weight (m.entries.filter (·.key != key)) := by
    rw [hd.weighed, detach_entries]
  obtain ⟨k, hsf, hev⟩ := @evict_eq _ hd.keys f.size none (by rw [hcand, hw, detach_maxBytes]; omega)
  rw [hcand, hw, detach_maxBytes, Int.sub_self, Int.zero_add] at hsf
  rw [hcand] at hev
  have hk := hsf.le_length hs
  have hsplit := filter_survives_take_append (u := m.unread.filter (·.key != key))
    (r := m.read.filter (·.key != key)) (by rw [← List.filter_append, ← entries_eq, ← detach_entries]; exact hd.keys) k
  rw [← List.filter_append, ← entries_eq] at hsplit
  refine ⟨k, { key, request := req, created := now, seq := m.seq + 1, fragment := f, size := f.size
               digest := Digest.Blake3.hash f.body.toUTF8.toList, writtenAt := now },
    hsf, rfl, rfl, rfl, ?_⟩
  have hgt : ¬ (f.size : Int) > m.maxBytes := by omega
  have hrest : weight (m.entries.filter (·.key != key)) - weight ((m.entries.filter (·.key != key)).take k) =
      weight ((m.entries.filter (·.key != key)).drop k) := by
    rw [← List.take_append_drop k (m.entries.filter (·.key != key)), weight_append, List.take_append_drop]
    omega
  simp only [put, hf, hgt, Bool.not_true, Bool.false_eq_true, if_false, Memory.evict] at hev ⊢
  rw [hev]
  simp only [evictAll, detach_unread, detach_read, hsplit.1, hsplit.2, hw, hrest, detach_counters,
    detach_seq, detach_maxBytes, List.length_take, Nat.min_eq_left hk]

end Memory

/-! ## A store in a run -/

/-- What a store of `f` under `key` at `now` promises of the cache `t` and its
run: the entries other than the key's are listed in the order eviction takes
them, and the store succeeds, evicting the shortest prefix of that list that
makes room for the fragment. The key's old entry leaves uncounted and is not
written to disk; exactly the evicted entries are counted and handed to the
disk tier, in order; every other entry keeps its queue and its place; the new
entry, carrying the fragment, joins the back of the unread queue. -/
structure PutEvicts (t : Tracked) (key : String) (f : Fragment) (req : FetchRequest) (now : Instant) :
    Prop where
  ordered : (t.store.memory.entries.filter (fun x : Entry => x.key != key)).Pairwise t.history.evictsBefore
  evicts : ∃ (k : Nat) (e : Entry),
    ShortestFit (t.store.memory.entries.filter (fun x : Entry => x.key != key)) f.size t.store.memory.maxBytes k ∧
    e.key = key ∧ e.fragment = f ∧
    t.store.put key f req now = .ok ({ t.store with memory := { t.store.memory with
        unread := (t.store.memory.unread.filter (fun x : Entry => x.key != key)).drop k ++ [e]
        read := (t.store.memory.read.filter (fun x : Entry => x.key != key)).drop
          (k - (t.store.memory.unread.filter (fun x : Entry => x.key != key)).length)
        total := Memory.weight ((t.store.memory.entries.filter (fun x : Entry => x.key != key)).drop k) + f.size
        seq := t.store.memory.seq + 1
        counters := { t.store.memory.counters with
          evictions := t.store.memory.counters.evictions + k } } }.spill
      ((t.store.memory.entries.filter (fun x : Entry => x.key != key)).take k) now)

/-- In every run from an empty cache with a budget that is not negative,
whatever came before, a store of a fragment fresh at its instant and no larger
than the budget evicts, in eviction order, exactly the shortest prefix of the
other entries that makes room for it, and keeps every promise of
`PutEvicts`. -/
theorem put_evicts_shortest_prefix {cfg : RefreshConfig} {maxBytes : Int} {t : Tracked} (hmax : 0 ≤ maxBytes)
    (h : Reach cfg maxBytes t) (key : String) (f : Fragment) (req : FetchRequest) (now : Instant)
    (hf : f.freshAt now = true) (hs : (f.size : Int) ≤ maxBytes) : PutEvicts t key f req now := by
  obtain ⟨hsound, hb, ho⟩ := reach_consistent hmax h
  refine ⟨(Ordered.evictsBefore ho).filter _, ?_⟩
  obtain ⟨k, e, hsf, hk, -, hfe, hput⟩ := Memory.put_eq hsound.books req hf (hb ▸ hs)
  exact ⟨k, e, hsf, hk, hfe, by simp only [Store.put, hput]⟩

/-- In the sample run after `"a"` is read, a store of a third sample fragment
overflows the budget, so it must evict, and the first to go is `"b"`, the
head of the unread queue, though it was stored after `"a"`. -/
theorem put_evicts_shortest_prefix_sample :
    (0 : Int) ≤ 100 ∧ Reach {} 100 sampleRead ∧ sampleRead.store.memory.unread.map (·.key) = ["b"] ∧
      sampleRead.store.memory.total + (sampleFragment "c").size > 100 ∧
      (sampleFragment "c").freshAt ⟨nsPerSecond, 0⟩ = true ∧ ((sampleFragment "c").size : Int) ≤ 100 ∧
      PutEvicts sampleRead "c" (sampleFragment "c") {} ⟨nsPerSecond, 0⟩ := by
  have hs : (sampleFragment "c").size = 47 := by cbv
  have hle : ((sampleFragment "c").size : Int) ≤ 100 := by rw [hs]; decide
  refine ⟨by decide, reach_sampleRead, rfl, by rw [hs]; decide, by decide, hle, ?_⟩
  exact put_evicts_shortest_prefix (by decide) reach_sampleRead "c" _ {} ⟨nsPerSecond, 0⟩ (by decide) hle

end Transclusion.Cache
