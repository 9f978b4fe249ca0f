import Transclusion.Store.Memory
import Mathlib

/-!
# How the cache's operations move its entries

What each operation of the in-memory cache does to its two queues and to its
byte total, stated on the queues as lists: dropping a key filters it out of
both queues, reading an entry moves it to the back of the read queue, a store
appends to the unread queue, and eviction only ever removes entries. These are
the lemmas every invariant of the cache is built from; none of them unfolds an
operation twice.

The cache's entries are told apart by key, so most lemmas assume the keys are
distinct (`KeysDistinct`).
-/

namespace Transclusion.Cache

open Transclusion.Time

/-! ## Sums by key -/

section Keyed

variable {α : Type} (key : α → String) (size : α → Int)

theorem sum_filter_key {l : List α} (hk : (l.map key).Nodup) {e : α} (he : e ∈ l) :
    ((l.filter (key · != key e)).map size).sum = (l.map size).sum - size e := by
  induction l with
  | nil => cases he
  | cons x l ih =>
    simp only [List.map_cons, List.nodup_cons, List.mem_map] at hk
    rcases List.mem_cons.mp he with rfl | he
    · -- the element is the head: no other element has its key
      have hrest : ∀ y ∈ l, (key y != key e) = true := fun y hy => by
        simpa using fun hyx => hk.1 ⟨y, hy, hyx⟩
      have hhead : (e :: l).filter (key · != key e) = l.filter (key · != key e) :=
        List.filter_cons_of_neg (by simp)
      rw [hhead, List.filter_eq_self.mpr hrest, List.map_cons, List.sum_cons]
      omega
    · have hx : (key x != key e) = true := by simpa using fun hxe => hk.1 ⟨e, he, hxe.symm⟩
      have hhead : (x :: l).filter (key · != key e) = x :: l.filter (key · != key e) :=
        List.filter_cons_of_pos hx
      rw [hhead, List.map_cons, List.sum_cons, List.map_cons, List.sum_cons, ih hk.2 he]
      omega

theorem sum_map_replace {l : List α} (hk : (l.map key).Nodup) {e : α} (he : e ∈ l) (new : α) :
    ((l.map fun x => if key x == key e then new else x).map size).sum = (l.map size).sum - size e + size new := by
  induction l with
  | nil => cases he
  | cons x l ih =>
    simp only [List.map_cons, List.nodup_cons, List.mem_map] at hk
    rcases List.mem_cons.mp he with rfl | he
    · -- the element is the head: no other element has its key
      have hrest : ∀ y ∈ l, (if key y == key e then new else y) = y := fun y hy => by
        rw [if_neg (by simpa using fun hyx => hk.1 ⟨y, hy, hyx⟩)]
      have hmap : (l.map fun x => if key x == key e then new else x) = l :=
        (List.map_congr_left hrest).trans (List.map_id' l)
      rw [List.map_cons, if_pos (beq_self_eq_true _), hmap, List.map_cons, List.sum_cons, List.map_cons,
        List.sum_cons]
      omega
    · have hx : (key x == key e) = false := by simpa using fun hxe => hk.1 ⟨e, he, hxe.symm⟩
      rw [List.map_cons, if_neg (by simp [hx]), List.map_cons, List.sum_cons, ih hk.2 he, List.map_cons,
        List.sum_cons]
      omega

end Keyed

namespace Memory

/-- The bytes a list of entries takes. -/
def weight (l : List Entry) : Int := (l.map (·.size)).sum

@[simp] theorem weight_nil : weight [] = 0 := rfl

@[simp] theorem weight_cons (e : Entry) (l : List Entry) : weight (e :: l) = e.size + weight l := by
  simp [weight]

@[simp] theorem weight_append (l₁ l₂ : List Entry) : weight (l₁ ++ l₂) = weight l₁ + weight l₂ := by
  simp [weight]

/-- No two entries share a key. -/
def KeysDistinct (m : Memory) : Prop := (m.entries.map (·.key)).Nodup

theorem entries_eq (m : Memory) : m.entries = m.unread ++ m.read := rfl

/-! ## Counters -/

@[simp] theorem tally_unread (m : Memory) (f : Counters → Counters) : (m.tally f).unread = m.unread := rfl
@[simp] theorem tally_read (m : Memory) (f : Counters → Counters) : (m.tally f).read = m.read := rfl
@[simp] theorem tally_total (m : Memory) (f : Counters → Counters) : (m.tally f).total = m.total := rfl
@[simp] theorem tally_seq (m : Memory) (f : Counters → Counters) : (m.tally f).seq = m.seq := rfl
@[simp] theorem tally_maxBytes (m : Memory) (f : Counters → Counters) : (m.tally f).maxBytes = m.maxBytes := rfl
@[simp] theorem tally_entries (m : Memory) (f : Counters → Counters) : (m.tally f).entries = m.entries := rfl
@[simp] theorem tally_find? (m : Memory) (f : Counters → Counters) (key : String) :
    (m.tally f).find? key = m.find? key := rfl

/-! ## Looking up a key -/

theorem find?_mem {m : Memory} {key : String} {e : Entry} (h : m.find? key = some e) : e ∈ m.entries :=
  List.mem_of_find?_eq_some h

theorem find?_key {m : Memory} {key : String} {e : Entry} (h : m.find? key = some e) : e.key = key := by
  simpa using List.find?_some h

theorem find?_none {m : Memory} {key : String} (h : m.find? key = none) : ∀ x ∈ m.entries, x.key ≠ key := by
  intro x hx hk
  exact List.find?_eq_none.mp h x hx (by simp [hk])

theorem find?_of_mem {m : Memory} (hk : m.KeysDistinct) {e : Entry} (he : e ∈ m.entries) :
    m.find? e.key = some e := by
  cases h : m.find? e.key with
  | none => exact absurd rfl (find?_none h e he)
  | some x =>
    have hx := find?_mem h
    have hxk := find?_key h
    exact congrArg some (List.inj_on_of_nodup_map hk hx he hxk)

/-! ## Dropping a key -/

theorem filter_key_self {l : List Entry} {key : String} (h : ∀ x ∈ l, x.key ≠ key) :
    l.filter (·.key != key) = l :=
  List.filter_eq_self.mpr fun x hx => by simpa using h x hx

@[simp] theorem detach_unread (m : Memory) (key : String) :
    (m.detach key).unread = m.unread.filter (·.key != key) := by
  unfold detach
  split
  · rename_i h
    exact (filter_key_self fun x hx => find?_none h x (List.mem_append_left _ hx)).symm
  · rfl

@[simp] theorem detach_read (m : Memory) (key : String) :
    (m.detach key).read = m.read.filter (·.key != key) := by
  unfold detach
  split
  · rename_i h
    exact (filter_key_self fun x hx => find?_none h x (List.mem_append_right _ hx)).symm
  · rfl

@[simp] theorem detach_entries (m : Memory) (key : String) :
    (m.detach key).entries = m.entries.filter (·.key != key) := by
  simp [entries_eq]

@[simp] theorem detach_seq (m : Memory) (key : String) : (m.detach key).seq = m.seq := by
  unfold detach; split <;> rfl

@[simp] theorem detach_maxBytes (m : Memory) (key : String) : (m.detach key).maxBytes = m.maxBytes := by
  unfold detach; split <;> rfl

theorem mem_detach {m : Memory} {key : String} {x : Entry} :
    x ∈ (m.detach key).entries ↔ x ∈ m.entries ∧ x.key ≠ key := by
  simp

theorem find?_detach_self (m : Memory) (key : String) : (m.detach key).find? key = none := by
  unfold find?
  rw [detach_entries, List.find?_filter, List.find?_eq_none]
  intro x _
  simp

theorem find?_detach_of_ne (m : Memory) {key key' : String} (hk : key ≠ key') :
    (m.detach key').find? key = m.find? key := by
  unfold find?
  rw [detach_entries, List.find?_filter]
  congr 1
  funext x
  by_cases hx : x.key = key
  · simp [hx, hk]
  · simp [hx]

/-- Filtering out the key of an entry whose key no other entry has removes
exactly its bytes. -/
theorem weight_filter_key {l : List Entry} (hk : (l.map (·.key)).Nodup) {e : Entry} (he : e ∈ l) :
    weight (l.filter (·.key != e.key)) = weight l - e.size :=
  sum_filter_key Entry.key Entry.size hk he

theorem detach_total_of_find? {m : Memory} {key : String} {e : Entry} (h : m.find? key = some e) :
    (m.detach key).total = m.total - e.size := by
  simp [detach, h]

theorem detach_total_of_none {m : Memory} {key : String} (h : m.find? key = none) :
    (m.detach key).total = m.total := by
  simp [detach, h]

theorem detach_total {m : Memory} (hk : m.KeysDistinct) (key : String) :
    m.total = weight m.entries → (m.detach key).total = weight (m.detach key).entries := by
  intro hw
  cases h : m.find? key with
  | none => rw [detach_total_of_none h, detach_entries, filter_key_self (find?_none h), hw]
  | some e =>
    have hkey := find?_key h
    subst hkey
    rw [detach_total_of_find? h, detach_entries, weight_filter_key hk (find?_mem h), hw]

theorem keysDistinct_detach {m : Memory} (hk : m.KeysDistinct) (key : String) :
    (m.detach key).KeysDistinct := by
  unfold KeysDistinct
  rw [detach_entries]
  exact hk.sublist (List.filter_sublist.map _)

/-! ## Replacing an entry in place -/

/-- What `update` does to each entry: one with the new entry's key is
replaced by it. -/
def swapIn (e : Entry) (x : Entry) : Entry := if x.key == e.key then e else x

@[simp] theorem update_unread (m : Memory) (e : Entry) : (m.update e).unread = m.unread.map (swapIn e) := rfl
@[simp] theorem update_read (m : Memory) (e : Entry) : (m.update e).read = m.read.map (swapIn e) := rfl
@[simp] theorem update_total (m : Memory) (e : Entry) : (m.update e).total = m.total := rfl
@[simp] theorem update_seq (m : Memory) (e : Entry) : (m.update e).seq = m.seq := rfl
@[simp] theorem update_maxBytes (m : Memory) (e : Entry) : (m.update e).maxBytes = m.maxBytes := rfl

@[simp] theorem update_entries (m : Memory) (e : Entry) : (m.update e).entries = m.entries.map (swapIn e) := by
  simp [entries_eq]

@[simp] theorem swapIn_key (e x : Entry) : (swapIn e x).key = x.key := by
  unfold swapIn
  split
  · rename_i h; exact (by simpa using h : x.key = e.key).symm
  · rfl

/-- Replacing an entry keeps every view of the queues that agrees on the old
and the new entry. -/
theorem map_swapIn {α : Type} (f : Entry → α) {e : Entry} {l : List Entry}
    (h : ∀ y ∈ l, y.key = e.key → f y = f e) : (l.map (swapIn e)).map f = l.map f := by
  simp only [List.map_map]
  apply List.map_congr_left
  intro y hy
  simp only [Function.comp, swapIn]
  split
  · rename_i hk; exact (h y hy (by simpa using hk)).symm
  · rfl

theorem mem_map_swapIn {e x : Entry} {l : List Entry} :
    x ∈ l.map (swapIn e) ↔ (x = e ∧ ∃ y ∈ l, y.key = e.key) ∨ (x ∈ l ∧ x.key ≠ e.key) := by
  simp only [List.mem_map, swapIn]
  constructor
  · rintro ⟨y, hy, rfl⟩
    split
    · rename_i hk; exact .inl ⟨rfl, y, hy, by simpa using hk⟩
    · rename_i hk; exact .inr ⟨hy, by simpa using hk⟩
  · rintro (⟨rfl, y, hy, hk⟩ | ⟨hx, hk⟩)
    · exact ⟨y, hy, by simp [hk]⟩
    · exact ⟨x, hx, by simp [hk]⟩

/-- Replacing the one entry with a given key trades its bytes for the new
entry's. -/
theorem find?_update (m : Memory) (e : Entry) (key : String) :
    (m.update e).find? key = (m.find? key).map (swapIn e) := by
  unfold find?
  rw [update_entries, List.find?_map]
  congr 2
  funext x
  simp

theorem weight_map_swapIn {l : List Entry} (hk : (l.map (·.key)).Nodup) {e cur : Entry} (hc : cur ∈ l)
    (hkey : cur.key = e.key) : weight (l.map (swapIn e)) = weight l - cur.size + e.size := by
  have hswap : l.map (swapIn e) = l.map fun x => if x.key == cur.key then e else x := by
    rw [hkey]
    rfl
  rw [weight, hswap, sum_map_replace Entry.key Entry.size hk hc e, ← weight]

/-! ## Reading an entry -/

/-- The entry a read leaves behind: stamped with the read's time and marked
read since its last write. -/
def readEntry (e : Entry) (now : Instant) : Entry := { e with lastRead := now, readSinceWrite := true }

theorem markRead_of_find? {m : Memory} {key : String} {e : Entry} (h : m.find? key = some e) (now : Instant) :
    m.markRead key now =
      { m.detach key with read := (m.detach key).read ++ [readEntry e now],
                          total := (m.detach key).total + e.size } := by
  simp [markRead, h, readEntry]

theorem markRead_of_none {m : Memory} {key : String} (h : m.find? key = none) (now : Instant) :
    m.markRead key now = m := by
  simp [markRead, h]

theorem markRead_entries {m : Memory} {key : String} {e : Entry} (h : m.find? key = some e) (now : Instant) :
    (m.markRead key now).entries = (m.detach key).entries ++ [readEntry e now] := by
  rw [markRead_of_find? h]
  simp [entries_eq]

@[simp] theorem markRead_seq (m : Memory) (key : String) (now : Instant) : (m.markRead key now).seq = m.seq := by
  unfold markRead; split <;> simp

@[simp] theorem markRead_maxBytes (m : Memory) (key : String) (now : Instant) :
    (m.markRead key now).maxBytes = m.maxBytes := by
  unfold markRead; split <;> simp

/-! ## Eviction -/

theorem victimIn_some {q : List Entry} {keep : Option Nat} {v : Entry} (h : victimIn q keep = some v) :
    v ∈ q ∧ some v.seq ≠ keep := by
  have hv := List.find?_some h
  exact ⟨List.mem_of_find?_eq_some h, by simpa using hv⟩

theorem victimIn_none {q : List Entry} {keep : Option Nat} (h : victimIn q keep = none) :
    ∀ x ∈ q, some x.seq = keep := by
  intro x hx
  have := List.find?_eq_none.mp h x hx
  simpa using this

theorem victim_some {m : Memory} {keep : Option Nat} {v : Entry} (h : m.victim keep = some v) :
    v ∈ m.entries ∧ some v.seq ≠ keep := by
  unfold victim at h
  cases hu : victimIn m.unread keep with
  | some u =>
    rw [hu, Option.some_or] at h
    cases h
    exact ⟨List.mem_append_left _ (victimIn_some hu).1, (victimIn_some hu).2⟩
  | none =>
    rw [hu, Option.none_or] at h
    exact ⟨List.mem_append_right _ (victimIn_some h).1, (victimIn_some h).2⟩

/-- With no victim left, every entry is the one eviction must keep. -/
theorem victim_none {m : Memory} {keep : Option Nat} (h : m.victim keep = none) :
    ∀ x ∈ m.entries, some x.seq = keep := by
  unfold victim at h
  cases hu : victimIn m.unread keep with
  | some u => rw [hu, Option.some_or] at h; cases h
  | none =>
    rw [hu, Option.none_or] at h
    intro x hx
    rcases List.mem_append.mp hx with hx | hx
    · exact victimIn_none hu x hx
    · exact victimIn_none h x hx

/-- One round of eviction: the victim is dropped and counted. -/
def evictOne (m : Memory) (v : Entry) : Memory :=
  { m.detach v.key with counters := { (m.detach v.key).counters with
      evictions := (m.detach v.key).counters.evictions + 1 } }

@[simp] theorem evictOne_unread (m : Memory) (v : Entry) : (m.evictOne v).unread = (m.detach v.key).unread := rfl
@[simp] theorem evictOne_read (m : Memory) (v : Entry) : (m.evictOne v).read = (m.detach v.key).read := rfl
@[simp] theorem evictOne_entries (m : Memory) (v : Entry) :
    (m.evictOne v).entries = (m.detach v.key).entries := rfl
@[simp] theorem evictOne_total (m : Memory) (v : Entry) : (m.evictOne v).total = (m.detach v.key).total := rfl
@[simp] theorem evictOne_seq (m : Memory) (v : Entry) : (m.evictOne v).seq = m.seq := by simp [evictOne]
@[simp] theorem evictOne_maxBytes (m : Memory) (v : Entry) : (m.evictOne v).maxBytes = m.maxBytes := by
  simp [evictOne]

theorem evictFor_succ (fuel : Nat) (m : Memory) (incoming : Int) (keep : Option Nat) :
    evictFor (fuel + 1) m incoming keep =
      if m.total + incoming > m.maxBytes then
        match m.victim keep with
        | none => (m, [])
        | some v => let r := evictFor fuel (m.evictOne v) incoming keep; (r.1, v :: r.2)
      else (m, []) := rfl

theorem evictFor_induct (P : Memory → Prop) {incoming : Int} {keep : Option Nat}
    (hstep : ∀ m v, P m → m.victim keep = some v → P (m.evictOne v)) :
    ∀ fuel m, P m → P (evictFor fuel m incoming keep).1 := by
  intro fuel
  induction fuel with
  | zero => intro m h; exact h
  | succ fuel ih =>
    intro m h
    rw [evictFor_succ]
    split
    · split
      · exact h
      · rename_i v hv
        exact ih _ (hstep m v h hv)
    · exact h

theorem evictFor_seq (fuel : Nat) (m : Memory) (incoming : Int) (keep : Option Nat) :
    (evictFor fuel m incoming keep).1.seq = m.seq :=
  evictFor_induct (fun x => x.seq = m.seq) (fun _ _ h _ => by simpa using h) fuel m rfl

theorem evictFor_maxBytes (fuel : Nat) (m : Memory) (incoming : Int) (keep : Option Nat) :
    (evictFor fuel m incoming keep).1.maxBytes = m.maxBytes :=
  evictFor_induct (fun x => x.maxBytes = m.maxBytes) (fun _ _ h _ => by simpa using h) fuel m rfl

/-- Eviction only removes entries: each queue keeps a sublist of its entries. -/
theorem evictFor_sublist (fuel : Nat) (m : Memory) (incoming : Int) (keep : Option Nat) :
    List.Sublist (evictFor fuel m incoming keep).1.unread m.unread ∧
      List.Sublist (evictFor fuel m incoming keep).1.read m.read :=
  evictFor_induct (fun x => List.Sublist x.unread m.unread ∧ List.Sublist x.read m.read)
    (fun _ _ h _ => by simpa using ⟨List.filter_sublist.trans h.1, List.filter_sublist.trans h.2⟩) fuel m
    ⟨List.Sublist.refl _, List.Sublist.refl _⟩

theorem count_evictOne_lt {m : Memory} {v : Entry} (hv : v ∈ m.entries) : (m.evictOne v).count < m.count := by
  have hc : ∀ x : Memory, x.count = x.entries.length := fun x => by simp [count, entries_eq]
  rw [hc, hc, evictOne_entries, detach_entries]
  exact List.length_filter_lt_length_iff_exists.mpr ⟨v, hv, by simp⟩

/-- With more rounds than entries, eviction stops only once the incoming
bytes fit or nothing but the kept entry is left. -/
theorem evictFor_fits (fuel : Nat) (m : Memory) (incoming : Int) (keep : Option Nat) (hf : m.count < fuel) :
    (evictFor fuel m incoming keep).1.total + incoming ≤ (evictFor fuel m incoming keep).1.maxBytes ∨
      (evictFor fuel m incoming keep).1.victim keep = none := by
  induction fuel generalizing m with
  | zero => omega
  | succ fuel ih =>
    rw [evictFor_succ]
    split
    · split
      · rename_i hv; exact .inr hv
      · rename_i v hv
        have hlt := count_evictOne_lt (victim_some hv).1
        exact ih _ (by omega)
    · rename_i hle; exact .inl (by dsimp only; omega)

theorem evict_fits (m : Memory) (incoming : Int) (keep : Option Nat) :
    (m.evict incoming keep).1.total + incoming ≤ (m.evict incoming keep).1.maxBytes ∨
      (m.evict incoming keep).1.victim keep = none :=
  evictFor_fits _ m incoming keep (Nat.lt_succ_self _)

/-! ## Storing a fragment -/

/-- What a successful store does: the fragment was fresh and fits the budget,
the key's old entry is dropped, eviction makes room, and a new entry with the
next sequence number and clean bookkeeping joins the back of the unread
queue. -/
theorem put_ok {m : Memory} {key : String} {f : Fragment} {req : FetchRequest} {now : Instant}
    {r : Memory × List Entry} (h : m.put key f req now = .ok r) :
    f.freshAt now = true ∧ (f.size : Int) ≤ m.maxBytes ∧ ∃ e : Entry,
      r.2 = ((m.detach key).evict f.size none).2 ∧
      r.1 = { ((m.detach key).evict f.size none).1 with
              unread := ((m.detach key).evict f.size none).1.unread ++ [e]
              total := ((m.detach key).evict f.size none).1.total + f.size
              seq := m.seq + 1 } ∧
      e.key = key ∧ e.seq = m.seq + 1 ∧ e.request = req ∧ e.fragment = f ∧ e.size = f.size ∧
      e.created = now ∧ e.writtenAt = now ∧ e.readSinceWrite = false ∧ e.refreshAttempts = 0 ∧
      e.inactiveRefreshes = 0 ∧ e.refreshStopped = false := by
  unfold put at h
  by_cases hf : f.freshAt now = true
  · by_cases hs : (f.size : Int) > m.maxBytes
    · simp [hf, hs] at h
    · simp only [hf, hs, Bool.not_true, Bool.false_eq_true, if_false] at h
      rw [evict, evictFor_seq, detach_seq] at h
      cases h
      exact ⟨hf, by omega, _, rfl, rfl, rfl, rfl, rfl, rfl, rfl, rfl, rfl, rfl, rfl, rfl, rfl⟩
  · simp [hf] at h

theorem find?_markRead {m : Memory} {key : String} {e : Entry} (h : m.find? key = some e) (now : Instant) :
    (m.markRead key now).find? key = some (readEntry e now) := by
  rw [markRead_of_find? h]
  have hnone : ∀ x ∈ (m.detach key).entries, x.key ≠ key := fun x hx => (mem_detach.mp hx).2
  simp only [find?, entries] at hnone ⊢
  rw [← List.append_assoc, List.find?_append, List.find?_eq_none.mpr (by simpa using hnone)]
  simp [readEntry, find?_key h]

theorem put_seq {m : Memory} {key : String} {f : Fragment} {req : FetchRequest} {now : Instant}
    {r : Memory × List Entry} (h : m.put key f req now = .ok r) : r.1.seq = m.seq + 1 := by
  obtain ⟨-, -, e, -, h1, -⟩ := put_ok h
  rw [h1]

theorem find?_put {m : Memory} {key : String} {f : Fragment} {req : FetchRequest} {now : Instant}
    {r : Memory × List Entry} (h : m.put key f req now = .ok r) :
    ∃ e, r.1.find? key = some e ∧ e.seq = m.seq + 1 ∧ e.fragment = f := by
  obtain ⟨-, -, e, -, h1, hk, hs, -, hf, -⟩ := put_ok h
  refine ⟨e, ?_, hs, hf⟩
  have hsub := evictFor_sublist ((m.detach key).count + 1) (m.detach key) f.size none
  have hnone : ∀ x ∈ ((m.detach key).evict f.size none).1.unread, x.key ≠ key := fun x hx =>
    (mem_detach.mp (List.mem_append_left _ (hsub.1.subset hx))).2
  have hn : (((m.detach key).evict f.size none).1.unread).find? (·.key == key) = none :=
    List.find?_eq_none.mpr fun x hx => by simpa using hnone x hx
  rw [h1]
  simp [find?, Memory.entries, hn, hk]

/-- An entry after a store is one the store kept, under another key, or the
new entry, with the next sequence number and clean bookkeeping. -/
theorem mem_put {m : Memory} {key : String} {f : Fragment} {req : FetchRequest} {now : Instant}
    {r : Memory × List Entry} (h : m.put key f req now = .ok r) {y : Entry} (hy : y ∈ r.1.entries) :
    (y ∈ m.entries ∧ y.key ≠ key) ∨
      (y.key = key ∧ y.seq = m.seq + 1 ∧ y.readSinceWrite = false ∧ y.refreshAttempts = 0 ∧
        y.inactiveRefreshes = 0 ∧ y.refreshStopped = false) := by
  obtain ⟨-, -, e, -, hr, hk, hs, -, -, -, -, -, hrw, ha, hi, hst⟩ := put_ok h
  have hsub := evictFor_sublist ((m.detach key).count + 1) (m.detach key) f.size none
  rw [hr] at hy
  simp only [entries_eq, List.mem_append, List.mem_singleton] at hy
  rcases hy with (hy | rfl) | hy
  · exact .inl (mem_detach.mp (List.mem_append_left _ (hsub.1.subset hy)))
  · exact .inr ⟨hk, hs, hrw, ha, hi, hst⟩
  · exact .inl (mem_detach.mp (List.mem_append_right _ (hsub.2.subset hy)))

end Memory

end Transclusion.Cache
