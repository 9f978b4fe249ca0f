import Transclusion.Store.DiskTier
import Transclusion.Proofs.Cache.Entries

/-!
# The disk tier's index

The tier's index lists the bookkeeping of the records it can read, and it
keeps their total size. Whatever the writer applies after the tier opens —
stores, accesses and deletions in any order, with any records and clocks,
each batch written or failed, each tie of a shrink broken either way — the
index stays exact (`Indexed`): its keys are distinct, every indexed key has
its record and bookkeeping in the database, of the size and expiry the index
holds, and the total is the sum of the indexed sizes.

A written store that takes the tier over budget shrinks it (`Shrunk`): every
record expired at the store's instant leaves the index, then live records
leave in an order of last access, exactly as many as it takes for the rest to
fit. So no surviving live record was accessed before an evicted one
(`Shrunk.lru`), and the tier ends within budget (`putWith_fits`).

Proved: `index_exact` (over every run of the writer from an opened tier).
-/

namespace Transclusion.Cache

open Transclusion.Time

/-- The bookkeeping of a record matches it. -/
def Stored.Kept (s : Stored) : Prop :=
  s.info.size = s.record.packed.length ∧ s.info.expiresAt = s.record.fragment.expiresAt.unixNano

/-- `t` is `s` with at most its last access changed. -/
def Stored.Touched (s t : Stored) : Prop :=
  t.key = s.key ∧ t.record = s.record ∧ t.info.size = s.info.size ∧ t.info.expiresAt = s.info.expiresAt

/-- The database holds a record under the entry's key, of the entry's size and
expiry. -/
def IndexEntry.Backed (e : IndexEntry) (db : List Stored) : Prop :=
  ∃ s ∈ db, s.key = e.key ∧ s.info.size = e.info.size ∧ s.info.expiresAt = e.info.expiresAt

theorem IndexEntry.Backed.map {e : IndexEntry} {db : List Stored} (h : e.Backed db) {g : Stored → Stored}
    (hg : ∀ s ∈ db, s.Touched (g s)) : e.Backed (db.map g) := by
  obtain ⟨s, hs, hk, hsize, hexp⟩ := h
  obtain ⟨hk', -, hsize', hexp'⟩ := hg s hs
  exact ⟨g s, List.mem_map_of_mem hs, hk'.trans hk, hsize'.trans hsize, hexp'.trans hexp⟩

/-! ## Setting an element by key -/

section Keyed

variable {α : Type} (key : α → String)

theorem mem_setByKey {l : List α} {a x : α} : x ∈ setByKey key l a ↔ x = a ∨ (x ∈ l ∧ key x ≠ key a) := by
  unfold setByKey
  split
  · -- the key is there: its element is replaced in place
    rename_i hany
    obtain ⟨y, hy, hyk⟩ := List.any_eq_true.mp hany
    simp only [List.mem_map]
    constructor
    · rintro ⟨y', hy', rfl⟩
      by_cases h : key y' = key a <;> simp [h, hy']
    · rintro (rfl | ⟨hx, hxk⟩)
      · exact ⟨y, hy, by simp [beq_iff_eq.mp hyk]⟩
      · exact ⟨x, hx, by simp [hxk]⟩
  · rename_i hany
    have hout : ∀ y ∈ l, key y ≠ key a := by simpa using hany
    simp only [List.mem_append, List.mem_singleton]
    constructor
    · rintro (hx | rfl)
      · exact .inr ⟨hx, hout x hx⟩
      · exact .inl rfl
    · rintro (rfl | ⟨hx, -⟩)
      · exact .inr rfl
      · exact .inl hx

theorem nodup_setByKey {l : List α} (hl : (l.map key).Nodup) (a : α) : ((setByKey key l a).map key).Nodup := by
  unfold setByKey
  split
  · have hkeys : (l.map fun x => if key x == key a then a else x).map key = l.map key := by
      rw [List.map_map]
      exact List.map_congr_left fun x _ => by by_cases h : key x = key a <;> simp [h]
    rwa [hkeys]
  · rename_i hany
    rw [List.map_append, List.nodup_append]
    refine ⟨hl, List.nodup_singleton _, fun x hx y hy => ?_⟩
    obtain ⟨z, hz, rfl⟩ := List.mem_map.mp hx
    rw [List.mem_singleton.mp hy]
    simpa using List.any_eq_false.mp (Bool.eq_false_iff.mpr hany) z hz

variable (size : α → Int)

/-- Setting an element under its key replaces what its key weighed with its own
size. -/
theorem sum_setByKey {l : List α} (hl : (l.map key).Nodup) (a : α) :
    ((setByKey key l a).map size).sum = ((l.filter (key · != key a)).map size).sum + size a := by
  unfold setByKey
  split
  · rename_i hany
    obtain ⟨y, hy, hyk⟩ := List.any_eq_true.mp hany
    rw [← beq_iff_eq.mp hyk, sum_map_replace key size hl hy a, sum_filter_key key size hl hy]
  · rename_i hany
    have hout : ∀ y ∈ l, (key y != key a) = true := by simpa using hany
    rw [List.filter_eq_self.mpr hout, List.map_append, List.sum_append]
    simp

end Keyed

namespace Disk

/-- The bytes a list of index entries counts. -/
def weight (l : List IndexEntry) : Int := (l.map (·.info.size : IndexEntry → Int)).sum

@[simp] theorem weight_nil : weight [] = 0 := rfl

@[simp] theorem weight_cons (e : IndexEntry) (l : List IndexEntry) : weight (e :: l) = e.info.size + weight l := by
  simp [weight]

@[simp] theorem weight_append (l₁ l₂ : List IndexEntry) : weight (l₁ ++ l₂) = weight l₁ + weight l₂ := by
  simp [weight]

theorem weight_perm {l₁ l₂ : List IndexEntry} (h : l₁.Perm l₂) : weight l₁ = weight l₂ :=
  (h.map _).sum_eq

theorem weight_filter_add (p : IndexEntry → Bool) (l : List IndexEntry) :
    weight (l.filter p) + weight (l.filter (!p ·)) = weight l := by
  induction l with
  | nil => rfl
  | cons e l ih => cases hp : p e <;> simp [hp] <;> omega

/-- A database as the writer leaves it: one record per key, each with its own
bookkeeping. -/
structure Wellformed (d : Disk) : Prop where
  keys : (d.db.map (·.key)).Nodup
  kept : ∀ s ∈ d.db, s.Kept

/-- An exact index over a well-formed database: distinct keys, each backed by
the database, and a total that is the sum of the indexed sizes. -/
structure Indexed (d : Disk) : Prop extends Wellformed d where
  indexKeys : (d.index.map (·.key)).Nodup
  backed : ∀ e ∈ d.index, e.Backed d.db
  total : d.total = weight d.index

theorem Wellformed.sublist {d d' : Disk} (h : d.Wellformed) (hs : d'.db.Sublist d.db) : d'.Wellformed :=
  ⟨h.keys.sublist (hs.map _), fun s hs' => h.kept s (hs.subset hs')⟩

theorem Wellformed.map {d d' : Disk} (h : d.Wellformed) {g : Stored → Stored} (hdb : d'.db = d.db.map g)
    (hg : ∀ s ∈ d.db, s.Touched (g s)) : d'.Wellformed := by
  have hkeys : (d.db.map g).map (·.key) = d.db.map (·.key) := by
    rw [List.map_map]
    exact List.map_congr_left fun s hs => (hg s hs).1
  refine ⟨hdb ▸ hkeys ▸ h.keys, fun t ht => ?_⟩
  rw [hdb] at ht
  obtain ⟨s, hs, rfl⟩ := List.mem_map.mp ht
  obtain ⟨-, hrec, hsize, hexp⟩ := hg s hs
  obtain ⟨hks, hke⟩ := h.kept s hs
  exact ⟨by rw [hsize, hrec, hks], by rw [hexp, hrec, hke]⟩

theorem Indexed.backer {d : Disk} (h : d.Indexed) {e : IndexEntry} (he : e ∈ d.index) {s : Stored}
    (hs : s ∈ d.db) (hk : s.key = e.key) : s.info.size = e.info.size ∧ s.info.expiresAt = e.info.expiresAt := by
  obtain ⟨s', hs', hk', hsize, hexp⟩ := h.backed e he
  obtain rfl := List.inj_on_of_nodup_map h.keys hs hs' (hk.trans hk'.symm)
  exact ⟨hsize, hexp⟩

/-! ## Looking up a key -/

theorem indexed?_mem {d : Disk} {key : String} {e : IndexEntry} (h : d.indexed? key = some e) : e ∈ d.index :=
  List.mem_of_find?_eq_some h

theorem indexed?_key {d : Disk} {key : String} {e : IndexEntry} (h : d.indexed? key = some e) : e.key = key := by
  simpa using List.find?_some h

theorem indexed?_none {d : Disk} {key : String} (h : d.indexed? key = none) : ∀ e ∈ d.index, e.key ≠ key := by
  intro e he hk
  exact List.find?_eq_none.mp h e he (by simp [hk])

/-- Dropping a key from an index with distinct keys takes its indexed size off
the weight. -/
theorem weight_filter_ne {d : Disk} (hk : (d.index.map (·.key)).Nodup) (key : String) :
    weight (d.index.filter (·.key != key)) = weight d.index - d.indexedSize key := by
  unfold indexedSize
  cases hf : d.indexed? key with
  | none =>
    rw [List.filter_eq_self.mpr fun e he => by simpa using indexed?_none hf e he]
    simp
  | some e =>
    obtain rfl := indexed?_key hf
    simpa [weight] using sum_filter_key (·.key) (·.info.size : IndexEntry → Int) hk (indexed?_mem hf)

/-! ## Deleting -/

@[simp] theorem deleteWith_index (d : Disk) (key : String) (w : Bool) :
    (d.deleteWith key w).index = d.index.filter (·.key != key) := rfl

@[simp] theorem deleteWith_db (d : Disk) (key : String) (w : Bool) :
    (d.deleteWith key w).db = if w then d.db.filter (·.key != key) else d.db := rfl

@[simp] theorem deleteWith_maxBytes (d : Disk) (key : String) (w : Bool) :
    (d.deleteWith key w).maxBytes = d.maxBytes := rfl

theorem Indexed.deleteWith {d : Disk} (h : d.Indexed) (key : String) (w : Bool) : (d.deleteWith key w).Indexed where
  toWellformed := h.toWellformed.sublist (by cases w <;> simp [List.filter_sublist])
  indexKeys := h.indexKeys.sublist (List.filter_sublist.map _)
  backed e he := by
    obtain ⟨he, hk⟩ := List.mem_filter.mp he
    obtain ⟨s, hs, hsk, hsize, hexp⟩ := h.backed e he
    refine ⟨s, ?_, hsk, hsize, hexp⟩
    cases w
    · exact hs
    · exact List.mem_filter.mpr ⟨hs, by rw [hsk]; exact hk⟩
  total := by
    show d.total - d.indexedSize key = weight (d.index.filter (·.key != key))
    rw [weight_filter_ne h.indexKeys, h.total]

/-- Deletes the keys of a list of entries, each batch written as `del` says. -/
def deleteAll (d : Disk) (l : List IndexEntry) (del : String → Bool) : Disk :=
  l.foldl (fun d e => d.deleteWith e.key (del e.key)) d

theorem deleteAll_index (d : Disk) (l : List IndexEntry) (del : String → Bool) :
    (d.deleteAll l del).index = d.index.filter (fun e => !(l.map (·.key)).contains e.key) := by
  induction l generalizing d with
  | nil => simp [deleteAll]
  | cons x l ih =>
    rw [deleteAll, List.foldl_cons, ← deleteAll, ih, deleteWith_index, List.filter_filter]
    congr 1
    funext e
    by_cases hk : e.key = x.key <;> simp [hk]

theorem deleteAll_db (d : Disk) (l : List IndexEntry) (del : String → Bool) :
    (d.deleteAll l del).db = d.db.filter (fun s => !((l.map (·.key)).contains s.key && del s.key)) := by
  induction l generalizing d with
  | nil => simp [deleteAll]
  | cons x l ih =>
    rw [deleteAll, List.foldl_cons, ← deleteAll, ih, deleteWith_db]
    cases hx : del x.key
    · simp only [Bool.false_eq_true, if_false]
      congr 1
      funext s
      by_cases hk : s.key = x.key <;> simp [hk, hx]
    · simp only [if_true, List.filter_filter]
      congr 1
      funext s
      by_cases hk : s.key = x.key <;> simp [hk, hx]

@[simp] theorem deleteAll_maxBytes (d : Disk) (l : List IndexEntry) (del : String → Bool) :
    (d.deleteAll l del).maxBytes = d.maxBytes := by
  induction l generalizing d with
  | nil => rfl
  | cons x l ih => rw [deleteAll, List.foldl_cons, ← deleteAll, ih, deleteWith_maxBytes]

theorem Indexed.deleteAll {d : Disk} (h : d.Indexed) (l : List IndexEntry) (del : String → Bool) :
    (d.deleteAll l del).Indexed := by
  induction l generalizing d with
  | nil => exact h
  | cons x l ih => exact ih (h.deleteWith x.key (del x.key))

/-! ## Touching -/

/-- An access rewrites the last access of the key's entry and, when written,
of its database record. -/
theorem touchWith_of_indexed {d : Disk} {key : String} {e : IndexEntry} (hf : d.indexed? key = some e)
    (now : Instant) (w : Bool) :
    d.touchWith key now w =
      { d with index := setByKey (·.key) d.index ⟨key, { e.info with lastAccess := now.unixNano }⟩
               db := if w then d.db.map (fun s => if s.key == key then
                   { s with info := { e.info with lastAccess := now.unixNano } } else s) else d.db } := by
  simp [touchWith, hf]

theorem Indexed.touchWith {d : Disk} (h : d.Indexed) (key : String) (now : Instant) (w : Bool) :
    (d.touchWith key now w).Indexed := by
  cases hf : d.indexed? key with
  | none => simpa [Disk.touchWith, hf] using h
  | some e =>
    obtain rfl := indexed?_key hf
    have he := indexed?_mem hf
    rw [touchWith_of_indexed hf]
    -- the database's record under the key already has the entry's size and expiry
    have htouched : ∀ s ∈ d.db, s.Touched (if s.key == e.key then
        { s with info := { e.info with lastAccess := now.unixNano } } else s) := by
      intro s hs
      by_cases hk : s.key = e.key
      · obtain ⟨hsize, hexp⟩ := h.backer he hs hk
        simp [Stored.Touched, hk, hsize, hexp]
      · simp [Stored.Touched, hk]
    have hback : ∀ x : IndexEntry, x.Backed d.db → x.Backed (if w then d.db.map (fun s => if s.key == e.key then
        { s with info := { e.info with lastAccess := now.unixNano } } else s) else d.db) := by
      intro x hx
      cases w
      · exact hx
      · exact hx.map htouched
    refine ⟨?_, nodup_setByKey IndexEntry.key h.indexKeys _, fun x hx => ?_, ?_⟩
    · cases w
      · exact h.toWellformed.sublist (List.Sublist.refl _)
      · exact h.toWellformed.map rfl htouched
    · rcases (mem_setByKey IndexEntry.key).mp hx with rfl | ⟨hx, -⟩
      · exact hback e (h.backed e he)
      · exact hback x (h.backed x hx)
    · show d.total = weight (setByKey (·.key) d.index _)
      have hsize : (d.indexedSize e.key : Int) = e.info.size := by simp [indexedSize, hf]
      rw [weight, sum_setByKey IndexEntry.key _ h.indexKeys, ← weight, weight_filter_ne h.indexKeys, hsize, h.total]
      simp

/-! ## Shrinking -/

/-- One step of evicting live records: nothing once the excess is gone, else
the entry goes and its size comes off the excess. -/
def evictStep (del : String → Bool) (acc : Disk × Int) (e : IndexEntry) : Disk × Int :=
  if acc.2 ≤ 0 then acc else (acc.1.deleteWith e.key (del e.key), acc.2 - e.info.size)

/-- How many entries from the front of a list an excess evicts. -/
def evictCount : Int → List IndexEntry → Nat
  | _, [] => 0
  | x, e :: l => if x ≤ 0 then 0 else evictCount (x - e.info.size) l + 1

/-- The entries a shrink looks at: the expired ones, and the live ones in
access order. -/
theorem shrinkWith_eq (d : Disk) (now : Int) (c : Choices) :
    d.shrinkWith now c =
      (((d.index.filter fun e : IndexEntry => !e.info.expiredAt now).mergeSort (accessOrder c.rank)).foldl
        (evictStep c.deleted)
        (d.deleteAll (d.index.filter fun e : IndexEntry => e.info.expiredAt now) c.deleted,
          d.total - d.maxBytes - weight (d.index.filter fun e : IndexEntry => e.info.expiredAt now))).1 := rfl

theorem foldl_evictStep_stop (del : String → Bool) {x : Int} (hx : x ≤ 0) (l : List IndexEntry) (d : Disk) :
    l.foldl (evictStep del) (d, x) = (d, x) := by
  induction l with
  | nil => rfl
  | cons e l ih => rw [List.foldl_cons, evictStep, if_pos hx, ih]

/-- Evicting from an excess deletes the entries the excess counts, from the
front, and takes their sizes off the excess. -/
theorem foldl_evictStep (del : String → Bool) (l : List IndexEntry) (d : Disk) (x : Int) :
    l.foldl (evictStep del) (d, x) =
      (d.deleteAll (l.take (evictCount x l)) del, x - weight (l.take (evictCount x l))) := by
  induction l generalizing d x with
  | nil => simp [evictCount, deleteAll]
  | cons e l ih =>
    by_cases hx : x ≤ 0
    · simp [evictCount, hx, foldl_evictStep_stop del hx, deleteAll]
    · rw [List.foldl_cons, evictStep, if_neg hx, ih, evictCount, if_neg hx]
      simp only [List.take_succ_cons, weight_cons, deleteAll, List.foldl_cons]
      congr 1
      omega

theorem evictCount_le (x : Int) (l : List IndexEntry) : evictCount x l ≤ l.length := by
  induction l generalizing x with
  | nil => exact Nat.le_refl 0
  | cons e l ih =>
    unfold evictCount
    split
    · exact Nat.zero_le _
    · exact Nat.succ_le_succ (ih _)

theorem evictCount_needed {x : Int} {l : List IndexEntry} {m : Nat} (hm : m < evictCount x l) :
    0 < x - weight (l.take m) := by
  induction l generalizing x m with
  | nil => cases hm
  | cons e l ih =>
    unfold evictCount at hm
    split at hm
    · cases hm
    · rename_i hx
      cases m with
      | zero => simp; omega
      | succ m =>
        have := ih (Nat.lt_of_succ_lt_succ hm)
        simp only [List.take_succ_cons, weight_cons]
        omega

/-- Eviction stops with entries left only once the excess is gone. -/
theorem evictCount_enough {x : Int} {l : List IndexEntry} (h : evictCount x l < l.length) :
    x - weight (l.take (evictCount x l)) ≤ 0 := by
  induction l generalizing x with
  | nil => cases h
  | cons e l ih =>
    unfold evictCount at h ⊢
    split
    · simp; omega
    · rename_i hx
      rw [if_neg hx] at h
      have := ih (Nat.lt_of_succ_lt_succ h)
      simp only [List.take_succ_cons, weight_cons]
      omega

/-- With distinct keys, an entry's key is among the keys of the entries a test
keeps exactly when the test keeps the entry itself. -/
theorem contains_key_filter {l : List IndexEntry} (hk : (l.map (·.key)).Nodup) (p : IndexEntry → Bool)
    {e : IndexEntry} (he : e ∈ l) : ((l.filter p).map (·.key)).contains e.key = p e := by
  cases hp : p e with
  | true => simpa using ⟨e, ⟨he, hp⟩, rfl⟩
  | false =>
    simp only [List.contains_iff_mem, List.mem_map, List.mem_filter, Bool.eq_false_iff, ne_eq]
    rintro ⟨e', ⟨he', hp'⟩, hkey⟩
    obtain rfl := List.inj_on_of_nodup_map hk he' he hkey
    rw [hp] at hp'
    cases hp'

/-- The live entries of a tier at `now` in an order of last access, least
recent first; ties in any order. -/
structure ByAccess (d : Disk) (now : Int) (L : List IndexEntry) : Prop where
  perm : L.Perm (d.index.filter fun e => !e.info.expiredAt now)
  sorted : L.Pairwise fun a b => a.info.lastAccess ≤ b.info.lastAccess

/-- What a shrink at `now` makes of a tier: every expired entry goes, then the
first `n` live entries in an order of last access. Each of them went while
what was left was over budget, and eviction stopped as soon as what was left
fitted. -/
structure Shrunk (d : Disk) (now : Int) (d' : Disk) : Prop where
  evicts : ∃ L n, ByAccess d now L ∧ n ≤ L.length ∧
    d'.index = d.index.filter (fun e => !e.info.expiredAt now && !((L.take n).map (·.key)).contains e.key) ∧
    (∀ m < n, d.maxBytes < weight (L.drop m)) ∧ (n < L.length → weight (L.drop n) ≤ d.maxBytes)
  maxBytes : d'.maxBytes = d.maxBytes

/-- A shrink visits live entries by last access, whatever the ranks of ties. -/
theorem mergeSort_byAccess (d : Disk) (now : Int) (rank : String → Nat) :
    ByAccess d now ((d.index.filter fun e : IndexEntry => !e.info.expiredAt now).mergeSort (accessOrder rank)) := by
  refine ⟨List.mergeSort_perm _ _, ?_⟩
  have hsorted := @List.pairwise_mergeSort IndexEntry (accessOrder rank)
    (fun a b c hab hbc => by simp only [accessOrder, Bool.or_eq_true, Bool.and_eq_true, decide_eq_true_eq,
      beq_iff_eq] at hab hbc ⊢; omega)
    (fun a b => by simp only [accessOrder, Bool.or_eq_true, Bool.and_eq_true, decide_eq_true_eq, beq_iff_eq]; omega)
    (d.index.filter fun e : IndexEntry => !e.info.expiredAt now)
  exact hsorted.imp fun hab => by
    simp only [accessOrder, Bool.or_eq_true, Bool.and_eq_true, decide_eq_true_eq, beq_iff_eq] at hab
    omega

theorem Indexed.shrunk {d : Disk} (h : d.Indexed) (now : Int) (c : Choices) : Shrunk d now (d.shrinkWith now c) := by
  have hL := mergeSort_byAccess d now c.rank
  generalize hLdef : (d.index.filter fun e : IndexEntry => !e.info.expiredAt now).mergeSort (accessOrder c.rank) = L
    at hL
  have hx : ∀ m, d.total - d.maxBytes - weight (d.index.filter fun e : IndexEntry => e.info.expiredAt now) -
      weight (L.take m) = weight (L.drop m) - d.maxBytes := by
    intro m
    have hsplit := weight_filter_add (fun e : IndexEntry => e.info.expiredAt now) d.index
    have hlive := weight_perm hL.perm
    have htd : weight L = weight (L.take m) + weight (L.drop m) := by
      rw [← weight_append, List.take_append_drop]
    have ht := h.total
    omega
  refine ⟨⟨L, evictCount (d.total - d.maxBytes - weight (d.index.filter fun e : IndexEntry => e.info.expiredAt now)) L,
    hL, evictCount_le _ L, ?_, fun m hm => ?_, fun hn => ?_⟩, ?_⟩
  · rw [shrinkWith_eq, hLdef, foldl_evictStep, deleteAll_index, deleteAll_index, List.filter_filter]
    apply List.filter_congr
    intro e he
    rw [contains_key_filter h.indexKeys _ he]
    cases e.info.expiredAt now <;> simp
  · have := evictCount_needed hm
    rw [hx] at this
    omega
  · have := evictCount_enough hn
    rw [hx] at this
    omega
  · rw [shrinkWith_eq, hLdef, foldl_evictStep, deleteAll_maxBytes, deleteAll_maxBytes]

theorem Indexed.shrinkWith {d : Disk} (h : d.Indexed) (now : Int) (c : Choices) : (d.shrinkWith now c).Indexed := by
  rw [shrinkWith_eq, foldl_evictStep]
  exact (h.deleteAll _ _).deleteAll _ _

@[simp] theorem shrinkWith_maxBytes (d : Disk) (now : Int) (c : Choices) : (d.shrinkWith now c).maxBytes = d.maxBytes := by
  rw [shrinkWith_eq, foldl_evictStep, deleteAll_maxBytes, deleteAll_maxBytes]

/-- With distinct keys, the live entries whose keys are not among the first
`n` of an order of them are the rest of that order. -/
theorem survivors_perm {d : Disk} (hk : (d.index.map (·.key)).Nodup) {now : Int} {L : List IndexEntry}
    (hL : L.Perm (d.index.filter fun e => !e.info.expiredAt now)) (n : Nat) :
    (d.index.filter fun e => !e.info.expiredAt now && !((L.take n).map (·.key)).contains e.key).Perm (L.drop n) := by
  have hkL : ((L.take n).map (·.key) ++ (L.drop n).map (·.key)).Nodup := by
    rw [← List.map_append, List.take_append_drop]
    exact (hL.map _).nodup_iff.mpr (hk.sublist (List.filter_sublist.map _))
  obtain ⟨-, -, hsep⟩ := List.nodup_append.mp hkL
  have hlive : (d.index.filter fun e => !e.info.expiredAt now && !((L.take n).map (·.key)).contains e.key) =
      (d.index.filter fun e => !e.info.expiredAt now).filter fun e => !((L.take n).map (·.key)).contains e.key := by
    rw [List.filter_filter]
    exact List.filter_congr fun e _ => Bool.and_comm _ _
  rw [hlive]
  refine ((hL.filter _).symm).trans ?_
  have htake : (L.take n).filter (fun e => !((L.take n).map (·.key)).contains e.key) = [] :=
    List.filter_eq_nil_iff.mpr fun t ht => by
      have hc : ((L.take n).map (·.key)).contains t.key = true := List.elem_eq_true_of_mem (List.mem_map_of_mem ht)
      rw [hc]; decide
  have hdrop : (L.drop n).filter (fun e => !((L.take n).map (·.key)).contains e.key) = L.drop n :=
    List.filter_eq_self.mpr fun t ht => by
      have hc : ((L.take n).map (·.key)).contains t.key = false := Bool.eq_false_iff.mpr fun hc =>
        hsep _ (List.mem_of_elem_eq_true hc) _ (List.mem_map_of_mem ht) rfl
      rw [hc]; rfl
  have hsplit : L.filter (fun e => !((L.take n).map (·.key)).contains e.key) =
      (L.take n).filter (fun e => !((L.take n).map (·.key)).contains e.key) ++
        (L.drop n).filter (fun e => !((L.take n).map (·.key)).contains e.key) := by
    rw [← List.filter_append, List.take_append_drop]
  rw [hsplit, htake, hdrop, List.nil_append]

/-- No entry a shrink keeps was accessed before a live entry it evicted. -/
theorem Shrunk.lru {d d' : Disk} {now : Int} (h : Shrunk d now d') (hk : (d.index.map (·.key)).Nodup)
    {e : IndexEntry} (he : e ∈ d.index) (hlive : e.info.expiredAt now = false) (hgone : e ∉ d'.index)
    {s : IndexEntry} (hs : s ∈ d'.index) : e.info.lastAccess ≤ s.info.lastAccess := by
  obtain ⟨L, n, hL, -, hst, -, -⟩ := h.evicts
  rw [hst] at hs hgone
  obtain ⟨hs₀, hsq⟩ := List.mem_filter.mp hs
  simp only [Bool.and_eq_true, Bool.not_eq_true'] at hsq
  -- `e` was evicted, so its key is one of the first `n`, and it is the entry with that key
  have hein : e.key ∈ (L.take n).map (·.key) := by
    by_contra hc
    exact hgone (List.mem_filter.mpr ⟨he, by simpa [hlive] using hc⟩)
  obtain ⟨e', he', hkey⟩ := List.mem_map.mp hein
  have he's : e' ∈ d.index := (List.mem_filter.mp (hL.perm.mem_iff.mp (List.mem_of_mem_take he'))).1
  obtain rfl := List.inj_on_of_nodup_map hk he's he hkey
  -- `s` is live and its key is not one of the first `n`, so it comes after them
  have hsL : s ∈ L := hL.perm.mem_iff.mpr (List.mem_filter.mpr ⟨hs₀, by simp [hsq.1]⟩)
  rw [← List.take_append_drop n L] at hsL
  have hsd : s ∈ L.drop n := by
    rcases List.mem_append.mp hsL with ht | hd
    · exact absurd (List.mem_map_of_mem ht) (by simpa using hsq.2)
    · exact hd
  have hsorted := hL.sorted
  rw [← List.take_append_drop n L, List.pairwise_append] at hsorted
  exact hsorted.2.2 e' he' s hsd

/-- After a shrink of an index with distinct keys that stays exact, the tier is
within any budget that is not negative. -/
theorem Shrunk.fits {d d' : Disk} {now : Int} (h : Shrunk d now d') (hk : (d.index.map (·.key)).Nodup)
    (hd' : d'.Indexed) (hmax : 0 ≤ d.maxBytes) : d'.total ≤ d.maxBytes := by
  obtain ⟨L, n, hL, hn, hst, -, hstop⟩ := h.evicts
  have hw : d'.total = weight (L.drop n) := by
    rw [hd'.total, hst]
    exact weight_perm (survivors_perm hk hL.perm n)
  rw [hw]
  rcases Nat.lt_or_ge n L.length with hlt | hge
  · exact hstop hlt
  · rw [List.drop_eq_nil_of_le hge, weight_nil]
    exact hmax

/-! ## Storing -/

theorem packed_length_pos (r : DiskRecord) : 0 < r.packed.length := by
  unfold DiskRecord.packed Record.pack
  dsimp only
  split <;> simp

/-- The database record a store at `now` writes. -/
def storedFor (key : String) (r : DiskRecord) (now : Instant) : Stored := { key, info := r.infoAt now, record := r }

/-- A written store's change to the tier before any shrink: the record and its
entry replace those under the key, or join at the end. -/
def place (d : Disk) (key : String) (r : DiskRecord) (now : Instant) : Disk :=
  { d with db := setByKey (·.key) d.db (storedFor key r now)
           index := setByKey (·.key) d.index ⟨key, r.infoAt now⟩
           total := d.total - d.indexedSize key + (r.infoAt now).size }

@[simp] theorem place_maxBytes (d : Disk) (key : String) (r : DiskRecord) (now : Instant) :
    (d.place key r now).maxBytes = d.maxBytes := rfl

/-- A store deletes a record no longer fresh; a failed batch changes nothing;
otherwise the record is placed and the tier shrunk when that takes it over
budget. -/
theorem putWith_eq (d : Disk) (key : String) (r : DiskRecord) (now : Instant) (c : Choices) :
    d.putWith key r now c =
      if !r.fragment.freshAt now then d.deleteWith key c.written
      else if !c.written then d
      else if (d.place key r now).total > (d.place key r now).maxBytes then
        (d.place key r now).shrinkWith now.unixNano c
      else d.place key r now := rfl

theorem Indexed.place {d : Disk} (h : d.Indexed) (key : String) (r : DiskRecord) (now : Instant) :
    (d.place key r now).Indexed where
  keys := nodup_setByKey Stored.key h.keys _
  kept s hs := by
    rcases (mem_setByKey Stored.key).mp hs with rfl | ⟨hs, -⟩
    · exact ⟨rfl, rfl⟩
    · exact h.kept s hs
  indexKeys := nodup_setByKey IndexEntry.key h.indexKeys _
  backed e he := by
    rcases (mem_setByKey IndexEntry.key).mp he with rfl | ⟨he, hk⟩
    · exact ⟨storedFor key r now, (mem_setByKey Stored.key).mpr (.inl rfl), rfl, rfl, rfl⟩
    · -- another key's record is untouched
      obtain ⟨s, hs, hsk, hsize, hexp⟩ := h.backed e he
      exact ⟨s, (mem_setByKey Stored.key).mpr (.inr ⟨hs, hsk ▸ hk⟩), hsk, hsize, hexp⟩
  total := by
    show d.total - d.indexedSize key + (r.infoAt now).size = weight (setByKey (·.key) d.index _)
    rw [weight, sum_setByKey IndexEntry.key _ h.indexKeys, ← weight, weight_filter_ne h.indexKeys, h.total]

theorem Indexed.putWith {d : Disk} (h : d.Indexed) (key : String) (r : DiskRecord) (now : Instant) (c : Choices) :
    (d.putWith key r now c).Indexed := by
  rw [putWith_eq]
  split
  · exact h.deleteWith key c.written
  · split
    · exact h
    · split
      · exact (h.place key r now).shrinkWith now.unixNano c
      · exact h.place key r now

/-- A written store of a fresh record leaves the tier within any budget that is
not negative. -/
theorem putWith_fits {d : Disk} (h : d.Indexed) (hmax : 0 ≤ d.maxBytes) (key : String) {r : DiskRecord}
    {now : Instant} {c : Choices} (hw : c.written = true) (hf : r.fragment.freshAt now = true) :
    (d.putWith key r now c).total ≤ d.maxBytes := by
  have hp := h.place key r now
  rw [putWith_eq, if_neg (by simp [hf]), if_neg (by simp [hw])]
  split
  · have hfit := (hp.shrunk now.unixNano c).fits hp.indexKeys (hp.shrinkWith now.unixNano c)
      (by rw [place_maxBytes]; exact hmax)
    rwa [place_maxBytes] at hfit
  · rename_i hnot
    rw [place_maxBytes] at hnot
    omega

/-! ## Runs of the writer -/

theorem reopen_indexed {d : Disk} (h : d.Wellformed) (wall : Instant) : (d.reopen wall).Indexed where
  toWellformed := h.sublist List.filter_sublist
  indexKeys := by
    show ((d.db.filter _).map _).map _ |>.Nodup
    rw [List.map_map]
    exact h.keys.sublist (List.filter_sublist.map _)
  backed e he := by
    obtain ⟨s, hs, rfl⟩ := List.mem_map.mp he
    exact ⟨s, hs, rfl, rfl, rfl⟩
  total := by simp [Disk.reopen, weight, Function.comp_def]

theorem openWith_some {d d' : Disk} {wall : Instant} {w : Bool} (h : d.openWith wall w = some d') :
    d' = d.reopen wall := by
  unfold openWith at h
  split at h
  · cases h
  · exact (Option.some.inj h).symm

theorem Indexed.applyWith {d : Disk} (h : d.Indexed) (c : Choices) : ∀ op : Op, (d.applyWith c op).Indexed
  | .put key r now => h.putWith key r now c
  | .touch key now => h.touchWith key now c.written
  | .delete key => h.deleteWith key c.written

@[simp] theorem applyWith_maxBytes (d : Disk) (c : Choices) : ∀ op : Op, (d.applyWith c op).maxBytes = d.maxBytes
  | .put key r now => by
    show (d.putWith key r now c).maxBytes = d.maxBytes
    rw [putWith_eq]
    split
    · rfl
    · split
      · rfl
      · split
        · rw [shrinkWith_maxBytes, place_maxBytes]
        · rfl
  | .touch key now => by
    show (d.touchWith key now c.written).maxBytes = d.maxBytes
    unfold touchWith; split <;> rfl
  | .delete key => rfl

theorem Indexed.applyAll {d : Disk} (h : d.Indexed) (ops : List (Choices × Op)) : (d.applyAll ops).Indexed := by
  induction ops generalizing d with
  | nil => exact h
  | cons op ops ih => exact ih (h.applyWith op.1 op.2)

@[simp] theorem applyAll_maxBytes (d : Disk) (ops : List (Choices × Op)) : (d.applyAll ops).maxBytes = d.maxBytes := by
  induction ops generalizing d with
  | nil => rfl
  | cons op ops ih => rw [applyAll, List.foldl_cons, ← applyAll, ih, applyWith_maxBytes]

/-- What a written store of a fresh record does to a tier: the tier ends
within budget; and when placing the record took it over budget, it was shrunk
as `Shrunk` says, so no live entry it kept was accessed before one it
evicted. -/
structure Outcome (d : Disk) (key : String) (r : DiskRecord) (now : Instant) (c : Choices) : Prop where
  fits : (d.putWith key r now c).total ≤ d.maxBytes
  shrunk : d.maxBytes < (d.place key r now).total →
    Shrunk (d.place key r now) now.unixNano (d.putWith key r now c)
  lru : d.maxBytes < (d.place key r now).total →
    ∀ e ∈ (d.place key r now).index, e.info.expiredAt now.unixNano = false → e ∉ (d.putWith key r now c).index →
      ∀ s ∈ (d.putWith key r now c).index, e.info.lastAccess ≤ s.info.lastAccess

theorem Indexed.outcome {d : Disk} (h : d.Indexed) (hmax : 0 ≤ d.maxBytes) (key : String) {r : DiskRecord}
    {now : Instant} {c : Choices} (hw : c.written = true) (hf : r.fragment.freshAt now = true) :
    Outcome d key r now c := by
  have hp := h.place key r now
  have hput : d.maxBytes < (d.place key r now).total →
      d.putWith key r now c = (d.place key r now).shrinkWith now.unixNano c := fun hover => by
    rw [putWith_eq, if_neg (by simp [hf]), if_neg (by simp [hw]), if_pos (by rw [place_maxBytes]; exact hover)]
  have hshrunk : d.maxBytes < (d.place key r now).total →
      Shrunk (d.place key r now) now.unixNano (d.putWith key r now c) :=
    fun hover => hput hover ▸ hp.shrunk now.unixNano c
  exact ⟨putWith_fits h hmax key hw hf, hshrunk,
    fun hover e he hl hgone s hs => (hshrunk hover).lru hp.indexKeys he hl hgone hs⟩

end Disk

open Disk

/-- Over every run of the writer on a tier opened over a well-formed database,
the index stays exact, and every written store of a fresh record in the run has
the `Outcome` a store promises: within budget, shrunk by expiry then least
recent access. -/
theorem index_exact {d d₀ : Disk} (hd : d.Wellformed) (hmax : 0 ≤ d.maxBytes) {wall : Instant} {written : Bool}
    (hopen : d.openWith wall written = some d₀) (ops : List (Choices × Op)) :
    (d₀.applyAll ops).Indexed ∧
      ∀ pre c key r now post, ops = pre ++ (c, .put key r now) :: post → c.written = true →
        r.fragment.freshAt now = true → Outcome (d₀.applyAll pre) key r now c := by
  obtain rfl := openWith_some hopen
  have h₀ := reopen_indexed hd wall
  refine ⟨h₀.applyAll ops, fun pre c key r now _ _ hw hf => ?_⟩
  have hmax' : 0 ≤ ((d.reopen wall).applyAll pre).maxBytes := by
    rw [applyAll_maxBytes]; exact hmax
  exact (h₀.applyAll pre).outcome hmax' key hw hf

/-- A tier opened at 50 ns over a record expired at 20 ns, which the opening
purges, and a live one; then a store whose batch fails, an access, and a store
of a record as large as the whole budget, which takes the tier over it. -/
theorem index_exact_evicting :
    let r₀ : DiskRecord := { fragment := { url := "old", expiresAt := ⟨20, 0⟩ }, request := {} }
    let r₁ : DiskRecord := { fragment := { url := "a", expiresAt := ⟨100, 0⟩ }, request := {} }
    let r₂ : DiskRecord := { fragment := { url := "b", expiresAt := ⟨100, 0⟩ }, request := {} }
    let d : Disk := { maxBytes := r₂.packed.length, db := [storedFor "old" r₀ ⟨0, 0⟩, storedFor "a" r₁ ⟨10, 0⟩] }
    let wall : Instant := ⟨50, 0⟩
    let ops : List (Choices × Op) :=
      [({ written := false }, .put "c" r₁ ⟨60, 0⟩), ({}, .touch "a" ⟨70, 0⟩), ({}, .put "b" r₂ ⟨80, 0⟩)]
    d.Wellformed ∧ 0 ≤ d.maxBytes ∧ d.openWith wall true = some (d.reopen wall) ∧ (d.reopen wall).count = 1 ∧
      d.maxBytes < (((d.reopen wall).applyAll (ops.take 2)).place "b" r₂ ⟨80, 0⟩).total ∧
      (((d.reopen wall).applyAll ops).Indexed ∧
        ∀ pre c key r now post, ops = pre ++ (c, .put key r now) :: post → c.written = true →
          r.fragment.freshAt now = true → Outcome ((d.reopen wall).applyAll pre) key r now c) := by
  intro r₀ r₁ r₂ d wall ops
  have hwf : d.Wellformed := ⟨by decide, by simp [d, storedFor, Stored.Kept, DiskRecord.infoAt]⟩
  have hmax : 0 ≤ d.maxBytes := by simp [d]
  have hopen : d.openWith wall true = some (d.reopen wall) := rfl
  have hreopen : d.reopen wall =
      { maxBytes := r₂.packed.length, db := [storedFor "a" r₁ ⟨10, 0⟩], index := [⟨"a", r₁.infoAt ⟨10, 0⟩⟩],
        total := r₁.packed.length } := by
    simp [Disk.reopen, d, storedFor, DiskMeta.expiredAt, DiskRecord.infoAt, Instant.unixNano, wall, wrap64, r₀, r₁]
  -- the failed store leaves the tier as it is and the access keeps its total, so
  -- the last store adds its whole size to what the live record weighs
  have hover : d.maxBytes < (((d.reopen wall).applyAll (ops.take 2)).place "b" r₂ ⟨80, 0⟩).total := by
    have hpos := packed_length_pos r₁
    have hf₁ : r₁.fragment.freshAt ⟨60, 0⟩ = true := by decide
    rw [hreopen]
    simp [ops, Disk.applyAll, Disk.applyWith, Disk.putWith, Disk.touchWith, Disk.place, Disk.indexed?, setByKey,
      Disk.indexedSize, d, hf₁, DiskRecord.infoAt]
    omega
  exact ⟨hwf, hmax, hopen, by decide, hover, index_exact hwf hmax hopen ops⟩

end Transclusion.Cache
