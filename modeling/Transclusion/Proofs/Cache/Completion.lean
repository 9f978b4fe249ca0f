import Transclusion.Proofs.Cache.Eviction

/-!
# Completing a refresh

A refresh fetch runs while the cache goes on, and its outcome applies only
to the entry it was started for, and only while that entry is still the one
stored under its key. An entry replaced by a store, removed, dropped as
expired or evicted while the fetch was in flight leaves the cache exactly as
it is when the fetch completes. For the entry still stored:

* a failure, or a response with an unsuccessful status, counts one more
  attempt on the entry in place, stopping it once the attempts reach a
  positive limit, and counts one failed refresh;
* a fragment that may no longer be cached, not fresh at the completion or
  larger than the whole budget, drops the entry and counts one failed
  refresh;
* any other fragment replaces the entry's fragment, size, digest and write
  time in place, restarts its attempts, and counts it inactive or active as
  its read mark says; the entry keeps its key, request, creation, last read and
  place in its queue, and is never evicted; the other entries, in the order
  eviction takes them, lose the shortest prefix that makes room, and exactly
  those go to the disk tier.

Proved: `refresh_completion_frame`, on the sample run with a refresh that
evicts `refresh_completion_frame_sample`; and `refresh_drop_counts_failure`, a run in
which dropping a fragment that may no longer be cached counts a failed
refresh.
-/

namespace Transclusion.Cache

open Transclusion.Time Transclusion.Composition Transclusion.Config Transclusion.Http

/-! ## Replacing an entry in place -/

namespace Memory

@[simp] theorem update_counters (m : Memory) (e : Entry) : (m.update e).counters = m.counters := rfl

theorem keysDistinct_update {m : Memory} (hk : m.KeysDistinct) (e : Entry) : (m.update e).KeysDistinct := by
  unfold KeysDistinct
  rw [update_entries, map_swapIn _ fun _ _ hy => hy]
  exact hk

/-- Once an entry is replaced in place by one with its key and sequence
number, eviction sparing it may take every other entry, in their order. -/
theorem candidates_update {m : Memory} (hb : m.Books) {cur next : Entry} (hc : cur ∈ m.entries)
    (hk : next.key = cur.key) (hs : next.seq = cur.seq) :
    (m.update next).candidates (some cur.seq) = m.entries.filter (·.key != cur.key) := by
  rw [candidates, update_entries, List.filter_map]
  -- an entry is spared exactly when it has the replaced entry's key
  have hf : m.entries.filter ((fun x => some x.seq != some cur.seq) ∘ swapIn next) =
      m.entries.filter (·.key != cur.key) :=
    List.filter_congr fun y hy => by
      by_cases hyk : y.key = cur.key
      · simp [swapIn, hyk, hk, hs]
      · -- another entry is left as it is, and its sequence number differs
        have hsw : swapIn next y = y := by simp [swapIn, hk, hyk]
        have hne : (some y.seq != some cur.seq) = true := by simpa using hb.seq_ne hy hc hyk
        simp only [Function.comp, hsw, hne]
        simpa using hyk
  rw [hf]
  refine (List.map_congr_left fun y hy => ?_).trans (List.map_id _)
  have hyk : y.key ≠ cur.key := by simpa using (List.mem_filter.mp hy).2
  simp [swapIn, hyk, hk]

end Memory

/-! ## The outcomes of a completion -/

/-- A completion applies its reply to the entry stored under the selected
entry's key when that is still the selected entry. -/
theorem completeRefresh_current (cfg : RefreshConfig) {s : Store} {e cur : Entry} (reply : Reply)
    (now : Instant) (hcur : s.memory.find? e.key = some cur) (hseq : cur.seq = e.seq) :
    completeRefresh cfg s e reply now = applyRefresh cfg s cur reply now := by
  simp [completeRefresh, hcur, hseq]

/-- A completion for an entry no longer stored under its key changes nothing. -/
theorem completeRefresh_replaced (cfg : RefreshConfig) {s : Store} {e : Entry} (reply : Reply) (now : Instant)
    (h : ∀ cur, s.memory.find? e.key = some cur → cur.seq ≠ e.seq) : completeRefresh cfg s e reply now = s := by
  unfold completeRefresh
  split
  · rename_i cur hcur
    rw [if_neg (by simpa using h cur hcur)]
  · rfl

theorem applyRefresh_failed (cfg : RefreshConfig) (s : Store) (cur : Entry) {reply : Reply} (now : Instant)
    (h : reply.failed = true) :
    applyRefresh cfg s cur reply now = { s with memory := (s.memory.update (failedEntry cfg cur)).tally countFailure } := by
  cases reply with
  | fragment f =>
    have hok : isSuccess f.status = false := by simpa [Reply.failed] using h
    simp [applyRefresh, hok, failedEntry]
  | failure err => rfl
  | stall => cases h

theorem applyRefresh_dropped (cfg : RefreshConfig) (s : Store) (cur : Entry) {f : Fragment} {now : Instant}
    (hok : isSuccess f.status = true) (hdrop : f.freshAt now = false ∨ s.memory.maxBytes < f.size) :
    applyRefresh cfg s cur (.fragment f) now = { s with memory := (s.memory.detach cur.key).tally countFailure } := by
  have hd : (!f.freshAt now || decide ((f.size : Int) > s.memory.maxBytes)) = true := by
    rcases hdrop with h | h <;> simp [h]
  simp [applyRefresh, hok, hd]

section Refreshed

variable (cfg : RefreshConfig) {s : Store} {cur : Entry} {f : Fragment} {now : Instant}

/-- The cache a successful refresh of `cur` with `f` leaves, once eviction
took `gone`: the entry's fragment is replaced in place, the entries of `gone`
leave their queues, and the refresh, any unchanged body and the evictions are
counted. -/
def refreshedMemory (m : Memory) (cur : Entry) (f : Fragment) (now : Instant) (gone : List Entry) : Memory :=
  { m with
    unread := (m.unread.map (Memory.swapIn (refreshedEntry cur f now))).filter (Memory.survives gone)
    read := (m.read.map (Memory.swapIn (refreshedEntry cur f now))).filter (Memory.survives gone)
    total := m.total + f.size - cur.size - Memory.weight gone
    counters := { m.counters with
      evictions := m.counters.evictions + gone.length
      refreshSuccesses := m.counters.refreshSuccesses + 1
      refreshUnchanged := if Digest.Blake3.hash f.body.toUTF8.toList == cur.digest then
        m.counters.refreshUnchanged + 1 else m.counters.refreshUnchanged } }

/-- A cache holding `cur` with the new fragment swapped in and the total
adjusted, whatever its counters, evicts the shortest prefix of the other
entries that makes room. -/
theorem evict_swapped (hb : s.memory.Books) (hc : cur ∈ s.memory.entries) (hle : (f.size : Int) ≤ s.memory.maxBytes)
    (m₂ : Memory) (hu : m₂.unread = (s.memory.update (refreshedEntry cur f now)).unread)
    (hr : m₂.read = (s.memory.update (refreshedEntry cur f now)).read)
    (ht : m₂.total = s.memory.total + f.size - cur.size) (hx : m₂.maxBytes = s.memory.maxBytes) :
    ∃ k, ShortestFit (s.memory.entries.filter (·.key != cur.key)) f.size s.memory.maxBytes k ∧
      m₂.evict 0 (some cur.seq) =
        (m₂.evictAll ((s.memory.entries.filter (·.key != cur.key)).take k),
          (s.memory.entries.filter (·.key != cur.key)).take k) := by
  have he : m₂.entries = (s.memory.update (refreshedEntry cur f now)).entries := by
    rw [Memory.entries_eq, Memory.entries_eq, hu, hr]
  have hcand : m₂.candidates (some cur.seq) = s.memory.entries.filter (·.key != cur.key) := by
    rw [Memory.candidates, he, ← Memory.candidates]
    exact Memory.candidates_update hb hc rfl rfl
  have hk : m₂.KeysDistinct := by
    unfold Memory.KeysDistinct
    rw [he]
    exact Memory.keysDistinct_update hb.keys _
  have hw : Memory.weight (s.memory.entries.filter (·.key != cur.key)) = s.memory.total - cur.size := by
    rw [Memory.weight_filter_key hb.keys hc, hb.weighed]
  obtain ⟨k, hsf, hev⟩ := @Memory.evict_eq m₂ hk 0 (some cur.seq) (by rw [hcand, hw, ht, hx]; omega)
  have hextra : s.memory.total + f.size - cur.size - (s.memory.total - cur.size) = f.size := by omega
  rw [hcand, hw, ht, hx, hextra] at hsf
  rw [hcand] at hev
  exact ⟨k, hsf, hev⟩

/-- A successful refresh of a stored entry with a fragment fresh at the
completion and within the budget: the entry takes the fragment in place, and
the shortest prefix of the other entries, in eviction order, that makes room
is evicted and written to the disk tier. -/
theorem applyRefresh_refreshed (hb : s.memory.Books) (hc : cur ∈ s.memory.entries) (hok : isSuccess f.status = true)
    (hfr : f.freshAt now = true) (hle : (f.size : Int) ≤ s.memory.maxBytes) :
    ∃ k, ShortestFit (s.memory.entries.filter (·.key != cur.key)) f.size s.memory.maxBytes k ∧
      applyRefresh cfg s cur (.fragment f) now =
        { s with memory := (refreshedMemory s.memory cur f now
            ((s.memory.entries.filter (fun x : Entry => x.key != cur.key)).take k)) }.spill
          ((s.memory.entries.filter (fun x : Entry => x.key != cur.key)).take k) now := by
  have hgt : ¬ (f.size : Int) > s.memory.maxBytes := by omega
  simp only [applyRefresh, hok, hfr, hgt, Bool.not_true, Bool.false_or, decide_false, Bool.false_eq_true,
    if_false]
  -- the entry takes the fragment in place, the total trades its bytes, and only the
  -- count of unchanged bodies depends on the digest
  let m₁ : Memory := { s.memory.update (refreshedEntry cur f now) with total := s.memory.total + f.size - cur.size }
  have hsplit : ∀ m₂ : Memory, m₂.unread = m₁.unread → m₂.read = m₁.read → m₂.total = m₁.total →
      m₂.maxBytes = m₁.maxBytes → m₂.seq = m₁.seq →
      ∃ k, ShortestFit (s.memory.entries.filter (·.key != cur.key)) f.size s.memory.maxBytes k ∧
        { s with memory := (m₂.evict 0 (some cur.seq)).1.tally fun c =>
            { c with refreshSuccesses := c.refreshSuccesses + 1 } }.spill (m₂.evict 0 (some cur.seq)).2 now =
        { s with memory := { (m₂.evictAll ((s.memory.entries.filter (fun x : Entry => x.key != cur.key)).take k)) with
            counters := { m₂.counters with
              evictions := m₂.counters.evictions + k
              refreshSuccesses := m₂.counters.refreshSuccesses + 1 } } }.spill
          ((s.memory.entries.filter (fun x : Entry => x.key != cur.key)).take k) now := by
    intro m₂ hu hr ht hx _
    obtain ⟨k, hsf, hev⟩ := evict_swapped hb hc hle m₂ hu hr ht hx
    refine ⟨k, hsf, ?_⟩
    rw [hev]
    simp [Memory.evictAll, Memory.tally, Nat.min_eq_left (hsf.le_length hle)]
  split
  · rename_i hsame
    simp only [beq_iff_eq, String.toUTF8_eq_toByteArray] at hsame
    obtain ⟨k, hsf, heq⟩ := hsplit (m₁.tally fun c => { c with refreshUnchanged := c.refreshUnchanged + 1 })
      rfl rfl rfl rfl rfl
    refine ⟨k, hsf, heq.trans ?_⟩
    simp [refreshedMemory, Memory.evictAll, Memory.tally, m₁, hsame, Nat.min_eq_left (hsf.le_length hle)]
  · rename_i hchanged
    simp only [beq_iff_eq, String.toUTF8_eq_toByteArray] at hchanged
    obtain ⟨k, hsf, heq⟩ := hsplit m₁ rfl rfl rfl rfl rfl
    refine ⟨k, hsf, heq.trans ?_⟩
    simp [refreshedMemory, Memory.evictAll, m₁, hchanged, Nat.min_eq_left (hsf.le_length hle)]

/-- Eviction after a refresh spares the refreshed entry: its key finds it with
the new fragment. -/
theorem find?_refreshedMemory (m : Memory) (cur : Entry) (f : Fragment) (now : Instant) {gone : List Entry}
    (hcur : m.find? cur.key = some cur) (hgone : ∀ g ∈ gone, g.key ≠ cur.key) :
    (refreshedMemory m cur f now gone).find? cur.key = some (refreshedEntry cur f now) := by
  -- an entry of the refreshed key survives, so the lookup sees only the swap
  have hp : ∀ x : Entry,
      decide (Memory.survives gone x = true ∧ (x.key == cur.key) = true) = (x.key == cur.key) := by
    intro x
    by_cases hx : x.key = cur.key
    · have hs : Memory.survives gone x = true := by
        simp only [Memory.survives, List.all_eq_true, bne_iff_ne, ne_eq, hx]
        exact fun g hg h => hgone g hg h.symm
      simp [hs, hx]
    · simp [hx]
  have he : (refreshedMemory m cur f now gone).find? cur.key = (m.update (refreshedEntry cur f now)).find? cur.key := by
    unfold Memory.find?
    rw [Memory.update_entries]
    simp only [Memory.entries, refreshedMemory, ← List.filter_append, ← List.map_append, List.find?_filter, hp]
  rw [he, Memory.find?_update, hcur]
  simp [Memory.swapIn, refreshedEntry]

end Refreshed

theorem completeRefresh_stall (cfg : RefreshConfig) (s : Store) (e : Entry) (now : Instant) :
    completeRefresh cfg s e .stall now = s := by
  unfold completeRefresh
  split
  · split <;> rfl
  · rfl

/-! ## Completions in every run -/

/-- What completing the refresh of the selected entry `e` with `reply` at
`now` does to the store of `t`, outcome by outcome. The entries other than
`e`'s key stand in eviction order. -/
structure RefreshCompletes (cfg : RefreshConfig) (t : Tracked) (e : Entry) (reply : Reply) (now : Instant) :
    Prop where
  ordered : (t.store.memory.entries.filter (fun x : Entry => x.key != e.key)).Pairwise t.history.evictsBefore
  replaced : (∀ cur, t.store.memory.find? e.key = some cur → cur.seq ≠ e.seq) →
    completeRefresh cfg t.store e reply now = t.store
  stalled : reply = .stall → completeRefresh cfg t.store e reply now = t.store
  failed : ∀ cur, t.store.memory.find? e.key = some cur → cur.seq = e.seq → reply.failed = true →
    completeRefresh cfg t.store e reply now =
      { t.store with memory := (t.store.memory.update (failedEntry cfg cur)).tally countFailure }
  dropped : ∀ cur f, t.store.memory.find? e.key = some cur → cur.seq = e.seq → reply = .fragment f →
    isSuccess f.status = true → f.freshAt now = false ∨ t.store.memory.maxBytes < f.size →
    completeRefresh cfg t.store e reply now =
      { t.store with memory := (t.store.memory.detach e.key).tally countFailure }
  refreshed : ∀ cur f, t.store.memory.find? e.key = some cur → cur.seq = e.seq → reply = .fragment f →
    isSuccess f.status = true → f.freshAt now = true → (f.size : Int) ≤ t.store.memory.maxBytes →
    ∃ k, ShortestFit (t.store.memory.entries.filter (fun x : Entry => x.key != e.key)) f.size
        t.store.memory.maxBytes k ∧
      (completeRefresh cfg t.store e reply now).memory.find? e.key = some (refreshedEntry cur f now) ∧
      completeRefresh cfg t.store e reply now =
        { t.store with memory := (refreshedMemory t.store.memory cur f now
            ((t.store.memory.entries.filter (fun x : Entry => x.key != e.key)).take k)) }.spill
          ((t.store.memory.entries.filter (fun x : Entry => x.key != e.key)).take k) now

/-- In every run from an empty cache with a budget that is not negative, a
refresh completing for any entry with any reply at any instant keeps every
promise of `RefreshCompletes`. -/
theorem refresh_completion_frame {cfg : RefreshConfig} {maxBytes : Int} {t : Tracked} (hmax : 0 ≤ maxBytes)
    (h : Reach cfg maxBytes t) (e : Entry) (reply : Reply) (now : Instant) :
    RefreshCompletes cfg t e reply now := by
  obtain ⟨hsound, -, ho⟩ := reach_consistent hmax h
  refine ⟨(Ordered.evictsBefore ho).filter _, completeRefresh_replaced cfg reply now, ?stalled, ?failed,
    ?dropped, ?refreshed⟩
  case stalled =>
    rintro rfl
    exact completeRefresh_stall cfg _ e now
  case failed =>
    intro cur hcur hseq hf
    rw [completeRefresh_current cfg reply now hcur hseq, applyRefresh_failed cfg _ cur now hf]
  case dropped =>
    rintro cur f hcur hseq rfl hok hdrop
    rw [completeRefresh_current cfg _ now hcur hseq, applyRefresh_dropped cfg _ cur hok hdrop,
      Memory.find?_key hcur]
  case refreshed =>
    rintro cur f hcur hseq rfl hok hfr hle
    have hck : cur.key = e.key := Memory.find?_key hcur
    obtain ⟨k, hsf, heq⟩ := applyRefresh_refreshed cfg hsound.books (Memory.find?_mem hcur) hok hfr hle
    rw [hck] at hsf heq
    have hres := (completeRefresh_current cfg _ now hcur hseq).trans heq
    refine ⟨k, hsf, ?_, hres⟩
    have hgone : ∀ g ∈ (t.store.memory.entries.filter (fun x : Entry => x.key != e.key)).take k,
        g.key ≠ cur.key := fun g hg => by
      simpa [hck] using (List.mem_filter.mp (List.mem_of_mem_take hg)).2
    have hfound := find?_refreshedMemory _ cur f now (hck ▸ hcur) hgone
    rw [hck] at hfound
    rw [hres, Store.spill_memory]
    exact hfound

/-- In the sample run after its selection, the refresh of `"a"` answers a
fragment so much larger that the other entry must make room for it; the
completion keeps every promise of `RefreshCompletes`. -/
theorem refresh_completion_frame_sample :
    let e := Memory.readEntry (sampleEntry "a" 1) ⟨nsPerSecond, 0⟩
    let f : Fragment := { url := "https://f.test/a", body := "aaaaaaaa", expiresAt := ⟨20 * nsPerSecond, 0⟩ }
    (0 : Int) ≤ 100 ∧ Reach {} 100 sampleSelected ∧ e ∈ sampleSelected.inflight ∧
      sampleSelected.store.memory.find? e.key = some e ∧
      sampleSelected.store.memory.total - e.size + f.size > sampleSelected.store.memory.maxBytes ∧
      RefreshCompletes {} sampleSelected e (.fragment f) ⟨10 * nsPerSecond, 0⟩ := by
  intro e f
  have hs : f.size = 54 := by cbv
  refine ⟨by decide, reach_sampleSelected, by simp [sampleSelected, e], rfl, ?_,
    refresh_completion_frame (by decide) reach_sampleSelected e _ _⟩
  rw [hs]
  decide

/-- A run that stores a fragment, selects its entry once it expires, and
completes the refresh with a successful fragment that is already stale: the
entry is dropped and a failed refresh is counted. -/
theorem refresh_drop_counts_failure :
    let f₀ : Fragment := { url := "https://f.test/r", body := "v0", expiresAt := ⟨10 * nsPerSecond, 0⟩ }
    let f₁ : Fragment := { url := "https://f.test/r", body := "v1" }
    let now : Instant := ⟨10 * nsPerSecond, 0⟩
    ∃ (t : Tracked) (e : Entry), Reach {} 1024 t ∧ e ∈ t.inflight ∧ e.fragment = f₀ ∧
      t.store.memory.find? e.key = some e ∧ isSuccess f₁.status = true ∧ f₁.freshAt now = false ∧
      (completeRefresh {} t.store e (.fragment f₁) now).memory.find? e.key = none ∧
      (completeRefresh {} t.store e (.fragment f₁) now).memory.counters.refreshFailures =
        t.store.memory.counters.refreshFailures + 1 := by
  intro f₀ f₁ now
  let req : FetchRequest := { url := "https://f.test/r" }
  let e₀ : Entry :=
    { key := "k", request := req, created := ⟨0, 0⟩, seq := 1, fragment := f₀, size := f₀.size
      digest := Digest.Blake3.hash f₀.body.toUTF8.toList, writtenAt := ⟨0, 0⟩ }
  let m₁ : Memory := { Memory.empty 1024 with unread := [e₀], total := f₀.size, seq := 1 }
  have hput : ({ memory := Memory.empty 1024, disk := none } : Store).put "k" f₀ req ⟨0, 0⟩ =
      .ok { memory := m₁, disk := none } := by
    have hsz : f₀.size = 48 := by cbv
    have hfr : f₀.freshAt ⟨0, 0⟩ = true := by decide
    simp [hfr, hsz, Store.put, Memory.put, Memory.evict, Memory.evictFor, Memory.detach, Memory.find?,
      Memory.entries, Memory.empty, Store.spill, m₁, e₀]
  have hsel : selectDue {} m₁ now = (m₁, [e₀]) := by
    have hdue : isDue {} e₀ now = true := due_of_expired {} e₀ now (by decide) (by decide)
    have hina : inactiveTooLong {} e₀ = false := by decide
    have hurl : e₀.request.url.isEmpty = false := by decide
    have hstop : e₀.refreshStopped = false := rfl
    simp only [selectDue, Memory.entries, m₁, Memory.empty, List.nil_append, List.append_nil, List.foldl_cons,
      List.foldl_nil, selectStep, hurl, hstop, hdue, hina]
    simp
  have hfind : m₁.find? e₀.key = some e₀ := rfl
  have hr : Reach ({} : RefreshConfig) 1024 _ :=
    Reach.step (Reach.step (.start none) (Step.put _ "k" f₀ req ⟨0, 0⟩ hput)) (Step.select _ now rfl)
  refine ⟨_, e₀, hr, ?_, rfl, ?_, by decide, by decide, ?_⟩
  · simp [hsel]
  · simpa [hsel] using hfind
  · simp only [hsel]
    rw [completeRefresh_current {} _ now hfind rfl, applyRefresh_dropped {} _ e₀ (by decide) (.inl (by decide))]
    exact ⟨by rw [Memory.tally_find?, Memory.find?_detach_self], by simp [Memory.tally, countFailure]⟩

end Transclusion.Cache
