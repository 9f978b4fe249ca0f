import Transclusion.Proofs.Cache.Representation

/-!
# Throttling of refreshes

The refresh pass gives up on an entry in two ways. With a positive limit on
attempts, failed refresh fetches in a row are counted on the entry, and the
one that reaches the limit stops it. With a positive limit on inactive
refreshes, successful refreshes with no read in between are counted, and a
selection that finds the count at the limit stops the entry instead of
fetching it. A stopped entry is never selected again and is dropped once
expired; only a new store under its key makes a refreshable entry.

The counts on an entry are what the history of the run says of it
(`Counted`), and a fetch in flight has room left under both limits (`Room`).
Every step changes a stored entry in one of a few ways (`Change`) or stores
a new one with clean bookkeeping (`Clean`).

Proved: `refresh_throttled`, over every run.
-/

namespace Transclusion.Cache

open Transclusion.Time Transclusion.Composition Transclusion.Config Transclusion.Http

/-- The entry an event is about. -/
def Event.seq : Event → Nat
  | .stored n | .read n | .fetched n _ => n

namespace History

/-- One when the entry numbered `n` was read since it was stored, else zero. -/
def wasRead (h : History) (n : Nat) : Nat := if (h.readAt n).isSome then 1 else 0

/-- Two histories say the same of the entry numbered `n`. -/
structure Agree (h h' : History) (n : Nat) : Prop where
  failures : h'.failures n = h.failures n
  quiet : h'.quiet n = h.quiet n
  readAt : h'.readAt n = h.readAt n

theorem Agree.refl (h : History) (n : Nat) : Agree h h n := ⟨rfl, rfl, rfl⟩

theorem Agree.trans {h₁ h₂ h₃ : History} {n : Nat} (a : Agree h₁ h₂ n) (b : Agree h₂ h₃ n) :
    Agree h₁ h₃ n :=
  ⟨b.failures.trans a.failures, b.quiet.trans a.quiet, b.readAt.trans a.readAt⟩

theorem Agree.wasRead {h h' : History} {n : Nat} (a : Agree h h' n) : h'.wasRead n = h.wasRead n := by
  simp [History.wasRead, a.readAt]

theorem agree_record {h : History} {e : Event} {n : Nat} (hn : e.seq ≠ n) : Agree h (h.record e) n := by
  cases e <;> simp only [Event.seq] at hn <;> constructor <;> simp [Function.update_of_ne hn.symm]

@[simp] theorem wasRead_read (h : History) (n : Nat) : (h.record (.read n)).wasRead n = 1 := by
  simp [History.wasRead]

@[simp] theorem wasRead_fetched (h : History) (n k : Nat) (ok : Bool) :
    (h.record (.fetched k ok)).wasRead n = h.wasRead n := rfl

theorem wasRead_le (h : History) (n : Nat) : h.wasRead n ≤ 1 := by
  unfold History.wasRead; split <;> omega

end History

variable (cfg : RefreshConfig)

/-! ## The bookkeeping of an entry -/

/-- A stored entry's counts are what the history says of it, within the
limits: its attempts are the failed fetches in a row, its inactive refreshes
the successful fetches since the last read (less the one that consumed that
read), and a positive limit on attempts stops it once reached. -/
structure Counted (h : History) (x : Entry) : Prop where
  attempts : x.refreshAttempts = h.failures x.seq
  read_seen : x.readSinceWrite = true → h.wasRead x.seq = 1
  quiet_read : x.readSinceWrite = true → h.quiet x.seq = 0
  quiet_unread : x.readSinceWrite = false → h.quiet x.seq = x.inactiveRefreshes + h.wasRead x.seq
  attempts_le : 0 < cfg.maxAttempts → (x.refreshAttempts : Int) ≤ cfg.maxAttempts
  stopped_at_limit : 0 < cfg.maxAttempts → (x.refreshAttempts : Int) = cfg.maxAttempts →
    x.refreshStopped = true
  inactive_le : 0 < cfg.inactiveMax → (x.inactiveRefreshes : Int) ≤ cfg.inactiveMax

/-- A fetch of the entry numbered `n` may still fail, or succeed, without
passing a positive limit. -/
structure Room (h : History) (n : Nat) : Prop where
  failures : 0 < cfg.maxAttempts → (h.failures n : Int) < cfg.maxAttempts
  quiet : 0 < cfg.inactiveMax → (h.quiet n : Int) < cfg.inactiveMax + h.wasRead n

/-- The history of the entry numbered `n` is within both positive limits. -/
structure Capped (h : History) (n : Nat) : Prop where
  failures : 0 < cfg.maxAttempts → (h.failures n : Int) ≤ cfg.maxAttempts
  quiet : 0 < cfg.inactiveMax → (h.quiet n : Int) ≤ cfg.inactiveMax + h.wasRead n

/-- The bookkeeping of a new entry: nothing counted, not stopped, and read
since its store exactly when the history says so. -/
structure Clean (h : History) (y : Entry) : Prop where
  attempts : y.refreshAttempts = 0
  inactive : y.inactiveRefreshes = 0
  live : y.refreshStopped = false
  failures : h.failures y.seq = 0
  quiet : h.quiet y.seq = 0
  unread : y.readSinceWrite = false → h.wasRead y.seq = 0
  read : y.readSinceWrite = true → h.wasRead y.seq = 1

variable {cfg}

theorem Counted.agree {h h' : History} {x : Entry} (hc : Counted cfg h x) (a : h.Agree h' x.seq) :
    Counted cfg h' x where
  attempts := hc.attempts.trans a.failures.symm
  read_seen hr := a.wasRead.trans (hc.read_seen hr)
  quiet_read hr := a.quiet.trans (hc.quiet_read hr)
  quiet_unread hr := by rw [a.quiet, a.wasRead]; exact hc.quiet_unread hr
  attempts_le := hc.attempts_le
  stopped_at_limit := hc.stopped_at_limit
  inactive_le := hc.inactive_le

theorem Room.agree {h h' : History} {n : Nat} (hr : Room cfg h n) (a : h.Agree h' n) : Room cfg h' n where
  failures hm := by rw [a.failures]; exact hr.failures hm
  quiet hl := by rw [a.quiet, a.wasRead]; exact hr.quiet hl

theorem Capped.agree {h h' : History} {n : Nat} (hc : Capped cfg h n) (a : h.Agree h' n) : Capped cfg h' n where
  failures hm := by rw [a.failures]; exact hc.failures hm
  quiet hl := by rw [a.quiet, a.wasRead]; exact hc.quiet hl

/-- An entry the selection may fetch has room under both limits: it is not
stopped, so its attempts are below a positive limit, and it is not inactive
too long, so it was read or its inactive refreshes are below the limit. -/
theorem Counted.room {h : History} {x : Entry} (hc : Counted cfg h x) (hs : x.refreshStopped = false)
    (hi : inactiveTooLong cfg x = false) : Room cfg h x.seq where
  failures hm := by
    have := hc.attempts_le hm
    have hne : (x.refreshAttempts : Int) ≠ cfg.maxAttempts := fun he => by
      rw [hc.stopped_at_limit hm he] at hs; cases hs
    rw [← hc.attempts]; omega
  quiet hl := by
    cases hr : x.readSinceWrite
    · have hlt : (x.inactiveRefreshes : Int) < cfg.inactiveMax := by
        simp only [inactiveTooLong, hr, Bool.not_false, Bool.and_true, Bool.and_eq_false_iff,
          decide_eq_false_iff_not] at hi
        omega
      rw [hc.quiet_unread hr]; push_cast; omega
    · rw [hc.quiet_read hr]; have := Nat.zero_le (h.wasRead x.seq); push_cast; omega

theorem Room.capped {h : History} {n : Nat} (hr : Room cfg h n) : Capped cfg h n :=
  ⟨fun hm => Int.le_of_lt (hr.failures hm), fun hl => Int.le_of_lt (hr.quiet hl)⟩

theorem room_stored (h : History) (n : Nat) : Room cfg (h.record (.stored n)) n := by
  constructor <;> intro hpos <;> simp [History.wasRead] <;> omega

/-- Only a fetch of the entry can use up its room: a store restarts its
history and a read clears its quiet refreshes. -/
theorem Room.record {h : History} {n : Nat} (hr : Room cfg h n) {e : Event} (he : ∀ ok, e ≠ .fetched n ok) :
    Room cfg (h.record e) n := by
  by_cases hn : e.seq = n
  · cases e with
    | stored k =>
      simp only [Event.seq] at hn; subst hn
      exact room_stored h k
    | read k =>
      simp only [Event.seq] at hn; subst hn
      exact ⟨hr.failures, fun hl => by simp; omega⟩
    | fetched k ok => simp only [Event.seq] at hn; exact absurd (hn ▸ rfl) (he ok)
  · exact hr.agree (History.agree_record hn)

/-- Every event keeps an entry within the limits, a fetch of it as long as
it had room. -/
theorem Capped.record {h : History} {n : Nat} (hc : Capped cfg h n) {e : Event}
    (hr : ∀ ok, e = .fetched n ok → Room cfg h n) : Capped cfg (h.record e) n := by
  by_cases hn : e.seq = n
  · cases e with
    | stored k =>
      simp only [Event.seq] at hn; subst hn
      exact (room_stored h k).capped
    | read k =>
      simp only [Event.seq] at hn; subst hn
      exact ⟨hc.failures, fun hl => by simp; omega⟩
    | fetched k ok =>
      simp only [Event.seq] at hn; subst hn
      have hroom := hr ok rfl
      constructor
      · intro hm; have := hroom.failures hm; cases ok <;> simp <;> omega
      · intro hl; have := hroom.quiet hl; cases ok <;> simp <;> omega
  · exact hc.agree (History.agree_record hn)

theorem Clean.counted {h : History} {y : Entry} (hc : Clean h y) : Counted cfg h y where
  attempts := by rw [hc.attempts, hc.failures]
  read_seen := hc.read
  quiet_read _ := hc.quiet
  quiet_unread hr := by rw [hc.quiet, hc.inactive, hc.unread hr]
  attempts_le hm := by rw [hc.attempts]; omega
  stopped_at_limit hm he := by rw [hc.attempts] at he; omega
  inactive_le hl := by rw [hc.inactive]; omega

/-! ## What a step does to a stored entry -/

section Change

variable {h : History} {x : Entry}

theorem Counted.read (hc : Counted cfg h x) (now : Instant) :
    Counted cfg (h.record (.read x.seq)) (Memory.readEntry x now) where
  attempts := hc.attempts
  read_seen _ := History.wasRead_read h x.seq
  quiet_read _ := by simp [Memory.readEntry]
  quiet_unread hr := by simp [Memory.readEntry] at hr
  attempts_le := hc.attempts_le
  stopped_at_limit := hc.stopped_at_limit
  inactive_le := hc.inactive_le

theorem Counted.stop (hc : Counted cfg h x) : Counted cfg h { x with refreshStopped := true } where
  attempts := hc.attempts
  read_seen := hc.read_seen
  quiet_read := hc.quiet_read
  quiet_unread := hc.quiet_unread
  attempts_le := hc.attempts_le
  stopped_at_limit _ _ := rfl
  inactive_le := hc.inactive_le

/-- A failed fetch counts one more attempt, and the attempt that reaches a
positive limit stops the entry. -/
theorem Counted.failed (hc : Counted cfg h x) (hr : Room cfg h x.seq) :
    Counted cfg (h.record (.fetched x.seq false)) (failedEntry cfg x) where
  attempts := by simp [failedEntry, hc.attempts]
  read_seen := hc.read_seen
  quiet_read hr' := by simpa [failedEntry] using hc.quiet_read hr'
  quiet_unread hr' := by simpa [failedEntry] using hc.quiet_unread hr'
  attempts_le hm := by
    have := hr.failures hm
    simp only [failedEntry, hc.attempts]
    push_cast; omega
  stopped_at_limit hm he := by
    simp only [failedEntry] at he ⊢
    simp [hm, he]
  inactive_le := hc.inactive_le

/-- A successful fetch restarts the attempts and counts a quiet refresh,
which consumes a pending read or adds to the inactive refreshes. -/
theorem Counted.refreshed (hc : Counted cfg h x) (hr : Room cfg h x.seq) (f : Fragment) (now : Instant) :
    Counted cfg (h.record (.fetched x.seq true)) (refreshedEntry x f now) where
  attempts := by simp [refreshedEntry]
  read_seen := by simp [refreshedEntry]
  quiet_read := by simp [refreshedEntry]
  quiet_unread _ := by
    cases hx : x.readSinceWrite
    · simp [refreshedEntry, hx, hc.quiet_unread hx]; omega
    · simp [refreshedEntry, hx, hc.quiet_read hx, hc.read_seen hx]
  attempts_le hm := by simp [refreshedEntry]; omega
  stopped_at_limit hm he := by simp [refreshedEntry] at he; omega
  inactive_le hl := by
    cases hx : x.readSinceWrite
    · have hq := hr.quiet hl
      rw [hc.quiet_unread hx] at hq
      simp [refreshedEntry, hx]; push_cast at hq ⊢; omega
    · simp [refreshedEntry, hx]; omega

end Change

variable (cfg)

/-- What one step may do to a stored entry, with what the history then says
of it: keep it, read it, stop it at selection, or apply a refresh fetch that
failed or succeeded. Only an entry that is not stopped is stopped or fetched,
and only with room left. -/
inductive Change (h h' : History) : Entry → Entry → Prop
  | kept {x : Entry} : h.Agree h' x.seq → Change h h' x x
  | read {x : Entry} (now : Instant) : (h.record (.read x.seq)).Agree h' x.seq →
      Change h h' x (Memory.readEntry x now)
  | stop {x : Entry} : x.refreshStopped = false → x.request.url.isEmpty = false → h.Agree h' x.seq →
      Change h h' x { x with refreshStopped := true }
  | failed {x : Entry} : x.refreshStopped = false → x.request.url.isEmpty = false → Room cfg h x.seq →
      (h.record (.fetched x.seq false)).Agree h' x.seq → Change h h' x (failedEntry cfg x)
  | refreshed {x : Entry} (f : Fragment) (now : Instant) : x.refreshStopped = false → Room cfg h x.seq →
      (h.record (.fetched x.seq true)).Agree h' x.seq → Change h h' x (refreshedEntry x f now)

variable {cfg}

namespace Change

variable {h h' : History} {x y : Entry}

theorem seq_eq (c : Change cfg h h' x y) : y.seq = x.seq := by
  cases c <;> rfl

theorem counted (c : Change cfg h h' x y) (hc : Counted cfg h x) : Counted cfg h' y := by
  cases c with
  | kept a => exact hc.agree a
  | read now a => exact (hc.read now).agree a
  | stop _ _ a => exact hc.stop.agree a
  | failed _ _ hr a => exact (hc.failed hr).agree a
  | refreshed f now _ hr a => exact (hc.refreshed hr f now).agree a

theorem url (c : Change cfg h h' x y) (hu : x.refreshStopped = true → x.request.url.isEmpty = false) :
    y.refreshStopped = true → y.request.url.isEmpty = false := by
  cases c with
  | kept _ => exact hu
  | read _ _ => exact hu
  | stop _ hu' _ => exact fun _ => hu'
  | failed _ hu' _ _ => exact fun _ => hu'
  | refreshed f now hs _ _ => intro hy; simp [refreshedEntry, hs] at hy

/-- No change clears the stopped flag, and a stopped entry keeps its
fragment. -/
theorem stopped (c : Change cfg h h' x y) :
    (x.refreshStopped = true → y.refreshStopped = true) ∧ (y.refreshStopped = true → y.fragment = x.fragment) := by
  cases c with
  | kept _ => exact ⟨id, fun _ => rfl⟩
  | read _ _ => exact ⟨id, fun _ => rfl⟩
  | stop hs _ _ => exact ⟨(fun hx => by simp [hs] at hx), fun _ => rfl⟩
  | failed hs _ _ _ => exact ⟨(fun hx => by simp [hs] at hx), fun _ => rfl⟩
  | refreshed f now hs _ _ =>
    exact ⟨(fun hx => by simp [hs] at hx), fun hy => by simp [refreshedEntry, hs] at hy⟩

end Change

/-! ## Events that fetch nothing -/

theorem Room.recordAll {h : History} {n : Nat} (hr : Room cfg h n) {evs : List Event}
    (hev : ∀ e ∈ evs, ∀ ok, e ≠ .fetched n ok) : Room cfg (h.recordAll evs) n := by
  induction evs generalizing h with
  | nil => exact hr
  | cons e evs ih =>
    exact ih (hr.record (hev e List.mem_cons_self)) fun e' he' => hev e' (List.mem_cons_of_mem _ he')

theorem Capped.recordAll {h : History} {n : Nat} (hc : Capped cfg h n) {evs : List Event}
    (hev : ∀ e ∈ evs, ∀ k ok, e ≠ .fetched k ok) : Capped cfg (h.recordAll evs) n := by
  induction evs generalizing h with
  | nil => exact hc
  | cons e evs ih =>
    refine ih (hc.record fun ok he => absurd he (hev e List.mem_cons_self n ok)) ?_
    exact fun e' he' => hev e' (List.mem_cons_of_mem _ he')

/-! ## The invariant of throttling -/

variable (cfg)

/-- What a run keeps of the refresh bookkeeping: every stored entry is
counted by the history, no entry's history is past a limit, a stopped entry
has a request, and every fetch in flight is of an entry that was not stopped,
with room left, still stored under its key as an entry that is not stopped. -/
structure Throttled (t : Tracked) : Prop where
  counted : ∀ x ∈ t.store.memory.entries, Counted cfg t.history x
  capped : ∀ n, Capped cfg t.history n
  stopped_url : ∀ x ∈ t.store.memory.entries, x.refreshStopped = true → x.request.url.isEmpty = false
  inflight : ∀ d ∈ t.inflight, d.refreshStopped = false ∧ Room cfg t.history d.seq ∧ d.seq ≤ t.store.memory.seq
  tracked : ∀ d ∈ t.inflight, ∀ x ∈ t.store.memory.entries, x.seq = d.seq →
    x.key = d.key ∧ x.refreshStopped = false ∧ x.request.url.isEmpty = false
  distinct : (t.inflight.map (·.seq)).Nodup

/-- Each entry after a step comes from an entry before it by a `Change`, or
is new, with clean bookkeeping. -/
def Evolves (h h' : History) (m m' : Memory) : Prop :=
  ∀ y ∈ m'.entries, (∃ x ∈ m.entries, Change cfg h h' x y) ∨ (m.seq < y.seq ∧ Clean h' y)

variable {cfg}

theorem Evolves.counted {h h' : History} {m m' : Memory} (he : Evolves cfg h h' m m')
    (hc : ∀ x ∈ m.entries, Counted cfg h x) : ∀ y ∈ m'.entries, Counted cfg h' y := by
  intro y hy
  rcases he y hy with ⟨x, hx, c⟩ | ⟨-, hn⟩
  · exact c.counted (hc x hx)
  · exact hn.counted

theorem Evolves.url {h h' : History} {m m' : Memory} (he : Evolves cfg h h' m m')
    (hu : ∀ x ∈ m.entries, x.refreshStopped = true → x.request.url.isEmpty = false) :
    ∀ y ∈ m'.entries, y.refreshStopped = true → y.request.url.isEmpty = false := by
  intro y hy
  rcases he y hy with ⟨x, hx, c⟩ | ⟨-, hn⟩
  · exact c.url (hu x hx)
  · intro hs; rw [hn.live] at hs; cases hs

/-- A step outside the refresh pass keeps or reads the stored entries and may
store a new one; its events store or read entries and fetch none. -/
theorem Throttled.external {t t' : Tracked} (ht : Throttled cfg t) (evs : List Event)
    (hh : t'.history = t.history.recordAll evs) (hev : ∀ e ∈ evs, ∀ k ok, e ≠ .fetched k ok)
    (hi : t'.inflight = t.inflight) (hseq : t.store.memory.seq ≤ t'.store.memory.seq)
    (hm : ∀ y ∈ t'.store.memory.entries,
      (y ∈ t.store.memory.entries ∧ t.history.Agree t'.history y.seq) ∨
      (∃ x ∈ t.store.memory.entries, ∃ now, y = Memory.readEntry x now ∧
        (t.history.record (.read x.seq)).Agree t'.history x.seq) ∨
      (t.store.memory.seq < y.seq ∧ Clean t'.history y)) :
    Throttled cfg t' ∧ Evolves cfg t.history t'.history t.store.memory t'.store.memory := by
  have hev' : Evolves cfg t.history t'.history t.store.memory t'.store.memory := by
    intro y hy
    rcases hm y hy with ⟨hy, a⟩ | ⟨x, hx, now, rfl, a⟩ | hn
    · exact .inl ⟨y, hy, .kept a⟩
    · exact .inl ⟨x, hx, .read now a⟩
    · exact .inr hn
  refine ⟨⟨hev'.counted ht.counted, fun n => ?_, hev'.url ht.stopped_url, ?_, ?_, hi ▸ ht.distinct⟩, hev'⟩
  · rw [hh]; exact (ht.capped n).recordAll hev
  · intro d hd
    rw [hi] at hd
    obtain ⟨hs, hr, hle⟩ := ht.inflight d hd
    exact ⟨hs, hh ▸ hr.recordAll fun e he ok => hev e he d.seq ok, by omega⟩
  · intro d hd y hy hyd
    rw [hi] at hd
    rcases hm y hy with ⟨hy, -⟩ | ⟨x, hx, now, rfl, -⟩ | ⟨hlt, -⟩
    · exact ht.tracked d hd y hy hyd
    · exact ht.tracked d hd x hx hyd
    · have := (ht.inflight d hd).2.2; omega

/-! ## Stores, lookups, removals and the disk tier -/

section External

variable {t : Tracked}

/-- A store keeps the other entries and adds a new one with clean
bookkeeping. -/
theorem Throttled.put (ht : Throttled cfg t) (hb : t.store.memory.Books) {key : String} {f : Fragment}
    {req : FetchRequest} {now : Instant} {s : Store} (hp : t.store.put key f req now = .ok s) :
    Throttled cfg { t with store := s, history := t.history.record (.stored s.memory.seq) } ∧
      Evolves cfg t.history (t.history.record (.stored s.memory.seq)) t.store.memory s.memory := by
  obtain ⟨r, hr, hm⟩ := Store.put_memory hp
  have hseq : s.memory.seq = t.store.memory.seq + 1 := by rw [hm, Memory.put_seq hr]
  refine ht.external [.stored s.memory.seq] rfl (by simp) rfl (by dsimp only; omega) ?_
  intro y hy
  dsimp only at hy ⊢
  rw [hm] at hy
  rcases Memory.mem_put hr hy with ⟨hy, -⟩ | ⟨-, hys, hrw, ha, hi, hst⟩
  · have := hb.seq_le y hy
    exact .inl ⟨hy, History.agree_record (by simp only [Event.seq]; omega)⟩
  · have hyn : y.seq = s.memory.seq := by omega
    refine .inr (.inr ⟨by omega, ha, hi, hst, ?_, ?_, ?_, ?_⟩) <;> simp [hyn, hrw, History.wasRead]

/-- A lookup reads the entry it finds fresh, drops one it finds stale, and
promotes a disk record to a new entry that it reads at once. -/
theorem Throttled.get (ht : Throttled cfg t) (hb : t.store.memory.Books) (key : String) (now : Instant) :
    Throttled cfg { t with store := (t.store.get key now).1
                           history := t.history.recordAll (lookupEvents t.store key now) } ∧
      Evolves cfg t.history (t.history.recordAll (lookupEvents t.store key now)) t.store.memory
        (t.store.get key now).1.memory := by
  rcases get_cases t.store key now with ⟨e, g, hf, -, hm, hev⟩ | ⟨g, hm, hev⟩ | ⟨f, req, r, g, hp, hm, hev⟩
  · refine ht.external _ rfl (by simp [hev]) rfl (by dsimp only; rw [hm]; simp) ?_
    intro y hy
    dsimp only at hy ⊢
    rw [hm, Memory.tally_entries, Memory.markRead_entries hf, List.mem_append, Memory.mem_detach,
      List.mem_singleton] at hy
    rw [hev, History.recordAll_cons, History.recordAll_nil]
    rcases hy with ⟨hy, hyk⟩ | rfl
    · refine .inl ⟨hy, History.agree_record ?_⟩
      exact hb.seq_ne (Memory.find?_mem hf) hy (by rw [Memory.find?_key hf]; exact Ne.symm hyk)
    · exact .inr (.inl ⟨e, Memory.find?_mem hf, now, rfl, .refl _ _⟩)
  · refine ht.external _ rfl (by simp [hev]) rfl (by dsimp only; rw [hm]; simp) ?_
    intro y hy
    dsimp only at hy ⊢
    rw [hm, Memory.tally_entries, Memory.mem_detach] at hy
    rw [hev]
    exact .inl ⟨hy.1, .refl _ _⟩
  · -- a promoted record is stored as a new entry and read
    obtain ⟨e, he, -⟩ := Memory.find?_put hp
    have hr1 : r.1.seq = t.store.memory.seq + 1 := by rw [Memory.put_seq hp, Memory.detach_seq]
    refine ht.external _ rfl (by simp [hev]) rfl (by dsimp only; rw [hm]; simp [hr1]) ?_
    intro y hy
    dsimp only at hy ⊢
    rw [hm, Memory.tally_entries, Memory.markRead_entries he, List.mem_append, Memory.mem_detach,
      List.mem_singleton] at hy
    rw [hev, History.recordAll_cons, History.recordAll_cons, History.recordAll_nil]
    rcases hy with ⟨hy, hyk⟩ | rfl
    · rcases Memory.mem_put hp hy with ⟨hy, -⟩ | ⟨hk, -⟩
      · have hy := (Memory.mem_detach.mp hy).1
        have := hb.seq_le y hy
        refine .inl ⟨hy, ?_⟩
        exact (History.agree_record (by simp only [Event.seq]; omega)).trans
          (History.agree_record (by simp only [Event.seq]; omega))
      · exact absurd hk hyk
    · rcases Memory.mem_put hp (Memory.find?_mem he) with ⟨-, hk⟩ | ⟨-, hes, -, ha, hi, hst⟩
      · exact absurd (Memory.find?_key he) hk
      · have hen : e.seq = r.1.seq := by rw [hes, hr1, Memory.detach_seq]
        refine .inr (.inr ⟨?_, ha, hi, hst, ?_, ?_, ?_, ?_⟩) <;>
          simp [Memory.readEntry, hen, hr1, History.wasRead]

theorem Throttled.remove (ht : Throttled cfg t) (key : String) :
    Throttled cfg { t with store := t.store.remove key } ∧
      Evolves cfg t.history t.history t.store.memory (t.store.remove key).memory :=
  ht.external [] rfl (by simp) rfl (by simp [Store.remove]) fun y hy =>
    .inl ⟨(Memory.mem_detach.mp hy).1, .refl _ _⟩

theorem Throttled.disk (ht : Throttled cfg t) (d : Option Disk) :
    Throttled cfg { t with store := { t.store with disk := d } } ∧
      Evolves cfg t.history t.history t.store.memory t.store.memory :=
  ht.external [] rfl (by simp) rfl (Nat.le_refl _) fun y hy => .inl ⟨hy, .refl _ _⟩

end External

/-! ## Selection -/

variable (cfg)

/-- What selection keeps while it runs over the entries of `m`: every entry
is one of `m`, possibly stopped, and every selected entry is a live, active
entry of `m` still stored as it was. -/
structure Selecting (m : Memory) (acc : Memory × List Entry) : Prop where
  sound : acc.1.Sound
  seq : acc.1.seq = m.seq
  source : ∀ y ∈ acc.1.entries, ∃ x ∈ m.entries, y = x ∨
    (x.refreshStopped = false ∧ x.request.url.isEmpty = false ∧ y = { x with refreshStopped := true })
  due : ∀ d ∈ acc.2, d ∈ m.entries ∧ d.refreshStopped = false ∧ inactiveTooLong cfg d = false ∧
    d.request.url.isEmpty = false
  stored : ∀ d ∈ acc.2, ∀ y ∈ acc.1.entries, y.seq = d.seq → y = d
  distinct : (acc.2.map (·.seq)).Nodup

variable {cfg}

namespace Selecting

variable {m : Memory} {acc : Memory × List Entry}

theorem start (h : m.Sound) : Selecting cfg m (m, []) :=
  ⟨h, rfl, fun y hy => ⟨y, hy, .inl rfl⟩, by simp, by simp, by simp⟩

theorem live (hs : Selecting cfg m acc) {y : Entry} (hy : y ∈ acc.1.entries) (hst : y.refreshStopped = false) :
    y ∈ m.entries := by
  obtain ⟨x, hx, rfl | ⟨-, -, rfl⟩⟩ := hs.source y hy
  · exact hx
  · simp at hst

theorem step (hs : Selecting cfg m acc) (now : Instant) {e : Entry} (he : e ∈ acc.1.entries)
    (hk : ∀ d ∈ acc.2, d.key ≠ e.key) : Selecting cfg m (selectStep cfg now acc e) := by
  obtain ⟨hsound, -⟩ := hs.sound.selectStep cfg now he
  rcases selectStep_cases cfg now acc e with h | ⟨-, -, -, h⟩ | ⟨hu, hst, -, -, h⟩ | ⟨hu, hst, -, hi, h⟩ <;>
    rw [h] at hsound ⊢
  · exact hs
  · -- an expired stopped entry is dropped
    exact ⟨hsound, by simp [hs.seq], fun y hy => hs.source y (Memory.mem_detach.mp hy).1, hs.due,
      fun d hd y hy => hs.stored d hd y (Memory.mem_detach.mp hy).1, hs.distinct⟩
  · -- an inactive entry is stopped in place; it is not selected, its key is not a selected one
    have hem := hs.live he hst
    refine ⟨hsound, by simp [hs.seq], ?_, hs.due, ?_, hs.distinct⟩
    · intro y hy
      rw [Memory.update_entries, Memory.mem_map_swapIn] at hy
      rcases hy with ⟨rfl, -⟩ | ⟨hy, -⟩
      · exact ⟨e, hem, .inr ⟨hst, hu, rfl⟩⟩
      · exact hs.source y hy
    · intro d hd y hy hyd
      rw [Memory.update_entries, Memory.mem_map_swapIn] at hy
      rcases hy with ⟨rfl, -⟩ | ⟨hy, -⟩
      · exact absurd (congrArg Entry.key (hs.stored d hd e he hyd)).symm (hk d hd)
      · exact hs.stored d hd y hy hyd
  · -- a due entry is selected; no selected entry has its sequence number
    have hem := hs.live he hst
    have hnew : ∀ d ∈ acc.2, d.seq ≠ e.seq := fun d hd hde =>
      hk d hd (congrArg Entry.key (hs.stored d hd e he hde.symm)).symm
    refine ⟨hsound, hs.seq, hs.source, ?_, ?_, ?_⟩
    · intro d hd
      rcases List.mem_append.mp hd with hd | hd
      · exact hs.due d hd
      · rw [List.mem_singleton.mp hd]; exact ⟨hem, hst, hi, hu⟩
    · intro d hd y hy hyd
      rcases List.mem_append.mp hd with hd | hd
      · exact hs.stored d hd y hy hyd
      · rw [List.mem_singleton.mp hd] at hyd ⊢
        exact hsound.books.eq_of_seq hy he hyd
    · rw [List.map_append, List.nodup_append]
      refine ⟨hs.distinct, by simp, ?_⟩
      intro a ha b hb
      obtain ⟨d, hd, rfl⟩ := List.mem_map.mp ha
      rw [List.map_singleton, List.mem_singleton] at hb
      rw [hb]
      exact hnew d hd

end Selecting

/-- Selection stops inactive entries in place, drops expired stopped ones,
and puts in flight entries that are not stopped, with room left, and stored
as they are. -/
theorem Throttled.select {t : Tracked} (ht : Throttled cfg t) (hsound : t.store.memory.Sound) (now : Instant) :
    Throttled cfg { t with store := { t.store with memory := (selectDue cfg t.store.memory now).1 }
                           inflight := (selectDue cfg t.store.memory now).2 } ∧
      Evolves cfg t.history t.history t.store.memory (selectDue cfg t.store.memory now).1 := by
  have hs : Selecting cfg t.store.memory (selectDue cfg t.store.memory now) :=
    selectDue_induct cfg (Selecting cfg t.store.memory) now (fun _ _ h he hk => h.step now he hk)
      hsound.books.keys (Selecting.start hsound)
  have hev : Evolves cfg t.history t.history t.store.memory (selectDue cfg t.store.memory now).1 := by
    intro y hy
    obtain ⟨x, hx, rfl | ⟨hst, hu, rfl⟩⟩ := hs.source y hy
    · exact .inl ⟨y, hx, .kept (.refl _ _)⟩
    · exact .inl ⟨x, hx, .stop hst hu (.refl _ _)⟩
  refine ⟨⟨hev.counted ht.counted, ht.capped, hev.url ht.stopped_url, ?_, ?_, hs.distinct⟩, hev⟩
  · intro d hd
    obtain ⟨hdm, hst, hin, -⟩ := hs.due d hd
    refine ⟨hst, (ht.counted d hdm).room hst hin, ?_⟩
    dsimp only
    rw [hs.seq]
    exact hsound.books.seq_le d hdm
  · intro d hd y hy hyd
    obtain ⟨-, hst, -, hu⟩ := hs.due d hd
    rw [hs.stored d hd y hy hyd]
    exact ⟨rfl, hst, hu⟩

/-! ## Completing a refresh -/

theorem fetchEvents_eq (e : Entry) {reply : Reply} (h : reply ≠ .stall) :
    fetchEvents e reply = [.fetched e.seq !reply.failed] := by
  cases reply with
  | fragment f => simp [fetchEvents, Reply.failed]
  | failure _ => rfl
  | stall => exact absurd rfl h

theorem History.agree_fetchEvents (h : History) (e : Entry) (reply : Reply) {n : Nat} (hn : e.seq ≠ n) :
    h.Agree (h.recordAll (fetchEvents e reply)) n := by
  by_cases hs : reply = .stall
  · subst hs; exact .refl _ _
  · rw [fetchEvents_eq e hs, History.recordAll_cons, History.recordAll_nil]
    exact History.agree_record hn

theorem Capped.completed {h : History} {e : Entry} (hc : Capped cfg h e.seq) (hr : Room cfg h e.seq)
    (reply : Reply) : Capped cfg (h.recordAll (fetchEvents e reply)) e.seq := by
  by_cases hs : reply = .stall
  · subst hs; exact hc
  · rw [fetchEvents_eq e hs, History.recordAll_cons, History.recordAll_nil]
    exact hc.record fun _ _ => hr

/-- An entry after applying a reply to `cur` is an entry of the store under
another key, or any entry of the store when the fetch never returned, or
`cur` with the failure counted, or `cur` refreshed with the new fragment. -/
theorem applyRefresh_entries (s : Store) (cur : Entry) (reply : Reply) (now : Instant) {y : Entry}
    (hy : y ∈ (applyRefresh cfg s cur reply now).memory.entries) :
    (y ∈ s.memory.entries ∧ (y.key ≠ cur.key ∨ reply = .stall)) ∨
    (reply.failed = true ∧ y = failedEntry cfg cur) ∨
    (∃ f, reply = .fragment f ∧ isSuccess f.status = true ∧ y = refreshedEntry cur f now) := by
  rcases applyRefresh_cases cfg s cur reply now with ⟨hs, hm⟩ | ⟨hf, g, hm⟩ | ⟨f, -, -, -, g, hm⟩ |
      ⟨f, hr, hok, -, -, m₀, g, hu, hrd, -, -, -, hm⟩ <;> rw [hm] at hy
  · exact .inl ⟨hy, .inr hs⟩
  · rw [Memory.tally_entries, Memory.update_entries, Memory.mem_map_swapIn] at hy
    rcases hy with ⟨rfl, -⟩ | ⟨hy, hk⟩
    · exact .inr (.inl ⟨hf, rfl⟩)
    · exact .inl ⟨hy, .inl (by simpa [failedEntry] using hk)⟩
  · rw [Memory.tally_entries, Memory.mem_detach] at hy
    exact .inl ⟨hy.1, .inl hy.2⟩
  · -- eviction keeps part of the entries with the refreshed one swapped in
    have hsub := Memory.evictFor_sublist (m₀.count + 1) m₀ 0 (some cur.seq)
    rw [Memory.tally_entries] at hy
    have hy₀ : y ∈ m₀.entries := by
      rcases List.mem_append.mp hy with hy | hy
      · exact List.mem_append_left _ (hsub.1.subset hy)
      · exact List.mem_append_right _ (hsub.2.subset hy)
    rw [Memory.entries_eq, hu, hrd, Memory.update_unread, Memory.update_read, ← List.map_append,
      ← Memory.entries_eq, Memory.mem_map_swapIn] at hy₀
    rcases hy₀ with ⟨rfl, -⟩ | ⟨hy, hk⟩
    · exact .inr (.inr ⟨f, hr, hok, rfl⟩)
    · exact .inl ⟨hy, .inl (by simpa [refreshedEntry] using hk)⟩

theorem completeRefresh_seq (s : Store) (e : Entry) (reply : Reply) (now : Instant) :
    (completeRefresh cfg s e reply now).memory.seq = s.memory.seq := by
  rcases completeRefresh_cases cfg s e reply now with h | ⟨cur, -, -, h⟩ <;> rw [h]
  rcases applyRefresh_cases cfg s cur reply now with ⟨-, hm⟩ | ⟨-, g, hm⟩ | ⟨f, -, -, -, g, hm⟩ |
      ⟨f, -, -, -, -, m₀, g, -, -, -, hq, -, hm⟩ <;> rw [hm]
  · simp
  · simp
  · simp [Memory.evict, Memory.evictFor_seq, hq]

/-- Every entry after a completion is an entry before it with its history
unchanged, or the stored version of the completed entry, changed by the
fetch: the fetch applies to it only, since it still has the completed
entry's key and is not stopped. -/
theorem Throttled.completed_entries {t : Tracked} (ht : Throttled cfg t) (hb : t.store.memory.Books)
    {e : Entry} (he : e ∈ t.inflight) (reply : Reply) (now : Instant) {y : Entry}
    (hy : y ∈ (completeRefresh cfg t.store e reply now).memory.entries) :
    (y ∈ t.store.memory.entries ∧ t.history.Agree (t.history.recordAll (fetchEvents e reply)) y.seq) ∨
    (y.seq = e.seq ∧ ∃ x ∈ t.store.memory.entries,
      Change cfg t.history (t.history.recordAll (fetchEvents e reply)) x y) := by
  by_cases hx : ∃ x ∈ t.store.memory.entries, x.seq = e.seq
  · obtain ⟨x, hx, hxs⟩ := hx
    obtain ⟨hk, hst, hu⟩ := ht.tracked e he x hx hxs
    obtain ⟨-, hroom, -⟩ := ht.inflight e he
    have hf : t.store.memory.find? e.key = some x := by rw [← hk]; exact Memory.find?_of_mem hb.keys hx
    have hc : completeRefresh cfg t.store e reply now = applyRefresh cfg t.store x reply now := by
      simp [completeRefresh, hf, hxs]
    rw [hc] at hy
    rcases applyRefresh_entries t.store x reply now hy with ⟨hy, hyk | hs⟩ | ⟨hfail, rfl⟩ | ⟨f, hr, hok, rfl⟩
    · -- an entry under another key has another sequence number
      exact .inl ⟨hy, History.agree_fetchEvents _ _ _ fun h => hb.seq_ne hy hx hyk (h.symm.trans hxs.symm)⟩
    · subst hs; exact .inl ⟨hy, .refl _ _⟩
    · have hne : reply ≠ .stall := by rintro rfl; simp [Reply.failed] at hfail
      have hbit : (!reply.failed) = false := by simp [hfail]
      refine .inr ⟨hxs, x, hx, .failed hst hu (hxs ▸ hroom) ?_⟩
      rw [fetchEvents_eq e hne, hbit, hxs]
      exact .refl _ _
    · have hne : reply ≠ .stall := by rw [hr]; simp
      have hbit : (!reply.failed) = true := by simp [hr, Reply.failed, hok]
      refine .inr ⟨hxs, x, hx, .refreshed f now hst (hxs ▸ hroom) ?_⟩
      rw [fetchEvents_eq e hne, hbit, hxs]
      exact .refl _ _
  · -- the completed entry is no longer stored, so nothing changes but the history
    have hc : completeRefresh cfg t.store e reply now = t.store := by
      rcases completeRefresh_cases cfg t.store e reply now with h | ⟨cur, hcur, hs, -⟩
      · exact h
      · exact absurd ⟨cur, Memory.find?_mem hcur, hs⟩ hx
    rw [hc] at hy
    exact .inl ⟨hy, History.agree_fetchEvents _ _ _ fun h => hx ⟨y, hy, h.symm⟩⟩

/-- Completing the refresh of a selected entry applies the reply to its
stored version, if there still is one, and records the fetch. -/
theorem Throttled.complete {t : Tracked} (ht : Throttled cfg t) (hb : t.store.memory.Books)
    {pre post : List Entry} {e : Entry} (hin : t.inflight = pre ++ e :: post) (reply : Reply) (now : Instant) :
    Throttled cfg { store := completeRefresh cfg t.store e reply now
                    history := t.history.recordAll (fetchEvents e reply), inflight := pre ++ post } ∧
      Evolves cfg t.history (t.history.recordAll (fetchEvents e reply)) t.store.memory
        (completeRefresh cfg t.store e reply now).memory := by
  have he : e ∈ t.inflight := by rw [hin]; exact List.mem_append_right _ List.mem_cons_self
  obtain ⟨-, hroom, -⟩ := ht.inflight e he
  have hnd : (e.seq :: (pre ++ post).map (·.seq)).Nodup := by
    have := ht.distinct
    rw [hin, List.map_append, List.map_cons, List.nodup_middle] at this
    rwa [List.map_append]
  have hother : ∀ d ∈ pre ++ post, d ∈ t.inflight ∧ d.seq ≠ e.seq := by
    intro d hd
    refine ⟨?_, fun hde => (List.nodup_cons.mp hnd).1 (List.mem_map.mpr ⟨d, hd, hde⟩)⟩
    rw [hin]
    rcases List.mem_append.mp hd with hd | hd
    · exact List.mem_append_left _ hd
    · exact List.mem_append_right _ (List.mem_cons_of_mem _ hd)
  have hev : Evolves cfg t.history (t.history.recordAll (fetchEvents e reply)) t.store.memory
      (completeRefresh cfg t.store e reply now).memory := by
    intro y hy
    rcases ht.completed_entries hb he reply now hy with ⟨hy, a⟩ | ⟨-, x, hx, c⟩
    · exact .inl ⟨y, hy, .kept a⟩
    · exact .inl ⟨x, hx, c⟩
  refine ⟨⟨hev.counted ht.counted, fun n => ?_, hev.url ht.stopped_url, ?_, ?_, (List.nodup_cons.mp hnd).2⟩, hev⟩
  · by_cases hn : e.seq = n
    · subst hn; exact (ht.capped e.seq).completed hroom reply
    · exact (ht.capped n).agree (History.agree_fetchEvents _ _ _ hn)
  · intro d hd
    obtain ⟨hd, hne⟩ := hother d hd
    obtain ⟨hst, hr, hle⟩ := ht.inflight d hd
    refine ⟨hst, hr.agree (History.agree_fetchEvents _ _ _ (Ne.symm hne)), ?_⟩
    dsimp only
    rw [completeRefresh_seq]
    exact hle
  · intro d hd y hy hyd
    obtain ⟨hd, hne⟩ := hother d hd
    rcases ht.completed_entries hb he reply now hy with ⟨hy, -⟩ | ⟨hys, -⟩
    · exact ht.tracked d hd y hy hyd
    · exact absurd (hyd.symm.trans hys) hne

/-! ## Every run is throttled -/

theorem Throttled.step {t t' : Tracked} (ht : Throttled cfg t) (hsound : t.store.memory.Sound)
    (hs : Step cfg t t') : Throttled cfg t' ∧ Evolves cfg t.history t'.history t.store.memory t'.store.memory := by
  cases hs with
  | put key f req now hp => exact ht.put hsound.books hp
  | get key now => exact ht.get hsound.books key now
  | remove key => exact ht.remove key
  | disk d => exact ht.disk d
  | select now _ => exact ht.select hsound now
  | complete pre post e reply now hin => exact ht.complete hsound.books hin reply now

theorem throttled_start (maxBytes : Int) (disk : Option Disk) :
    Throttled cfg { store := { memory := Memory.empty maxBytes, disk } } where
  counted := by simp [Memory.empty, Memory.entries]
  capped _ := ⟨fun _ => by simp; omega, fun _ => by simp [History.wasRead]; omega⟩
  stopped_url := by simp [Memory.empty, Memory.entries]
  inflight := by simp
  tracked := by simp
  distinct := by simp

theorem reach_throttled {maxBytes : Int} {t : Tracked} (hmax : 0 ≤ maxBytes) (h : Reach cfg maxBytes t) :
    Throttled cfg t := by
  induction h with
  | start disk => exact throttled_start maxBytes disk
  | step hr hs ih => exact (ih.step (reach_consistent hmax hr).sound hs).1

/-! ## Selection acts on each entry by itself -/

/-- A step of selection changes only what is stored under the key of the
entry it looks at. -/
theorem selectStep_find?_of_ne (now : Instant) (acc : Memory × List Entry) {e : Entry} {key : String}
    (hk : e.key ≠ key) : (selectStep cfg now acc e).1.find? key = acc.1.find? key := by
  rcases selectStep_cases cfg now acc e with h | ⟨-, -, -, h⟩ | ⟨-, -, -, -, h⟩ | ⟨-, -, -, -, h⟩ <;>
    simp only [h]
  · exact Memory.find?_detach_of_ne _ (Ne.symm hk)
  · rw [Memory.find?_update]
    cases hf : acc.1.find? key with
    | none => rfl
    | some z => simp [Memory.swapIn, Memory.find?_key hf, Ne.symm hk]

/-- What a step of selection leaves under the key of the entry it looks at
depends only on what was stored under that key. -/
theorem selectStep_find?_self (now : Instant) {acc acc' : Memory × List Entry} {e : Entry}
    (h : acc.1.find? e.key = acc'.1.find? e.key) :
    (selectStep cfg now acc e).1.find? e.key = (selectStep cfg now acc' e).1.find? e.key := by
  obtain ⟨m, due⟩ := acc
  obtain ⟨m', due'⟩ := acc'
  simp only at h
  simp only [selectStep]
  split_ifs <;> simp [Memory.find?_detach_self, Memory.find?_update, h]

theorem foldl_selectStep_find? (now : Instant) {key : String} :
    ∀ (l : List Entry) (acc : Memory × List Entry), (∀ e ∈ l, e.key ≠ key) →
      (l.foldl (selectStep cfg now) acc).1.find? key = acc.1.find? key := by
  intro l
  induction l with
  | nil => intro acc _; rfl
  | cons e l ih =>
    intro acc hl
    rw [List.foldl_cons, ih _ fun e' he' => hl e' (List.mem_cons_of_mem _ he')]
    exact selectStep_find?_of_ne now acc (hl e List.mem_cons_self)

/-- Selection leaves under the key of a stored entry what looking at that
entry alone would leave: the entries before and after it have other keys. -/
theorem find?_selectDue (now : Instant) {m : Memory} (hk : m.KeysDistinct) {x : Entry} (hx : x ∈ m.entries) :
    (selectDue cfg m now).1.find? x.key = (selectStep cfg now (m, []) x).1.find? x.key := by
  obtain ⟨l₁, l₂, hl⟩ := List.append_of_mem hx
  have hnd := hk
  unfold Memory.KeysDistinct at hnd
  rw [hl, List.map_append, List.map_cons, List.nodup_middle, List.nodup_cons] at hnd
  have hne : ∀ e ∈ l₁ ++ l₂, e.key ≠ x.key := fun e he hex =>
    hnd.1 (by rw [← List.map_append]; exact List.mem_map.mpr ⟨e, he, hex⟩)
  unfold selectDue
  rw [hl, List.foldl_append, List.foldl_cons,
    foldl_selectStep_find? now l₂ _ fun e he => hne e (List.mem_append_right _ he)]
  apply selectStep_find?_self
  exact foldl_selectStep_find? now l₁ _ fun e he => hne e (List.mem_append_left _ he)

/-! ## Throttling over every run -/

/-- An entry whose quiet refreshes reached the limit is inactive too long:
it was not read since its last refresh, and its inactive refreshes are the
limit. -/
theorem Counted.inactive_of_full {h : History} {x : Entry} (hc : Counted cfg h x) (hl : 0 < cfg.inactiveMax)
    (hq : (h.quiet x.seq : Int) = cfg.inactiveMax + h.wasRead x.seq) : inactiveTooLong cfg x = true := by
  cases hr : x.readSinceWrite
  · rw [hc.quiet_unread hr] at hq
    push_cast at hq
    simp [inactiveTooLong, hr, hl]
    omega
  · rw [hc.quiet_read hr, hc.read_seen hr] at hq
    omega

variable (cfg)

/-- What throttling promises of a state of a run. With a positive limit on
attempts, no entry had more failed refresh fetches in a row than the limit,
its attempts are that count, and reaching the limit stopped it. With a
positive limit on inactive refreshes, an entry had at most that many
successful refreshes since its store while it was not read, at most one more
since its last read, and one at its limit is stopped, not fetched, by the
next selection that finds it due. Selection fetches only entries that are not
stopped and have room under both limits, and drops a stopped entry once it
has expired; a fetch in flight is of an entry stored as one that is not
stopped. -/
structure Throttling (t : Tracked) : Prop where
  failures_le : 0 < cfg.maxAttempts → ∀ n, (t.history.failures n : Int) ≤ cfg.maxAttempts
  attempts_counted : ∀ x ∈ t.store.memory.entries, x.refreshAttempts = t.history.failures x.seq
  stopped_at_limit : 0 < cfg.maxAttempts → ∀ x ∈ t.store.memory.entries,
    (t.history.failures x.seq : Int) = cfg.maxAttempts → x.refreshStopped = true
  quiet_unread_le : 0 < cfg.inactiveMax → ∀ n, t.history.readAt n = none →
    (t.history.quiet n : Int) ≤ cfg.inactiveMax
  quiet_le : 0 < cfg.inactiveMax → ∀ n, (t.history.quiet n : Int) ≤ cfg.inactiveMax + 1
  quiet_stops : 0 < cfg.inactiveMax → ∀ now, ∀ x ∈ t.store.memory.entries, x.refreshStopped = false →
    x.request.url.isEmpty = false → isDue cfg x now = true →
    (t.history.quiet x.seq : Int) = cfg.inactiveMax + t.history.wasRead x.seq →
    (selectDue cfg t.store.memory now).1.find? x.key = some { x with refreshStopped := true } ∧
      x ∉ (selectDue cfg t.store.memory now).2
  selected_room : ∀ now, ∀ d ∈ (selectDue cfg t.store.memory now).2,
    d.refreshStopped = false ∧ Room cfg t.history d.seq
  expired_dropped : ∀ now, ∀ x ∈ t.store.memory.entries, x.refreshStopped = true →
    x.fragment.freshAt now = false → (selectDue cfg t.store.memory now).1.find? x.key = none
  inflight_live : ∀ d ∈ t.inflight, d.refreshStopped = false ∧
    ∀ x ∈ t.store.memory.entries, x.seq = d.seq → x.refreshStopped = false

/-- What a step of a run does to the stored entries: it never clears the
stopped flag, a stopped entry keeps its fragment, and an entry that was not
stored before is a new store, with both counters zero and not stopped. -/
structure Transition (t t' : Tracked) : Prop where
  stopped_kept : ∀ x ∈ t.store.memory.entries, ∀ y ∈ t'.store.memory.entries, y.seq = x.seq →
    (x.refreshStopped = true → y.refreshStopped = true) ∧ (y.refreshStopped = true → y.fragment = x.fragment)
  new_clean : ∀ y ∈ t'.store.memory.entries, (∀ x ∈ t.store.memory.entries, x.seq ≠ y.seq) →
    t.store.memory.seq < y.seq ∧ y.refreshAttempts = 0 ∧ y.inactiveRefreshes = 0 ∧ y.refreshStopped = false

variable {cfg}

theorem Throttled.throttling {t : Tracked} (ht : Throttled cfg t) (hs : t.store.memory.Sound) :
    Throttling cfg t where
  failures_le hm n := (ht.capped n).failures hm
  attempts_counted x hx := (ht.counted x hx).attempts
  stopped_at_limit hm x hx he := (ht.counted x hx).stopped_at_limit hm (by rw [(ht.counted x hx).attempts]; exact he)
  quiet_unread_le hl n hn := by
    have := (ht.capped n).quiet hl
    simpa [History.wasRead, hn] using this
  quiet_le hl n := by
    have := (ht.capped n).quiet hl
    have := History.wasRead_le t.history n
    omega
  quiet_stops hl now x hx hst hu hd hq := by
    have hi := (ht.counted x hx).inactive_of_full hl hq
    have hstep : selectStep cfg now (t.store.memory, []) x =
        (t.store.memory.update { x with refreshStopped := true }, []) := by
      simp [selectStep, hu, hst, hd, hi]
    refine ⟨?_, fun hsel => ?_⟩
    · rw [find?_selectDue now hs.books.keys hx, hstep, Memory.find?_update, Memory.find?_of_mem hs.books.keys hx]
      simp [Memory.swapIn]
    · -- a selected entry has room, and this one has none
      have hr : (t.history.quiet x.seq : Int) < cfg.inactiveMax + t.history.wasRead x.seq :=
        ((ht.select hs now).1.inflight x hsel).2.1.quiet hl
      omega
  selected_room now d hd := ⟨((ht.select hs now).1.inflight d hd).1, ((ht.select hs now).1.inflight d hd).2.1⟩
  expired_dropped now x hx hst hfr := by
    have hu := ht.stopped_url x hx hst
    have hstep : selectStep cfg now (t.store.memory, []) x = (t.store.memory.detach x.key, []) := by
      simp [selectStep, hu, hst, hfr]
    rw [find?_selectDue now hs.books.keys hx, hstep]
    exact Memory.find?_detach_self _ _
  inflight_live d hd := ⟨(ht.inflight d hd).1, fun x hx hxd => (ht.tracked d hd x hx hxd).2.1⟩

theorem Evolves.transition {t t' : Tracked} (he : Evolves cfg t.history t'.history t.store.memory t'.store.memory)
    (hb : t.store.memory.Books) : Transition t t' where
  stopped_kept x hx y hy hyx := by
    rcases he y hy with ⟨x', hx', c⟩ | ⟨hlt, -⟩
    · obtain rfl : x' = x := hb.eq_of_seq hx' hx (c.seq_eq.symm.trans hyx)
      exact c.stopped
    · have := hb.seq_le x hx
      omega
  new_clean y hy hnone := by
    rcases he y hy with ⟨x, hx, c⟩ | ⟨hlt, hc⟩
    · exact absurd c.seq_eq.symm (hnone x hx)
    · exact ⟨hlt, hc.attempts, hc.inactive, hc.live⟩

/-- Refreshing is throttled over every run from an empty cache, whatever the
interleaving of stores, lookups, removals, disk changes, refresh selections
and completions, their replies and their instants: every state keeps the
promises of `Throttling`, and every step those of `Transition`. -/
theorem refresh_throttled {maxBytes : Int} {t : Tracked} (hmax : 0 ≤ maxBytes) (h : Reach cfg maxBytes t) :
    Throttling cfg t ∧ ∀ t', Step cfg t t' → Transition t t' := by
  have ht := reach_throttled hmax h
  have hs := (reach_consistent hmax h).sound
  exact ⟨ht.throttling hs, fun t' hst => (ht.step hs hst).2.transition hs.books⟩

/-- The sample run after its selection, with the refresh of `"b"` failing and
then that of `"a"` succeeding: nothing is left in flight, `"b"` counts one
failure and `"a"` one refresh since its read, and the run stays throttled. -/
theorem refresh_throttled_sample :
    ∃ t : Tracked, (0 : Int) ≤ 100 ∧ Reach {} 100 t ∧ t.inflight = [] ∧ t.history.failures 2 = 1 ∧
      t.history.quiet 1 = 1 ∧ (Throttling {} t ∧ ∀ t', Step {} t t' → Transition t t') := by
  let reply : Reply := .fragment { url := "https://f.test/a", body := "aa", expiresAt := ⟨20 * nsPerSecond, 0⟩ }
  have h₁ := Reach.step reach_sampleSelected (Step.complete _ [] _ (sampleEntry "b" 2)
    (.failure { message := "down" }) ⟨10 * nsPerSecond, 0⟩ rfl)
  have h₂ := Reach.step h₁ (Step.complete _ [] [] (Memory.readEntry (sampleEntry "a" 1) ⟨nsPerSecond, 0⟩)
    reply ⟨10 * nsPerSecond, 0⟩ rfl)
  exact ⟨_, by decide, h₂, rfl, by decide, by decide, refresh_throttled (by decide) h₂⟩

end Transclusion.Cache
