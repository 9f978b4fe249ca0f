import Transclusion.Store.Tiered
import Transclusion.Proofs.Cache.Entries

/-!
# What a lookup answers

A lookup of a key answers from memory when memory holds a fresh entry for
it, and otherwise with the fragment of the disk tier's live record for the
key, when that fragment is fresh; these are all its answers, and each of
them is fresh at the lookup's instant (`get_answers_source`).

The disk tier is not told when memory takes a new version of a key: a store
that evicts nothing replaces the entry in memory and leaves the disk record
in place (`put_keeps_disk`), and once the newer version expires, a lookup
answers with the record from disk (`get_serves_disk`), however old.
-/

namespace Transclusion.Cache

open Transclusion.Time

/-- The tier reads a record when the index and the database both hold the key. -/
theorem Disk.find?_eq_some {d : Disk} {key : String} {r : Stored} :
    d.find? key = some r ↔ ∃ e s, d.indexed? key = some e ∧ d.stored? key = some s ∧ r = { s with info := e.info } := by
  unfold Disk.find?
  cases d.indexed? key <;> cases d.stored? key <;> simp [eq_comm]

theorem Disk.get_answer {d : Disk} {key : String} {now : Instant} {rec : DiskRecord}
    (h : (d.get key now).2 = some rec) :
    ∃ r, d.find? key = some r ∧ r.info.expiredAt now.unixNano = false ∧ rec = r.record := by
  unfold Disk.get at h
  split at h
  · cases h
  · rename_i e he
    split at h
    · cases h
    · rename_i hlive
      split at h
      · cases h
      · rename_i s hs
        cases h
        exact ⟨{ s with info := e.info }, Disk.find?_eq_some.mpr ⟨e, s, he, hs, rfl⟩, by simpa using hlive, rfl⟩

namespace Store

/-- A lookup that misses memory answers with the fragment of the disk's live
record under the key, when it is fresh. -/
theorem getFromDisk_answer (s : Store) (key : String) (now : Instant) {f : Fragment}
    (h : (s.getFromDisk key now).2 = some f) :
    f.freshAt now = true ∧ ∃ d r, s.disk = some d ∧ d.find? key = some r ∧
      r.info.expiredAt now.unixNano = false ∧ f = r.record.fragment := by
  unfold getFromDisk at h
  split at h
  · cases h
  · rename_i d hd
    rcases hg : d.get key now with ⟨d', found⟩
    rw [hg] at h
    cases found with
    | none => cases h
    | some rec =>
      obtain ⟨r, hr, hlive, rfl⟩ := Disk.get_answer (by rw [hg])
      dsimp only at h
      split at h
      · -- a fresh record answers, whether or not storing it in memory succeeds
        rename_i hfresh
        have hf : r.record.fragment = f := by split at h <;> cases h <;> rfl
        exact ⟨hf ▸ hfresh, d, r, hd, hr, hlive, hf.symm⟩
      · cases h

/-- The fragments a lookup of `key` at `now` may answer with: memory's fresh
entry for the key, or, when memory holds no fresh entry, the fragment of the
disk tier's live record for the key, when that fragment is fresh. -/
inductive Source (s : Store) (key : String) (now : Instant) : Fragment → Prop
  | memory {e : Entry} : s.memory.find? key = some e → e.fragment.freshAt now = true →
      Source s key now e.fragment
  | disk {d : Disk} {r : Stored} :
      (∀ e, s.memory.find? key = some e → e.fragment.freshAt now = false) →
      s.disk = some d → d.find? key = some r → r.info.expiredAt now.unixNano = false →
      r.record.fragment.freshAt now = true → Source s key now r.record.fragment

theorem Source.fresh {s : Store} {key : String} {now : Instant} {f : Fragment}
    (h : s.Source key now f) : f.freshAt now = true := by
  cases h with
  | memory _ hf => exact hf
  | disk _ _ _ _ hf => exact hf

/-- A disk lookup of a live, fresh record answers with its fragment, whether
or not storing it in memory succeeds. -/
theorem getFromDisk_serves {s : Store} {key : String} {now : Instant} {d : Disk} {r : Stored}
    (hd : s.disk = some d) (hr : d.find? key = some r) (hlive : r.info.expiredAt now.unixNano = false)
    (hf : r.record.fragment.freshAt now = true) :
    (s.getFromDisk key now).2 = some r.record.fragment := by
  obtain ⟨e, t, he, ht, rfl⟩ := Disk.find?_eq_some.mp hr
  simp only [getFromDisk, hd, Disk.get, he, ht]
  simp only at hlive hf
  simp only [hlive, hf, Bool.false_eq_true, if_false, if_true]
  split <;> rfl

theorem source_of_get {s : Store} {key : String} {now : Instant} {f : Fragment}
    (h : (s.get key now).2 = some f) : s.Source key now f := by
  unfold get at h
  split at h
  · rename_i e he
    split at h
    · rename_i hfresh
      cases h
      exact .memory he hfresh
    · -- a stale entry is dropped and the disk consulted
      rename_i hstale
      obtain ⟨hf, d, r, hd, hr, hlive, rfl⟩ := getFromDisk_answer _ key now h
      refine .disk (fun e' he' => ?_) hd hr hlive hf
      rw [he] at he'
      cases he'
      simpa using hstale
  · rename_i hnone
    obtain ⟨hf, d, r, hd, hr, hlive, rfl⟩ := getFromDisk_answer _ key now h
    exact .disk (fun e he => by rw [hnone] at he; cases he) hd hr hlive hf

theorem get_of_source {s : Store} {key : String} {now : Instant} {f : Fragment}
    (h : s.Source key now f) : (s.get key now).2 = some f := by
  cases h with
  | memory he hf => exact get_fresh_hit s key now _ he hf
  | disk hstale hd hr hlive hf =>
    unfold get
    cases hm : s.memory.find? key with
    | none => exact getFromDisk_serves hd hr hlive hf
    | some e =>
      -- memory's entry is stale, so it is dropped and the disk answers
      simp only [hstale e hm, Bool.false_eq_true, if_false]
      exact getFromDisk_serves (s := { s with memory := s.memory.detach key }) hd hr hlive hf

/-- A lookup answers exactly with its source: memory's fresh entry, or the
disk's live, fresh record when memory has no fresh entry. -/
theorem get_answers_source (s : Store) (key : String) (now : Instant) (f : Fragment) :
    (s.get key now).2 = some f ↔ s.Source key now f :=
  ⟨source_of_get, get_of_source⟩

theorem spill_nil (s : Store) (now : Instant) : s.spill [] now = s := by
  obtain ⟨m, d⟩ := s
  cases d <;> rfl

theorem put_keeps_disk {s : Store} {key : String} {f : Fragment} {req : FetchRequest}
    {now : Instant} {m : Memory} (h : s.memory.put key f req now = .ok (m, [])) :
    s.put key f req now = .ok { s with memory := m } := by
  simp [put, h, spill_nil]

/-- An older version survives a newer one: after a store of `f` under `key`
that evicts nothing, once `f` has expired a lookup answers with the disk's
record for the key, which the store did not replace. -/
theorem get_serves_disk {s : Store} {key : String} {f : Fragment} {req : FetchRequest}
    {now later : Instant} {m : Memory} {d : Disk} {r : Stored}
    (hp : s.memory.put key f req now = .ok (m, [])) (hd : s.disk = some d)
    (hr : d.find? key = some r) (hlive : r.info.expiredAt later.unixNano = false)
    (hf : r.record.fragment.freshAt later = true) (hstale : f.freshAt later = false) :
    ∃ s', s.put key f req now = .ok s' ∧ (s'.get key later).2 = some r.record.fragment := by
  refine ⟨_, put_keeps_disk hp, get_of_source (.disk ?_ hd hr hlive hf)⟩
  obtain ⟨e, he, -, hef⟩ := Memory.find?_put hp
  intro e' he'
  have heq : e' = e := Option.some.inj ((he' : m.find? key = _).symm.trans he)
  rw [heq, hef]
  exact hstale

end Store

end Transclusion.Cache
