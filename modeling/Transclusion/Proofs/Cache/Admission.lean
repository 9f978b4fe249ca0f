import Transclusion.Composition.Session
import Transclusion.Proofs.Cache.Run

/-!
# Admission to the cache

When a store is refused, and what a refused store changes. A store is refused
as not cacheable when the fragment is not fresh at the store's instant, and as
too large when the fragment is fresh but its encoding is larger than the whole
budget; freshness is checked first, and both checks come before anything is
touched. A fragment whose size is exactly the budget is admitted.

Main statement: `put_refusal_atomic`, for the service's store step: a refused
store answers with the node exactly as it was (entries, queues, total,
counters and disk tier), refuses for exactly these two reasons, and a fresh
fragment of the budget's size is stored and found under its key.
-/

namespace Transclusion.Cache

open Transclusion.Time Transclusion.Composition Transclusion.Config

namespace Memory

/-- A store is refused exactly when the fragment is stale at the store's
instant, or fresh and larger than the budget; staleness is reported first. -/
theorem put_error_iff (m : Memory) (key : String) (f : Fragment) (req : FetchRequest) (now : Instant)
    (e : PutError) :
    m.put key f req now = .error e ↔
      (e = .notCacheable ∧ f.freshAt now = false) ∨
        (e = .tooLarge ∧ f.freshAt now = true ∧ (f.size : Int) > m.maxBytes) := by
  by_cases hf : f.freshAt now = true
  · by_cases hs : (f.size : Int) > m.maxBytes
    · simp [put, hf, hs, eq_comm]
    · simp [put, hf, hs]
  · simp [put, hf, eq_comm]

/-- A store succeeds exactly when the fragment is fresh at the store's
instant and no larger than the budget. -/
theorem put_ok_iff (m : Memory) (key : String) (f : Fragment) (req : FetchRequest) (now : Instant) :
    (∃ r, m.put key f req now = .ok r) ↔ f.freshAt now = true ∧ (f.size : Int) ≤ m.maxBytes := by
  constructor
  · rintro ⟨r, h⟩
    exact ⟨(put_ok h).1, (put_ok h).2.1⟩
  · rintro ⟨hf, hs⟩
    cases h : m.put key f req now with
    | ok r => exact ⟨r, rfl⟩
    | error e =>
      -- neither refusal applies to a fresh fragment within the budget
      rcases (put_error_iff m key f req now e).mp h with ⟨-, hst⟩ | ⟨-, -, hgt⟩
      · simp [hf] at hst
      · omega

end Memory

namespace Store

theorem put_error_iff (s : Store) (key : String) (f : Fragment) (req : FetchRequest) (now : Instant)
    (e : PutError) : s.put key f req now = .error e ↔ s.memory.put key f req now = .error e := by
  unfold put
  split <;> simp_all

/-- A successful store of the tiered store is a successful store of its
memory, after which memory holds the fragment under the key. -/
theorem put_ok_find? {s s' : Store} {key : String} {f : Fragment} {req : FetchRequest} {now : Instant}
    (h : s.put key f req now = .ok s') :
    ∃ e, s'.memory.find? key = some e ∧ e.seq = s.memory.seq + 1 ∧ e.fragment = f := by
  obtain ⟨r, hr, hm⟩ := put_memory h
  rw [hm]
  exact Memory.find?_put hr

end Store

/-- The service's store step at the node's clock: a refused store answers
with the node exactly as it was, entries, queues, total, counters and disk
tier included, so an entry already under the key is neither dropped nor
changed. It refuses as not cacheable exactly when the fragment is not fresh,
and as too large exactly when the fragment is fresh and larger than the
budget; a fresh fragment of exactly the budget's size is stored, and found
under its key. -/
theorem put_refusal_atomic (cfg : Settings) (n : Node) (key : String) (spec : FragmentSpec)
    (req : Option FetchRequest) :
    (∀ e n', runStep cfg n (.put key spec req) = (.refused e, n') → n' = n) ∧
    ((runStep cfg n (.put key spec req)).1 = .refused .notCacheable ↔
      (spec.build n.clock).freshAt n.clock = false) ∧
    ((runStep cfg n (.put key spec req)).1 = .refused .tooLarge ↔
      (spec.build n.clock).freshAt n.clock = true ∧
        ((spec.build n.clock).size : Int) > n.store.memory.maxBytes) ∧
    ((spec.build n.clock).freshAt n.clock = true →
      ((spec.build n.clock).size : Int) = n.store.memory.maxBytes →
      (runStep cfg n (.put key spec req)).1 = .stored ∧
        ∃ e, (runStep cfg n (.put key spec req)).2.store.memory.find? key = some e ∧
          e.fragment = spec.build n.clock) := by
  cases hp : n.store.put key (spec.build n.clock) (req.getD { url := (spec.build n.clock).url }) n.clock with
  | error e =>
    have hstep : runStep cfg n (.put key spec req) = (.refused e, n) := by simp only [runStep, hp]
    rw [hstep]
    have he := (Memory.put_error_iff _ _ _ _ _ e).mp ((Store.put_error_iff _ _ _ _ _ e).mp hp)
    refine ⟨fun e' n' h => (Prod.mk.inj h).2.symm, ?_, ?_, ?_⟩
    · rcases he with ⟨rfl, hst⟩ | ⟨rfl, hf, -⟩
      · simp [hst]
      · simp [hf]
    · rcases he with ⟨rfl, hst⟩ | ⟨rfl, hf, hgt⟩
      · simp [hst]
      · simp [hf, hgt]
    · intro hf hs
      rcases he with ⟨-, hst⟩ | ⟨-, -, hgt⟩
      · simp [hf] at hst
      · omega
  | ok s' =>
    have hstep : runStep cfg n (.put key spec req) = (.stored, { n with store := s' }) := by
      simp only [runStep, hp]
    rw [hstep]
    obtain ⟨hf, hs⟩ := (Memory.put_ok_iff _ _ _ _ _).mp ((Store.put_memory hp).imp fun _ h => h.1)
    refine ⟨fun e' n' h => ?_, by simp [hf], ?_, fun _ _ => ⟨rfl, ?_⟩⟩
    · exact absurd (Prod.mk.inj h).1 (by simp)
    · simp only [reduceCtorEq, false_iff, not_and]
      exact fun _ => by omega
    · obtain ⟨e, he, -, hfe⟩ := Store.put_ok_find? hp
      exact ⟨e, he, hfe⟩

end Transclusion.Cache
