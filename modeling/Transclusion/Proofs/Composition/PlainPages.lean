import Transclusion.Composition.Assemble
import Mathlib

/-!
# Pages without directives

A document in which the scanner finds no directive, or any document while
transclusion is disabled, composes to a page with no includes: no fragment is
loaded, the node is left as it was, the page keeps the default status, and its
content is the document itself.

The response headers are another matter. The page's Cache-Control is the
origin's own first Cache-Control value, and applying the page's metadata
writes a nonempty one back as the only value and drops `Expires`. The
origin's headers come through unchanged exactly when they carry no
Cache-Control value; otherwise every other header keeps its values, the
Cache-Control values collapse to the first one, and `Expires` is gone.

Header maps are read through `values`; `values_set` and `values_del` say
what a replacement and a removal do to every name.

Proved: `plain_page_metadata`, and `plain_page_metadata_public` for a disabled
configuration and for an enabled one over a page without directives.
-/

namespace Transclusion

theorem sliceText_whole (s : String) : sliceText s.toUTF8 0 s.toUTF8.size = s := by
  simp only [sliceText, ByteArray.extract_zero_size, String.fromUTF8?, String.toUTF8_eq_toByteArray,
    dif_pos s.isValidUTF8, Option.getD_some]
  rfl

namespace Http.Header

/-- Removing a header leaves nothing under its canonical key and every other
key as it was. -/
theorem rawValues_del (h : Header) (name key : String) :
    (h.del name).rawValues key = if key = canonicalKey name then none else h.rawValues key := by
  unfold del rawValues
  by_cases hk : key = canonicalKey name
  · -- no entry under the removed key is left
    have hnone : (h.entries.filter (·.1 != canonicalKey name)).find? (·.1 == key) = none :=
      List.find?_eq_none.mpr fun x hx => by simpa [hk] using (List.mem_filter.mp hx).2
    simp only [hnone, if_pos hk, Option.bind_none]
  · -- an entry the lookup can find is one the removal keeps
    have hp : ∀ x : String × Option (List String),
        decide ((x.1 != canonicalKey name) = true ∧ (x.1 == key) = true) = (x.1 == key) := by
      intro x
      by_cases hx : x.1 = key
      · simp [hx, hk]
      · simp [hx]
    simp only [List.find?_filter, hp, if_neg hk]

/-- Storing under a key replaces what that key reads and leaves every other
key as it was. -/
theorem rawValues_store (h : Header) (key : String) (vs : Option (List String)) (k : String) :
    (h.store key vs).rawValues k = if k = key then vs else h.rawValues k := by
  unfold store rawValues
  split
  · rename_i hany
    rw [List.find?_map]
    by_cases hk : k = key
    · subst hk
      -- the first entry under the key is replaced, and stays the first
      obtain ⟨e, he, hek⟩ := List.any_eq_true.mp hany
      obtain ⟨x, hx⟩ : ∃ x, h.entries.find? (·.1 == k) = some x :=
        Option.isSome_iff_exists.mp (List.find?_isSome.mpr ⟨e, he, hek⟩)
      have hp : ((fun e : String × Option (List String) => e.1 == k) ∘
          fun e => if e.1 == k then (k, vs) else e) = (·.1 == k) := by
        funext e
        by_cases he : e.1 = k <;> simp [he]
      have hxk : x.1 = k := by simpa using List.find?_some hx
      rw [hp, hx]
      simp [hxk]
    · -- entries under other keys are left as they are
      have hp : ((fun e : String × Option (List String) => e.1 == k) ∘
          fun e => if e.1 == key then (key, vs) else e) = (·.1 == k) := by
        funext e
        by_cases he : e.1 = key <;> simp [he]
      rw [hp, if_neg hk]
      cases hx : h.entries.find? (·.1 == k) with
      | none => rfl
      | some x =>
        have hxk : x.1 = k := by simpa using List.find?_some hx
        simp [hxk, hk]
  · rename_i hany
    have hnone : h.entries.find? (·.1 == key) = none :=
      List.find?_eq_none.mpr fun x hx hk => hany (List.any_eq_true.mpr ⟨x, hx, hk⟩)
    rw [List.find?_append]
    by_cases hk : k = key
    · subst hk
      simp [hnone]
    · cases hx : h.entries.find? (·.1 == k) with
      | none => simp [hk, Ne.symm hk]
      | some x => simp [hk]

/-- Setting a header makes its one value what the name reads; every name of
another canonical key reads as before. -/
theorem values_set (h : Header) (name v name' : String) :
    (h.set name v).values name' = if canonicalKey name' = canonicalKey name then [v] else h.values name' := by
  unfold values set setRaw
  rw [rawValues_store]
  split <;> rfl

/-- Removing a header leaves its name without values and every name of
another canonical key as before. -/
theorem values_del (h : Header) (name name' : String) :
    (h.del name).values name' = if canonicalKey name' = canonicalKey name then [] else h.values name' := by
  unfold values
  rw [rawValues_del]
  split <;> rfl

end Http.Header

namespace Composition

open Transclusion.Http Transclusion.Time Transclusion.Config

theorem build_nil (doc : String) (elapsed : Int) (cache : Cache.CacheStats) :
    Page.build doc [] elapsed cache =
      { document := doc, includes := [], primary := none, content := doc, elapsed, cache } := by
  simpa [Page.build, substitute] using sliceText_whole doc

/-- Without directives to resolve, or with transclusion disabled, composing
loads nothing and seals the document with no includes. -/
theorem transclude_plain {cfg : TransclusionConfig} {doc : String} (n : Node) (header : Header)
    (h : cfg.enabled = false ∨ scan doc.toUTF8 = []) :
    ∃ elapsed, transclude cfg n doc header = (Page.build doc [] elapsed n.store.stats, n) := by
  unfold transclude
  rcases h with h | h
  · exact ⟨0, by simp [h]⟩
  · by_cases he : cfg.enabled = true
    · have h' : scan doc.toByteArray = [] := h
      exact ⟨n.clock.sub n.clock, by simp [he, h']⟩
    · exact ⟨0, by simp [he]⟩

/-- A page without includes applies only its Cache-Control: a nonempty one
replaces the header's values and drops `Expires`. -/
theorem applyTo_build_nil (doc : String) (elapsed : Int) (cache : Cache.CacheStats) (forward : List String)
    (h : Header) (now : Instant) :
    (Page.build doc [] elapsed cache).applyTo forward h now =
      if h.get "Cache-Control" = "" then h
      else (h.set "Cache-Control" (h.get "Cache-Control")).del "Expires" := by
  simp [build_nil, Page.applyTo, Page.cacheControl, Page.header, String.isEmpty_iff]

/-- What composing a document without directives gives, for every node,
request header, status, statistics setting and response header map. -/
structure PlainPage (cfg : TransclusionConfig) (n : Node) (doc : String) (header : Header) : Prop where
  node : (transclude cfg n doc header).2 = n
  includes : (transclude cfg n doc header).1.includes = []
  status : ∀ default, (transclude cfg n doc header).1.status default = default
  content : ∀ stats now, stats.appendToContent = false → (transclude cfg n doc header).1.text stats now = doc
  kept : ∀ forward h now, h.get "Cache-Control" = "" → (transclude cfg n doc header).1.applyTo forward h now = h
  rewritten : ∀ forward h now, h.get "Cache-Control" ≠ "" → ∀ name,
    ((transclude cfg n doc header).1.applyTo forward h now).values name =
      if canonicalKey name = "Expires" then []
      else if canonicalKey name = "Cache-Control" then [h.get "Cache-Control"]
      else h.values name

/-- A document in which the scanner finds no directive, or any document while
transclusion is disabled, composes as `PlainPage` says. -/
theorem plain_page_metadata {cfg : TransclusionConfig} {doc : String} (n : Node) (header : Header)
    (hplain : cfg.enabled = false ∨ scan doc.toUTF8 = []) : PlainPage cfg n doc header := by
  obtain ⟨elapsed, ht⟩ := transclude_plain n header hplain
  refine ⟨by rw [ht], by rw [ht, build_nil], fun _ => by rw [ht, build_nil]; rfl, ?_, ?_, ?_⟩
  · intro stats now hs
    simp [ht, build_nil, Page.text, hs]
  · intro forward h now hcc
    rw [ht, applyTo_build_nil, if_pos hcc]
  · intro forward h now hcc name
    have hexp : canonicalKey "Expires" = "Expires" := by decide
    have hcc' : canonicalKey "Cache-Control" = "Cache-Control" := by decide
    rw [ht, applyTo_build_nil, if_neg hcc, Header.values_del, Header.values_set, hexp, hcc']

/-- A page with no directive, once with transclusion disabled and once with it
on, under origin headers that carry two Cache-Control values and an Expires:
only the first Cache-Control value is kept, and Expires goes. -/
theorem plain_page_metadata_public :
    let origin : Header :=
      ⟨[("Cache-Control", some ["public", "max-age=60"]), ("Expires", some ["Thu, 01 Jan 2099 00:00:00 GMT"])]⟩
    ((({ enabled := false } : TransclusionConfig).enabled = false ∨ scan "<p>none</p>".toUTF8 = []) ∧
        PlainPage { enabled := false } default "<p>none</p>" {}) ∧
      (({} : TransclusionConfig).enabled = false ∨ scan "<p>none</p>".toUTF8 = []) ∧
      PlainPage {} default "<p>none</p>" {} ∧
      ((transclude {} default "<p>none</p>" {}).1.applyTo [] origin ⟨0, 0⟩).values "Cache-Control" = ["public"] ∧
      ((transclude {} default "<p>none</p>" {}).1.applyTo [] origin ⟨0, 0⟩).values "Expires" = [] := by
  intro origin
  have hscan : scan "<p>none</p>".toUTF8 = [] := by cbv
  have hp : PlainPage {} default "<p>none</p>" {} := plain_page_metadata default {} (.inr hscan)
  have hget : origin.get "Cache-Control" = "public" := by decide
  have hcc : origin.get "Cache-Control" ≠ "" := by rw [hget]; decide
  refine ⟨⟨.inl rfl, plain_page_metadata default {} (.inl rfl)⟩, .inr hscan, hp, ?_, ?_⟩
  · rw [hp.rewritten [] origin ⟨0, 0⟩ hcc, hget]
    decide
  · rw [hp.rewritten [] origin ⟨0, 0⟩ hcc]
    decide

end Composition

end Transclusion
