import Transclusion.Proxy.Headers
import Transclusion.Proofs.Composition.PlainPages
import Transclusion.Proofs.Text.Split

/-!
# Exposing a header to cross-origin scripts

`exposeHeader h name` makes sure that `Access-Control-Expose-Headers` lists
`name`. The list is read as its value lines cut at commas, each part trimmed
(`exposedNames`). For a name that can be listed (nonempty, with neither a
comma nor a blank), exposing keeps every listed name in its place and appends
the name exactly when no listed name equals it under case folding
(`exposedNames_exposeHeader`). So the name is listed afterwards, everything
listed before is still listed in the same order, and exposing the name a
second time changes nothing (`expose_merge`). No other header is touched
(`values_exposeHeader_of_ne`).
-/

namespace Transclusion.Proxy

open Transclusion.Http Transclusion.Text

/-- The names `Access-Control-Expose-Headers` lists: every value line cut at
commas, each part trimmed. -/
def exposedNames (h : Header) : List String :=
  (h.values exposeList).flatMap fun line => (line.splitOn ",").map trimBlank

/-- A name that a comma-separated list can hold as one item: nonempty, with no
comma and no blank. -/
structure ListableName (name : String) : Prop where
  nonempty : name ≠ ""
  no_comma : ',' ∉ name.toList
  no_blank : ∀ c ∈ name.toList, isBlank c = false

theorem comma_toList : ",".toList = [','] := rfl

theorem equalFold_self (s : String) : equalFold s s = true := by
  simp only [equalFold, beq_self_eq_true, Bool.true_and, List.all_eq_true, List.mem_iff_getElem]
  -- the text is zipped with itself, so every pair holds one character twice
  rintro ⟨x, y⟩ ⟨i, hi, hxy⟩
  simp only [List.getElem_zip, Prod.mk.injEq] at hxy
  simp [← hxy.1, ← hxy.2]

theorem trimBlank_of_no_blank {name : String} (h : ∀ c ∈ name.toList, isBlank c = false) :
    trimBlank name = name := by
  have hfront : name.toList.dropWhile isBlank = name.toList := by
    cases hn : name.toList with
    | nil => rfl
    | cons c cs => simp [h c (by simp [hn])]
  have hback : name.toList.reverse.dropWhile isBlank = name.toList.reverse := by
    cases hn : name.toList.reverse with
    | nil => rfl
    | cons c cs =>
      have hc : c ∈ name.toList := List.mem_reverse.mp (by simp [hn])
      simp [h c hc]
  simp [trimBlank, trimBlankList, hfront, hback]

theorem trimBlank_space_append (s : String) : trimBlank (" " ++ s) = trimBlank s := by
  have hchars : (" " ++ s).toList = [' '] ++ s.toList := by simp
  rw [trimBlank, hchars, trimBlankList_blank_append (by simp [isBlank_space]), trimBlank]

/-! ## What exposing touches -/

theorem exposedNames_set (h : Header) (v : String) :
    exposedNames (h.set exposeList v) = (v.splitOn ",").map trimBlank := by
  simp [exposedNames, Header.values_set]

theorem values_exposeHeader_of_ne (h : Header) (name : String) {name' : String}
    (hne : canonicalKey name' ≠ canonicalKey exposeList) :
    (exposeHeader h name).values name' = h.values name' := by
  unfold exposeHeader
  split
  · rfl
  · split
    · rw [Header.values_set, if_neg hne]
    · dsimp only
      split
      · rfl
      · rw [Header.values_set, if_neg hne]

/-- The test exposing makes on present list lines: some comma-separated part
of the joined lines, trimmed, equals the name under case folding. -/
theorem listed_iff {h : Header} {name : String} {lines : List String}
    (hlines : h.values exposeList = lines) (hne : lines ≠ []) :
    ((",".intercalate lines).splitOn ",").any (fun part => equalFold (trimBlank part) name) =
      (exposedNames h).any (equalFold · name) := by
  rw [splitOn_intercalate comma_toList hne, exposedNames, hlines]
  simp [List.any_flatMap, List.any_map, Function.comp_def]

/-! ## The merge -/

/-- Exposing a listable name keeps the listed names and appends the name when
no listed name equals it under case folding. -/
theorem exposedNames_exposeHeader (h : Header) {name : String} (hn : ListableName name) :
    exposedNames (exposeHeader h name) =
      if (exposedNames h).any (equalFold · name) then exposedNames h
      else exposedNames h ++ [name] := by
  have hname : (name.splitOn ",").map trimBlank = [name] := by
    rw [splitOn_of_not_mem comma_toList hn.no_comma]
    simp [trimBlank_of_no_blank hn.no_blank]
  have hempty : name.isEmpty = false := by simpa using hn.nonempty
  unfold exposeHeader
  simp only [hempty, Bool.false_eq_true, if_false]
  split
  · -- no list yet: it becomes the name alone
    rename_i hnone
    rw [exposedNames_set, hname]
    simp [exposedNames, hnone]
  · -- the list is present: the test reads the listed names
    rename_i hsome
    rw [listed_iff rfl hsome]
    split
    · rfl
    · -- the joined lines, trimmed, then the name after a comma and a space
      rw [exposedNames_set]
      have hjoin : ((",".intercalate (h.values exposeList)).splitOn ",").map trimBlank =
          exposedNames h := by
        rw [splitOn_intercalate comma_toList hsome, List.map_flatMap, exposedNames]
      have htail : ((" " ++ name).splitOn ",").map trimBlank = [name] := by
        have hfree : ',' ∉ (" " ++ name).toList := by simpa using hn.no_comma
        rw [splitOn_of_not_mem comma_toList hfree, List.map_singleton, trimBlank_space_append,
          trimBlank_of_no_blank hn.no_blank]
      have hsplit : trimBlank (",".intercalate (h.values exposeList)) ++ ", " ++ name =
          trimBlank (",".intercalate (h.values exposeList)) ++ "," ++ (" " ++ name) := by
        simp only [String.append_assoc]
        rfl
      rw [hsplit, splitOn_append_sep comma_toList, List.map_append,
        map_trimBlank_splitOn_trimBlank comma_toList (by decide), hjoin, htail]

theorem values_ne_nil_of_listed {h : Header} {name : String}
    (hlisted : (exposedNames h).any (equalFold · name) = true) : h.values exposeList ≠ [] := by
  intro hnone
  simp [exposedNames, hnone] at hlisted

theorem exposeHeader_of_listed {h : Header} {name : String}
    (hlisted : (exposedNames h).any (equalFold · name) = true) : exposeHeader h name = h := by
  have hpresent := values_ne_nil_of_listed hlisted
  unfold exposeHeader
  split
  · rfl
  · split
    · rename_i hnone
      exact absurd hnone hpresent
    · dsimp only
      rw [listed_iff rfl hpresent, hlisted, if_pos rfl]

theorem listed_after_exposeHeader (h : Header) {name : String} (hn : ListableName name) :
    (exposedNames (exposeHeader h name)).any (equalFold · name) = true := by
  rw [exposedNames_exposeHeader h hn]
  split
  · assumption
  · simp [equalFold_self]

/-- Exposing a listable name lists it under case folding, keeps every name
listed before in its order at the front of the list, and is idempotent. -/
theorem expose_merge (h : Header) {name : String} (hn : ListableName name) :
    (∃ x ∈ exposedNames (exposeHeader h name), equalFold x name = true) ∧
      exposedNames h <+: exposedNames (exposeHeader h name) ∧
      exposeHeader (exposeHeader h name) name = exposeHeader h name := by
  have hlisted := listed_after_exposeHeader h hn
  refine ⟨List.any_eq_true.mp hlisted, ?_, exposeHeader_of_listed hlisted⟩
  rw [exposedNames_exposeHeader h hn]
  split
  · exact List.prefix_refl _
  · exact List.prefix_append _ _

/-- Exposing the marker into a list that holds it in another case, among
blank and empty items on two lines. -/
theorem expose_merge_marker :
    ListableName markerHeader ∧
      let h : Header := ⟨[(exposeList, some [" ETag ,, ", "x-stitch"])]⟩
      (∃ x ∈ exposedNames (exposeHeader h markerHeader), equalFold x markerHeader = true) ∧
        exposedNames h <+: exposedNames (exposeHeader h markerHeader) ∧
        exposeHeader (exposeHeader h markerHeader) markerHeader = exposeHeader h markerHeader :=
  have hmarker : ListableName markerHeader := by
    refine ⟨by decide, by decide, ?_⟩
    rw [show markerHeader.toList = ['X', '-', 'S', 't', 'i', 't', 'c', 'h'] from rfl]
    simp [isBlank]
  ⟨hmarker, expose_merge _ hmarker⟩

end Transclusion.Proxy
