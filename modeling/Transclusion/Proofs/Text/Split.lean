import Mathlib.Data.String.Basic
import Mathlib.Data.List.TakeWhile
import Transclusion.Text.Blank

/-!
# Splitting text at one character

Lists such as `Access-Control-Expose-Headers` values and rule match
expressions are cut at one separator character and their parts trimmed.
Splitting a string at a one-character separator is splitting its characters
(`splitOn_of_toList`), so the list lemmas apply: a joined list splits back
into the parts of its pieces (`splitOn_intercalate`), and blanks around the
whole text only ever sit around its first and last parts, so trimming before
splitting changes no trimmed part (`map_trimBlank_splitOn_trimBlank`).
-/

namespace Transclusion.Text

open String

/-! ## Strings split as their characters do -/

/-- The split loop at a one-character separator, from the start of the
current part `m` to the end of the text: the parts found so far, then the
characters left split at the separator. -/
theorem splitOnAux_singleton (c : Char) (l m r : List Char) (acc : List String) :
    splitOnAux (ofList (l ++ m ++ r)) (singleton c) ⟨utf8Len l⟩ ⟨utf8Len l + utf8Len m⟩ 0 acc =
      acc.reverse ++ (List.splitOnPPrepend (· == c) r m.reverse).map ofList := by
  have hsep : Pos.Raw.get (singleton c) 0 = c := get_of_valid [] [c]
  have hsepnext : Pos.Raw.next (singleton c) 0 = ⟨c.utf8Size⟩ := by
    simpa using next_of_valid [] c []
  have hsepend : Pos.Raw.atEnd (singleton c) ⟨c.utf8Size⟩ := by
    simpa [-ofList_append] using (atEnd_of_valid [c] []).mpr rfl
  induction r generalizing l m acc with
  | nil =>
    have hend := (atEnd_of_valid (l ++ m) []).mpr rfl
    have hext := extract_of_valid l m []
    simp only [utf8Len_append, List.append_nil] at hend hext
    unfold splitOnAux
    simp only [List.append_nil]
    rw [if_pos hend, hext]
    simp
  | cons x r ih =>
    have hend : Pos.Raw.atEnd (ofList (l ++ m ++ x :: r)) ⟨utf8Len l + utf8Len m⟩ = false := by
      have := atEnd_of_valid (l ++ m) (x :: r)
      simp only [utf8Len_append] at this
      exact Bool.eq_false_iff.mpr fun h => List.cons_ne_nil _ _ (this.mp h)
    have hget := get_of_valid (l ++ m) (x :: r)
    have hnext := next_of_valid (l ++ m) x r
    have hext := extract_of_valid l m (x :: r)
    simp only [utf8Len_append] at hget hnext
    unfold splitOnAux
    simp only [hend, hget, hnext, hsep, hsepnext, hsepend, Bool.false_eq_true, if_false, if_true,
      List.headD_cons]
    split
    · -- the separator: the current part ends before it and a new one starts after it
      rename_i hx
      have hxc : x = c := by simpa using hx
      have hback : (⟨utf8Len l + utf8Len m + x.utf8Size⟩ : Pos.Raw).unoffsetBy ⟨c.utf8Size⟩ =
          ⟨utf8Len l + utf8Len m⟩ := by
        simp [Pos.Raw.unoffsetBy, hxc]
      rw [hback, hext, @List.splitOnPPrepend_cons_pos _ (· == c) x r m.reverse hx]
      simpa [Nat.add_assoc] using ih (l ++ m ++ [x]) [] (ofList m :: acc)
    · -- any other character joins the current part
      rename_i hx
      have hstay : (⟨utf8Len l + utf8Len m⟩ : Pos.Raw).unoffsetBy 0 = ⟨utf8Len l + utf8Len m⟩ := by
        simp [Pos.Raw.unoffsetBy]
      rw [hstay, hnext, @List.splitOnPPrepend_cons_neg _ (· == c) x r m.reverse (by simpa using hx)]
      simpa [Nat.add_assoc] using ih l (m ++ [x]) acc

theorem splitOn_of_toList {sep : String} {c : Char} (hsep : sep.toList = [c]) (s : String) :
    s.splitOn sep = (s.toList.splitOn c).map ofList := by
  have hsing : sep = singleton c := String.toList_inj.mp (by simp [hsep])
  subst hsing
  have hne : (singleton c == "") = false := by simp
  simpa [splitOn, hne, List.splitOn_eq_splitOnP] using splitOnAux_singleton c [] [] s.toList []

/-! ## Parts of a split -/

theorem not_mem_of_mem_splitOn {c : Char} :
    ∀ {l w : List Char}, w ∈ l.splitOn c → c ∉ w
  | [], w, hw => by
    simp only [List.splitOn_nil, List.mem_singleton] at hw
    simp [hw]
  | x :: l, w, hw => by
    rw [List.splitOn_cons_eq_if_modifyHead] at hw
    split at hw
    · -- a separator closes an empty part
      rcases List.mem_cons.mp hw with rfl | hw
      · simp
      · exact not_mem_of_mem_splitOn hw
    · -- any other character opens the first part of the rest
      rename_i hx
      obtain ⟨first, rest, hsplit⟩ := List.exists_cons_of_ne_nil (List.splitOn_ne_nil c l)
      rw [hsplit, List.modifyHead_cons] at hw
      rcases List.mem_cons.mp hw with rfl | hw
      · have hfirst := not_mem_of_mem_splitOn (hsplit ▸ (List.mem_cons_self : first ∈ first :: rest))
        simp only [List.mem_cons, not_or]
        exact ⟨fun h => hx (by simp [h]), hfirst⟩
      · exact not_mem_of_mem_splitOn (hsplit ▸ List.mem_cons_of_mem first hw)

/-- Characters other than the separator put before a text join its first
part. -/
theorem splitOn_free_append {c : Char} {w : List Char} (hw : c ∉ w) (l : List Char) :
    ∃ first rest, l.splitOn c = first :: rest ∧ (w ++ l).splitOn c = (w ++ first) :: rest := by
  induction w with
  | nil =>
    obtain ⟨first, rest, hsplit⟩ := List.exists_cons_of_ne_nil (List.splitOn_ne_nil c l)
    exact ⟨first, rest, hsplit, by simpa using hsplit⟩
  | cons x w ih =>
    have hx : (x == c) = false := by
      simp only [List.mem_cons, not_or] at hw
      simpa using Ne.symm hw.1
    obtain ⟨first, rest, hsplit, hwsplit⟩ := ih (fun h => hw (List.mem_cons_of_mem x h))
    refine ⟨first, rest, hsplit, ?_⟩
    rw [List.cons_append, List.splitOn_cons_eq_if_modifyHead, if_neg (by simp [hx]), hwsplit]
    rfl

/-- Characters other than the separator put after a text join its last
part. -/
theorem splitOn_append_free {c : Char} {w : List Char} (hw : c ∉ w) :
    ∀ l : List Char, ∃ init last, l.splitOn c = init ++ [last] ∧ (l ++ w).splitOn c = init ++ [last ++ w]
  | [] => ⟨[], [], by simp, by simpa using List.splitOn_eq_singleton hw⟩
  | x :: l => by
    obtain ⟨init, last, hsplit, hwsplit⟩ := splitOn_append_free hw l
    rw [List.cons_append, List.splitOn_cons_eq_if_modifyHead, List.splitOn_cons_eq_if_modifyHead,
      hsplit, hwsplit]
    split
    · exact ⟨[] :: init, last, rfl, rfl⟩
    · -- the character opens the first part, which is the last one when there is only one
      cases init with
      | nil => exact ⟨[], x :: last, rfl, rfl⟩
      | cons first init => exact ⟨(x :: first) :: init, last, rfl, rfl⟩

/-! ## Trimmed parts -/

theorem trimBlank_ofList (l : List Char) : trimBlank (ofList l) = ofList (trimBlankList l) := by
  simp [trimBlank]

theorem trimBlankList_blank_append {w : List Char} (hw : ∀ x ∈ w, isBlank x) (l : List Char) :
    trimBlankList (w ++ l) = trimBlankList l := by
  simp [trimBlankList, List.dropWhile_append_of_pos hw]

theorem trimBlankList_append_blank {w : List Char} (hw : ∀ x ∈ w, isBlank x) (l : List Char) :
    trimBlankList (l ++ w) = trimBlankList l := by
  have hwr : ∀ x ∈ w.reverse, isBlank x := by simpa using hw
  unfold trimBlankList
  rw [List.dropWhile_append]
  split
  · -- the text is blank throughout, and so is what follows it
    rename_i hblank
    have hl : l.dropWhile isBlank = [] := List.isEmpty_iff.mp hblank
    rw [hl, List.dropWhile_eq_nil_iff.mpr (fun x hx => hw x hx)]
  · rw [List.reverse_append, List.dropWhile_append_of_pos hwr]

theorem trimBlankList_around (l : List Char) :
    ∃ w₁ w₂, l = w₁ ++ trimBlankList l ++ w₂ ∧ (∀ x ∈ w₁, isBlank x) ∧ ∀ x ∈ w₂, isBlank x := by
  let d := l.dropWhile isBlank
  refine ⟨l.takeWhile isBlank, (d.reverse.takeWhile isBlank).reverse, ?_,
    fun x hx => List.mem_takeWhile_imp hx, fun x hx => List.mem_takeWhile_imp (List.mem_reverse.mp hx)⟩
  -- the tail's blanks are the head's blanks of the reversed rest
  have hd : d = (d.reverse.dropWhile isBlank).reverse ++ (d.reverse.takeWhile isBlank).reverse := by
    rw [← List.reverse_append, List.takeWhile_append_dropWhile, List.reverse_reverse]
  calc l = l.takeWhile isBlank ++ d := List.takeWhile_append_dropWhile.symm
    _ = l.takeWhile isBlank ++ ((d.reverse.dropWhile isBlank).reverse ++
          (d.reverse.takeWhile isBlank).reverse) := by rw [← hd]
    _ = _ := by rw [List.append_assoc]; rfl

theorem map_trim_splitOn_blank_append {c : Char} (hc : isBlank c = false) {w : List Char}
    (hw : ∀ x ∈ w, isBlank x) (l : List Char) :
    ((w ++ l).splitOn c).map trimBlankList = (l.splitOn c).map trimBlankList := by
  have hcw : c ∉ w := fun h => absurd (hw c h) (by simp [hc])
  obtain ⟨first, rest, hsplit, hwsplit⟩ := splitOn_free_append hcw l
  rw [hsplit, hwsplit, List.map_cons, List.map_cons, trimBlankList_blank_append hw]

theorem map_trim_splitOn_append_blank {c : Char} (hc : isBlank c = false) {w : List Char}
    (hw : ∀ x ∈ w, isBlank x) (l : List Char) :
    ((l ++ w).splitOn c).map trimBlankList = (l.splitOn c).map trimBlankList := by
  have hcw : c ∉ w := fun h => absurd (hw c h) (by simp [hc])
  obtain ⟨init, last, hsplit, hwsplit⟩ := splitOn_append_free hcw l
  rw [hsplit, hwsplit, List.map_append, List.map_append, List.map_singleton, List.map_singleton,
    trimBlankList_append_blank hw]

/-- Trimming a text before splitting it at a character that is not blank
changes none of the trimmed parts. -/
theorem map_trim_splitOn_trim {c : Char} (hc : isBlank c = false) (l : List Char) :
    ((trimBlankList l).splitOn c).map trimBlankList = (l.splitOn c).map trimBlankList := by
  obtain ⟨w₁, w₂, hl, hw₁, hw₂⟩ := trimBlankList_around l
  conv => rhs; rw [hl, List.append_assoc]
  rw [map_trim_splitOn_blank_append hc hw₁, map_trim_splitOn_append_blank hc hw₂]

/-! ## At a one-character separator -/

section OneCharacter

variable {sep : String} {c : Char}

theorem splitOn_append_sep (hsep : sep.toList = [c]) (a b : String) :
    (a ++ sep ++ b).splitOn sep = a.splitOn sep ++ b.splitOn sep := by
  simp only [splitOn_of_toList hsep, String.toList_append, hsep, List.append_assoc,
    List.singleton_append, List.splitOn_append_cons_self, List.map_append]

theorem splitOn_of_not_mem (hsep : sep.toList = [c]) {s : String} (h : c ∉ s.toList) :
    s.splitOn sep = [s] := by
  rw [splitOn_of_toList hsep, List.splitOn_eq_singleton h]
  simp

/-- Pieces joined at the separator split into the parts of every piece. -/
theorem splitOn_intercalate (hsep : sep.toList = [c]) :
    ∀ {l : List String}, l ≠ [] → (sep.intercalate l).splitOn sep = l.flatMap (·.splitOn sep)
  | [a], _ => by simp
  | a :: b :: l, _ => by
    rw [String.intercalate_cons_of_ne_nil (List.cons_ne_nil b l), splitOn_append_sep hsep,
      splitOn_intercalate hsep (List.cons_ne_nil b l)]
    simp only [List.flatMap_cons]

/-- The parts of a split are the pieces that join to the text and hold no
separator. -/
theorem splitOn_eq_iff (hsep : sep.toList = [c]) (s : String) (parts : List String) :
    s.splitOn sep = parts ↔ sep.intercalate parts = s ∧ parts ≠ [] ∧ ∀ p ∈ parts, c ∉ p.toList := by
  rw [splitOn_of_toList hsep]
  constructor
  · rintro rfl
    refine ⟨?_, by simp, ?_⟩
    · apply String.toList_inj.mp
      simp [hsep, List.map_map, Function.comp_def]
    · intro p hp
      obtain ⟨w, hw, rfl⟩ := List.mem_map.mp hp
      simpa using not_mem_of_mem_splitOn hw
  · rintro ⟨hjoin, hne, hfree⟩
    have hchars : s.toList = [c].intercalate (parts.map String.toList) := by
      rw [← hjoin, String.toList_intercalate, hsep]
    have hsplit : ([c].intercalate (parts.map String.toList)).splitOn c = parts.map String.toList :=
      List.splitOn_intercalate c (by simpa using hfree) (by simpa using hne)
    rw [hchars, hsplit, List.map_map]
    simp [Function.comp_def]

/-- Trimming a text before splitting it at a separator that is not blank
changes none of the trimmed parts. -/
theorem map_trimBlank_splitOn_trimBlank (hsep : sep.toList = [c]) (hc : isBlank c = false)
    (s : String) : ((trimBlank s).splitOn sep).map trimBlank = (s.splitOn sep).map trimBlank := by
  have htrim : (trimBlank s).toList = trimBlankList s.toList := by simp [trimBlank]
  have hparts := congrArg (List.map ofList) (map_trim_splitOn_trim hc s.toList)
  simp only [List.map_map] at hparts
  rw [splitOn_of_toList hsep, splitOn_of_toList hsep, htrim, List.map_map, List.map_map]
  simpa [Function.comp_def, trimBlank_ofList] using hparts

end OneCharacter

end Transclusion.Text
