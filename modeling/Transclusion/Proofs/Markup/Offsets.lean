import Transclusion.Markup.Lexer

/-!
# Where tokens lie

Every token the lexer reads starts where reading stood and stops where
reading goes on, and a tag token stops after it starts, within the document
(`nextToken_reads`). So the tokens of a document are laid out in it: their
starts increase, each stops before any later one starts, and every tag covers
bytes of the document (`tokens_laid`). Every tag opens with `<` and closes
with `>` (`tokens_bracketed`), so its ends are character boundaries of a
text document.
-/

namespace Transclusion.Markup

/-- Start tags, self-closing or not, and end tags. -/
def TokenKind.isTag : TokenKind → Bool
  | .startTag | .selfClosingTag | .endTag => true
  | _ => false

variable (doc : ByteArray)

/-! ## Reading a tag -/

theorem skipBlanks_bounds {i q : Nat} (h : skipBlanks doc i = some q) : i ≤ q ∧ q < doc.size := by
  fun_induction skipBlanks doc i with
  | case1 i hi hs ih => have := ih h; omega
  | case2 i hi hs => cases h; exact ⟨Nat.le_refl _, hi⟩
  | case3 i hi => cases h

theorem tagNameEnd_le {i ne p : Nat} (h : tagNameEnd doc i = some (ne, p)) : i ≤ p := by
  fun_induction tagNameEnd doc i with
  | case1 i hi c hc => cases h; omega
  | case2 i hi c hc hend => cases h; omega
  | case3 i hi c hc hend ih => have := ih h; omega
  | case4 i hi => cases h

theorem tagAttrs_bounds {i : Nat} {acc as : List AttrSpan} {e : Nat} (h : tagAttrs doc i acc = some (as, e)) :
    i < e ∧ e ≤ doc.size := by
  fun_induction tagAttrs doc i acc with
  | case1 i acc hi hgt => cases h; omega
  | case5 i acc hi hgt k hk vs ve r hv acc' p hp hip ih => have := ih h; omega
  | _ => cases h

theorem readTag_bounds {i ne e : Nat} {as : List AttrSpan} (h : readTag doc i = some (ne, as, e)) :
    i < e ∧ e ≤ doc.size := by
  unfold readTag at h
  split at h
  · cases h
  · rename_i ne' p hn
    split at h
    · cases h
    · rename_i q hq
      obtain ⟨⟨as', e'⟩, ht, hr⟩ := Option.map_eq_some_iff.mp h
      cases hr
      have h1 := tagNameEnd_le doc hn
      have h2 := skipBlanks_bounds doc hq
      have h3 := tagAttrs_bounds doc ht
      omega

theorem nextOpening_ge {i j : Nat} {c : UInt8} (h : nextOpening doc i = some (j, c)) : i ≤ j := by
  fun_induction nextOpening doc i with
  | case1 i hi hlt hi2 c' hc => simp only [Option.some.injEq, Prod.mk.injEq] at h; omega
  | case2 i hi hlt hi2 c' hc ih => have := ih h; omega
  | case4 i hi hlt ih => have := ih h; omega
  | _ => cases h

/-! ## Reading one token -/

theorem markupDecl_reads (start : Nat) :
    (markupDecl doc start).1.start = start ∧ (markupDecl doc start).1.stop = (markupDecl doc start).2.1 ∧
      (markupDecl doc start).1.kind.isTag = false := by
  unfold markupDecl
  dsimp only
  repeat' split
  all_goals exact ⟨rfl, rfl, rfl⟩

/-- What reading one token from `p` gives: the token starts at `p` and stops
where reading goes on, and a tag stops after `p` and within the document. -/
structure Reads (p : Nat) (t : Token) (st : LexState) : Prop where
  start : t.start = p
  stop : t.stop = st.pos
  tag : t.kind.isTag = true → p < t.stop ∧ t.stop ≤ doc.size

theorem markupToken_reads {p : Nat} {t : Token} {st : LexState} (h : markupToken doc p = some (t, st)) :
    Reads doc p t st := by
  unfold markupToken at h
  split at h
  · split at h
    · cases h; exact ⟨rfl, rfl, fun h => by cases h⟩
    · cases h
  · rename_i i c hi
    have hpi := nextOpening_ge doc hi
    split at h
    · cases h; exact ⟨rfl, rfl, fun h => by cases h⟩
    · have hip : i = p := by omega
      subst hip
      split at h
      · split at h
        · cases h
        · rename_i ne attrs e hr
          have := readTag_bounds doc hr
          cases h
          exact ⟨rfl, rfl, fun _ => by dsimp only; omega⟩
      · split at h
        · dsimp only at h
          split at h
          · split at h
            · cases h; exact ⟨rfl, rfl, fun h => by cases h⟩
            · split at h
              · split at h
                · cases h
                · rename_i ne attrs e hr
                  have := readTag_bounds doc hr
                  cases h
                  exact ⟨rfl, rfl, fun _ => by dsimp only; omega⟩
              · cases h; exact ⟨rfl, rfl, fun h => by cases h⟩
          · cases h; exact ⟨rfl, rfl, fun h => by cases h⟩
        · split at h
          · obtain ⟨h1, h2, h3⟩ := markupDecl_reads doc i
            rcases hmd : markupDecl doc i with ⟨t₀, e, ended⟩
            rw [hmd] at h h1 h2 h3
            cases h
            exact ⟨h1, h2, fun h => by rw [h3] at h; cases h⟩
          · cases h; exact ⟨rfl, rfl, fun h => by cases h⟩

theorem nextToken_reads {st st' : LexState} {t : Token} (h : nextToken doc st = some (t, st')) :
    Reads doc st.pos t st' := by
  unfold nextToken at h
  split at h
  · cases h
  · split at h
    · split at h
      · cases h; exact ⟨rfl, rfl, fun h => by cases h⟩
      · cases h
    · -- raw text runs to its end tag, in script text as in any other
      dsimp only at h
      split at h <;> split at h
      · cases h; exact ⟨rfl, rfl, fun h => by cases h⟩
      · exact markupToken_reads doc h
      · cases h; exact ⟨rfl, rfl, fun h => by cases h⟩
      · exact markupToken_reads doc h
    · exact markupToken_reads doc h

/-! ## The tokens of a document -/

/-- Tokens laid out in a document from `pos` on: none starts before `pos`,
each stops before any later one starts, and a tag covers bytes of the
document. -/
structure Laid (pos : Nat) (ts : List Token) : Prop where
  after : ∀ t ∈ ts, pos ≤ t.start
  starts : ts.Pairwise fun a b => a.start < b.start
  sorted : ts.Pairwise fun a b => a.stop ≤ b.start
  tags : ∀ t ∈ ts, t.kind.isTag = true → t.start < t.stop ∧ t.stop ≤ doc.size

/-- A token read from `p`, in front of tokens laid out from where it stops,
when reading moved forward. -/
theorem Laid.cons {p : Nat} {t : Token} {st : LexState} (hr : Reads doc p t st) (hp : p < st.pos)
    {ts : List Token} (hl : Laid doc st.pos ts) : Laid doc p (t :: ts) := by
  refine ⟨?_, List.pairwise_cons.mpr ⟨fun b hb => ?_, hl.starts⟩,
    List.pairwise_cons.mpr ⟨fun b hb => ?_, hl.sorted⟩, ?_⟩
  · intro x hx
    rcases List.mem_cons.mp hx with rfl | hx
    · exact Nat.le_of_eq hr.start.symm
    · exact Nat.le_trans (Nat.le_of_lt hp) (hl.after x hx)
  · rw [hr.start]; exact Nat.lt_of_lt_of_le hp (hl.after b hb)
  · rw [hr.stop]; exact hl.after b hb
  · intro x hx hk
    rcases List.mem_cons.mp hx with rfl | hx
    · rw [hr.start]; exact hr.tag hk
    · exact hl.tags x hx hk

/-- The tokens after the first of a layout are laid out from where it leaves
off: after its end when it is a tag. -/
theorem Laid.next {p : Nat} {t : Token} {ts : List Token} (hl : Laid doc p (t :: ts)) :
    Laid doc (if t.kind.isTag then t.stop else p) ts := by
  refine ⟨fun x hx => ?_, (List.pairwise_cons.mp hl.starts).2, (List.pairwise_cons.mp hl.sorted).2,
    fun x hx => hl.tags x (List.mem_cons_of_mem _ hx)⟩
  split
  · exact (List.pairwise_cons.mp hl.sorted).1 x hx
  · exact hl.after x (List.mem_cons_of_mem _ hx)

theorem tokensFrom_laid (st : LexState) : Laid doc st.pos (tokensFrom doc st) := by
  fun_induction tokensFrom doc st with
  | case1 st hn => exact ⟨by simp, by simp, by simp, by simp⟩
  | case2 st t st' hn hadv ih => exact Laid.cons doc (nextToken_reads doc hn) hadv.1 ih
  | case3 st t st' hn hadv =>
    -- the last token is laid out whether or not reading moved on
    have hr := nextToken_reads doc hn
    refine ⟨fun x hx => ?_, List.pairwise_singleton _ _, List.pairwise_singleton _ _, fun x hx hk => ?_⟩ <;>
      obtain rfl := List.mem_singleton.mp hx
    · exact Nat.le_of_eq hr.start.symm
    · rw [hr.start]; exact hr.tag hk

theorem tokens_laid : Laid doc 0 (tokens doc) := tokensFrom_laid doc {}

/-! ## Tags are bracketed -/

/-- A tag's first byte is `<` and its last byte `>`. -/
def Bracketed (t : Token) : Prop := doc[t.start]? = some 60 ∧ doc[t.stop - 1]? = some 62

theorem nextOpening_at {i j : Nat} {c : UInt8} (h : nextOpening doc i = some (j, c)) : doc[j]? = some 60 := by
  fun_induction nextOpening doc i with
  | case1 i hi hlt hi2 c' hc =>
    simp only [Option.some.injEq, Prod.mk.injEq] at h
    obtain ⟨rfl, -⟩ := h
    simpa [hi] using hlt
  | case2 i hi hlt hi2 c' hc ih => exact ih h
  | case4 i hi hlt ih => exact ih h
  | _ => cases h

theorem tagAttrs_close {i : Nat} {acc as : List AttrSpan} {e : Nat} (h : tagAttrs doc i acc = some (as, e)) :
    doc[e - 1]? = some 62 := by
  fun_induction tagAttrs doc i acc with
  | case1 i acc hi hgt =>
    simp only [Option.some.injEq, Prod.mk.injEq] at h
    obtain ⟨-, rfl⟩ := h
    simpa [hi] using hgt
  | case5 i acc hi hgt k hk vs ve r hv acc' p hp hip ih => exact ih h
  | _ => cases h

theorem readTag_close {i ne e : Nat} {as : List AttrSpan} (h : readTag doc i = some (ne, as, e)) :
    doc[e - 1]? = some 62 := by
  unfold readTag at h
  split at h
  · cases h
  · split at h
    · cases h
    · obtain ⟨⟨as', e'⟩, ht, hr⟩ := Option.map_eq_some_iff.mp h
      cases hr
      exact tagAttrs_close doc ht

/-- A tag read as the next token of ordinary markup starts at the `<` that
`nextOpening` found and stops after the `>` that `readTag` reached. -/
theorem markupToken_bracketed {p : Nat} {t : Token} {st : LexState} (h : markupToken doc p = some (t, st))
    (ht : t.kind.isTag = true) : Bracketed doc t := by
  unfold markupToken at h
  split at h
  · split at h
    · cases h; cases ht
    · cases h
  · rename_i i c hi
    have hlt := nextOpening_at doc hi
    split at h
    · cases h; cases ht
    · split at h
      · -- a start tag, self-closing or not
        split at h
        · cases h
        · rename_i ne attrs e hr
          cases h
          exact ⟨hlt, readTag_close doc hr⟩
      · split at h
        · dsimp only at h
          split at h
          · split at h
            · cases h; cases ht
            · split at h
              · -- an end tag
                split at h
                · cases h
                · rename_i ne attrs e hr
                  cases h
                  exact ⟨hlt, readTag_close doc hr⟩
              · cases h; cases ht
          · cases h; cases ht
        · split at h
          · rcases hmd : markupDecl doc i with ⟨t₀, e, ended⟩
            have hk := (markupDecl_reads doc i).2.2
            rw [hmd] at h hk
            cases h
            rw [hk] at ht; cases ht
          · cases h; cases ht

theorem nextToken_bracketed {st st' : LexState} {t : Token} (h : nextToken doc st = some (t, st'))
    (ht : t.kind.isTag = true) : Bracketed doc t := by
  unfold nextToken at h
  split at h
  · cases h
  · split at h
    · split at h
      · cases h; cases ht
      · cases h
    · dsimp only at h
      split at h <;> split at h
      · cases h; cases ht
      · exact markupToken_bracketed doc h ht
      · cases h; cases ht
      · exact markupToken_bracketed doc h ht
    · exact markupToken_bracketed doc h ht

theorem tokensFrom_bracketed (st : LexState) :
    ∀ t ∈ tokensFrom doc st, t.kind.isTag = true → Bracketed doc t := by
  fun_induction tokensFrom doc st with
  | case1 st hn => intro t ht; cases ht
  | case2 st t st' hn hadv ih =>
    intro x hx
    rcases List.mem_cons.mp hx with rfl | hx
    · exact nextToken_bracketed doc hn
    · exact ih x hx
  | case3 st t st' hn hadv =>
    intro x hx
    obtain rfl := List.mem_singleton.mp hx
    exact nextToken_bracketed doc hn

theorem tokens_bracketed : ∀ t ∈ tokens doc, t.kind.isTag = true → Bracketed doc t :=
  tokensFrom_bracketed doc {}

end Transclusion.Markup
