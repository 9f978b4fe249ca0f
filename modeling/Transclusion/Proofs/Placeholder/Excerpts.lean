import Transclusion.Proofs.Placeholder.Spans

/-!
# What a directive is made of

Every directive the scanner finds in a document of any bytes is a piece of
it (`Excerpt`): its bytes are exactly the document's bytes over its span, and
it is either one self-closing `stitch-include` tag with an empty fallback, or
a `stitch-include` start tag together with the first `stitch-include` end tag
after it, its fallback exactly the bytes between the two (`Placed`).

A self-closing directive inside a container that closes is part of that
container's fallback and is never found on its own (`Layout.nested`).

Proved: `scan_layout` (the directives of every document are laid out in it,
each an excerpt of it, and none starts inside a closed container).
-/

namespace Transclusion

open Transclusion.Markup

/-! ## Directives among the tokens -/

/-- A tag token named `stitch-include`, in any case. -/
def Markup.Token.Names (bytes : ByteArray) (t : Token) : Prop :=
  lowerSlice bytes t.nameStart t.nameStop = directiveTag

/-- An end tag that closes an open container. -/
def Markup.Token.Closes (bytes : ByteArray) (t : Token) : Prop := t.kind = .endTag ∧ t.Names bytes

/-- How a directive stands among the tokens of its document. -/
inductive Placed (doc : ByteArray) (d : Directive) : Prop
  /-- One self-closing tag, with no fallback. -/
  | single (t : Token) : t ∈ tokens doc → t.kind = .selfClosingTag → t.Names doc →
      d.start = t.start → d.stop = t.stop → d.fallback = [] → Placed doc d
  /-- A start tag and the first closing tag after it; the fallback is the
  bytes from the end of the one to the start of the other, both inside the
  directive's span. -/
  | container (pre mid post : List Token) (t₁ t₂ : Token) :
      tokens doc = pre ++ t₁ :: mid ++ t₂ :: post → (∀ t ∈ mid, ¬t.Closes doc) →
      t₁.kind = .startTag → t₁.Names doc → t₂.Closes doc →
      d.start = t₁.start → d.stop = t₂.stop → d.start < t₁.stop → t₁.stop ≤ t₂.start → t₂.start < d.stop →
      d.fallback = (doc.extract t₁.stop t₂.start).toList → Placed doc d

/-- A directive read off its document: its bytes are the document's bytes over
its span. -/
structure Excerpt (doc : ByteArray) (d : Directive) : Prop where
  raw : d.raw = (doc.extract d.start d.stop).toList
  placed : Placed doc d

/-- The directives of a document as they lie in it: laid out in order, each
an excerpt of it, and no self-closing directive tag inside a closed container
found on its own. -/
structure Layout (doc : ByteArray) (ds : List Directive) : Prop where
  spaced : Spaced doc.size ds
  excerpts : ∀ d ∈ ds, Excerpt doc d
  nested : ∀ c ∈ ds, ∀ t ∈ tokens doc, t.kind = .selfClosingTag → t.Names doc →
    c.start < t.start → t.start < c.stop → ∀ d ∈ ds, d.start ≠ t.start

/-! ## The scanner's walk -/

namespace ScanState

/-- What the scanner holds once it has walked the tokens `pre`: everything
found or kept aside is an excerpt of the document, and an open container was
opened by a directive start tag of `pre` after which no closing tag came. -/
structure Cut (doc : ByteArray) (pre : List Token) (s : ScanState) : Prop where
  found : ∀ d ∈ s.found, Excerpt doc d
  aside : ∀ d ∈ s.aside, Excerpt doc d
  opened : ∀ o, s.open? = some o → ∃ front t₁ mid, pre = front ++ t₁ :: mid ∧
    t₁.kind = .startTag ∧ t₁.Names doc ∧ o.start = t₁.start ∧ o.stop = t₁.stop ∧
    ∀ t ∈ mid, ¬t.Closes doc

theorem cut_empty (doc : ByteArray) : ({} : ScanState).Cut doc [] :=
  ⟨by simp, by simp, by simp⟩

theorem excerpt_single {doc : ByteArray} {t : Token} (ht : t ∈ tokens doc) (hk : t.kind = .selfClosingTag)
    (hn : t.Names doc) (attrs : List (String × String)) :
    Excerpt doc ⟨sliceBytes doc t.start t.stop, t.start, t.stop, attrs, []⟩ :=
  ⟨rfl, .single t ht hk hn rfl rfl rfl⟩

/-- Closing an open container at the end tag `t₂` gives an excerpt spanning
from the container's start tag to `t₂`. -/
theorem excerpt_closed {doc : ByteArray} {front mid rest : List Token} {t₁ t₂ : Token} {o : Directive}
    (hsplit : front ++ t₁ :: mid ++ t₂ :: rest = tokens doc) (hmid : ∀ t ∈ mid, ¬t.Closes doc)
    (hk₁ : t₁.kind = .startTag) (hn₁ : t₁.Names doc) (hc₂ : t₂.Closes doc)
    (hos : o.start = t₁.start) (hoe : o.stop = t₁.stop) (hle : o.stop ≤ t₂.start) :
    Excerpt doc { o with fallback := sliceBytes doc o.stop t₂.start,
                         raw := sliceBytes doc o.start t₂.stop, stop := t₂.stop } := by
  have hm₁ : t₁ ∈ tokens doc := by rw [← hsplit]; simp
  have hm₂ : t₂ ∈ tokens doc := by rw [← hsplit]; simp
  have hlt₁ := ((tokens_laid doc).tags t₁ hm₁ (by rw [hk₁]; rfl)).1
  have hlt₂ := ((tokens_laid doc).tags t₂ hm₂ (by rw [hc₂.1]; rfl)).1
  refine ⟨rfl, .container front mid rest t₁ t₂ hsplit.symm hmid hk₁ hn₁ hc₂ hos rfl ?_ ?_ hlt₂ ?_⟩
  · rw [hos]; exact hlt₁
  · omega
  · show sliceBytes doc o.stop t₂.start = _
    rw [hoe]
    rfl

/-- One token keeps what the scanner holds cut out of the document. The
scanner's layout invariant supplies that an open container stops before the
token starts. -/
theorem Cut.step {doc : ByteArray} {pre rest : List Token} {t : Token} {s : ScanState} {b : Nat}
    (h : s.Cut doc pre) (hsplit : pre ++ t :: rest = tokens doc) (hs : s.Sound doc.size b)
    (hb : b ≤ t.start) : (s.step doc t).Cut doc (pre ++ [t]) := by
  have ht : t ∈ tokens doc := by rw [← hsplit]; simp
  -- a container stays open, with `t` after its start tag, when `t` does not close it
  have keep : ∀ s' : ScanState, (∀ d ∈ s'.found, Excerpt doc d) → (∀ d ∈ s'.aside, Excerpt doc d) →
      s'.open? = s.open? → (∀ o, s.open? = some o → ¬t.Closes doc) → s'.Cut doc (pre ++ [t]) := by
    intro s' hf ha ho hnc
    refine ⟨hf, ha, fun o hso => ?_⟩
    rw [ho] at hso
    obtain ⟨front, t₁, mid, rfl, hk, hn, hs₁, he₁, hmid⟩ := h.opened o hso
    refine ⟨front, t₁, mid ++ [t], by simp, hk, hn, hs₁, he₁, fun x hx => ?_⟩
    rcases List.mem_append.mp hx with hx | hx
    · exact hmid x hx
    · rw [List.mem_singleton.mp hx]; exact hnc o hso
  have other : t.kind ≠ .endTag → ∀ o, s.open? = some o → ¬t.Closes doc := fun hne _ _ hc => hne hc.1
  unfold ScanState.step
  cases hk : t.kind with
  | startTag =>
    dsimp only
    split
    · -- a directive start tag opens a container
      rename_i hd
      obtain ⟨hn, hnone⟩ := (Bool.and_eq_true _ _).mp hd
      refine ⟨h.found, h.aside, fun o ho => ?_⟩
      cases ho
      exact ⟨pre, t, [], rfl, hk, by simpa [Token.Names] using hn, rfl, rfl, by simp⟩
    · exact keep s h.found h.aside rfl (other (by simp [hk]))
  | selfClosingTag =>
    dsimp only
    split
    · rename_i hd
      have hx := excerpt_single ht hk (by simpa [Token.Names] using hd) (tagAttributes doc t.attrs)
      split
      · -- inside a container the directive is kept aside
        have ha := List.forall_mem_append.mpr ⟨h.aside, List.forall_mem_singleton.mpr hx⟩
        exact keep _ h.found ha rfl (other (by simp [hk]))
      · have hf := List.forall_mem_append.mpr ⟨h.found, List.forall_mem_singleton.mpr hx⟩
        exact keep _ hf h.aside rfl (other (by simp [hk]))
    · exact keep s h.found h.aside rfl (other (by simp [hk]))
  | endTag =>
    dsimp only
    split
    · rename_i o ho
      split
      · -- the first closing tag after the container's start tag closes it
        rename_i hd
        obtain ⟨front, t₁, mid, rfl, hk₁, hn₁, hs₁, he₁, hmid⟩ := h.opened o ho
        have hle : o.stop ≤ t.start := Nat.le_trans (hs.opened o ho).2.1 hb
        have hsplit' : front ++ t₁ :: mid ++ t :: rest = tokens doc := by simpa using hsplit
        have hx := excerpt_closed hsplit' hmid hk₁ hn₁ ⟨hk, by simpa [Token.Names] using hd⟩ hs₁ he₁ hle
        exact ⟨List.forall_mem_append.mpr ⟨h.found, List.forall_mem_singleton.mpr hx⟩, fun d hd => (by cases hd),
          fun o' ho' => (by cases ho')⟩
      · rename_i hd
        exact keep s h.found h.aside rfl fun _ _ hc => hd (by simpa [Token.Names] using hc.2)
    · rename_i ho
      exact keep s h.found h.aside rfl fun o ho' => by rw [ho] at ho'; cases ho'
  | text => exact keep s h.found h.aside rfl (other (by simp [hk]))
  | comment => exact keep s h.found h.aside rfl (other (by simp [hk]))
  | doctype => exact keep s h.found h.aside rfl (other (by simp [hk]))

/-- Walking the rest of the tokens keeps what the scanner holds cut out of
the document; the layout invariant is walked along for the order of tags. -/
theorem Cut.foldl (doc : ByteArray) :
    ∀ {rest pre : List Token} {b : Nat} {s : ScanState}, pre ++ rest = tokens doc →
      Laid doc b rest → s.Sound doc.size b → s.Cut doc pre →
      (rest.foldl (ScanState.step doc) s).Cut doc (pre ++ rest)
  | [], pre, _, _, _, _, _, h => by simpa using h
  | t :: rest, pre, _, _, hsplit, hl, hs, h => by
    have ht : t ∈ t :: rest := List.mem_cons_self
    have hsplit' : (pre ++ [t]) ++ rest = tokens doc := by simpa using hsplit
    have hnext := Cut.foldl doc hsplit' hl.next (hs.step doc (hl.after t ht) (hl.tags t ht))
      (h.step hsplit hs (hl.after t ht))
    rw [List.foldl_cons]
    simpa using hnext

end ScanState

theorem scan_excerpts (doc : ByteArray) : ∀ d ∈ scan doc, Excerpt doc d := by
  have h := @ScanState.Cut.foldl doc (tokens doc) [] 0 {} (List.nil_append _) (tokens_laid doc)
    ScanState.sound_empty (ScanState.cut_empty doc)
  intro d hd
  rcases List.mem_append.mp hd with hd | hd
  · exact h.found d hd
  · exact h.aside d hd

/-- The directives of every document are laid out in it in order, each is
an excerpt of it, and a self-closing directive tag inside a container that
closes is not a directive of its own. -/
theorem scan_layout (doc : ByteArray) : Layout doc (scan doc) where
  spaced := scan_spaced doc
  excerpts := scan_excerpts doc
  nested c hc t _ _ _ hin hout d hd hdt := by
    -- the container stops before any later directive starts
    have hstop := (scan_spaced doc).stop_le_of_start_lt c hc d hd (hdt ▸ hin)
    omega

end Transclusion
