import Transclusion.Placeholder.Scan
import Transclusion.Proofs.Markup.Offsets

/-!
# Where directives lie

The directives the scanner finds cover bytes of the document, in document
order, each stopping before the next one starts (`scan_spaced`). The scanner
keeps this while it walks the tokens (`ScanState.Sound.step`): a container
stays open after every directive found before it, the directives kept aside
inside it come after its start tag, and when the document ends with the
container open, those come after everything found.
-/

namespace Transclusion

open Transclusion.Markup

/-- Spans laid out in a document of `size` bytes: each covers at least one
byte of it, and each stops before any later one starts. -/
structure Spaced (size : Nat) (ds : List Directive) : Prop where
  within : ∀ d ∈ ds, d.start < d.stop ∧ d.stop ≤ size
  sorted : ds.Pairwise fun a b => a.stop ≤ b.start

namespace Spaced

variable {size : Nat}

theorem nil : Spaced size [] := ⟨by simp, List.Pairwise.nil⟩

theorem append {l₁ l₂ : List Directive} (h₁ : Spaced size l₁) (h₂ : Spaced size l₂)
    (h : ∀ a ∈ l₁, ∀ b ∈ l₂, a.stop ≤ b.start) : Spaced size (l₁ ++ l₂) := by
  refine ⟨fun d hd => ?_, List.pairwise_append.mpr ⟨h₁.sorted, h₂.sorted, h⟩⟩
  rcases List.mem_append.mp hd with hd | hd
  · exact h₁.within d hd
  · exact h₂.within d hd

theorem snoc {l : List Directive} (h : Spaced size l) {d : Directive} (hd : d.start < d.stop ∧ d.stop ≤ size)
    (hb : ∀ a ∈ l, a.stop ≤ d.start) : Spaced size (l ++ [d]) :=
  h.append ⟨fun x hx => by rw [List.mem_singleton.mp hx]; exact hd, List.pairwise_singleton _ _⟩
    fun a ha b hb' => by rw [List.mem_singleton.mp hb']; exact hb a ha

theorem stop_le_of_start_lt : ∀ {ds : List Directive}, Spaced size ds →
    ∀ c ∈ ds, ∀ d ∈ ds, c.start < d.start → c.stop ≤ d.start
  | [], _, c, hc, _, _, _ => by cases hc
  | x :: xs, h, c, hc, d, hd, hlt => by
    obtain ⟨hx, hxs⟩ := List.pairwise_cons.mp h.sorted
    have htail : Spaced size xs := ⟨fun y hy => h.within y (List.mem_cons_of_mem _ hy), hxs⟩
    have hwx := h.within x List.mem_cons_self
    rcases List.mem_cons.mp hc with rfl | hc' <;> rcases List.mem_cons.mp hd with rfl | hd'
    · omega
    · exact hx d hd'
    · -- `d` comes first, so it stops before `c` starts
      have := hx c hc'
      omega
    · exact stop_le_of_start_lt htail c hc' d hd' hlt

end Spaced

namespace ScanState

/-- What the scanner holds once it has walked the tokens before `bound`: the
directives found and those kept aside are laid out and stop by `bound`; an
open container stops by `bound`, after every directive found, and before
every directive kept aside; with no container open nothing is kept aside. -/
structure Sound (size bound : Nat) (s : ScanState) : Prop where
  found : Spaced size s.found
  aside : Spaced size s.aside
  found_before : ∀ d ∈ s.found, d.stop ≤ bound
  aside_before : ∀ d ∈ s.aside, d.stop ≤ bound
  opened : ∀ o, s.open? = some o → o.start < o.stop ∧ o.stop ≤ bound ∧
    (∀ d ∈ s.found, d.stop ≤ o.start) ∧ ∀ d ∈ s.aside, o.stop ≤ d.start
  closed : s.open? = none → s.aside = []

variable {size : Nat}

theorem sound_empty : ({} : ScanState).Sound size 0 :=
  ⟨Spaced.nil, Spaced.nil, by simp, by simp, by simp, fun _ => rfl⟩

theorem Sound.mono {b b' : Nat} {s : ScanState} (h : s.Sound size b) (hb : b ≤ b') : s.Sound size b' := by
  refine ⟨h.found, h.aside, fun d hd => Nat.le_trans (h.found_before d hd) hb,
    fun d hd => Nat.le_trans (h.aside_before d hd) hb, fun o ho => ?_, h.closed⟩
  obtain ⟨h1, h2, h3, h4⟩ := h.opened o ho
  exact ⟨h1, Nat.le_trans h2 hb, h3, h4⟩

/-- Everything the scanner holds at the end, in the order it yields it, is
laid out. -/
theorem Sound.spaced {b : Nat} {s : ScanState} (h : s.Sound size b) : Spaced size (s.found ++ s.aside) := by
  cases ho : s.open? with
  | none => rw [h.closed ho, List.append_nil]; exact h.found
  | some o =>
    -- the open container separates what was found from what was kept aside
    obtain ⟨hlt, -, hfo, hoa⟩ := h.opened o ho
    refine h.found.append h.aside fun a ha d hd => ?_
    have := hfo a ha
    have := hoa d hd
    omega

theorem step_of_not_tag (doc : ByteArray) (s : ScanState) {t : Token} (ht : t.kind.isTag = false) :
    s.step doc t = s := by
  unfold ScanState.step
  cases hk : t.kind <;> simp [hk, TokenKind.isTag] at ht ⊢

/-- One token keeps what the scanner holds laid out: a tag that opens a
container, a self-closing directive, or an end tag that closes a container
lies after everything held so far. -/
theorem Sound.step (doc : ByteArray) {b : Nat} {s : ScanState} (h : s.Sound doc.size b) {t : Token}
    (hb : b ≤ t.start) (htag : t.kind.isTag = true → t.start < t.stop ∧ t.stop ≤ doc.size) :
    (s.step doc t).Sound doc.size (if t.kind.isTag then t.stop else b) := by
  cases htk : t.kind.isTag with
  | false => rw [step_of_not_tag doc s htk]; exact h
  | true =>
    obtain ⟨hlt, hle⟩ := htag htk
    have h' := h.mono (Nat.le_trans hb (Nat.le_of_lt hlt))
    have hfb : ∀ a ∈ s.found, a.stop ≤ t.start := fun a ha => Nat.le_trans (h.found_before a ha) hb
    have hab : ∀ a ∈ s.aside, a.stop ≤ t.start := fun a ha => Nat.le_trans (h.aside_before a ha) hb
    rw [if_pos rfl]
    unfold ScanState.step
    cases hk : t.kind with
    | startTag =>
      dsimp only
      split
      · -- a directive start tag opens a container
        rename_i hd
        have hnone : s.open? = none := by simpa using (Bool.and_eq_true _ _).mp hd |>.2
        refine ⟨h.found, h.aside, h'.found_before, h'.aside_before, fun o ho => ?_, fun hn => by cases hn⟩
        cases ho
        refine ⟨hlt, Nat.le_refl _, hfb, ?_⟩
        rw [h.closed hnone]
        exact fun d hd => by cases hd
      · exact h'
    | selfClosingTag =>
      dsimp only
      split
      · split
        · -- inside a container the directive is kept aside
          rename_i _ hopen
          obtain ⟨o, ho⟩ := Option.isSome_iff_exists.mp hopen
          obtain ⟨ho1, ho2, ho3, ho4⟩ := h'.opened o ho
          refine ⟨h.found, h.aside.snoc ⟨hlt, hle⟩ hab, h'.found_before,
            List.forall_mem_append.mpr ⟨h'.aside_before, by simp⟩, fun o' ho' => ?_,
            fun hn => by rw [ho] at hn; cases hn⟩
          · rw [ho] at ho'
            cases ho'
            refine ⟨ho1, ho2, ho3, fun d hd => ?_⟩
            rcases List.mem_append.mp hd with hd | hd
            · exact ho4 d hd
            · rw [List.mem_singleton.mp hd]
              exact Nat.le_trans (h.opened o ho).2.1 hb
        · -- outside a container the directive is found
          rename_i _ hopen
          have hnone : s.open? = none := by simpa using hopen
          exact ⟨h.found.snoc ⟨hlt, hle⟩ hfb, h.aside,
            List.forall_mem_append.mpr ⟨h'.found_before, by simp⟩, h'.aside_before,
            fun o ho => (by rw [hnone] at ho; cases ho), h.closed⟩
      · exact h'
    | endTag =>
      dsimp only
      split
      · rename_i o ho
        split
        · -- the end tag closes the container, which spans both tags
          obtain ⟨ho1, ho2, ho3, -⟩ := h.opened o ho
          have hstart : o.start < t.stop := by omega
          exact ⟨h.found.snoc ⟨hstart, hle⟩ ho3, Spaced.nil,
            List.forall_mem_append.mpr ⟨h'.found_before, by simp⟩, fun d hd => (by cases hd),
            fun o' ho' => (by cases ho'), fun _ => rfl⟩
        · exact h'
      · exact h'
    | text => rw [hk] at htk; cases htk
    | comment => rw [hk] at htk; cases htk
    | doctype => rw [hk] at htk; cases htk

/-- Walking tokens laid out from `b` keeps what the scanner holds laid out. -/
theorem Sound.foldl (doc : ByteArray) :
    ∀ {ts : List Token} {b : Nat} {s : ScanState}, Laid doc b ts → s.Sound doc.size b →
      ∃ b', (ts.foldl (ScanState.step doc) s).Sound doc.size b'
  | [], b, _, _, h => ⟨b, h⟩
  | t :: rest, b, s, hl, h => by
    have ht : t ∈ t :: rest := List.mem_cons_self
    rw [List.foldl_cons]
    exact Sound.foldl doc hl.next (h.step doc (hl.after t ht) (hl.tags t ht))

end ScanState

/-- The directives of every document cover bytes of it, in document order,
each stopping before the next one starts. -/
theorem scan_spaced (doc : ByteArray) : Spaced doc.size (scan doc) := by
  obtain ⟨b, h⟩ := ScanState.Sound.foldl doc (tokens_laid doc) ScanState.sound_empty
  exact h.spaced

end Transclusion
