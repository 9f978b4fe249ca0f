import Mathlib.Tactic
import Transclusion.Store.Tiered

/-!
# Separation of cache keys

A cache key is the URL followed by `|name=value` for every vary header with a
value, all glued together with no escaping. Two fetches with the same URL and
the same lower-cased values of the vary headers share a key, whatever their
other headers (`cacheKey_congr`). The converse needs the separators to be
unambiguous: when no URL and no vary value holds a `|`, and the vary list names
distinct headers whose lower-cased names hold neither `|` nor `=`, the key
determines the URL and every vary value (`cacheKey_separation`). Without these
conditions keys collide: a URL may itself end in `|accept-language=en`
(`cacheKey_collides`).

The key's characters are the URL's followed by one `|`-led segment per vary
header with a value (`toList_cacheKey`); splitting them at `|` gives the URL and
the segments back (`splitOn_cacheKey`), and each segment reads back its
header's name and value.
-/

namespace Transclusion

open Transclusion.Http Transclusion.Text

/-- What a vary header contributes to a key: its values joined by commas,
lower-cased. -/
def varyValue (h : Header) (name : String) : String :=
  lower (",".intercalate (h.values name))

/-- The characters a vary header adds after its `|`, when it has a value. -/
def varySegment (h : Header) (name : String) : Option (List Char) :=
  if (varyValue h name).isEmpty then none
  else some ((lower name).toList ++ '=' :: (varyValue h name).toList)

/-- Vary names whose segments cannot be misread: pairwise distinct once
lower-cased, and holding neither separator. -/
def SeparableNames (vary : List String) : Prop :=
  (vary.map lower).Nodup ∧ ∀ n ∈ vary, '|' ∉ (lower n).toList ∧ '=' ∉ (lower n).toList

instance : DecidablePred SeparableNames := fun _ => inferInstanceAs (Decidable (_ ∧ _))

/-! ## The key as characters -/

theorem cacheKey_nil (url : String) (h : Header) : cacheKey url h [] = url := rfl

theorem cacheKey_cons (url : String) (h : Header) (name : String) (vary : List String) :
    cacheKey url h (name :: vary) = cacheKey (url ++ varyPart h name) h vary := rfl

theorem varyPart_eq (h : Header) (name : String) :
    varyPart h name =
      if (varyValue h name).isEmpty then "" else "|" ++ lower name ++ "=" ++ varyValue h name := rfl

theorem toList_varyPart (h : Header) (name : String) :
    (varyPart h name).toList = ((varySegment h name).map ('|' :: ·)).getD [] := by
  rw [varyPart_eq, varySegment]
  split <;> simp

/-- The key's characters: the URL's, then a `|` before each segment. -/
theorem toList_cacheKey (url : String) (h : Header) (vary : List String) :
    (cacheKey url h vary).toList = url.toList ++ (vary.filterMap (varySegment h)).flatMap ('|' :: ·) := by
  induction vary generalizing url with
  | nil => simp [cacheKey_nil]
  | cons name vary ih =>
    rw [cacheKey_cons, ih, String.toList_append, toList_varyPart, List.filterMap_cons]
    cases varySegment h name <;> simp

theorem cacheKey_congr (url : String) {h₁ h₂ : Header} {vary : List String}
    (hv : ∀ n ∈ vary, varyValue h₁ n = varyValue h₂ n) : cacheKey url h₁ vary = cacheKey url h₂ vary := by
  induction vary generalizing url with
  | nil => rfl
  | cons name vary ih =>
    have hpart : varyPart h₁ name = varyPart h₂ name := by
      rw [varyPart_eq, varyPart_eq, hv name (by simp)]
    rw [cacheKey_cons, cacheKey_cons, hpart, ih _ fun n hn => hv n (by simp [hn])]

/-! ## Reading a key back -/

theorem intercalate_cons_flatMap {α : Type} (sep : α) (a : List α) (l : List (List α)) :
    [sep].intercalate (a :: l) = a ++ l.flatMap (sep :: ·) := by
  induction l generalizing a with
  | nil => simp
  | cons b l ih =>
    rw [List.intercalate_cons_cons, ih b, List.flatMap_cons]
    simp

/-- Splitting a key at `|` gives the URL and the segments back, when none of
them holds a `|`. -/
theorem splitOn_cacheKey {url : String} {h : Header} {vary : List String} (hu : '|' ∉ url.toList)
    (hs : ∀ s ∈ vary.filterMap (varySegment h), '|' ∉ s) :
    (cacheKey url h vary).toList.splitOn '|' = url.toList :: vary.filterMap (varySegment h) := by
  rw [toList_cacheKey, ← intercalate_cons_flatMap]
  exact List.splitOn_intercalate '|' (by simpa [hu] using hs) (by simp)

theorem segment_plain {h : Header} {name : String} {s : List Char} (hs : varySegment h name = some s)
    (hn : '|' ∉ (lower name).toList) (hv : '|' ∉ (varyValue h name).toList) : '|' ∉ s := by
  unfold varySegment at hs
  split at hs
  · cases hs
  · obtain rfl := Option.some.inj hs
    simp [hn, hv]

/-- The text before the first `=` is the same in two texts when neither
prefix holds one, and so is the text after it. -/
theorem append_eq_sep {a b x y : List Char} (ha : '=' ∉ a) (hb : '=' ∉ b)
    (h : a ++ '=' :: x = b ++ '=' :: y) : a = b ∧ x = y := by
  induction a generalizing b with
  | nil =>
    cases b with
    | nil => simpa using h
    | cons c b => simp only [List.nil_append, List.cons_append, List.cons.injEq] at h; simp [← h.1] at hb
  | cons c a ih =>
    cases b with
    | nil => simp only [List.nil_append, List.cons_append, List.cons.injEq] at h; simp [h.1] at ha
    | cons d b =>
      simp only [List.cons_append, List.cons.injEq] at h
      obtain ⟨rfl, h⟩ := h
      have := ih (by simp_all) (by simp_all) h
      exact ⟨by rw [this.1], this.2⟩

theorem segment_reads {h₁ h₂ : Header} {n m : String} {s : List Char}
    (h1 : varySegment h₁ n = some s) (h2 : varySegment h₂ m = some s)
    (hn : '=' ∉ (lower n).toList) (hm : '=' ∉ (lower m).toList) :
    lower n = lower m ∧ varyValue h₁ n = varyValue h₂ m := by
  unfold varySegment at h1 h2
  split at h1
  · cases h1
  split at h2
  · cases h2
  obtain ⟨hname, hval⟩ := append_eq_sep hn hm ((Option.some.inj h1).trans (Option.some.inj h2).symm)
  exact ⟨String.toList_inj.mp hname, String.toList_inj.mp hval⟩

theorem varySegment_eq_none {h : Header} {name : String} :
    varySegment h name = none ↔ varyValue h name = "" := by
  unfold varySegment
  split <;> simp_all

/-- The segment of a header whose name no later header shares is found among
no later segments. -/
theorem segment_not_mem {h h' : Header} {n : String} {vary : List String} {s : List Char}
    (hs : varySegment h n = some s) (hfresh : lower n ∉ vary.map lower)
    (hn : '=' ∉ (lower n).toList) (hnames : ∀ m ∈ vary, '=' ∉ (lower m).toList) :
    s ∉ vary.filterMap (varySegment h') := by
  intro hmem
  obtain ⟨m, hm, hs'⟩ := List.mem_filterMap.mp hmem
  exact hfresh (List.mem_map.mpr ⟨m, hm, (segment_reads hs hs' hn (hnames m hm)).1.symm⟩)

/-- Equal segments give equal vary values, when the names are separable. -/
theorem varyValues_of_segments {h₁ h₂ : Header} {vary : List String} (hV : SeparableNames vary)
    (hs : vary.filterMap (varySegment h₁) = vary.filterMap (varySegment h₂)) :
    ∀ n ∈ vary, varyValue h₁ n = varyValue h₂ n := by
  induction vary with
  | nil => simp
  | cons n vary ih =>
    obtain ⟨hnd, hnames⟩ := hV
    rw [List.map_cons, List.nodup_cons] at hnd
    have heq : ∀ m ∈ vary, '=' ∉ (lower m).toList := fun m hm => (hnames m (by simp [hm])).2
    have hn := (hnames n (by simp)).2
    simp only [List.filterMap_cons] at hs
    -- the first header: both without a value, or both with the same segment
    have hfirst : varyValue h₁ n = varyValue h₂ n ∧
        vary.filterMap (varySegment h₁) = vary.filterMap (varySegment h₂) := by
      cases hs₁ : varySegment h₁ n with
      | none =>
        cases hs₂ : varySegment h₂ n with
        | none =>
          simp only [hs₁, hs₂] at hs
          exact ⟨by rw [varySegment_eq_none.mp hs₁, varySegment_eq_none.mp hs₂], hs⟩
        | some s₂ =>
          simp only [hs₁, hs₂] at hs
          have hmem : s₂ ∈ vary.filterMap (varySegment h₁) := by rw [hs]; exact List.mem_cons_self
          exact absurd hmem (segment_not_mem hs₂ hnd.1 hn heq)
      | some s₁ =>
        cases hs₂ : varySegment h₂ n with
        | none =>
          simp only [hs₁, hs₂] at hs
          have hmem : s₁ ∈ vary.filterMap (varySegment h₂) := by rw [← hs]; exact List.mem_cons_self
          exact absurd hmem (segment_not_mem hs₁ hnd.1 hn heq)
        | some s₂ =>
          simp only [hs₁, hs₂, List.cons.injEq] at hs
          obtain ⟨rfl, hrest⟩ := hs
          exact ⟨(segment_reads hs₁ hs₂ hn hn).2, hrest⟩
    intro m hm
    rcases List.mem_cons.mp hm with rfl | hm
    · exact hfirst.1
    · exact ih ⟨hnd.2, fun k hk => hnames k (by simp [hk])⟩ hfirst.2 m hm

/-- With unambiguous separators, a key determines the URL and every vary
value: two fetches share a key exactly when they have the same URL and the
same lower-cased values of the vary headers. -/
theorem cacheKey_separation {vary : List String} (hV : SeparableNames vary) {u₁ u₂ : String}
    {h₁ h₂ : Header} (hu₁ : '|' ∉ u₁.toList) (hu₂ : '|' ∉ u₂.toList)
    (hv : ∀ n ∈ vary, '|' ∉ (varyValue h₁ n).toList ∧ '|' ∉ (varyValue h₂ n).toList) :
    cacheKey u₁ h₁ vary = cacheKey u₂ h₂ vary ↔
      u₁ = u₂ ∧ ∀ n ∈ vary, varyValue h₁ n = varyValue h₂ n := by
  have hplain : ∀ (h : Header), (∀ n ∈ vary, '|' ∉ (varyValue h n).toList) →
      ∀ s ∈ vary.filterMap (varySegment h), '|' ∉ s := by
    intro h hh s hs
    obtain ⟨n, hn, hseg⟩ := List.mem_filterMap.mp hs
    exact segment_plain hseg (hV.2 n hn).1 (hh n hn)
  constructor
  · intro heq
    have hsplit := congrArg (fun k : String => k.toList.splitOn '|') heq
    rw [splitOn_cacheKey hu₁ (hplain h₁ fun n hn => (hv n hn).1),
      splitOn_cacheKey hu₂ (hplain h₂ fun n hn => (hv n hn).2)] at hsplit
    obtain ⟨hurl, hsegs⟩ := List.cons.inj hsplit
    exact ⟨String.toList_inj.mp hurl, varyValues_of_segments hV hsegs⟩
  · rintro ⟨rfl, hvals⟩
    exact cacheKey_congr u₁ hvals

theorem cacheKey_separation_case :
    SeparableNames ["Accept-Language"] ∧ '|' ∉ "https://f.test/x".toList ∧
      (∀ n ∈ ["Accept-Language"],
        '|' ∉ (varyValue ⟨[("Accept-Language", some ["EN"])]⟩ n).toList ∧
          '|' ∉ (varyValue ⟨[("Accept-Language", some ["en"])]⟩ n).toList) ∧
      (cacheKey "https://f.test/x" ⟨[("Accept-Language", some ["EN"])]⟩ ["Accept-Language"] =
          cacheKey "https://f.test/x" ⟨[("Accept-Language", some ["en"])]⟩ ["Accept-Language"] ↔
        "https://f.test/x" = "https://f.test/x" ∧ ∀ n ∈ ["Accept-Language"],
          varyValue ⟨[("Accept-Language", some ["EN"])]⟩ n =
            varyValue ⟨[("Accept-Language", some ["en"])]⟩ n) :=
  have hV : SeparableNames ["Accept-Language"] := by decide +kernel
  have hu : '|' ∉ "https://f.test/x".toList := by decide +kernel
  have hv : ∀ n ∈ ["Accept-Language"],
      '|' ∉ (varyValue ⟨[("Accept-Language", some ["EN"])]⟩ n).toList ∧
        '|' ∉ (varyValue ⟨[("Accept-Language", some ["en"])]⟩ n).toList := by decide +kernel
  ⟨hV, hu, hv, cacheKey_separation hV hu hu hv⟩

/-- A URL that ends in what a vary header would add collides with the plain
URL sent with that header. -/
theorem cacheKey_collides :
    cacheKey "https://f.test/x|accept-language=en" Header.empty ["Accept-Language"] =
        cacheKey "https://f.test/x" ⟨[("Accept-Language", some ["en"])]⟩ ["Accept-Language"] ∧
      "https://f.test/x|accept-language=en" ≠ "https://f.test/x" := by
  decide +kernel

end Transclusion
