import Transclusion.Proofs.Settings.Checks
import Transclusion.Proofs.Proxy.Exposure
import Transclusion.Proxy.Serve
import Mathlib.Data.List.ReduceOption

/-!
# Page rules: the match grammar and the rule a path picks

A rule's match expression is read by a small grammar (`MatchReads`): the
trimmed expression is its `|`-separated alternatives; each alternative is
blank, or trims to `PathPrefix(x)` where `x` trimmed starts with a slash; at
least one is not blank; and the prefixes are the trimmed `x`s in order.
`parseMatch` accepts exactly these expressions and gives exactly these
prefixes (`parseMatch_iff_reads`).

A finalized configuration keeps its rules sorted by priority and, among equal
priorities, in the order of the file. The rule a path picks is the first of
that list whose prefixes start the path, which is the rule that comes first
by priority and then by position in the file among those that match
(`PriorityOrder.find?_iff`). A request is passed through unchanged, marked
`bypass`, exactly when that rule says `bypass` (`handle_marker_bypass`).
-/

namespace Transclusion.Config

open Transclusion.Text

/-! ## Reading one alternative -/

theorem prefixOpening_toList : prefixOpening.toList = "PathPrefix(".toList := rfl

theorem startsWith_iff_append (s t : String) : s.startsWith t = true ↔ ∃ rest, s = t ++ rest := by
  rw [String.startsWith_string_iff]
  constructor
  · rintro ⟨u, hu⟩
    exact ⟨String.ofList u, String.toList_inj.mp (by simp [← hu])⟩
  · rintro ⟨rest, rfl⟩
    simp

/-- A text ends with `t` when its characters end with those of `t`. -/
theorem endsWith_iff_suffix (s t : String) : s.endsWith t = true ↔ t.toList <:+ s.toList := by
  simp only [← String.endsWith_toSlice, String.Slice.endsWith_string_iff, String.copy_toSlice]

/-- An alternative of the form `PathPrefix(x)` reads as `x` trimmed, when that
starts with a slash. -/
theorem readAlternative_pathPrefix (x : String) :
    readAlternative ("PathPrefix(" ++ x ++ ")") =
      if (trimBlank x).isEmpty || !((trimBlank x).startsWith "/") then .error (.invalidPrefix (trimBlank x))
      else .ok (trimBlank x) := by
  have hchars : ("PathPrefix(" ++ x ++ ")").toList = "PathPrefix(".toList ++ (x.toList ++ [')']) := by
    simp only [String.toList_append, List.append_assoc]
    rfl
  have hopen : ("PathPrefix(" ++ x ++ ")").startsWith prefixOpening = true := by
    rw [String.startsWith_string_iff, prefixOpening_toList, hchars]
    exact List.prefix_append _ _
  have hclose : ("PathPrefix(" ++ x ++ ")").endsWith ")" = true := by
    rw [endsWith_iff_suffix, hchars]
    exact (List.suffix_append _ _).trans (List.suffix_append _ _)
  have hafter : String.ofList (("PathPrefix(" ++ x ++ ")").toList.drop prefixOpening.length) =
      x ++ ")" := by
    rw [hchars, List.drop_left' (by rw [← String.length_toList, prefixOpening_toList])]
    apply String.toList_inj.mp
    simp
  have hinside : String.ofList ((x ++ ")").toList.take ((x ++ ")").length - 1)) = x := by
    have hlen : (x ++ ")").length - 1 = x.toList.length := by
      simp only [String.length_append, String.length_toList]
      rfl
    rw [hlen, String.toList_append, List.take_left' rfl, String.ofList_toList]
  have hclose' : (x ++ ")").endsWith ")" = true := by
    rw [endsWith_iff_suffix, String.toList_append]
    exact List.suffix_append _ _
  unfold readAlternative
  rw [hopen, hclose]
  simp only [Bool.not_true, Bool.or_false, Bool.false_eq_true, if_false]
  rw [hafter, if_pos hclose', hinside]

/-- A text that starts with the opening and ends with `)` holds a closing
parenthesis of its own after the opening, since the opening ends with `(`. -/
theorem closing_after_opening {t u : List Char} (h : "PathPrefix(".toList ++ t = u ++ [')']) :
    ∃ y, t = y ++ [')'] := by
  rcases List.eq_nil_or_concat t with rfl | ⟨y, b, rfl⟩
  · have hlast := congrArg List.getLast? h
    simp at hlast
  · simp only [List.concat_eq_append] at h ⊢
    rw [← List.append_assoc] at h
    obtain ⟨-, hb⟩ := List.append_inj' h rfl
    exact ⟨y, by simpa using hb⟩

/-- An alternative not of the form `PathPrefix(x)` is refused as
unsupported. -/
theorem readAlternative_unsupported {part : String}
    (h : ∀ x, part ≠ "PathPrefix(" ++ x ++ ")") : readAlternative part = .error (.unsupported part) := by
  unfold readAlternative
  rw [if_pos]
  -- otherwise the part starts with the opening and ends with `)`
  by_contra hshape
  simp only [Bool.or_eq_true, Bool.not_eq_true', not_or, Bool.not_eq_false] at hshape
  obtain ⟨hopen, hclose⟩ := hshape
  rw [String.startsWith_string_iff, prefixOpening_toList] at hopen
  rw [endsWith_iff_suffix] at hclose
  obtain ⟨t, ht⟩ := hopen
  obtain ⟨u, hu⟩ := hclose
  obtain ⟨y, rfl⟩ := closing_after_opening (ht.trans hu.symm)
  apply h (String.ofList y)
  apply String.toList_inj.mp
  simp only [String.toList_append, String.toList_ofList, ← ht, List.append_assoc]
  rfl

/-- An alternative reads as a prefix exactly when it is `PathPrefix(x)` with
`x` trimmed starting with a slash; the prefix is `x` trimmed. -/
theorem readAlternative_ok_iff (part v : String) :
    readAlternative part = .ok v ↔
      ∃ x rest, part = "PathPrefix(" ++ x ++ ")" ∧ trimBlank x = "/" ++ rest ∧ v = trimBlank x := by
  by_cases hshape : ∃ x, part = "PathPrefix(" ++ x ++ ")"
  · obtain ⟨x, rfl⟩ := hshape
    rw [readAlternative_pathPrefix]
    constructor
    · intro hok
      split at hok
      · cases hok
      · rename_i hprefix
        simp only [Bool.or_eq_true, Bool.not_eq_true', not_or, Bool.not_eq_false] at hprefix
        obtain ⟨rest, hrest⟩ := (startsWith_iff_append _ _).mp hprefix.2
        cases hok
        exact ⟨x, rest, rfl, hrest, rfl⟩
    · rintro ⟨x', rest, hx, hrest, rfl⟩
      have hxx : x' = x := String.toList_inj.mp (by
        simpa [String.toList_append] using (congrArg String.toList hx).symm)
      subst hxx
      have hslash : (trimBlank x').startsWith "/" = true := (startsWith_iff_append _ _).mpr ⟨rest, hrest⟩
      have hfull : (trimBlank x').isEmpty = false := by
        rw [hrest]
        simp [← String.toList_inj]
      rw [if_neg (by simp [hslash, hfull])]
  · simp only [not_exists] at hshape
    rw [readAlternative_unsupported hshape]
    constructor
    · intro hok
      cases hok
    · rintro ⟨x, rest, hx, -⟩
      exact absurd hx (hshape x)

/-! ## The grammar -/

/-- How the grammar reads one alternative: a blank alternative reads nothing;
one that trims to `PathPrefix(x)`, where `x` trimmed is a slash and some rest,
reads `x` trimmed. -/
inductive Alternative : String → Option String → Prop
  | blank {alt : String} : trimBlank alt = "" → Alternative alt none
  | pathPrefix {alt x rest : String} : trimBlank alt = "PathPrefix(" ++ x ++ ")" →
      trimBlank x = "/" ++ rest → Alternative alt (some (trimBlank x))

/-- A match expression reads as `prefixes`: the trimmed expression is its
alternatives joined by `|`, none holding a `|`; every alternative reads as
the grammar says; the prefixes are what the alternatives read, in order, and
there is at least one. -/
def MatchReads (expr : String) (prefixes : List String) : Prop :=
  ∃ alts reads, "|".intercalate alts = trimBlank expr ∧ (∀ a ∈ alts, '|' ∉ a.toList) ∧
    List.Forall₂ Alternative alts reads ∧ reads.reduceOption = prefixes ∧ prefixes ≠ []

theorem alternative_none_iff (alt : String) : Alternative alt none ↔ trimBlank alt = "" :=
  ⟨fun h => by cases h; assumption, .blank⟩

/-- A nonblank alternative reads a prefix exactly when `readAlternative`
accepts its trimmed form. -/
theorem alternative_some_iff (alt v : String) :
    Alternative alt (some v) ↔ readAlternative (trimBlank alt) = .ok v := by
  rw [readAlternative_ok_iff]
  constructor
  · rintro (_ | ⟨hx, hrest⟩)
    exact ⟨_, _, hx, hrest, rfl⟩
  · rintro ⟨x, rest, hx, hrest, rfl⟩
    exact .pathPrefix hx hrest

theorem Alternative.ne_blank {alt v : String} (h : Alternative alt (some v)) : trimBlank alt ≠ "" := by
  cases h with
  | pathPrefix hx _ =>
    rw [hx]
    intro hnil
    have := congrArg String.length hnil
    simp at this

/-- A `mapM` into `Except` succeeds exactly when every element maps to the
result in its place. -/
theorem mapM_eq_ok_iff {α β ε : Type} (f : α → Except ε β) (l : List α) (bs : List β) :
    l.mapM f = .ok bs ↔ List.Forall₂ (fun a b => f a = .ok b) l bs := by
  induction l generalizing bs with
  | nil =>
    simp only [List.mapM_nil, List.forall₂_nil_left_iff]
    exact ⟨fun h => by cases h; rfl, fun h => by rw [h]; rfl⟩
  | cons a l ih =>
    simp only [List.mapM_cons, bind, Except.bind, pure, Except.pure, List.forall₂_cons_left_iff]
    cases hfa : f a with
    | error e => simp
    | ok b =>
      cases hl : l.mapM f with
      | error e =>
        simp only [reduceCtorEq, false_iff, not_exists, not_and]
        intro b' bs' _ hrest _
        have := (ih bs').mpr hrest
        rw [hl] at this
        cases this
      | ok bs' =>
        simp only [← ih, hl, Except.ok.injEq]
        constructor
        · rintro rfl
          exact ⟨b, bs', rfl, rfl, rfl⟩
        · rintro ⟨b'', bs'', rfl, rfl, rfl⟩
          rfl

/-- Reading the nonblank alternatives one by one succeeds exactly when every
alternative reads as the grammar says, and gives what they read. -/
theorem mapM_readAlternative (alts ps : List String) :
    ((alts.map trimBlank).filter (!·.isEmpty)).mapM readAlternative = .ok ps ↔
      ∃ reads, List.Forall₂ Alternative alts reads ∧ reads.reduceOption = ps := by
  rw [mapM_eq_ok_iff]
  induction alts generalizing ps with
  | nil =>
    simp only [List.map_nil, List.filter_nil, List.forall₂_nil_left_iff, exists_eq_left,
      List.reduceOption_nil]
    exact eq_comm
  | cons a alts ih =>
    simp only [List.map_cons, List.forall₂_cons_left_iff]
    by_cases hblank : trimBlank a = ""
    · -- a blank alternative is skipped and reads nothing
      rw [List.filter_cons_of_neg (by simp [hblank]), ih]
      constructor
      · rintro ⟨reads, hreads, rfl⟩
        exact ⟨none :: reads, ⟨none, reads, .blank hblank, hreads, rfl⟩, by simp⟩
      · rintro ⟨_, ⟨o, reads, ha, hreads, rfl⟩, rfl⟩
        cases o with
        | none => exact ⟨reads, hreads, by simp⟩
        | some v => exact absurd hblank ha.ne_blank
    · -- a nonblank alternative reads a prefix, which comes first
      rw [List.filter_cons_of_pos (by simpa using hblank), List.forall₂_cons_left_iff]
      constructor
      · rintro ⟨v, vs, hv, hvs, rfl⟩
        obtain ⟨reads, hreads, rfl⟩ := (ih vs).mp hvs
        exact ⟨some v :: reads, ⟨some v, reads, (alternative_some_iff a v).mpr hv, hreads, rfl⟩, by simp⟩
      · rintro ⟨_, ⟨o, reads, ha, hreads, rfl⟩, rfl⟩
        cases o with
        | none => exact absurd ((alternative_none_iff a).mp ha) hblank
        | some v =>
          exact ⟨v, reads.reduceOption, (alternative_some_iff a v).mp ha, (ih _).mpr ⟨reads, hreads, rfl⟩,
            by simp⟩

theorem bar_toList : "|".toList = ['|'] := rfl

/-- `parseMatch` reads the nonblank trimmed alternatives of the trimmed
expression and wants at least one prefix; an empty expression has no
alternative that is not blank. -/
theorem parseMatch_ok_iff (expr : String) (ps : List String) :
    parseMatch expr = .ok ps ↔
      ((((trimBlank expr).splitOn "|").map trimBlank).filter (!·.isEmpty)).mapM readAlternative = .ok ps ∧
        ps ≠ [] := by
  unfold parseMatch
  simp only [bind, Except.bind, pure, Except.pure, throw, throwThe, MonadExceptOf.throw]
  by_cases hempty : trimBlank expr = ""
  · -- the one alternative of an empty expression is blank
    have hparts : ((((trimBlank expr).splitOn "|").map trimBlank).filter (!·.isEmpty)) = [] := by
      rw [hempty, splitOn_of_not_mem bar_toList (by simp)]
      simp [trimBlank, trimBlankList]
    rw [hparts, if_pos (by simp [hempty])]
    simp only [reduceCtorEq, List.mapM_nil, pure, Except.pure, false_iff, not_and]
    intro hps hne
    cases hps
    exact hne rfl
  · rw [if_neg (by simpa using hempty)]
    cases hread : ((((trimBlank expr).splitOn "|").map trimBlank).filter (!·.isEmpty)).mapM
        readAlternative with
    | error e => simp
    | ok vs =>
      by_cases hvs : vs = []
      · subst hvs
        simp
      · simp only [List.isEmpty_iff, hvs, if_false, Except.ok.injEq]
        constructor
        · rintro rfl
          exact ⟨rfl, hvs⟩
        · rintro ⟨rfl, -⟩
          rfl

/-- `parseMatch` accepts exactly the expressions of the grammar, and gives the
prefixes they read, in order. -/
theorem parseMatch_iff_reads (expr : String) (ps : List String) :
    parseMatch expr = .ok ps ↔ MatchReads expr ps := by
  rw [parseMatch_ok_iff, mapM_readAlternative]
  constructor
  · rintro ⟨⟨reads, hreads, hps⟩, hne⟩
    obtain ⟨hjoin, -, hfree⟩ := (splitOn_eq_iff bar_toList _ _).mp rfl
    exact ⟨_, reads, hjoin, hfree, hreads, hps, hne⟩
  · rintro ⟨alts, reads, hjoin, hfree, hreads, hps, hne⟩
    -- some alternative reads a prefix, so there are alternatives, and they
    -- are the parts of the split
    have halts : alts ≠ [] := by
      rintro rfl
      cases List.forall₂_nil_left_iff.mp hreads
      exact hne (by rw [← hps]; rfl)
    have hsplit : (trimBlank expr).splitOn "|" = alts :=
      (splitOn_eq_iff bar_toList _ _).mpr ⟨hjoin, halts, hfree⟩
    exact ⟨⟨reads, hsplit ▸ hreads, hps⟩, hne⟩

/-! ## The rule a path picks -/

/-- A path starts with one of a rule's prefixes. -/
def PathMatches (r : Rule) (path : String) : Prop :=
  ∃ p ∈ r.prefixes, ∃ rest, path = p ++ rest

theorem matches_iff_pathMatches (r : Rule) (path : String) :
    r.matches path = true ↔ PathMatches r path := by
  rw [Rule.matches, matches_iff]
  exact exists_congr fun p => and_congr_right fun _ => startsWith_iff_append path p

/-- Rule `i` of `rules`, which is `r`, is the one `path` picks: it matches,
and every rule that matches comes no earlier by priority, lowest first, and
then by position. -/
def FirstMatch (rules : List Rule) (path : String) (i : Nat) (r : Rule) : Prop :=
  rules[i]? = some r ∧ PathMatches r path ∧
    ∀ j c, rules[j]? = some c → PathMatches c path →
      r.priority < c.priority ∨ r.priority = c.priority ∧ i ≤ j

theorem FirstMatch.unique {rules : List Rule} {path : String} {i i' : Nat} {r r' : Rule}
    (h : FirstMatch rules path i r) (h' : FirstMatch rules path i' r') : i = i' ∧ r = r' := by
  obtain ⟨hi, hm, hleast⟩ := h
  obtain ⟨hi', hm', hleast'⟩ := h'
  have hfirst := hleast i' r' hi' hm'
  have hfirst' := hleast' i r hi hm
  obtain rfl : i = i' := by omega
  exact ⟨rfl, Option.some.inj (hi.symm.trans hi')⟩

/-- `sorted` holds `rules` in priority order, lowest first, and keeps the
order of `rules` among equal priorities. -/
structure PriorityOrder (rules sorted : List Rule) : Prop where
  perm : sorted.Perm rules
  ordered : sorted.Pairwise fun a b => a.priority ≤ b.priority
  stable : ∀ p, sorted.filter (·.priority == p) = rules.filter (·.priority == p)

theorem priorityOrder_mergeSort (rules : List Rule) :
    PriorityOrder rules (rules.mergeSort byPriority) where
  perm := List.mergeSort_perm rules byPriority
  ordered := (List.pairwise_mergeSort byPriority_trans byPriority_total rules).imp
    fun hab => by simpa [byPriority] using hab
  stable := filter_mergeSort_byPriority rules

/-- The first match in a list ordered by priority has the least priority of
all matches. -/
theorem find?_least {l : List Rule} (hl : l.Pairwise fun a b => a.priority ≤ b.priority)
    {q : Rule → Bool} {r : Rule} (h : l.find? q = some r) : ∀ x ∈ l, q x → r.priority ≤ x.priority := by
  induction l with
  | nil => cases h
  | cons a l ih =>
    rw [List.pairwise_cons] at hl
    intro x hx hq
    rw [List.find?_cons] at h
    split at h
    · -- the head matches: it is first, and the rest come no earlier
      cases h
      rcases List.mem_cons.mp hx with rfl | hx
      · exact le_refl _
      · exact hl.1 x hx
    · rename_i ha
      rcases List.mem_cons.mp hx with rfl | hx
      · simp [hq] at ha
      · exact ih hl.2 h x hx hq

/-- The first match is also the first match among the elements sharing a
property of it. -/
theorem find?_and_of_find? {α : Type} {l : List α} {p q : α → Bool} {r : α}
    (h : l.find? q = some r) (hp : p r) : l.find? (fun a => p a ∧ q a) = some r := by
  obtain ⟨hq, as, bs, rfl, hbefore⟩ := List.find?_eq_some_iff_append.mp h
  refine List.find?_eq_some_iff_append.mpr ⟨by simp [hp, hq], as, bs, rfl, fun a ha => ?_⟩
  have hqa : q a = false := by simpa using hbefore a ha
  simp [hqa]

theorem PriorityOrder.firstMatch_of_find? {rules sorted : List Rule} (ho : PriorityOrder rules sorted)
    {path : String} {r : Rule} (h : sorted.find? (·.matches path) = some r) :
    ∃ i, FirstMatch rules path i r := by
  have hm : r.matches path = true := by simpa using List.find?_some h
  have hleast := find?_least ho.ordered h
  -- among the rules of its priority, `r` is the first match, in sorted order
  -- and so, by stability, in the configured order too
  have hsame : rules.find? (fun c => (c.priority == r.priority) ∧ c.matches path) = some r := by
    rw [← List.find?_filter, ← ho.stable, List.find?_filter]
    exact find?_and_of_find? h (by simp)
  obtain ⟨-, i, hi, hri, hbefore⟩ := List.find?_eq_some_iff_getElem.mp hsame
  refine ⟨i, by simp [hi, hri], (matches_iff_pathMatches r path).mp hm, fun j c hj hc => ?_⟩
  have hcm := (matches_iff_pathMatches c path).mpr hc
  have hle := hleast c (ho.perm.mem_iff.mpr (List.mem_of_getElem? hj)) hcm
  rcases lt_or_eq_of_le hle with hlt | heq
  · exact .inl hlt
  · -- an earlier rule of the same priority would have been picked first
    refine .inr ⟨heq, Nat.le_of_not_lt fun hji => ?_⟩
    obtain ⟨hjlen, rfl⟩ := List.getElem?_eq_some_iff.mp hj
    have := hbefore j hji
    simp [heq, hcm] at this

/-- In priority order, the first rule that matches a path is the one the path
picks. -/
theorem PriorityOrder.find?_iff {rules sorted : List Rule} (ho : PriorityOrder rules sorted)
    (path : String) (r : Rule) :
    sorted.find? (·.matches path) = some r ↔ ∃ i, FirstMatch rules path i r := by
  refine ⟨ho.firstMatch_of_find?, fun ⟨i, hfirst⟩ => ?_⟩
  have hmem : r ∈ sorted := ho.perm.mem_iff.mpr (List.mem_of_getElem? hfirst.1)
  have hsome : (sorted.find? (·.matches path)).isSome :=
    List.find?_isSome.mpr ⟨r, hmem, (matches_iff_pathMatches r path).mpr hfirst.2.1⟩
  obtain ⟨r', hr'⟩ := Option.isSome_iff_exists.mp hsome
  obtain ⟨i', hfirst'⟩ := ho.firstMatch_of_find? hr'
  obtain ⟨-, rfl⟩ := hfirst'.unique hfirst
  exact hr'

theorem finalize_priorityOrder {cfg out : Settings} (h : cfg.finalize = .ok out) {cs : List Rule}
    (hcs : compileRules cfg.rules = .ok cs) : PriorityOrder cs out.rules := by
  obtain ⟨rules, -, -, -, -, -, hr, hout⟩ := Settings.finalize_ok h
  rw [hcs] at hr
  cases hr
  rw [hout]
  exact priorityOrder_mergeSort cs

/-- A path is bypassed exactly when the rule it picks says `bypass`. -/
theorem PriorityOrder.bypasses_iff {rules sorted : List Rule} (ho : PriorityOrder rules sorted)
    (path : String) :
    Proxy.bypasses sorted path = true ↔ ∃ i r, FirstMatch rules path i r ∧ r.bypass = true := by
  unfold Proxy.bypasses
  cases hfind : sorted.find? (·.matches path) with
  | none =>
    simp only [Bool.false_eq_true, false_iff, not_exists, not_and]
    intro i r hfirst
    have := (ho.find?_iff path r).mpr ⟨i, hfirst⟩
    rw [hfind] at this
    cases this
  | some r =>
    obtain ⟨i, hfirst⟩ := (ho.find?_iff path r).mp hfind
    constructor
    · exact fun hb => ⟨i, r, hfirst, hb⟩
    · rintro ⟨i', r', hfirst', hb⟩
      obtain ⟨-, rfl⟩ := hfirst.unique hfirst'
      exact hb

end Transclusion.Config

namespace Transclusion.Proxy

open Transclusion.Http Transclusion.Config

theorem marker_writeAnswer (status : Int) (header : Header) (body how : String) (hhow : how ≠ "") :
    (writeAnswer status header body how).header.get markerHeader = how := by
  have hkey : canonicalKey markerHeader ≠ canonicalKey exposeList := by decide
  have hempty : how.isEmpty = false := by simpa using hhow
  simp only [writeAnswer, markHandling, Header.get, values_exposeHeader_of_ne _ _ hkey, hempty,
    Bool.false_eq_true, if_false, Header.values_set, if_pos, List.headD_cons]

/-- An answer of the origin is passed through marked `bypass` exactly when the
rules bypass the request's path. -/
theorem handle_marker_bypass (s : Service) (req : PageRequest) (status : Int) (header : Header)
    (body : String) :
    (s.handle req (.response status header body)).1.header.get markerHeader = "bypass" ↔
      bypasses s.settings.rules (targetPath req.target) = true := by
  unfold Service.handle
  by_cases hb : bypasses s.settings.rules (targetPath req.target) = true
  · simp only [hb, if_true, passThrough]
    exact iff_of_true (marker_writeAnswer _ _ _ _ (by decide)) trivial
  · -- every other answer is marked `passthrough` or `composed`
    simp only [hb, Bool.false_eq_true, if_false, iff_false]
    split
    · rw [passThrough, marker_writeAnswer _ _ _ _ (by decide)]
      decide
    · split
      · rw [marker_writeAnswer _ _ _ _ (by decide)]
        decide
      · rw [marker_writeAnswer _ _ _ _ (by decide)]
        decide

/-- Page rules end to end: `parseMatch` accepts exactly the match expressions
of the grammar and gives the prefixes they read, in order; in a finalized
configuration the first rule whose prefixes start a path is the compiled rule
that comes first, by priority and then by position in the file, among those
that match; and an origin answer is passed through marked `bypass` exactly
when that rule says `bypass`. -/
theorem rules_pick_first_match :
    (∀ expr ps, parseMatch expr = .ok ps ↔ MatchReads expr ps) ∧
      (∀ {cfg out : Settings} {cs : List Rule}, cfg.finalize = .ok out →
        compileRules cfg.rules = .ok cs →
        ∀ path r, out.rules.find? (·.matches path) = some r ↔ ∃ i, FirstMatch cs path i r) ∧
      (∀ {cfg : Settings} {cs : List Rule} (s : Service), cfg.finalize = .ok s.settings →
        compileRules cfg.rules = .ok cs →
        ∀ req status header body,
          (s.handle req (.response status header body)).1.header.get markerHeader = "bypass" ↔
            ∃ i r, FirstMatch cs (targetPath req.target) i r ∧ r.bypass = true) := by
  refine ⟨parseMatch_iff_reads, ?_, ?_⟩
  · intro cfg out cs hfin hcs path r
    exact (finalize_priorityOrder hfin hcs).find?_iff path r
  · intro cfg cs s hfin hcs req status header body
    rw [handle_marker_bypass]
    exact (finalize_priorityOrder hfin hcs).bypasses_iff _

/-- A file with a broad rule and, after it, a narrower bypass rule with a
smaller priority, written with blanks and a blank alternative: both compile,
the configuration finalizes, and the rules pick and bypass as stated. -/
theorem rules_pick_first_match_nested :
    let rules : List Rule :=
      [{ expr := "PathPrefix(/a)", priority := 2 },
       { expr := " PathPrefix( /a/b ) | ", priority := 1, bypass := true }]
    let compiled : List Rule :=
      [{ expr := "PathPrefix(/a)", priority := 2, prefixes := ["/a"] },
       { expr := " PathPrefix( /a/b ) | ", priority := 1, bypass := true, prefixes := ["/a/b"] }]
    ∃ out, ({ rules } : Settings).finalize = .ok out ∧ compileRules rules = .ok compiled ∧
      (∀ path r, out.rules.find? (·.matches path) = some r ↔ ∃ i, FirstMatch compiled path i r) ∧
      ∀ req status header body,
        (({ settings := out, node := default } : Service).handle req
            (.response status header body)).1.header.get markerHeader = "bypass" ↔
          ∃ i r, FirstMatch compiled (targetPath req.target) i r ∧ r.bypass = true := by
  intro rules compiled
  have hbroad : parseMatch "PathPrefix(/a)" = .ok ["/a"] :=
    (parseMatch_iff_reads _ _).mpr ⟨["PathPrefix(/a)"], [some "/a"], by decide, by decide,
      .cons ((alternative_some_iff _ _).mpr
        ((readAlternative_ok_iff _ _).mpr ⟨"/a", "a", by decide, by decide, by decide⟩)) .nil,
      rfl, by decide⟩
  have hnarrow : parseMatch " PathPrefix( /a/b ) | " = .ok ["/a/b"] :=
    (parseMatch_iff_reads _ _).mpr ⟨["PathPrefix( /a/b ) ", ""], [some "/a/b", none], by decide,
      by decide,
      .cons ((alternative_some_iff _ _).mpr
        ((readAlternative_ok_iff _ _).mpr ⟨" /a/b ", "a/b", by decide, by decide, by decide⟩))
        (.cons (.blank (by decide)) .nil),
      rfl, by decide⟩
  have hcs : compileRules rules = .ok compiled := by
    simp [rules, compiled, compileRules, compileRules.go, hbroad, hnarrow, Except.map]
  obtain ⟨out, hfin⟩ : ∃ out, ({ rules } : Settings).finalize = .ok out :=
    ⟨_, by simp [Settings.finalize, hcs, bind, Except.bind]; rfl⟩
  exact ⟨out, hfin, hcs, rules_pick_first_match.2.1 hfin hcs,
    rules_pick_first_match.2.2 { settings := out, node := default } hfin hcs⟩

end Transclusion.Proxy
