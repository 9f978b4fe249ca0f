import Transclusion.Composition.Assemble
import Transclusion.Proofs.Placeholder.Spans
import Mathlib

/-!
# Composing a page whatever the order of arrivals

The resolutions of a page's directives finish in any order, racing the page
deadline and the request's cancellation. Whatever the schedule, the page
holds one include per directive, in document order: the one received before
the wait ended, or else the directive's fallback content marked as timed out.
Its content is the document with every directive's span replaced by its
include's body, none skipped, and its primary include is the first in
document order whose directive is primary.

The wait never ends early for want of pending resolutions: it takes every
include that arrives before the deadline or the cancellation
(`awaitIncludes_eq`). The includes it gathers are the page's includes in
another order (`gather_perm`), and sealing sorts them back, since the
scanner's spans come in document order (`scan_spaced`). Substituting
includes laid out in the document skips none (`substitute_spaced`).

Proved: `compose_any_order`.
-/

namespace Transclusion.Composition

/-! ## The wait -/

/-- The includes whose resolutions arrived before the deadline passed or the
request was cancelled, in arrival order. -/
def receivedBefore : List Arrival → List Include
  | [] => []
  | .resolved inc :: rest => inc :: receivedBefore rest
  | .deadline :: _ => []
  | .cancelled :: _ => []

/-- Includes that resolve a page's directives: each carries the position of
one directive, that directive, and whether it is primary; no directive has
two. -/
structure Resolves (directives : List Directive) (incs : List Include) : Prop where
  resolves : ∀ inc ∈ incs, ∃ h : inc.index < directives.length,
    inc.directive = directives[inc.index] ∧ inc.primary = directives[inc.index].primary
  once : (incs.map (·.index)).Nodup

theorem awaitIncludes_of_length_le : ∀ (n : Nat) (s : List Arrival), (receivedBefore s).length ≤ n →
    awaitIncludes n s = receivedBefore s
  | 0, [], _ => rfl
  | 0, .resolved _ :: _, h => by simp [receivedBefore] at h
  | 0, .deadline :: _, _ => rfl
  | 0, .cancelled :: _, _ => rfl
  | _ + 1, [], _ => rfl
  | n + 1, .resolved inc :: rest, h => by
    simp only [awaitIncludes, receivedBefore, List.length_cons] at h ⊢
    rw [awaitIncludes_of_length_le n rest (by omega)]
  | _ + 1, .deadline :: _, _ => rfl
  | _ + 1, .cancelled :: _, _ => rfl

theorem Resolves.length_le {directives : List Directive} {incs : List Include} (h : Resolves directives incs) :
    incs.length ≤ directives.length := by
  have hsub : incs.map (·.index) ⊆ List.range directives.length := fun i hi => by
    obtain ⟨inc, hinc, rfl⟩ := List.mem_map.mp hi
    obtain ⟨hlt, -⟩ := h.resolves inc hinc
    exact List.mem_range.mpr hlt
  simpa using (List.subperm_of_subset h.once hsub).length_le

/-- The wait takes every include that arrives before the deadline or the
cancellation: with every directive resolved at most once, the count of
pending resolutions never ends it first. -/
theorem awaitIncludes_eq {directives : List Directive} {s : List Arrival}
    (h : Resolves directives (receivedBefore s)) : awaitIncludes directives.length s = receivedBefore s :=
  awaitIncludes_of_length_le _ s h.length_le

/-! ## The includes of a page -/

/-- A directive's fallback content standing in for a resolution that did not
arrive in time. -/
def timedOutInclude (d : Directive) (i : Nat) (elapsed : Int) : Include :=
  { fallbackInclude d i with timedOut := true, duration := elapsed }

/-- The include of each directive, in document order: the one received for
it, or else its fallback content marked as timed out. -/
def settled (directives : List Directive) (received : List Include) (elapsed : Int) : List Include :=
  directives.zipIdx.map fun (d, i) => (received.find? (·.index == i)).getD (timedOutInclude d i elapsed)

section Settled

variable {directives : List Directive} {received : List Include} (elapsed : Int)

/-- Among includes resolving distinct directives, the one carrying a position
is the one found for it. -/
theorem Resolves.find?_index (h : Resolves directives received) {inc : Include} (hinc : inc ∈ received) :
    received.find? (·.index == inc.index) = some inc := by
  obtain ⟨x, hx⟩ := Option.isSome_iff_exists.mp
    (List.find?_isSome.mpr ⟨inc, hinc, by simp⟩ : (received.find? (·.index == inc.index)).isSome)
  have hxi : x.index = inc.index := by simpa using List.find?_some hx
  rw [hx, List.inj_on_of_nodup_map h.once (List.mem_of_find?_eq_some hx) hinc hxi]

/-- The include settled for the directive at position `i` carries that
directive, that position, and whether the directive is primary. -/
theorem settled_entry (h : Resolves directives received) {d : Directive} {i : Nat}
    (hdi : (d, i) ∈ directives.zipIdx) :
    let inc := (received.find? (·.index == i)).getD (timedOutInclude d i elapsed)
    inc.directive = d ∧ inc.index = i ∧ inc.primary = d.primary := by
  obtain ⟨-, hlt, hd⟩ := List.mem_zipIdx hdi
  simp only [Nat.sub_zero, Nat.zero_add] at hlt hd
  cases hf : received.find? (·.index == i) with
  | none => exact ⟨rfl, rfl, rfl⟩
  | some inc =>
    have hidx : inc.index = i := by simpa using List.find?_some hf
    obtain ⟨hlt', hdir, hprim⟩ := h.resolves inc (List.mem_of_find?_eq_some hf)
    have hd' : directives[inc.index] = d := by simp only [hidx]; exact hd.symm
    exact ⟨hdir.trans hd', hidx, hprim.trans (by rw [hd'])⟩

theorem settled_directives (h : Resolves directives received) :
    (settled directives received elapsed).map (·.directive) = directives := by
  conv => rhs; rw [← List.zipIdx_map_fst 0 directives]
  rw [settled, List.map_map]
  exact List.map_congr_left fun ⟨d, i⟩ hdi => (settled_entry elapsed h hdi).1

theorem settled_indices (h : Resolves directives received) :
    (settled directives received elapsed).map (·.index) = List.range directives.length := by
  rw [List.range_eq_range', ← List.zipIdx_map_snd 0 directives, settled, List.map_map]
  exact List.map_congr_left fun ⟨d, i⟩ hdi => (settled_entry elapsed h hdi).2.1

theorem settled_primary (h : Resolves directives received) :
    ∀ inc ∈ settled directives received elapsed, inc.primary = inc.directive.primary := by
  intro inc hinc
  obtain ⟨⟨d, i⟩, hdi, rfl⟩ := List.mem_map.mp hinc
  obtain ⟨hd, -, hp⟩ := settled_entry elapsed h hdi
  rw [hp, hd]

/-- Keeping the values of the elements a test rejects is mapping over those
elements. -/
theorem filterMap_unless {α β : Type} (p : α → Bool) (g : α → β) :
    ∀ l : List α, l.filterMap (fun x => if p x then none else some (g x)) = (l.filter fun x => !p x).map g
  | [] => rfl
  | x :: rest => by
    by_cases hx : p x = true
    · simp [hx, filterMap_unless p g rest]
    · simp [hx, filterMap_unless p g rest]

/-- The includes gathered after the wait are the page's includes in another
order: those received, in arrival order, then the fallbacks of the others. -/
theorem gather_perm (h : Resolves directives received) :
    (gather directives received elapsed).Perm (settled directives received elapsed) := by
  let got : Nat → Bool := fun i => received.any (·.index == i)
  let F : Directive × Nat → Include := fun (d, i) =>
    (received.find? (·.index == i)).getD (timedOutInclude d i elapsed)
  let pick : Nat → Include := fun i => (received.find? (·.index == i)).getD default
  -- the fallbacks are the settled includes of the directives not received
  have hfall : gather directives received elapsed =
      received ++ (directives.zipIdx.filter fun x => !got x.2).map F := by
    have hg : gather directives received elapsed = received ++ directives.zipIdx.filterMap
        (fun x => if got x.2 then none else some (timedOutInclude x.1 x.2 elapsed)) := rfl
    rw [hg, filterMap_unless (fun x : Directive × Nat => got x.2)
      (fun x : Directive × Nat => timedOutInclude x.1 x.2 elapsed)]
    refine congrArg (received ++ ·) (List.map_congr_left fun ⟨d, i⟩ hx => ?_)
    have hn : got i = false := by simpa using (List.mem_filter.mp hx).2
    have hnone : received.find? (·.index == i) = none :=
      List.find?_eq_none.mpr fun x hx hxi => by simp [got] at hn; exact hn x hx (by simpa using hxi)
    simp [F, hnone]
  have hrecv : received.Perm ((directives.zipIdx.filter fun x => got x.2).map F) := by
    have hself : received = (received.map (·.index)).map pick := by
      rw [List.map_map]
      conv => lhs; rw [← List.map_id received]
      exact List.map_congr_left fun inc hinc => by simp [pick, h.find?_index hinc]
    have hset : (directives.zipIdx.filter fun x => got x.2).map F =
        ((directives.zipIdx.map Prod.snd).filter got).map pick := by
      rw [List.filter_map, List.map_map]
      refine List.map_congr_left fun ⟨d, i⟩ hx => ?_
      have hg : got i = true := (List.mem_filter.mp hx).2
      obtain ⟨inc, hinc, hi⟩ := List.any_eq_true.mp hg
      have hsome := h.find?_index hinc
      rw [show inc.index = i by simpa using hi] at hsome
      simp [F, pick, hsome]
    rw [hset, List.zipIdx_map_snd]
    conv => lhs; rw [hself]
    refine List.Perm.map pick ((List.perm_ext_iff_of_nodup h.once
      ((List.nodup_range' 1).sublist List.filter_sublist)).mpr fun i => ?_)
    constructor
    · intro hi
      obtain ⟨inc, hinc, rfl⟩ := List.mem_map.mp hi
      obtain ⟨hlt, -⟩ := h.resolves inc hinc
      exact List.mem_filter.mpr ⟨List.mem_range'.mpr ⟨inc.index, hlt, by simp⟩,
        List.any_eq_true.mpr ⟨inc, hinc, by simp⟩⟩
    · intro hi
      obtain ⟨inc, hinc, hidx⟩ := List.any_eq_true.mp (List.mem_filter.mp hi).2
      exact List.mem_map.mpr ⟨inc, hinc, by simpa using hidx⟩
  calc gather directives received elapsed
      = received ++ (directives.zipIdx.filter fun x => !got x.2).map F := hfall
    List.Perm _ ((directives.zipIdx.filter fun x => got x.2).map F ++
        (directives.zipIdx.filter fun x => !got x.2).map F) :=
        hrecv.append_right _
    _ = (directives.zipIdx.filter (fun x => got x.2) ++ directives.zipIdx.filter fun x => !got x.2).map F := by
        rw [List.map_append]
    List.Perm _ (directives.zipIdx.map F) := (List.filter_append_perm _ _).map F
    _ = settled directives received elapsed := rfl

end Settled

/-! ## Sealing the page -/

/-- The pieces of a document's bytes from `cursor` on, with the span of each
include, in order, replaced by the include's body. -/
def spliced (doc : ByteArray) : Nat → List Include → List String
  | cursor, [] => [sliceText doc cursor doc.size]
  | cursor, inc :: rest =>
    sliceText doc cursor inc.directive.start :: inc.fragment.body :: spliced doc inc.directive.stop rest

section Sealing

variable {size : Nat} {incs : List Include}

/-- Includes whose spans are laid out in a document start in increasing
order, so no two of them share a start. -/
theorem starts_increase (hs : Spaced size (incs.map (·.directive))) :
    incs.Pairwise fun a b => a.directive.start < b.directive.start := by
  refine (List.pairwise_map.mp hs.sorted).imp_of_mem fun {a b} ha _ hab => ?_
  have := (hs.within a.directive (List.mem_map_of_mem ha)).1
  omega

/-- Sorting by start any arrangement of includes laid out in a document
gives them back in document order. -/
theorem mergeSort_spaced {l : List Include} (hp : l.Perm incs) (hs : Spaced size (incs.map (·.directive))) :
    l.mergeSort (fun a b => decide (a.directive.start ≤ b.directive.start)) = incs := by
  have hlt := starts_increase hs
  have hperm := (List.mergeSort_perm l fun a b => decide (a.directive.start ≤ b.directive.start)).trans hp
  have hsorted : (l.mergeSort fun a b => decide (a.directive.start ≤ b.directive.start)).Pairwise
      fun a b => decide (a.directive.start ≤ b.directive.start) = true :=
    List.pairwise_mergeSort (fun a b c hab hbc => by simp at hab hbc ⊢; omega)
      (fun a b => by simp; omega) l
  have hinc : incs.Pairwise fun a b => decide (a.directive.start ≤ b.directive.start) = true :=
    hlt.imp fun hab => by simp; omega
  refine List.Perm.eq_of_pairwise (fun a b ha hb hab hba => ?_) hsorted hinc hperm
  have hnd : (incs.map (·.directive.start)).Nodup := (List.pairwise_map.mpr hlt).imp Nat.ne_of_lt
  exact List.inj_on_of_nodup_map hnd (hperm.subset ha) hb (by simp at hab hba; omega)

/-- An include that starts at or after the cursor and ends within the
document is substituted. -/
theorem substituteStep_of_le (doc : ByteArray) (parts : List String) (cursor : Nat) (primary : Option Include)
    {inc : Include} (hc : cursor ≤ inc.directive.start) (hz : inc.directive.stop ≤ doc.size) :
    substituteStep doc (parts, cursor, primary) inc =
      (parts ++ [sliceText doc cursor inc.directive.start, inc.fragment.body], inc.directive.stop,
        if inc.primary && primary.isNone then some inc else primary) := by
  have hskip : (decide (inc.directive.start < cursor) || decide (inc.directive.stop > doc.size)) = false := by
    simp only [Bool.or_eq_false_iff, decide_eq_false_iff_not]
    omega
  simp only [substituteStep, hskip, Bool.false_eq_true, if_false]

/-- Substituting includes laid out in the document from the cursor on skips
none, and keeps the first primary one. -/
theorem foldl_substituteStep (doc : ByteArray) :
    ∀ (incs : List Include) (parts : List String) (cursor : Nat) (primary : Option Include),
      (∀ inc ∈ incs, cursor ≤ inc.directive.start) → Spaced doc.size (incs.map (·.directive)) →
      String.join ((incs.foldl (substituteStep doc) (parts, cursor, primary)).1 ++
          [sliceText doc (incs.foldl (substituteStep doc) (parts, cursor, primary)).2.1 doc.size]) =
        String.join (parts ++ spliced doc cursor incs) ∧
      (incs.foldl (substituteStep doc) (parts, cursor, primary)).2.2 = primary.or (incs.find? (·.primary))
  | [], parts, cursor, primary, _, _ => by simp [spliced]
  | inc :: rest, parts, cursor, primary, hc, hs => by
    have hz := (hs.within inc.directive List.mem_cons_self).2
    have hrest : Spaced doc.size (rest.map (·.directive)) :=
      ⟨fun d hd => hs.within d (List.mem_cons_of_mem _ hd), (List.pairwise_cons.mp hs.sorted).2⟩
    have hafter : ∀ x ∈ rest, inc.directive.stop ≤ x.directive.start := fun x hx =>
      (List.pairwise_cons.mp hs.sorted).1 x.directive (List.mem_map_of_mem hx)
    rw [List.foldl_cons, substituteStep_of_le doc parts cursor primary (hc inc List.mem_cons_self) hz]
    obtain ⟨hjoin, hprim⟩ := foldl_substituteStep doc rest _ _ _ hafter hrest
    refine ⟨by rw [hjoin]; simp [spliced], ?_⟩
    rw [hprim, List.find?_cons]
    cases primary <;> cases inc.primary <;> simp

theorem substitute_spaced (doc : ByteArray) (hs : Spaced doc.size (incs.map (·.directive))) :
    substitute doc incs = (String.join (spliced doc 0 incs), incs.find? (·.primary)) := by
  obtain ⟨hjoin, hprim⟩ := foldl_substituteStep doc incs [] 0 none (fun _ _ => Nat.zero_le _) hs
  simp only [substitute]
  rw [hjoin, hprim, List.nil_append, Option.none_or]

end Sealing

/-! ## The page, whatever the order of arrivals -/

theorem build_includes (doc : String) (incs : List Include) (elapsed : Int) (cache : Cache.CacheStats) :
    (Page.build doc incs elapsed cache).includes =
      incs.mergeSort fun a b => decide (a.directive.start ≤ b.directive.start) := rfl

theorem build_substitute (doc : String) (incs : List Include) (elapsed : Int) (cache : Cache.CacheStats) :
    ((Page.build doc incs elapsed cache).content, (Page.build doc incs elapsed cache).primary) =
      substitute doc.toUTF8 (Page.build doc incs elapsed cache).includes := rfl

/-- What a page composed of `doc` promises once the includes in `received`
came in before its wait ended: one include per directive, in document order,
each the one received for it or else its fallback content marked as timed
out; the content is the document with every directive's span replaced by
its include's body, none skipped; the primary include is the first in
document order whose directive is primary. -/
structure Composed (doc : String) (received : List Include) (elapsed : Int) (page : Page) : Prop where
  includes : page.includes = settled (scan doc.toUTF8) received elapsed
  directives : page.includes.map (·.directive) = scan doc.toUTF8
  indices : page.includes.map (·.index) = List.range (scan doc.toUTF8).length
  ordered : page.includes.Pairwise fun a b => a.directive.stop ≤ b.directive.start
  content : page.content = String.join (spliced doc.toUTF8 0 page.includes)
  primary : page.primary = page.includes.find? (·.directive.primary)

/-- Whatever the order in which the resolutions of a document's directives
arrive, and whenever the deadline passes or the request is cancelled, the
page is composed as promised from the includes received in time. -/
theorem compose_any_order (doc : String) (schedule : List Arrival) (elapsed : Int) (cache : Cache.CacheStats)
    (h : Resolves (scan doc.toUTF8) (receivedBefore schedule)) :
    Composed doc (receivedBefore schedule) elapsed (composeWith doc (scan doc.toUTF8) schedule elapsed cache) := by
  have hd := settled_directives elapsed h
  have hs : Spaced doc.toUTF8.size ((settled (scan doc.toUTF8) (receivedBefore schedule) elapsed).map (·.directive)) := by
    rw [hd]; exact scan_spaced doc.toUTF8
  have hinc : (composeWith doc (scan doc.toUTF8) schedule elapsed cache).includes =
      settled (scan doc.toUTF8) (receivedBefore schedule) elapsed := by
    rw [composeWith, awaitIncludes_eq h, build_includes]
    exact mergeSort_spaced (gather_perm elapsed h) hs
  have hsub := build_substitute doc (gather (scan doc.toUTF8) (awaitIncludes (scan doc.toUTF8).length schedule) elapsed) elapsed cache
  rw [← composeWith, hinc, substitute_spaced doc.toUTF8 hs, Prod.mk.injEq] at hsub
  refine ⟨hinc, hinc ▸ hd, hinc ▸ settled_indices elapsed h, ?_, hinc ▸ hsub.1, ?_⟩
  · rw [hinc]; exact List.pairwise_map.mp hs.sorted
  · rw [hsub.2, hinc]
    exact List.find?_congr fun inc hinc => settled_primary elapsed h inc hinc

/-- A page of a self-closing directive and a container: the container's
resolution arrives, then the deadline passes, and the other resolution comes
too late, so the self-closing directive's fallback stands in for it. -/
theorem compose_any_order_late :
    let doc := "<p><stitch-include src=\"/a\"/><stitch-include src=\"/b\">fb</stitch-include></p>"
    let ds := scan doc.toUTF8
    let inc : Include :=
      { directive := ds[1]!, index := 1, id := "b", primary := false, fragment := { url := "/b", body := "B" },
        sourceAttr := "src" }
    let schedule := [.resolved inc, .deadline, .resolved { inc with directive := ds[0]!, index := 0 }]
    ds.length = 2 ∧ Resolves ds (receivedBefore schedule) ∧
      (composeWith doc ds schedule 5 default).includes.map (·.timedOut) = [true, false] ∧
      Composed doc (receivedBefore schedule) 5 (composeWith doc ds schedule 5 default) := by
  intro doc ds inc schedule
  have hmarks : ds.map Directive.primary = [false, false] := by simp only [ds, doc]; cbv
  have hlen : ds.length = 2 := by simpa using congrArg List.length hmarks
  have hprim : ds[1]!.primary = false := by
    rw [getElem!_pos ds 1 (by omega), ← List.getElem_map Directive.primary]
    · simp only [hmarks, List.getElem_cons_succ, List.getElem_cons_zero]
    · simp [hlen]
  have hr : Resolves ds (receivedBefore schedule) := by
    have h1 : ds[1]! = ds[1] := getElem!_pos ds 1 (by omega)
    refine ⟨fun x hx => ?_, by simp [schedule, receivedBefore, inc]⟩
    simp only [schedule, receivedBefore, List.mem_singleton] at hx
    subst hx
    exact ⟨by simp [inc, hlen], by simp [inc, h1], by show false = ds[1].primary; rw [← h1, hprim]⟩
  have hc := compose_any_order doc schedule 5 default hr
  obtain ⟨d₀, d₁, hds⟩ := List.length_eq_two.mp hlen
  have hds' : scan doc.toUTF8 = [d₀, d₁] := hds
  refine ⟨hlen, hr, ?_, hc⟩
  rw [hc.includes, hds']
  simp [settled, schedule, receivedBefore, inc, timedOutInclude]

/-! ## The page the model composes -/

section Model

open Transclusion.Http Transclusion.Config

/-- A resolution carries its directive, its position and whether the
directive is primary, whatever its sources answered. -/
theorem resolve_include {cfg : TransclusionConfig} {n : Node} {d : Directive} {i : Nat} {parent : Header}
    {inc : Include} (h : (resolve cfg n d i parent).1 = some inc) :
    inc.directive = d ∧ inc.index = i ∧ inc.primary = d.primary := by
  simp only [resolve] at h
  rcases ht : trySources cfg (parent.filter (forwardedNames cfg)) (sources cfg d) {} n with ⟨_ | acc, n'⟩ <;>
    rw [ht] at h
  · cases h
  · simp only [Option.some.injEq] at h
    subst h
    -- every outcome changes only the fragment and where it came from
    split
    · exact ⟨rfl, rfl, rfl⟩
    · split <;> exact ⟨rfl, rfl, rfl⟩
    · exact ⟨rfl, rfl, rfl⟩

theorem resolveAll_cons (cfg : TransclusionConfig) (header : Header) (i : Nat) (d : Directive)
    (rest : List (Nat × Directive)) (n : Node) :
    resolveAll cfg header ((i, d) :: rest) n =
      ((i, d, (resolve cfg n d i header).1) :: (resolveAll cfg header rest (resolve cfg n d i header).2).1,
        (resolveAll cfg header rest (resolve cfg n d i header).2).2) := by
  simp only [resolveAll]

/-- Resolving directives one after another keeps each position and
directive beside its outcome. -/
theorem resolveAll_spec (cfg : TransclusionConfig) (header : Header) :
    ∀ (l : List (Nat × Directive)) (n : Node),
      (resolveAll cfg header l n).1.map (fun x => (x.1, x.2.1)) = l ∧
      ∀ x ∈ (resolveAll cfg header l n).1, ∀ inc, x.2.2 = some inc →
        inc.directive = x.2.1 ∧ inc.index = x.1 ∧ inc.primary = x.2.1.primary
  | [], _ => ⟨rfl, by simp [resolveAll]⟩
  | (i, d) :: rest, n => by
    obtain ⟨h1, h2⟩ := resolveAll_spec cfg header rest (resolve cfg n d i header).2
    rw [resolveAll_cons]
    refine ⟨by rw [List.map_cons, h1], fun x hx inc hinc => ?_⟩
    rcases List.mem_cons.mp hx with hx | hx
    · -- reduce the projections by rewriting: `resolve` is never unfolded
      rw [hx] at hinc ⊢
      dsimp only at hinc ⊢
      exact resolve_include hinc
    · exact h2 x hx inc hinc

theorem receivedBefore_resolved (l : List Include) (s : List Arrival) :
    receivedBefore (l.map .resolved ++ s) = l ++ receivedBefore s := by
  induction l with
  | nil => rfl
  | cons inc rest ih => simp [receivedBefore, ih]

theorem mem_zip_range {ds : List Directive} {i : Nat} {d : Directive}
    (h : (i, d) ∈ (List.range ds.length).zip ds) : ∃ hi : i < ds.length, ds[i] = d := by
  obtain ⟨k, hk, hkd⟩ := List.mem_iff_getElem.mp h
  rw [List.getElem_zip, List.getElem_range, Prod.mk.injEq] at hkd
  obtain ⟨rfl, rfl⟩ := hkd
  simp only [List.length_zip, List.length_range, Nat.min_self] at hk
  exact ⟨hk, rfl⟩

/-- Outcomes that carry the position they were listed with keep the order of
those positions. -/
theorem filterMap_sublist_map {α β : Type} {f : α → Option β} {g : α → Nat} {k : β → Nat} :
    ∀ {l : List α}, (∀ x ∈ l, ∀ b, f x = some b → k b = g x) → List.Sublist ((l.filterMap f).map k) (l.map g)
  | [], _ => List.Sublist.slnil
  | x :: rest, h => by
    have ih := filterMap_sublist_map fun y hy => h y (List.mem_cons_of_mem _ hy)
    cases hx : f x with
    | none => simpa [hx] using ih.cons (g x)
    | some b => simpa [hx, h x List.mem_cons_self b hx] using ih.cons_cons (g x)

/-- The page the model composes for a document, with transclusion on, is
composed as promised from the includes whose resolutions finished. -/
theorem transclude_composed (cfg : TransclusionConfig) (n : Node) (doc : String) (header : Header)
    (h : cfg.enabled = true) : ∃ received elapsed, Composed doc received elapsed (transclude cfg n doc header).1 := by
  cases hd : (scan doc.toUTF8).isEmpty with
  | true =>
    have hnil : scan doc.toUTF8 = [] := List.isEmpty_iff.mp hd
    have hr : Resolves (scan doc.toUTF8) (receivedBefore []) := ⟨fun _ hinc => (by cases hinc), List.nodup_nil⟩
    refine ⟨[], n.clock.sub n.clock, ?_⟩
    have heq : (transclude cfg n doc header).1 = composeWith doc (scan doc.toUTF8) [] (n.clock.sub n.clock) n.store.stats := by
      simp only [transclude, h, hnil, Bool.not_true, Bool.false_eq_true, if_false, List.isEmpty_nil, if_true]
      simp [composeWith, gather, awaitIncludes]
    rw [heq]
    exact compose_any_order doc [] _ _ hr
  | false =>
    let r := resolveAll cfg header ((List.range (scan doc.toUTF8).length).zip (scan doc.toUTF8)) n
    obtain ⟨hpos, hinc⟩ := resolveAll_spec cfg header ((List.range (scan doc.toUTF8).length).zip (scan doc.toUTF8)) n
    -- the resolutions that finished arrive in document order, then the deadline passes
    have hsched : receivedBefore (r.1.filterMap (fun x => x.2.2.map Arrival.resolved) ++ [.deadline]) =
        r.1.filterMap (·.2.2) := by
      rw [← List.map_filterMap, receivedBefore_resolved]
      simp only [receivedBefore, List.append_nil]
    have hr : Resolves (scan doc.toUTF8) (r.1.filterMap (·.2.2)) := by
      refine ⟨fun inc hi => ?_, ?_⟩
      · obtain ⟨x, hx, hxi⟩ := List.mem_filterMap.mp hi
        obtain ⟨hdir, hidx, hprim⟩ := hinc x hx inc hxi
        have hmem : (x.1, x.2.1) ∈ (List.range (scan doc.toUTF8).length).zip (scan doc.toUTF8) := by
          rw [← hpos]; exact List.mem_map_of_mem hx
        obtain ⟨hlt, hget⟩ := mem_zip_range hmem
        rw [hidx]
        exact ⟨hlt, hdir.trans hget.symm, hprim.trans (by rw [hget])⟩
      · have hsub := filterMap_sublist_map (k := Include.index) (g := fun x => x.1)
          fun x hx b hb => (hinc x hx b hb).2.1
        have hidx : r.1.map (fun x => x.1) = List.range (scan doc.toUTF8).length := by
          have := congrArg (List.map Prod.fst) hpos
          rw [List.map_map, List.map_fst_zip (by simp)] at this
          exact this
        rw [hidx] at hsub
        exact List.nodup_range.sublist hsub
    refine ⟨r.1.filterMap (·.2.2), r.2.clock.sub n.clock, ?_⟩
    have heq : (transclude cfg n doc header).1 = composeWith doc (scan doc.toUTF8)
        (r.1.filterMap (fun x => x.2.2.map Arrival.resolved) ++ [.deadline]) (r.2.clock.sub n.clock)
        r.2.store.stats := by
      simp only [transclude, h, hd, Bool.not_true, Bool.false_eq_true, if_false]
      rfl
    rw [heq, ← hsched]
    exact compose_any_order doc _ _ _ (hsched ▸ hr)

end Model

end Transclusion.Composition
