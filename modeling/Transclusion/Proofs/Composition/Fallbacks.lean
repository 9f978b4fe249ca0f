import Transclusion.Proofs.Composition.Arrivals

/-!
# The fallback chain of a directive

A directive's sources are its `src` and then its `fallback-src`, each
trimmed, an empty one dropped, each with the timeout its own attribute gives
when that reads as a valid timeout and the request timeout otherwise
(`sources_eq`). They are loaded in that order, each from the node the
previous load left, and loading stops at the first fragment with a
successful status or at a load that never finishes: the sources after it are
neither looked up in the cache nor fetched (`LoadChain`).

What the directive resolves to follows from those loads alone
(`ChainSettles`): nothing while a load never finishes; otherwise the winning
fragment, with its attribute and whether the cache supplied it; else, for a
primary directive, the first fragment with an unsuccessful status, marked as
already expired; else the fallback content. Every outcome keeps the
directive, its position, identifier and primary mark.

The sources are tried with an accumulator that records the winner and the
first error response (`trySources`); `trySources_chain` reads that
accumulator off the loads made.

Proved: `resolve_fallback_chain`.
-/

namespace Transclusion.Composition

open Transclusion.Http Transclusion.Time Transclusion.Config

/-! ## The sources -/

/-- The timeout of a source whose timeout attribute is `timeoutAttr`: the
attribute's value when it reads as a valid timeout, the request timeout
otherwise. -/
def sourceTimeout (cfg : TransclusionConfig) (d : Directive) (timeoutAttr : String) : Int :=
  match d.attr? timeoutAttr with
  | some raw => if (parseTimeout raw).ok then (parseTimeout raw).ns else cfg.requestTimeout
  | none => cfg.requestTimeout

/-- The source the attribute `attr` names with `url`, none when the URL is
empty. -/
def sourceOf (cfg : TransclusionConfig) (d : Directive) (attr url timeoutAttr : String) : List Source :=
  if url.isEmpty then [] else [{ attr, url, timeout := sourceTimeout cfg d timeoutAttr }]

theorem sources_eq (cfg : TransclusionConfig) (d : Directive) :
    sources cfg d = sourceOf cfg d "src" d.src "src-timeout" ++
      sourceOf cfg d "fallback-src" d.fallbackSrc "fallback-src-timeout" := by
  simp only [sources, sourceOf, sourceTimeout, List.filterMap_cons, List.filterMap_nil]
  split_ifs <;> rfl

/-! ## What one load gives -/

/-- Whether loading goes on past what a load gave: a failure, or a fragment
with an unsuccessful status. -/
def Loaded.passes : Loaded → Bool
  | .fragment f _ => !isSuccess f.status
  | .failure _ => true
  | .stall => false

/-- Whether a load never finished. -/
def Loaded.stalls : Loaded → Bool
  | .fragment _ _ => false
  | .failure _ => false
  | .stall => true

/-- Whether a load failed without a response. -/
def Loaded.failed : Loaded → Bool
  | .fragment _ _ => false
  | .failure _ => true
  | .stall => false

/-- The fragment a source won with: one with a successful status. -/
def wonBy : Source × Loaded → Option (Source × Fragment × Bool)
  | (s, .fragment f cached) => if isSuccess f.status then some (s, f, cached) else none
  | (_, .failure _) => none
  | (_, .stall) => none

/-- The response with an unsuccessful status a source gave. -/
def erroredBy : Source × Loaded → Option (Source × Fragment × Bool)
  | (s, .fragment f cached) => if isSuccess f.status then none else some (s, f, cached)
  | (_, .failure _) => none
  | (_, .stall) => none

theorem wonBy_of_passes {s : Source} {l : Loaded} (h : l.passes = true) : wonBy (s, l) = none := by
  cases l with
  | fragment f cached => simpa [wonBy, Loaded.passes] using h
  | failure e => rfl
  | stall => cases h

theorem stalls_of_passes {l : Loaded} (h : l.passes = true) : l.stalls = false := by
  cases l <;> simp_all [Loaded.passes, Loaded.stalls]

theorem erroredBy_of_failed {s : Source} {l : Loaded} (h : l.failed = true) : erroredBy (s, l) = none := by
  cases l <;> simp_all [Loaded.failed, erroredBy]

theorem any_stalls_iff (trace : List (Source × Loaded)) :
    trace.any (·.2.stalls) = true ↔ ∃ s, (s, Loaded.stall) ∈ trace := by
  constructor
  · intro h
    obtain ⟨⟨s, l⟩, hm, hl⟩ := List.any_eq_true.mp h
    cases l <;> simp only [Loaded.stalls, Bool.false_eq_true] at hl
    exact ⟨s, hm⟩
  · rintro ⟨s, hs⟩
    exact List.any_eq_true.mpr ⟨_, hs, rfl⟩

theorem findSome?_wonBy_of_passes {trace : List (Source × Loaded)} (h : ∀ p ∈ trace, p.2.passes = true) :
    trace.findSome? wonBy = none :=
  List.findSome?_eq_none_iff.mpr fun p hp => wonBy_of_passes (h p hp)

theorem findSome?_erroredBy_of_failed {trace : List (Source × Loaded)} (h : ∀ p ∈ trace, p.2.failed = true) :
    trace.findSome? erroredBy = none :=
  List.findSome?_eq_none_iff.mpr fun p hp => erroredBy_of_failed (h p hp)

/-- The first error response is the first unsuccessful fragment after failures. -/
theorem findSome?_erroredBy_first {pre post : List (Source × Loaded)} {s : Source} {f : Fragment} {cached : Bool}
    (hpre : ∀ p ∈ pre, p.2.failed = true) (hf : isSuccess f.status = false) :
    (pre ++ (s, Loaded.fragment f cached) :: post).findSome? erroredBy = some (s, f, cached) := by
  rw [List.findSome?_append, findSome?_erroredBy_of_failed hpre]
  simp [erroredBy, hf]

/-! ## The loads a directive makes -/

/-- What the loads `trace` of a directive `d` at position `i`, started at
`start` and ending at the node `n'`, make of it: `r` is nothing exactly when a
load stalled; a successful fragment is taken with its source's attribute and
whether the cache supplied it; when no load stalled or won, a primary
directive takes the first unsuccessful fragment, after failures only, marked
as expired; otherwise the fallback content, when the directive is not
primary or no source gave a response. -/
structure ChainSettles (d : Directive) (i : Nat) (start : Instant) (trace : List (Source × Loaded)) (n' : Node)
    (r : Option Include) : Prop where
  stalled : r = none ↔ ∃ s, (s, Loaded.stall) ∈ trace
  won : ∀ s f cached, (s, Loaded.fragment f cached) ∈ trace → isSuccess f.status = true →
    r = some { fallbackInclude d i with
      fragment := f, sourceAttr := s.attr, cached, duration := n'.clock.sub start }
  errored : ∀ pre s f cached post, trace = pre ++ (s, Loaded.fragment f cached) :: post →
    (∀ p ∈ pre, p.2.failed = true) → (∀ p ∈ trace, p.2.passes = true) → d.primary = true →
    r = some { fallbackInclude d i with
      fragment := { f with expiresAt := Instant.epoch }, sourceAttr := s.attr, cached
      duration := n'.clock.sub start }
  fallback : (∀ p ∈ trace, p.2.passes = true) → (d.primary = false ∨ ∀ p ∈ trace, p.2.failed = true) →
    r = some { fallbackInclude d i with duration := n'.clock.sub start }

/-- The loads of the sources `srcs` from the node `n`, with what each gave,
ending at the node `n'`: each source is loaded from the node the previous
load left; loading goes past a failure or an unsuccessful fragment and stops
at a successful fragment or at a load that never finishes. -/
inductive LoadChain (cfg : TransclusionConfig) (header : Header) :
    List Source → Node → List (Source × Loaded) → Node → Prop
  | exhausted (n : Node) : LoadChain cfg header [] n [] n
  | stop {s : Source} {rest : List Source} {n n' : Node} {l : Loaded} :
      n.load cfg.forwardVary s.url s.timeout header = (l, n') → l.passes = false →
      LoadChain cfg header (s :: rest) n [(s, l)] n'
  | pass {s : Source} {rest : List Source} {n n₁ n' : Node} {l : Loaded} {trace : List (Source × Loaded)} :
      n.load cfg.forwardVary s.url s.timeout header = (l, n₁) → l.passes = true →
      LoadChain cfg header rest n₁ trace n' → LoadChain cfg header (s :: rest) n ((s, l) :: trace) n'

namespace LoadChain

variable {cfg : TransclusionConfig} {header : Header}

theorem loads_leading_sources {srcs : List Source} {n n' : Node} {trace : List (Source × Loaded)}
    (h : LoadChain cfg header srcs n trace n') : trace.map Prod.fst <+: srcs := by
  induction h with
  | exhausted n => exact List.nil_prefix
  | stop _ _ => simp
  | pass _ _ _ ih => simpa using ih

/-- A successful fragment ends the loads: no load stalled, and it is the
first win. -/
theorem won {srcs : List Source} {n n' : Node} {trace : List (Source × Loaded)}
    (h : LoadChain cfg header srcs n trace n') {s : Source} {f : Fragment} {cached : Bool}
    (hm : (s, Loaded.fragment f cached) ∈ trace) (hs : isSuccess f.status = true) :
    trace.any (·.2.stalls) = false ∧ trace.findSome? wonBy = some (s, f, cached) := by
  induction h with
  | exhausted n => cases hm
  | stop _ _ =>
    simp only [List.mem_singleton, Prod.mk.injEq] at hm
    obtain ⟨rfl, rfl⟩ := hm
    simp [Loaded.stalls, wonBy, hs]
  | pass _ hp _ ih =>
    rcases List.mem_cons.mp hm with heq | hmem
    · -- a won load ends the chain, so it cannot be one the chain went past
      simp only [Prod.mk.injEq] at heq
      obtain ⟨rfl, rfl⟩ := heq
      simp [Loaded.passes, hs] at hp
    · obtain ⟨hst, hw⟩ := ih hmem
      simp [List.any_cons, stalls_of_passes hp, hst, wonBy_of_passes hp, hw]

/-- Loads of which one stalled settle on nothing: no load won, and none went
past the stalled one. -/
theorem settles_stalled {srcs : List Source} {n n' : Node} {trace : List (Source × Loaded)}
    (h : LoadChain cfg header srcs n trace n') (d : Directive) (i : Nat) (start : Instant)
    (hst : trace.any (·.2.stalls) = true) : ChainSettles d i start trace n' none := by
  obtain ⟨s, hs⟩ := (any_stalls_iff trace).mp hst
  -- the stalled load is one the chain did not go past
  have hnp : ¬ ∀ p ∈ trace, p.2.passes = true := fun hall => by simpa [Loaded.passes] using hall _ hs
  refine ⟨⟨fun _ => ⟨s, hs⟩, fun _ => rfl⟩, fun s f cached hw hsucc => ?_,
    fun _ _ _ _ _ _ _ hall _ => absurd hall hnp, fun hall _ => absurd hall hnp⟩
  simp [(h.won hw hsucc).1] at hst

end LoadChain

/-! ## Trying the sources -/

/-- Trying sources from any accumulator makes the loads of a `LoadChain`; it
gives nothing when one of them stalls, and otherwise records the first win
and, after the accumulator's, the first error response. -/
theorem trySources_chain (cfg : TransclusionConfig) (header : Header) :
    ∀ (srcs : List Source) (acc : Attempts) (n : Node),
      ∃ trace n', LoadChain cfg header srcs n trace n' ∧ (trySources cfg header srcs acc n).2 = n' ∧
        (trySources cfg header srcs acc n).1 =
          if trace.any (·.2.stalls) then none
          else some { won := (trace.findSome? wonBy).or acc.won
                      errored := acc.errored.or (trace.findSome? erroredBy) } := by
  intro srcs
  induction srcs with
  | nil =>
    intro acc n
    exact ⟨[], n, .exhausted n, rfl, by simp [trySources]⟩
  | cons s rest ih =>
    intro acc n
    rcases hl : n.load cfg.forwardVary s.url s.timeout header with ⟨l, n₁⟩
    cases l with
    | stall =>
      refine ⟨[(s, .stall)], n₁, .stop hl rfl, ?_, ?_⟩ <;> simp [trySources, hl, Loaded.stalls.eq_3]
    | failure e =>
      obtain ⟨trace, n', hc, h2, h1⟩ := ih acc n₁
      refine ⟨(s, .failure e) :: trace, n', .pass hl rfl hc, ?_, ?_⟩
      · simp only [trySources, hl]
        exact h2
      · simp only [trySources, hl, h1, List.any_cons, List.findSome?_cons, wonBy, erroredBy, Loaded.stalls.eq_2,
          Bool.false_or]
    | fragment f cached =>
      by_cases hs : isSuccess f.status = true
      · refine ⟨[(s, .fragment f cached)], n₁, .stop hl (by simp [Loaded.passes, hs]), ?_, ?_⟩ <;>
          simp [trySources, hl, hs, Loaded.stalls.eq_1, wonBy, erroredBy]
      · -- an error response is recorded unless an earlier one was
        have hs' : isSuccess f.status = false := by simpa using hs
        obtain ⟨trace, n', hc, h2, h1⟩ := ih { acc with errored := acc.errored.or (some (s, f, cached)) } n₁
        refine ⟨(s, .fragment f cached) :: trace, n', .pass hl (by simp [Loaded.passes, hs']) hc, ?_, ?_⟩
        · simp only [trySources, hl, hs', Bool.false_eq_true, if_false]
          exact h2
        · simp only [trySources, hl, hs', Bool.false_eq_true, if_false]
          rw [h1]
          simp only [List.any_cons, List.findSome?_cons, wonBy, erroredBy, Loaded.stalls.eq_1, Bool.false_or, hs',
            Bool.false_eq_true, if_false, Option.or_assoc, Option.some_or]

/-! ## What a directive resolves to -/

/-- For every directive, position, page request headers and node (its cache
and its servers' scripts), resolving loads the directive's `src` and then
its `fallback-src`, in a `LoadChain` with the forwarded headers, and settles
as `ChainSettles` says. -/
theorem resolve_fallback_chain (cfg : TransclusionConfig) (n : Node) (d : Directive) (i : Nat) (parent : Header) :
    ∃ trace n', LoadChain cfg (parent.filter (forwardedNames cfg))
        (sourceOf cfg d "src" d.src "src-timeout" ++
          sourceOf cfg d "fallback-src" d.fallbackSrc "fallback-src-timeout") n trace n' ∧
      (resolve cfg n d i parent).2 = n' ∧ ChainSettles d i n.clock trace n' (resolve cfg n d i parent).1 := by
  obtain ⟨trace, n', hc, h2, h1⟩ := trySources_chain cfg (parent.filter (forwardedNames cfg)) (sources cfg d) {} n
  rw [sources_eq] at hc
  by_cases hst : trace.any (·.2.stalls) = true
  · -- a load never finished: the directive resolves to nothing
    have ht : trySources cfg (parent.filter (forwardedNames cfg)) (sources cfg d) {} n = (none, n') :=
      Prod.ext (by rw [h1, if_pos hst]) h2
    refine ⟨trace, n', hc, by simp only [resolve, ht], ?_⟩
    simpa only [resolve, ht] using hc.settles_stalled d i n.clock hst
  · have ht : trySources cfg (parent.filter (forwardedNames cfg)) (sources cfg d) {} n =
        (some { won := trace.findSome? wonBy, errored := trace.findSome? erroredBy }, n') :=
      Prod.ext (by rw [h1, if_neg hst]; simp) h2
    refine ⟨trace, n', hc, by simp only [resolve, ht], ?_⟩
    simp only [resolve, ht]
    refine ⟨⟨(fun h => by cases h), fun h => absurd ((any_stalls_iff trace).mpr h) hst⟩, ?won, ?errored, ?fallback⟩
    case won =>
      intro s f cached hm hs
      simp only [(hc.won hm hs).2]
    case errored =>
      rintro pre s f cached post rfl hpre hall hprim
      have hf : isSuccess f.status = false := by simpa [Loaded.passes] using hall (s, .fragment f cached) (by simp)
      simp only [findSome?_wonBy_of_passes hall, findSome?_erroredBy_first hpre hf, fallbackInclude, hprim, if_true]
    case fallback =>
      rintro hall (hprim | hfail)
      · cases trace.findSome? erroredBy <;>
          simp only [findSome?_wonBy_of_passes hall, fallbackInclude, hprim, Bool.false_eq_true, if_false]
      · simp only [findSome?_wonBy_of_passes hall, findSome?_erroredBy_of_failed hfail]

end Transclusion.Composition
