import Mathlib.Tactic
import Transclusion.Web.Lifetime

/-!
# Freshness lifetimes

How long a response stays fresh, stated without the fold that reads its
`Cache-Control` lines: `no-store` or `no-cache` in any directive makes it stale
at once; otherwise the last valid `s-maxage` wins, then the last valid
`max-age` less the magnitude of a parseable `Age`, clamped at zero; then
`Expires`, measured from `Date` when that parses and from now otherwise, where
the distance between the two instants saturates at the longest duration.
Seconds are multiplied out in exact arithmetic here (`freshFor`).

Main statements:

1. `foldl_read`: reading directives one by one keeps whether a store was
   forbidden and the last valid value of each directive, so the fold over the
   lines reads exactly `forbidsStore`, `lastSeconds` (`cacheDirectives_eq`).
2. `lifetime_reference`: whenever the seconds the lifetime is computed from fit
   a duration in nanoseconds (`SecondsFit`), the lifetime is `freshFor`; it is
   then never negative, `Age` never makes it longer than `max-age`, and the
   expiry of a fetched fragment is read off it. Beyond that range the 64-bit
   products wrap.
3. `lifetime_saturates`: a far `Expires` gives the longest duration, not the
   exact distance.
-/

namespace Transclusion.Http

open Transclusion.Time Transclusion.Text

/-! ## Directives, one at a time -/

/-- Every `Cache-Control` directive of `h`, line after line, in order. -/
def ccDirectives (h : Header) : List String :=
  (h.values "Cache-Control").flatMap (·.splitOn ",")

/-- A directive's name: the text before its first `=`, trimmed and
lower-cased. -/
def directiveName (directive : String) : String :=
  lower (trimBlank (((trimBlank directive).splitOn "=").headD ""))

/-- A directive's argument: the text after its first `=`. -/
def directiveArg (directive : String) : String :=
  "=".intercalate ((trimBlank directive).splitOn "=").tail

/-- Whether a directive forbids storing the response. -/
def forbids (directive : String) : Bool :=
  directiveName directive == "no-store" || directiveName directive == "no-cache"

/-- The seconds a directive gives when it is named `name` and its argument is
valid. -/
def secondsOf (name directive : String) : Option Int :=
  if directiveName directive = name then directiveSeconds (directiveArg directive) else none

theorem read_eq (d : Directives) (directive : String) :
    d.read directive =
      { noStore := d.noStore || forbids directive,
        sMaxAge := (secondsOf "s-maxage" directive).or d.sMaxAge,
        maxAge := (secondsOf "max-age" directive).or d.maxAge } := by
  obtain ⟨noStore, sMaxAge, maxAge⟩ := d
  unfold Directives.read forbids secondsOf directiveName directiveArg
  dsimp only
  rcases (trimBlank directive).splitOn "=" with _ | ⟨n, rest⟩ <;> dsimp only
  all_goals
    split <;> simp_all
    all_goals split <;> simp_all

theorem getLast?_cons_or {α : Type} (b : α) (l : List α) (o : Option α) :
    (b :: l).getLast?.or o = l.getLast?.or (some b) := by
  rw [List.getLast?_cons]
  cases l.getLast? <;> rfl

/-- Reading directives one by one keeps whether one forbade storing, and the
last valid value of each of `s-maxage` and `max-age`. -/
theorem foldl_read (ds : List String) (d : Directives) :
    ds.foldl Directives.read d =
      { noStore := d.noStore || ds.any forbids,
        sMaxAge := (ds.filterMap (secondsOf "s-maxage")).getLast?.or d.sMaxAge,
        maxAge := (ds.filterMap (secondsOf "max-age")).getLast?.or d.maxAge } := by
  induction ds generalizing d with
  | nil => cases d; simp
  | cons x ds ih =>
    rw [List.foldl_cons, ih, read_eq]
    simp only [List.any_cons, Bool.or_assoc, List.filterMap_cons]
    congr 1
    · cases secondsOf "s-maxage" x <;> simp [getLast?_cons_or]
    · cases secondsOf "max-age" x <;> simp [getLast?_cons_or]

/-! ## The lifetime in exact arithmetic -/

/-- Whether some directive of `h` forbids storing the response. -/
def forbidsStore (h : Header) : Bool := (ccDirectives h).any forbids

/-- The last valid value, in seconds, of the directive named `name`. -/
def lastSeconds (h : Header) (name : String) : Option Int :=
  ((ccDirectives h).filterMap (secondsOf name)).getLast?

/-- The magnitude of the `Age` header in seconds; zero when it does not
parse. -/
def ageSeconds (h : Header) : Int :=
  match parseInt64 (trimBlank (h.get "Age")) with
  | some n => |n|
  | none => 0

/-- The lifetime `Expires` gives: none without the header, zero when it is `0`
or not a date, else its distance from `Date` (or from now), never negative. -/
def expiresLifetime (h : Header) (now : Instant) : Option Int :=
  let expires := trimBlank (h.get "Expires")
  if expires.isEmpty then none
  else if expires == "0" then some 0
  else match parseHttpDate expires with
    | none => some 0
    | some exp =>
      let date := trimBlank (h.get "Date")
      let ref := if date.isEmpty then now else (parseHttpDate date).getD now
      some (max (exp.sub ref) 0)

/-- The lifetime the headers give, with seconds multiplied out exactly. -/
def freshFor (h : Header) (now : Instant) : Option Int :=
  if forbidsStore h then some 0
  else match lastSeconds h "s-maxage", lastSeconds h "max-age" with
  | some s, _ => some (s * nsPerSecond)
  | none, some m => some (max (m - ageSeconds h) 0 * nsPerSecond)
  | none, none => expiresLifetime h now

/-- The largest whole number of seconds whose nanoseconds fit a duration. -/
def maxSeconds : Int := maxDuration / nsPerSecond

/-- The seconds the lifetime is computed from fit a duration in nanoseconds. -/
def SecondsFit (h : Header) : Prop :=
  (∀ s ∈ lastSeconds h "s-maxage", s ≤ maxSeconds) ∧
    (∀ m ∈ lastSeconds h "max-age", m ≤ maxSeconds) ∧ ageSeconds h ≤ maxSeconds

instance : DecidablePred SecondsFit := fun _ => inferInstanceAs (Decidable (_ ∧ _ ∧ _))

/-- The fold over the lines reads exactly the directives' declarative
summary. -/
theorem cacheDirectives_eq (h : Header) :
    cacheDirectives h =
      { noStore := forbidsStore h, sMaxAge := lastSeconds h "s-maxage",
        maxAge := lastSeconds h "max-age" } := by
  rw [cacheDirectives, ← List.foldl_flatMap, foldl_read]
  simp [forbidsStore, lastSeconds, ccDirectives]

theorem directiveSeconds_nonneg {v : String} {n : Int} (h : directiveSeconds v = some n) : 0 ≤ n := by
  unfold directiveSeconds at h
  split at h
  · split at h
    · next hn => obtain rfl := Option.some.inj h; exact hn
    · cases h
  · cases h

theorem lastSeconds_nonneg {h : Header} {name : String} {s : Int} (hs : s ∈ lastSeconds h name) :
    0 ≤ s := by
  obtain ⟨x, -, hx⟩ := List.mem_filterMap.mp (List.mem_of_getLast? hs)
  unfold secondsOf at hx
  split at hx
  · exact directiveSeconds_nonneg hx
  · cases hx

theorem ageSeconds_nonneg (h : Header) : 0 ≤ ageSeconds h := by
  unfold ageSeconds
  split
  · exact abs_nonneg _
  · exact le_rfl

theorem ageSeconds_of_parse {h : Header} {n : Int} (hn : parseInt64 (trimBlank (h.get "Age")) = some n) :
    ageSeconds h = |n| := by
  unfold ageSeconds
  rw [hn]

theorem ageSeconds_of_none {h : Header} (hn : parseInt64 (trimBlank (h.get "Age")) = none) :
    ageSeconds h = 0 := by
  unfold ageSeconds
  rw [hn]

theorem ageSeconds_of_isEmpty {h : Header} (he : (trimBlank (h.get "Age")).isEmpty = true) :
    ageSeconds h = 0 :=
  ageSeconds_of_none (by rw [String.isEmpty_iff.mp he]; rfl)

theorem wrap64_of_fits {x : Int} (h1 : minDuration ≤ x) (h2 : x ≤ maxDuration) : wrap64 x = x :=
  Int.bmod_eq_of_le (by unfold minDuration at h1; omega) (by unfold maxDuration at h2; omega)

/-- Whole seconds up to `maxSeconds` are a duration in nanoseconds. -/
theorem seconds_fit {s : Int} (h0 : 0 ≤ s) (h : s ≤ maxSeconds) :
    0 ≤ s * nsPerSecond ∧ s * nsPerSecond ≤ maxDuration := by
  simp only [maxSeconds, maxDuration, nsPerSecond] at *
  omega

theorem wrap64_of_nonneg {x : Int} (h0 : 0 ≤ x) (h : x ≤ maxDuration) : wrap64 x = x :=
  wrap64_of_fits (by unfold minDuration; omega) h

theorem wrap64_sub {x y : Int} (hx : 0 ≤ x ∧ x ≤ maxDuration) (hy : 0 ≤ y ∧ y ≤ maxDuration) :
    wrap64 (x - y) = x - y :=
  wrap64_of_fits (by unfold minDuration maxDuration at *; omega) (by omega)

/-- While its seconds fit, the lifetime the headers give is `freshFor`. -/
theorem lifetime_eq_freshFor {h : Header} (now : Instant) (hfit : SecondsFit h) :
    lifetime h now = freshFor h now := by
  obtain ⟨hS, hM, hA⟩ := hfit
  unfold lifetime freshFor
  rw [cacheDirectives_eq]
  dsimp only
  split
  · rfl
  rcases hs : lastSeconds h "s-maxage" with _ | s
  · rcases hm : lastSeconds h "max-age" with _ | m
    · -- the same reading of `Expires` and `Date` on both sides
      -- reduce both matches on the date itself, so neither side's matcher is unfolded
      rcases hp : parseHttpDate (trimBlank (h.get "Expires")) with _ | exp <;>
        simp only [expiresLifetime, hp]
    · -- the max-age less the age, both exact
      have hm0 : 0 ≤ m := lastSeconds_nonneg (hm ▸ rfl : m ∈ lastSeconds h "max-age")
      have hmfit := seconds_fit hm0 (hM m (hm ▸ rfl))
      have hA0 := ageSeconds_nonneg h
      simp only [wrap64_of_nonneg hmfit.1 hmfit.2, Option.some.injEq]
      split
      · next hempty =>
        rw [ageSeconds_of_isEmpty hempty]
        simp only [nsPerSecond] at *
        omega
      split
      · next n hn =>
        rw [ageSeconds_of_parse hn] at hA hA0 ⊢
        -- a negative age is negated, which is exact when its magnitude fits
        have habs : (if n < 0 then wrap64 (-n) else n) = |n| := by
          split
          · next hneg =>
            rw [abs_of_neg hneg] at hA ⊢
            exact wrap64_of_nonneg (by omega) (by unfold maxSeconds maxDuration nsPerSecond at *; omega)
          · next hneg => rw [abs_of_nonneg (not_lt.mp hneg)]
        have hafit := seconds_fit hA0 hA
        rw [habs, wrap64_of_nonneg hafit.1 hafit.2, wrap64_sub hmfit hafit]
        simp only [nsPerSecond] at *
        omega
      · next hn =>
        rw [ageSeconds_of_none hn]
        simp only [nsPerSecond] at *
        omega
  · have hs0 : 0 ≤ s := lastSeconds_nonneg (hs ▸ rfl : s ∈ lastSeconds h "s-maxage")
    obtain ⟨h1, h2⟩ := seconds_fit hs0 (hS s (hs ▸ rfl))
    simp only [wrap64_of_nonneg h1 h2]

theorem expiresLifetime_nonneg {h : Header} {now : Instant} {l : Int}
    (hl : l ∈ expiresLifetime h now) : 0 ≤ l := by
  unfold expiresLifetime at hl
  dsimp only at hl
  split at hl
  · cases hl
  split at hl
  · obtain rfl := Option.some.inj hl; exact le_rfl
  split at hl
  · obtain rfl := Option.some.inj hl; exact le_rfl
  · obtain rfl := Option.some.inj hl; exact le_max_right _ _

theorem freshFor_nonneg {h : Header} {now : Instant} {l : Int} (hl : l ∈ freshFor h now) : 0 ≤ l := by
  unfold freshFor at hl
  split at hl
  · obtain rfl := Option.some.inj hl; exact le_rfl
  rcases hs : lastSeconds h "s-maxage" with _ | s
  · rcases hm : lastSeconds h "max-age" with _ | m
    · simp only [hs, hm] at hl
      exact expiresLifetime_nonneg hl
    · simp only [hs, hm, Option.mem_def, Option.some.injEq] at hl
      have := le_max_right (m - ageSeconds h) 0
      rw [← hl]
      unfold nsPerSecond; omega
  · simp only [hs, Option.mem_def, Option.some.injEq] at hl
    have := lastSeconds_nonneg (hs ▸ rfl : s ∈ lastSeconds h "s-maxage")
    rw [← hl]
    unfold nsPerSecond; omega

theorem freshFor_le_maxAge {h : Header} {now : Instant} {m l : Int} (hno : forbidsStore h = false)
    (hs : lastSeconds h "s-maxage" = none) (hm : lastSeconds h "max-age" = some m)
    (hl : l ∈ freshFor h now) : l ≤ m * nsPerSecond := by
  simp only [freshFor, hno, hs, hm, Bool.false_eq_true, ↓reduceIte, Option.mem_def,
    Option.some.injEq] at hl
  have hm0 := lastSeconds_nonneg (hm ▸ rfl : m ∈ lastSeconds h "max-age")
  have hA0 := ageSeconds_nonneg h
  rw [← hl]
  unfold nsPerSecond; omega

/-- While the seconds it is computed from fit a duration, the lifetime the
headers give is the exact one: zero when a directive forbids storing, else the
last valid `s-maxage`, else the last valid `max-age` less the age and never
below zero, else what `Expires` says. It is never negative, the age never
makes it longer than `max-age`, and a fetched fragment expires after it, or
after the default when the headers say nothing, or at once when that is not
positive. -/
theorem lifetime_reference (h : Header) (now : Instant) (hfit : SecondsFit h) :
    lifetime h now = freshFor h now ∧
      (∀ l ∈ lifetime h now, 0 ≤ l) ∧
      (∀ m, forbidsStore h = false → lastSeconds h "s-maxage" = none →
        lastSeconds h "max-age" = some m → ∀ l ∈ lifetime h now, l ≤ m * nsPerSecond) ∧
      ∀ ttl, expiration h now ttl =
        if (freshFor h now).getD ttl ≤ 0 then Instant.epoch else now.add ((freshFor h now).getD ttl) := by
  have heq := lifetime_eq_freshFor now hfit
  refine ⟨heq, fun l hl => freshFor_nonneg (by rwa [heq] at hl), fun m hno hs hm l hl =>
    freshFor_le_maxAge hno hs hm (by rwa [heq] at hl), fun ttl => ?_⟩
  unfold expiration
  rw [heq]

theorem lifetime_reference_expires :
    SecondsFit ⟨[("Age", some ["100"]), ("Expires", some ["Fri, 01 Mar 2024 12:10:00 GMT"])]⟩ ∧
      (lifetime ⟨[("Age", some ["100"]), ("Expires", some ["Fri, 01 Mar 2024 12:10:00 GMT"])]⟩ Instant.epoch = freshFor ⟨[("Age", some ["100"]), ("Expires", some ["Fri, 01 Mar 2024 12:10:00 GMT"])]⟩ Instant.epoch ∧
        (∀ l ∈ lifetime ⟨[("Age", some ["100"]), ("Expires", some ["Fri, 01 Mar 2024 12:10:00 GMT"])]⟩ Instant.epoch, 0 ≤ l) ∧
        (∀ m, forbidsStore ⟨[("Age", some ["100"]), ("Expires", some ["Fri, 01 Mar 2024 12:10:00 GMT"])]⟩ = false → lastSeconds ⟨[("Age", some ["100"]), ("Expires", some ["Fri, 01 Mar 2024 12:10:00 GMT"])]⟩ "s-maxage" = none →
          lastSeconds ⟨[("Age", some ["100"]), ("Expires", some ["Fri, 01 Mar 2024 12:10:00 GMT"])]⟩ "max-age" = some m →
          ∀ l ∈ lifetime ⟨[("Age", some ["100"]), ("Expires", some ["Fri, 01 Mar 2024 12:10:00 GMT"])]⟩ Instant.epoch, l ≤ m * nsPerSecond) ∧
        ∀ ttl, expiration ⟨[("Age", some ["100"]), ("Expires", some ["Fri, 01 Mar 2024 12:10:00 GMT"])]⟩ Instant.epoch ttl =
          if (freshFor ⟨[("Age", some ["100"]), ("Expires", some ["Fri, 01 Mar 2024 12:10:00 GMT"])]⟩ Instant.epoch).getD ttl ≤ 0 then Instant.epoch
          else Instant.epoch.add ((freshFor ⟨[("Age", some ["100"]), ("Expires", some ["Fri, 01 Mar 2024 12:10:00 GMT"])]⟩ Instant.epoch).getD ttl)) :=
  have hfit : SecondsFit ⟨[("Age", some ["100"]), ("Expires", some ["Fri, 01 Mar 2024 12:10:00 GMT"])]⟩ := by decide +kernel
  ⟨hfit, lifetime_reference _ _ hfit⟩

/-- A far `Expires` gets the longest duration, not its exact distance from now:
the distance between two instants saturates. -/
theorem lifetime_saturates :
    lifetime ⟨[("Expires", some ["Fri, 31 Dec 9999 23:59:59 GMT"])]⟩ ⟨1709294400 * nsPerSecond, 0⟩ =
        some maxDuration ∧
      maxDuration < (253402300799 - 1709294400) * nsPerSecond := by
  decide +kernel

end Transclusion.Http
