import Transclusion.Composition.Page
import Transclusion.Proofs.Numeric.Rounding

/-!
# The merged Cache-Control of a page

A page with includes may be stored for as long as the shortest remaining
lifetime of the page itself (when its headers bound it) and of its includes,
and not at all once one of them has run out. The max-age is that lifetime in
whole seconds, computed as the service computes it: through a double of
seconds and its ceiling.

Proved: the double of seconds of a duration rounds its whole seconds plus its
rounded fraction (`seconds_rounds`), so the advertised seconds lie between the
floor and the ceiling of the exact seconds (`ceilSeconds_between`), grow with
the duration (`ceilSeconds_mono`), and are the exact ceiling below `2^22`
seconds (`ceilSeconds_exact`). Above that a remainder of a nanosecond is lost
in rounding. The fold over the includes computes the shortest lifetime
(`foldl_tightenBound`), and `cacheControl_merged` collects what the merged
Cache-Control says.
-/

namespace Transclusion.Composition.Page

open Transclusion.Time Transclusion.Http Transclusion.Numeric Binary64

/-! ## Whole seconds of a duration -/

/-- A non-negative duration in seconds is its whole seconds plus its fraction
`y`, a double between zero and one, rounded once. -/
theorem seconds_rounds {d : Int} (h0 : 0 ≤ d) (hd : d ≤ maxDuration) :
    ∃ y, Rounds (((d % nsPerSecond : Int) : ℚ) / nsPerSecond) y ∧ y.isFinite = true ∧
      value y ≤ 1 ∧ Rounds (((d / nsPerSecond : Int) : ℚ) + value y) (seconds d) := by
  have hq0 : 0 ≤ d / nsPerSecond := Int.ediv_nonneg h0 (by decide)
  have hr0 : 0 ≤ d % nsPerSecond := Int.emod_nonneg _ (by decide)
  have hr : d % nsPerSecond < nsPerSecond := Int.emod_lt_of_pos _ (by decide)
  obtain ⟨m₁, e₁, hx₁, hv₁⟩ := ofInt_exact hq0 (by unfold nsPerSecond maxDuration at *; omega)
  obtain ⟨m₂, e₂, hx₂, hv₂⟩ := ofInt_exact hr0 (by unfold nsPerSecond at *; omega)
  obtain ⟨k, f, hx₃, hv₃⟩ := ofInt_exact (n := nsPerSecond) (by decide) (by decide)
  obtain ⟨m₄, e₄, hx₄, hv₄⟩ := ofInt_exact (n := 1) (by decide) (by decide)
  have hk : 0 < k := by
    rcases Nat.eq_zero_or_pos k with rfl | hk
    · rw [hx₃] at hv₃
      simp [value, nsPerSecond] at hv₃
    · exact hk
  have hy := rounds_div (m := m₂) (e := e₂) (f := f) hk
  rw [← hx₂, ← hx₃, hv₂, hv₃] at hy
  -- the fraction is below one second, so it rounds to at most one
  have hle : ((d % nsPerSecond : Int) : ℚ) / nsPerSecond ≤ ((1 : Int) : ℚ) := by
    rw [div_le_iff₀ (by simp [nsPerSecond])]
    push_cast
    exact_mod_cast (by omega : d % nsPerSecond ≤ 1 * nsPerSecond)
  obtain ⟨hfin, hy1⟩ := hy.mono (rounds_ofInt (n := 1) (by decide)) hle (by simp [hx₄, isFinite])
  obtain ⟨m₃, e₃, hy₃⟩ := hy.eq_finite hfin
  refine ⟨_, hy, hfin, by simpa [hv₄] using hy1, ?_⟩
  have hs := rounds_add m₁ m₃ e₁ e₃
  rw [← hx₁, ← hy₃, hv₁] at hs
  simpa only [seconds, Int.tdiv_eq_ediv_of_nonneg h0, Int.tmod_eq_emod_of_nonneg h0] using hs

theorem rounds_whole {n : Int} (h0 : 0 ≤ n) (h : n < 2 ^ 53) :
    Rounds n (ofInt n) ∧ (ofInt n).isFinite = true ∧ value (ofInt n) = n := by
  obtain ⟨m, e, hx, hv⟩ := ofInt_exact h0 h
  exact ⟨rounds_ofInt h0, by simp [hx, isFinite], hv⟩

/-- `seconds d` is finite and lies between the whole seconds of `d` and one
more, and is exactly the whole seconds when there is no fraction. -/
theorem seconds_bounds {d : Int} (h0 : 0 ≤ d) (hd : d ≤ maxDuration) :
    (seconds d).isFinite = true ∧ ((d / nsPerSecond : Int) : ℚ) ≤ value (seconds d) ∧
      value (seconds d) ≤ ((d / nsPerSecond + 1 : Int) : ℚ) ∧
      (d % nsPerSecond = 0 → value (seconds d) = ((d / nsPerSecond : Int) : ℚ)) := by
  obtain ⟨y, hy, -, hy1, hs⟩ := seconds_rounds h0 hd
  have hy0 := value_nonneg_of_rounds hy
  have hq0 : 0 ≤ d / nsPerSecond := Int.ediv_nonneg h0 (by decide)
  have hq : d / nsPerSecond + 1 < 2 ^ 53 := by unfold nsPerSecond maxDuration at *; omega
  obtain ⟨hr₁, hf₁, hv₁⟩ := rounds_whole (by omega) hq
  obtain ⟨hr₀, hf₀, hv₀⟩ := rounds_whole hq0 (by omega)
  obtain ⟨hfin, hle⟩ := hs.mono hr₁ (by push_cast; linarith) hf₁
  refine ⟨hfin, ?_, hv₁ ▸ hle, fun hr => ?_⟩
  · have := (hr₀.mono hs (by linarith) hfin).2
    rwa [hv₀] at this
  · -- without a fraction the sum is a whole number of seconds, which is exact
    have hy0 : value y = 0 := by
      rw [hr] at hy
      simpa using (hy.exact (K := 0) (E := 0) (by norm_num) (by norm_num) (by norm_num) (by simp)).2
    rw [hy0, add_zero] at hs
    exact (hs.exact (K := (d / nsPerSecond).toNat) (E := 0) (by omega) (by norm_num) (by norm_num)
      (by rw [zpow_zero, mul_one]; exact_mod_cast (Int.toNat_of_nonneg hq0).symm)).2

theorem ceilSeconds_eq {d : Int} (h0 : 0 ≤ d) (hd : d ≤ maxDuration) :
    ceilSeconds d = ⌈value (seconds d)⌉ := by
  obtain ⟨hfin, -, hle, -⟩ := seconds_bounds h0 hd
  obtain ⟨y, hy, -, -, hs⟩ := seconds_rounds h0 hd
  obtain ⟨m, e, he⟩ := hs.eq_finite hfin
  unfold ceilSeconds
  rw [he] at hle ⊢
  apply ceilToInt64_finite
  have := Int.ceil_le.mpr hle
  unfold maxInt64; unfold maxDuration at hd; unfold nsPerSecond at this; omega

/-- The whole seconds `ceilSeconds` gives lie between the floor and the
ceiling of the duration in seconds. -/
theorem ceilSeconds_between {d : Int} (h0 : 0 ≤ d) (hd : d ≤ maxDuration) :
    d / nsPerSecond ≤ ceilSeconds d ∧ ceilSeconds d ≤ (d + nsPerSecond - 1) / nsPerSecond := by
  obtain ⟨-, hlo, hhi, hexact⟩ := seconds_bounds h0 hd
  rw [ceilSeconds_eq h0 hd]
  constructor
  · exact Int.le_ceil_iff.mpr (by linarith)
  · by_cases hr : d % nsPerSecond = 0
    · rw [hexact hr, Int.ceil_intCast]
      unfold nsPerSecond at *; omega
    · have := Int.ceil_le.mpr hhi
      unfold nsPerSecond at *; omega

theorem ceilSeconds_mono {d₁ d₂ : Int} (h0 : 0 ≤ d₁) (h : d₁ ≤ d₂) (hd : d₂ ≤ maxDuration) :
    ceilSeconds d₁ ≤ ceilSeconds d₂ := by
  obtain ⟨y₁, hy₁, -, hy₁1, hs₁⟩ := seconds_rounds h0 (h.trans hd)
  obtain ⟨y₂, hy₂, hf₂, -, hs₂⟩ := seconds_rounds (h0.trans h) hd
  obtain ⟨hfin, -⟩ := seconds_bounds (h0.trans h) hd
  have hy₂0 := value_nonneg_of_rounds hy₂
  have hsum : ((d₁ / nsPerSecond : Int) : ℚ) + value y₁ ≤ ((d₂ / nsPerSecond : Int) : ℚ) + value y₂ := by
    have hq : d₁ / nsPerSecond ≤ d₂ / nsPerSecond := Int.ediv_le_ediv (by decide) h
    rcases hq.lt_or_eq with hlt | heq
    · have : ((d₁ / nsPerSecond : Int) : ℚ) + 1 ≤ ((d₂ / nsPerSecond : Int) : ℚ) := by
        exact_mod_cast hlt
      linarith
    · have hr : d₁ % nsPerSecond ≤ d₂ % nsPerSecond := by
        unfold nsPerSecond at *; omega
      have := (hy₁.mono hy₂ (div_le_div_of_nonneg_right (by exact_mod_cast hr)
        (by simp [nsPerSecond])) hf₂).2
      rw [heq]; linarith
  rw [ceilSeconds_eq h0 (h.trans hd), ceilSeconds_eq (h0.trans h) hd]
  exact Int.ceil_mono (hs₁.mono hs₂ hsum hfin).2

/-- Below `2^22` seconds (about 48 days) `ceilSeconds` is the exact ceiling: a
fraction of at least a nanosecond, at least `2^-30` s, still counts there. -/
theorem ceilSeconds_exact {d : Int} (h0 : 0 ≤ d) (hd : d ≤ 2 ^ 22 * nsPerSecond) :
    ceilSeconds d = (d + nsPerSecond - 1) / nsPerSecond := by
  have hmax : d ≤ maxDuration := hd.trans (by decide)
  obtain ⟨hlow, hup⟩ := ceilSeconds_between h0 hmax
  by_cases hr : d % nsPerSecond = 0
  · unfold nsPerSecond at *; omega
  obtain ⟨y, hy, hf, -, hs⟩ := seconds_rounds h0 hmax
  have hq : d / nsPerSecond < 2 ^ 22 := by unfold nsPerSecond at *; omega
  have hq0 : 0 ≤ d / nsPerSecond := Int.ediv_nonneg h0 (by decide)
  obtain ⟨hfin, -⟩ := seconds_bounds h0 hmax
  -- the fraction rounds to at least `2^-30`
  have tiny := rounds_roundPos (p := 1) (q := 2 ^ 30) (by positivity)
  obtain ⟨-, hy30⟩ := tiny.exact (K := 1) (E := -30) (by norm_num) (by norm_num) (by norm_num)
    (by norm_num [zpow_neg])
  have hns : ((nsPerSecond : Int) : ℚ) = 1000000000 := by simp [nsPerSecond]
  have h1 : (1 : ℚ) ≤ ((d % nsPerSecond : Int) : ℚ) := by
    have := Int.emod_nonneg d (by decide : nsPerSecond ≠ 0)
    exact_mod_cast (by omega : (1 : Int) ≤ d % nsPerSecond)
  have hfrac := (tiny.mono hy (by
    rw [hns, div_le_div_iff₀ (by positivity) (by norm_num)]
    push_cast; linarith) hf).2
  have hv30 : 1 ≤ value y * 2 ^ 30 := by
    rw [hy30] at hfrac
    push_cast at hfrac
    rwa [div_le_iff₀ (by positivity)] at hfrac
  have hq1 : ((d / nsPerSecond).toNat : ℚ) = ((d / nsPerSecond : Int) : ℚ) := by
    exact_mod_cast Int.toNat_of_nonneg hq0
  have step := rounds_roundPos (p := (d / nsPerSecond).toNat * 2 ^ 30 + 1) (q := 2 ^ 30)
    (by positivity)
  obtain ⟨-, hsv⟩ := step.exact (K := (d / nsPerSecond).toNat * 2 ^ 30 + 1) (E := -30)
    (by omega) (by norm_num) (by norm_num) (by rw [zpow_neg, div_eq_mul_inv]; norm_num)
  have habove := (step.mono hs (by
    rw [← hq1]; push_cast; rw [div_le_iff₀ (by positivity)]; linarith) hfin).2
  have hgt : ((d / nsPerSecond : Int) : ℚ) < value (seconds d) := by
    rw [hsv] at habove
    push_cast at habove
    rw [← hq1]
    have : ((d / nsPerSecond).toNat : ℚ) < ((d / nsPerSecond).toNat * 2 ^ 30 + 1) / 2 ^ 30 := by
      rw [lt_div_iff₀ (by positivity)]; linarith
    linarith
  have := Int.lt_ceil.mpr hgt
  rw [← ceilSeconds_eq h0 hmax] at this
  unfold nsPerSecond at *; omega

-- Above `2^24` seconds the nanosecond left over is lost in the double.
example : ceilSeconds (2 ^ 24 * nsPerSecond + 1) = 2 ^ 24 := by decide

/-! ## Durations in range -/

theorem wrap64_le (x : Int) : wrap64 x ≤ maxDuration := by
  have := Int.bmod_lt (x := x) (m := 18446744073709551616) (by decide)
  unfold wrap64 maxDuration; omega

theorem sub_le (t u : Instant) : t.sub u ≤ maxDuration := by
  simp only [Instant.sub, saturate]; unfold minDuration maxDuration; omega

theorem lifetime_le {h : Header} {now : Instant} {l : Int} (hl : lifetime h now = some l) :
    l ≤ maxDuration := by
  revert hl
  unfold lifetime
  dsimp only
  split
  · intro hl; obtain rfl := Option.some.inj hl; decide
  split
  · intro hl; obtain rfl := Option.some.inj hl; exact wrap64_le _
  · intro hl; obtain rfl := Option.some.inj hl
    refine Int.max_le.mpr ⟨?_, by decide⟩
    split
    · exact wrap64_le _
    · split <;> exact wrap64_le _
  · split
    · intro hl; cases hl
    split
    · intro hl; obtain rfl := Option.some.inj hl; decide
    split
    · intro hl; obtain rfl := Option.some.inj hl; decide
    · intro hl; obtain rfl := Option.some.inj hl; exact Int.max_le.mpr ⟨sub_le _ _, by decide⟩

/-! ## The fold over the includes -/

theorem foldl_tightenBound_none (now : Instant) (incs : List Include) :
    incs.foldl (tightenBound now) none = none := by
  induction incs with
  | nil => rfl
  | cons inc rest ih => simpa [tightenBound] using ih

theorem tightenBound_some (now : Instant) (b : Option Int) (inc : Include) :
    tightenBound now (some b) inc =
      if inc.fragment.expiresAt.sub now ≤ 0 then none
      else some (some (match b with
        | some l => min l (inc.fragment.expiresAt.sub now)
        | none => inc.fragment.expiresAt.sub now)) := by
  simp only [tightenBound]
  by_cases hr : inc.fragment.expiresAt.sub now ≤ 0
  · rw [if_pos hr, if_pos hr]
  · rw [if_neg hr, if_neg hr]
    cases b with
    | none => rfl
    | some l => simp only [Option.some.injEq]; omega

/-- The fold `cacheControl` runs: nothing once an include has no lifetime left,
else the least of the starting bound and the includes' remaining lifetimes. -/
theorem foldl_tightenBound (now : Instant) (incs : List Include) (b : Option Int) :
    incs.foldl (tightenBound now) (some b) =
      if incs.any (fun inc => inc.fragment.expiresAt.sub now ≤ 0) then none
      else some (b.toList ++ incs.map (·.fragment.expiresAt.sub now)).min? := by
  induction incs generalizing b with
  | nil => cases b <;> rfl
  | cons inc rest ih =>
    rw [List.foldl_cons, tightenBound_some]
    by_cases hr : inc.fragment.expiresAt.sub now ≤ 0
    · rw [if_pos hr, foldl_tightenBound_none]
      simp [hr]
    · rw [if_neg hr, ih]
      simp only [List.any_cons, hr, decide_false, Bool.false_or]
      split
      · rfl
      · -- the bound so far is folded into the running minimum
        cases b with
        | none => rfl
        | some l =>
          simp only [Option.toList_some, List.cons_append, List.nil_append, List.min?_cons', List.map_cons,
            List.foldl_cons]

theorem sub_nonpos_iff (t u : Instant) : t.sub u ≤ 0 ↔ t.ns ≤ u.ns := by
  simp only [Instant.sub, saturate]; unfold minDuration maxDuration; omega

theorem min?_le_of_mem {xs : List Int} {m x : Int} (h : xs.min? = some m) (hx : x ∈ xs) : m ≤ x :=
  (List.min?_eq_some_iff.mp h).2 x hx

/-! ## What the merged Cache-Control says -/

/-- The shortest remaining lifetime at `now` among the page's own, when its
headers bound it, and its includes'. -/
def shortestLifetime (p : Page) (page : Header) (now : Instant) : Option Int :=
  ((lifetime page now).toList ++ p.includes.map (·.fragment.expiresAt.sub now)).min?

/-- Whether the page or one of its includes has no lifetime left at `now`. -/
def outlived (p : Page) (page : Header) (now : Instant) : Bool :=
  (lifetime page now).any (· ≤ 0) || p.includes.any (·.fragment.expiresAt.ns ≤ now.ns)

/-- The max-age the page's merged Cache-Control advertises at `now`: nothing
when the page may not be stored. -/
def maxAge (p : Page) (page : Header) (now : Instant) : Option Int :=
  if p.outlived page now then none else (p.shortestLifetime page now).map ceilSeconds

theorem outlived_iff (p : Page) (page : Header) (now : Instant) :
    p.outlived page now = true ↔ (∃ l, lifetime page now = some l ∧ l ≤ 0) ∨
      ∃ inc ∈ p.includes, inc.fragment.expiresAt.ns ≤ now.ns := by
  unfold outlived
  cases lifetime page now <;> simp

/-- With includes, the Cache-Control is `no-store` or the advertised max-age. -/
theorem cacheControl_eq (p : Page) (page : Header) (now : Instant) (h : p.includes ≠ []) :
    p.cacheControl page now = match p.maxAge page now with
      | none => "no-store"
      | some n => "max-age=" ++ toString n := by
  have hne : p.includes.isEmpty = false := by simpa using h
  unfold cacheControl maxAge outlived shortestLifetime
  rw [if_neg (by simp [hne])]
  dsimp only
  by_cases ho : (lifetime page now).any (· ≤ 0) = true
  · rw [if_pos ho]; simp [ho]
  rw [if_neg ho, foldl_tightenBound]
  have hany : (p.includes.any fun inc => decide (inc.fragment.expiresAt.sub now ≤ 0)) =
      p.includes.any (fun inc => decide (inc.fragment.expiresAt.ns ≤ now.ns)) := by
    simp only [sub_nonpos_iff]
  rw [hany]
  by_cases hi : (p.includes.any fun inc => decide (inc.fragment.expiresAt.ns ≤ now.ns)) = true
  · rw [if_pos hi]; simp [hi]
  rw [if_neg hi]
  obtain ⟨m, hm⟩ : ∃ m, ((lifetime page now).toList ++
      p.includes.map (·.fragment.expiresAt.sub now)).min? = some m :=
    Option.ne_none_iff_exists'.mp (by simp [List.min?_eq_none_iff, h])
  simp [ho, hi, hm]

section Bounds

variable {p q : Page} {page : Header} {now : Instant}

theorem shortestLifetime_isSome (page : Header) (now : Instant) (h : p.includes ≠ []) :
    ∃ m, p.shortestLifetime page now = some m :=
  Option.ne_none_iff_exists'.mp (by simp [shortestLifetime, List.min?_eq_none_iff, h])

theorem maxAge_eq_none_iff (h : p.includes ≠ []) :
    p.maxAge page now = none ↔ p.outlived page now = true := by
  obtain ⟨m, hm⟩ := shortestLifetime_isSome page now h
  unfold maxAge
  cases p.outlived page now <;> simp [hm]

theorem maxAge_eq_some {n : Int} (h : p.maxAge page now = some n) :
    p.outlived page now = false ∧ ∃ m, p.shortestLifetime page now = some m ∧ n = ceilSeconds m := by
  unfold maxAge at h
  split at h
  · cases h
  · rename_i ho
    obtain ⟨m, hm, rfl⟩ := Option.map_eq_some_iff.mp h
    exact ⟨by simpa using ho, m, hm, rfl⟩

/-- While nothing has run out, the shortest lifetime is positive and a
duration. -/
theorem shortestLifetime_bounds {m : Int} (ho : p.outlived page now = false)
    (hm : p.shortestLifetime page now = some m) : 0 < m ∧ m ≤ maxDuration := by
  have hmem := List.min?_mem hm
  simp only [outlived, Bool.or_eq_false_iff, List.any_eq_false, decide_eq_true_eq] at ho
  rcases List.mem_append.mp hmem with hown | hmap
  · obtain ⟨hown', -⟩ := ho
    rcases hl : lifetime page now with _ | l
    · simp [hl] at hown
    · simp only [hl, Option.toList_some, List.mem_singleton] at hown
      subst hown
      simp [hl] at hown'
      exact ⟨hown', lifetime_le hl⟩
  · obtain ⟨inc, hinc, rfl⟩ := List.mem_map.mp hmap
    have := ho.2 inc hinc
    exact ⟨by rw [← not_le, sub_nonpos_iff]; omega, sub_le _ _⟩

theorem shortestLifetime_le_own {m l : Int} (hm : p.shortestLifetime page now = some m)
    (hl : lifetime page now = some l) : m ≤ l :=
  min?_le_of_mem hm (by simp [hl])

theorem shortestLifetime_anti {m m' : Int} (hsub : p.includes ⊆ q.includes)
    (hm' : q.shortestLifetime page now = some m') (hm : p.shortestLifetime page now = some m) :
    m' ≤ m := by
  apply min?_le_of_mem hm'
  rcases List.mem_append.mp (List.min?_mem hm) with hown | hmap
  · exact List.mem_append_left _ hown
  · obtain ⟨inc, hinc, rfl⟩ := List.mem_map.mp hmap
    exact List.mem_append_right _ (List.mem_map_of_mem (hsub hinc))

theorem outlived_of_subset (hsub : p.includes ⊆ q.includes) (ho : p.outlived page now = true) :
    q.outlived page now = true := by
  rw [outlived_iff] at ho ⊢
  rcases ho with hown | ⟨inc, hinc, he⟩
  · exact .inl hown
  · exact .inr ⟨inc, hsub hinc, he⟩

end Bounds

/-- What the merged Cache-Control of a page says at `now`. -/
structure Merged (p : Page) (page : Header) (now : Instant) : Prop where
  /-- With includes it is `no-store` or the advertised max-age. -/
  text : p.includes ≠ [] → p.cacheControl page now = match p.maxAge page now with
    | none => "no-store"
    | some n => "max-age=" ++ toString n
  /-- Nothing is advertised exactly when the page's own lifetime is bounded and
  spent, or some include's fragment has expired. -/
  none_iff : p.includes ≠ [] → (p.maxAge page now = none ↔
    (∃ l, lifetime page now = some l ∧ l ≤ 0) ∨
      ∃ inc ∈ p.includes, inc.fragment.expiresAt.ns ≤ now.ns)
  /-- An advertised max-age is the shortest remaining lifetime in whole
  seconds: between its floor and its ceiling, and the ceiling below `2^22`
  seconds. -/
  seconds : ∀ n, p.maxAge page now = some n → ∃ m, p.shortestLifetime page now = some m ∧
    0 < m ∧ m / nsPerSecond ≤ n ∧ n ≤ (m + nsPerSecond - 1) / nsPerSecond ∧
    (m ≤ 2 ^ 22 * nsPerSecond → n = (m + nsPerSecond - 1) / nsPerSecond)
  /-- It never exceeds the page's own lifetime rounded up. -/
  within_own : ∀ n l, p.maxAge page now = some n → lifetime page now = some l →
    n ≤ (l + nsPerSecond - 1) / nsPerSecond
  /-- More includes never raise it. -/
  more_includes : p.includes ≠ [] → ∀ (q : Page) n, p.includes ⊆ q.includes →
    q.maxAge page now = some n → ∃ n₀, p.maxAge page now = some n₀ ∧ n ≤ n₀
  /-- Once the epoch has passed, a fragment stamped with it forces `no-store`. -/
  expired : 0 < now.ns → (∃ inc ∈ p.includes, inc.fragment.expiresAt = Instant.epoch) →
    p.cacheControl page now = "no-store"
  /-- Without includes the page keeps its own Cache-Control. -/
  untouched : p.includes = [] → p.cacheControl page now = page.get "Cache-Control"

theorem cacheControl_merged (p : Page) (page : Header) (now : Instant) : Merged p page now where
  text := cacheControl_eq p page now
  none_iff h := (maxAge_eq_none_iff h).trans (outlived_iff p page now)
  seconds n hn := by
    obtain ⟨ho, m, hm, rfl⟩ := maxAge_eq_some hn
    obtain ⟨hpos, hle⟩ := shortestLifetime_bounds ho hm
    obtain ⟨hfloor, hceil⟩ := ceilSeconds_between hpos.le hle
    exact ⟨m, hm, hpos, hfloor, hceil, ceilSeconds_exact hpos.le⟩
  within_own n l hn hl := by
    obtain ⟨ho, m, hm, rfl⟩ := maxAge_eq_some hn
    obtain ⟨hpos, hle⟩ := shortestLifetime_bounds ho hm
    have hml := shortestLifetime_le_own hm hl
    exact (ceilSeconds_between hpos.le hle).2.trans (Int.ediv_le_ediv (by decide) (by omega))
  more_includes h q n hsub hq := by
    obtain ⟨ho', m', hm', rfl⟩ := maxAge_eq_some hq
    -- the smaller page has run out of nothing the larger still has
    have ho : p.outlived page now = false := by
      cases hp : p.outlived page now
      · rfl
      · rw [outlived_of_subset hsub hp] at ho'; cases ho'
    obtain ⟨m, hm⟩ := shortestLifetime_isSome page now h
    obtain ⟨hpos', -⟩ := shortestLifetime_bounds ho' hm'
    obtain ⟨-, hle⟩ := shortestLifetime_bounds ho hm
    refine ⟨ceilSeconds m, by simp [maxAge, ho, hm], ?_⟩
    exact ceilSeconds_mono hpos'.le (shortestLifetime_anti hsub hm' hm) hle
  expired hnow hinc := by
    obtain ⟨inc, hmem, he⟩ := hinc
    have h : p.includes ≠ [] := List.ne_nil_of_mem hmem
    have ho : p.outlived page now = true :=
      (outlived_iff p page now).mpr (.inr ⟨inc, hmem, by simp [he, Instant.epoch]; omega⟩)
    rw [cacheControl_eq p page now h, (maxAge_eq_none_iff h).mpr ho]
  untouched := cacheControl_no_includes p page now

end Transclusion.Composition.Page
