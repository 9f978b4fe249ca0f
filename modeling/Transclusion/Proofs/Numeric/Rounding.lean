import Transclusion.Numeric.Binary64
import Mathlib.Algebra.Order.Field.Power
import Mathlib.Data.Rat.Floor
import Mathlib.Tactic.FieldSimp
import Mathlib.Tactic.Linarith
import Mathlib.Tactic.Ring

/-!
# Rounding to the nearest double

What the rounding of `roundPos` does to values. A positive fraction `p / q`
lies in the binade `[2^F, 2^(F+1))` with `F = floorLog2 p q`; its significand
is the fraction scaled to the last bit of that binade (never below the
subnormal exponent) and rounded to the nearest integer, ties to even.

Proved: rounding is monotone (`roundPos_mono`), and a fraction that is already
a double rounds to itself (`roundPos_exact`). The relation `Rounds v x` (the
double `x` is the rational `v` rounded) carries both through the sums,
quotients and integer conversions the service computes with, and `ceilInt`
is the ceiling of the value.
-/

namespace Transclusion.Numeric.Binary64

/-- The exact value of a double; infinities and NaN count as zero. -/
def value : Binary64 → ℚ
  | .finite neg m e => (if neg then -1 else 1) * (m * 2 ^ e)
  | _ => 0

theorem two_zpow_eq (t : Int) : (2 : ℚ) ^ t = 2 ^ t.toNat / 2 ^ (-t).toNat := by
  conv_lhs => rw [← Int.toNat_sub_toNat_neg t]
  rw [zpow_sub₀ two_ne_zero, zpow_natCast, zpow_natCast]

theorem two_zpow_add_nat (e : Int) (n : Nat) : (2 : ℚ) ^ (e + n) = 2 ^ e * 2 ^ n := by
  rw [zpow_add₀ two_ne_zero, zpow_natCast]

/-! ## Rounding to an integer -/

theorem roundDiv_cases (a d : Nat) :
    (roundDiv a d = a / d ∧ (2 * (a % d) < d ∨ 2 * (a % d) = d ∧ a / d % 2 = 0)) ∨
      (roundDiv a d = a / d + 1 ∧ (d < 2 * (a % d) ∨ 2 * (a % d) = d ∧ a / d % 2 = 1)) := by
  unfold roundDiv
  dsimp only
  split
  · rename_i h
    simp only [Bool.or_eq_true, decide_eq_true_eq, Bool.and_eq_true, beq_iff_eq] at h
    exact .inr ⟨rfl, h⟩
  · rename_i h
    simp only [Bool.or_eq_true, decide_eq_true_eq, Bool.and_eq_true, beq_iff_eq, not_or,
      not_and] at h
    exact .inl ⟨rfl, by omega⟩

theorem roundDiv_exact (k d : Nat) (hd : 0 < d) : roundDiv (k * d) d = k := by
  simp [roundDiv, Nat.mul_div_cancel _ hd, Nat.mul_mod_left]
  omega

/-- Of two quotients the smaller has the smaller integer part, and with equal
integer parts the smaller fractional part. -/
theorem div_mod_mono {a b c d : Nat} (hb : 0 < b) (hd : 0 < d) (h : a * d ≤ c * b) :
    a / b ≤ c / d ∧ (a / b = c / d → a % b * d ≤ c % d * b) := by
  have ha := Nat.div_add_mod a b
  have hc := Nat.div_add_mod c d
  have ra := Nat.mod_lt a hb
  have rc := Nat.mod_lt c hd
  generalize a / b = Q₁, a % b = R₁ at *
  generalize c / d = Q₂, c % d = R₂ at *
  subst ha hc
  constructor
  · by_contra hlt
    have : (Q₂ + 1) * b * d ≤ Q₁ * b * d := by gcongr; omega
    nlinarith
  · rintro rfl
    nlinarith

/-- Rounding to the nearest integer is monotone: a smaller quotient never
rounds above a larger one. -/
theorem roundDiv_mono {a b c d : Nat} (hb : 0 < b) (hd : 0 < d) (h : a * d ≤ c * b) :
    roundDiv a b ≤ roundDiv c d := by
  obtain ⟨hQ, hR⟩ := div_mod_mono hb hd h
  -- with equal integer parts, a half reached on the left is reached on the right
  have up : a / b = c / d → (b < 2 * (a % b) → d < 2 * (c % d)) ∧
      (2 * (a % b) = b → d ≤ 2 * (c % d)) := by
    intro he
    have hr := hR he
    constructor
    · intro h₁
      by_contra h₂
      have : 2 * (c % d) * b ≤ d * b := Nat.mul_le_mul_right b (by omega)
      have : b * d < 2 * (a % b) * d := Nat.mul_lt_mul_of_pos_right h₁ hd
      nlinarith
    · intro h₁
      by_contra h₂
      have : 2 * (c % d) * b < d * b := Nat.mul_lt_mul_of_pos_right (by omega) hb
      nlinarith
  rcases roundDiv_cases a b with ⟨e₁, h₁⟩ | ⟨e₁, h₁⟩ <;>
    rcases roundDiv_cases c d with ⟨e₂, h₂⟩ | ⟨e₂, h₂⟩ <;> rw [e₁, e₂]
  · exact hQ
  · omega
  · rcases Nat.lt_or_eq_of_le hQ with hlt | heq
    · omega
    · have := up heq; omega
  · omega


theorem roundDiv_le_roundDiv {a b c d : Nat} (hb : 0 < b) (hd : 0 < d)
    (h : (a : ℚ) / b ≤ c / d) : roundDiv a b ≤ roundDiv c d := by
  rw [div_le_div_iff₀ (by exact_mod_cast hb) (by exact_mod_cast hd)] at h
  exact roundDiv_mono hb hd (by exact_mod_cast h)

theorem roundDiv_le_of {a b : Nat} (k : Nat) (hb : 0 < b) (h : (a : ℚ) / b ≤ k) :
    roundDiv a b ≤ k := by
  have := roundDiv_le_roundDiv (c := k * 1) hb Nat.one_pos (by simpa using h)
  rwa [roundDiv_exact k 1 Nat.one_pos] at this

theorem le_roundDiv_of {a b : Nat} (k : Nat) (hb : 0 < b) (h : (k : ℚ) ≤ a / b) :
    k ≤ roundDiv a b := by
  have := roundDiv_le_roundDiv (a := k * 1) Nat.one_pos hb (by simpa using h)
  rwa [roundDiv_exact k 1 Nat.one_pos] at this

/-! ## The binade of a fraction -/

theorem log2_bounds {n : Nat} (hn : 0 < n) :
    (2 : ℚ) ^ n.log2 ≤ n ∧ (n : ℚ) < 2 ^ (n.log2 + 1) := by
  constructor
  · exact_mod_cast Nat.log2_self_le hn.ne'
  · exact_mod_cast Nat.lt_log2_self

theorem fits_iff (p q : Nat) (hq : 0 < q) (t : Int) :
    (if t ≥ 0 then p ≥ q * 2 ^ t.toNat else p * 2 ^ (-t).toNat ≥ q) ↔ (2 : ℚ) ^ t ≤ p / q := by
  have hq' : (0 : ℚ) < q := by exact_mod_cast hq
  rw [two_zpow_eq, le_div_iff₀ hq']
  split
  · rename_i ht
    rw [show (-t).toNat = 0 by omega, pow_zero, div_one, mul_comm]
    exact_mod_cast Iff.rfl
  · rename_i ht
    rw [show t.toNat = 0 by omega, pow_zero, one_div, inv_mul_le_iff₀ (by positivity), ge_iff_le,
      ← Nat.cast_le (α := ℚ)]
    push_cast
    rw [mul_comm]

/-- `floorLog2 p q` is the exponent of the power of two at or just below `p / q`. -/
theorem floorLog2_spec {p q : Nat} (hp : 0 < p) (hq : 0 < q) :
    (2 : ℚ) ^ floorLog2 p q ≤ p / q ∧ (p : ℚ) / q < 2 ^ (floorLog2 p q + 1) := by
  obtain ⟨lp₁, lp₂⟩ := log2_bounds hp
  obtain ⟨lq₁, lq₂⟩ := log2_bounds hq
  have hq' : (0 : ℚ) < q := by exact_mod_cast hq
  have h2 : (0 : ℚ) < 2 ^ q.log2 := by positivity
  have above : (p : ℚ) / q < 2 ^ ((p.log2 : Int) - q.log2 + 1) := by
    rw [show (p.log2 : Int) - q.log2 + 1 = ((p.log2 + 1 : Nat) : Int) - (q.log2 : Nat) by push_cast; ring,
      zpow_sub₀ two_ne_zero, zpow_natCast, zpow_natCast, div_lt_div_iff₀ hq' h2]
    nlinarith
  have below : (2 : ℚ) ^ ((p.log2 : Int) - q.log2 - 1) < p / q := by
    rw [show (p.log2 : Int) - q.log2 - 1 = (p.log2 : Nat) - ((q.log2 + 1 : Nat) : Int) by push_cast; ring,
      zpow_sub₀ two_ne_zero, zpow_natCast, zpow_natCast, div_lt_div_iff₀ (by positivity) hq']
    have : (0 : ℚ) < 2 ^ p.log2 := by positivity
    nlinarith
  unfold floorLog2
  dsimp only
  generalize (p.log2 : Int) - q.log2 = t at above below ⊢
  by_cases hf : (if t ≥ 0 then p ≥ q * 2 ^ t.toNat else p * 2 ^ (-t).toNat ≥ q)
  · rw [if_pos hf]
    exact ⟨(fits_iff p q hq t).mp hf, above⟩
  · rw [if_neg hf, sub_add_cancel]
    exact ⟨below.le, lt_of_not_ge fun h => hf ((fits_iff p q hq t).mpr h)⟩
theorem floorLog2_mono {p₁ q₁ p₂ q₂ : Nat} (hp₁ : 0 < p₁) (hq₁ : 0 < q₁) (hp₂ : 0 < p₂)
    (hq₂ : 0 < q₂) (h : (p₁ : ℚ) / q₁ ≤ p₂ / q₂) : floorLog2 p₁ q₁ ≤ floorLog2 p₂ q₂ := by
  obtain ⟨h₁, -⟩ := floorLog2_spec hp₁ hq₁
  obtain ⟨-, h₂⟩ := floorLog2_spec hp₂ hq₂
  have : (2 : ℚ) ^ floorLog2 p₁ q₁ < 2 ^ (floorLog2 p₂ q₂ + 1) := by linarith
  have := (zpow_lt_zpow_iff_right₀ (by norm_num : (1 : ℚ) < 2)).mp this
  omega

/-! ## Rounding a positive fraction -/

/-- The exponent of the last significand bit for `p / q`: 52 below the
binade, never below the subnormal exponent. -/
def unit (p q : Nat) : Int := max (floorLog2 p q - 52) (-1074)

/-- The significand of `p / q` at exponent `e`, rounded. -/
def significand (p q : Nat) (e : Int) : Nat := roundDiv (p * 2 ^ (-e).toNat) (q * 2 ^ e.toNat)

/-- A significand `M ≤ 2^53` at exponent `e` as a double: `2^53` moves up a
binade, and exponents above the largest binade overflow. -/
def pack (neg : Bool) (M : Nat) (e : Int) : Binary64 :=
  if M = 2 ^ 53 then (if e + 1 > 971 then .infinity neg else .finite neg (2 ^ 52) (e + 1))
  else if e > 971 then .infinity neg else .finite neg M e

/-- The exponent a significand ends up at: one up when it rounded to `2^53`. -/
def packExp (M : Nat) (e : Int) : Int := if M = 2 ^ 53 then e + 1 else e

theorem significand_eq (p q : Nat) (e : Int) :
    (if e ≥ 0 then roundDiv p (q * 2 ^ e.toNat) else roundDiv (p * 2 ^ (-e).toNat) q) =
      significand p q e := by
  unfold significand
  split
  · rw [show (-e).toNat = 0 by omega, pow_zero, Nat.mul_one]
  · rw [show e.toNat = 0 by omega, pow_zero, Nat.mul_one]

theorem roundPos_eq_pack (neg : Bool) {p q : Nat} (hp : 0 < p) (hq : 0 < q) :
    roundPos neg p q = pack neg (significand p q (unit p q)) (unit p q) := by
  have h0 : (p = 0 || q = 0) = false := by simp; omega
  unfold roundPos pack unit
  simp only [h0, Bool.false_eq_true, ↓reduceIte, significand_eq]
  split <;> simp_all

/-- The fraction `significand` rounds is `p / q` scaled down by `2^e`. -/
theorem scaled_ratio (p q : Nat) (e : Int) :
    ((p * 2 ^ (-e).toNat : Nat) : ℚ) / ((q * 2 ^ e.toNat : Nat) : ℚ) = (p / q) / 2 ^ e := by
  rw [two_zpow_eq]
  push_cast
  field_simp

section Binade

variable {p q : Nat} (hp : 0 < p) (hq : 0 < q)
include hp hq

theorem significand_le : significand p q (unit p q) ≤ 2 ^ 53 := by
  obtain ⟨-, hlt⟩ := floorLog2_spec hp hq
  apply roundDiv_le_of _ (by positivity)
  rw [scaled_ratio, div_le_iff₀ (by positivity)]
  have : (2 : ℚ) ^ (floorLog2 p q + 1) ≤ 2 ^ (unit p q + (53 : Nat)) :=
    zpow_le_zpow_right₀ (by norm_num) (by unfold unit; omega)
  rw [two_zpow_add_nat] at this
  push_cast
  linarith

theorem le_significand (h : unit p q = floorLog2 p q - 52) : 2 ^ 52 ≤ significand p q (unit p q) := by
  obtain ⟨hle, -⟩ := floorLog2_spec hp hq
  apply le_roundDiv_of _ (by positivity)
  rw [scaled_ratio, le_div_iff₀ (by positivity)]
  have : (2 : ℚ) ^ (unit p q + (52 : Nat)) = 2 ^ floorLog2 p q := by rw [h]; congr 1; push_cast; ring
  rw [two_zpow_add_nat] at this
  push_cast
  linarith

end Binade

@[simp] theorem isFinite_pack (neg : Bool) (M : Nat) (e : Int) :
    (pack neg M e).isFinite = decide (packExp M e ≤ 971) := by
  unfold pack packExp
  split <;> split <;> simp [isFinite] <;> omega

theorem value_pack {M : Nat} {e : Int} (h : (pack false M e).isFinite = true) :
    value (pack false M e) = M * 2 ^ e := by
  unfold pack at h ⊢
  by_cases hM : M = 2 ^ 53
  · rw [if_pos hM] at h ⊢
    by_cases he : e + 1 > 971
    · rw [if_pos he] at h; simp [isFinite] at h
    · rw [if_neg he]
      simp only [value, Bool.false_eq_true, ↓reduceIte, one_mul, zpow_add_one₀ (two_ne_zero (α := ℚ)), hM]
      push_cast
      ring
  · rw [if_neg hM] at h ⊢
    by_cases he : e > 971
    · rw [if_pos he] at h; simp [isFinite] at h
    · rw [if_neg he]
      simp [value]

/-- Packing is monotone: at the same exponent in the significand, and across
exponents because a normal significand at the larger one is at least `2^52`. -/
theorem pack_mono {M₁ M₂ : Nat} {e₁ e₂ : Int} (h₁ : M₁ ≤ 2 ^ 53) (h₂ : M₂ ≤ 2 ^ 53)
    (he : e₁ ≤ e₂) (hsame : e₁ = e₂ → M₁ ≤ M₂) (hnorm : e₁ < e₂ → 2 ^ 52 ≤ M₂)
    (hfin : (pack false M₂ e₂).isFinite = true) :
    (pack false M₁ e₁).isFinite = true ∧ value (pack false M₁ e₁) ≤ value (pack false M₂ e₂) := by
  have hexp : packExp M₁ e₁ ≤ packExp M₂ e₂ := by
    unfold packExp
    rcases he.lt_or_eq with hlt | rfl
    · split <;> split <;> omega
    · have := hsame rfl
      split <;> split <;> omega
  have fin₁ : (pack false M₁ e₁).isFinite = true := by
    simp only [isFinite_pack, decide_eq_true_eq] at hfin ⊢
    omega
  refine ⟨fin₁, ?_⟩
  rw [value_pack fin₁, value_pack hfin]
  rcases he.lt_or_eq with hlt | rfl
  · calc (M₁ : ℚ) * 2 ^ e₁ ≤ 2 ^ 52 * 2 ^ (e₁ + 1) := by
          rw [zpow_add_one₀ two_ne_zero]
          have : (M₁ : ℚ) ≤ 2 ^ 53 := by exact_mod_cast h₁
          have : (0 : ℚ) < 2 ^ e₁ := by positivity
          nlinarith
      _ ≤ 2 ^ 52 * 2 ^ e₂ := by gcongr <;> [norm_num; omega]
      _ ≤ M₂ * 2 ^ e₂ := by gcongr; exact_mod_cast hnorm hlt
  · gcongr
    exact_mod_cast hsame rfl

/-- Rounding is monotone: a smaller fraction never rounds to a larger double,
and rounds to a finite one when the larger does. -/
theorem roundPos_mono {p₁ q₁ p₂ q₂ : Nat} (hp₁ : 0 < p₁) (hq₁ : 0 < q₁) (hp₂ : 0 < p₂)
    (hq₂ : 0 < q₂) (h : (p₁ : ℚ) / q₁ ≤ p₂ / q₂) (hfin : (roundPos false p₂ q₂).isFinite = true) :
    (roundPos false p₁ q₁).isFinite = true ∧
      value (roundPos false p₁ q₁) ≤ value (roundPos false p₂ q₂) := by
  rw [roundPos_eq_pack false hp₁ hq₁, roundPos_eq_pack false hp₂ hq₂] at *
  have hF := floorLog2_mono hp₁ hq₁ hp₂ hq₂ h
  refine pack_mono (significand_le hp₁ hq₁) (significand_le hp₂ hq₂) (by unfold unit; omega)
    (fun he => ?_) (fun he => le_significand hp₂ hq₂ (by unfold unit at he ⊢; omega)) hfin
  apply roundDiv_le_roundDiv (by positivity) (by positivity)
  rw [scaled_ratio, scaled_ratio, he]
  gcongr

/-- A fraction that is a significand below `2^53` times a power of two in
range rounds to itself. -/
theorem roundPos_exact {p q K : Nat} {E : Int} (hp : 0 < p) (hq : 0 < q) (hK : K < 2 ^ 53)
    (hE : -1074 ≤ E) (hE' : E ≤ 971) (h : (p : ℚ) / q = K * 2 ^ E) :
    (roundPos false p q).isFinite = true ∧ value (roundPos false p q) = p / q := by
  obtain ⟨hlo, hhi⟩ := floorLog2_spec hp hq
  have hK' : (K : ℚ) < 2 ^ 53 := by exact_mod_cast hK
  have h2E : (0 : ℚ) < 2 ^ E := by positivity
  -- the binade of `p / q` ends below `2^(E + 53)`, so its unit is at most `E`
  have hF : floorLog2 p q < E + (53 : Nat) := by
    have : (2 : ℚ) ^ floorLog2 p q < 2 ^ (E + (53 : Nat)) := by
      rw [two_zpow_add_nat]; nlinarith
    exact (zpow_lt_zpow_iff_right₀ (by norm_num : (1 : ℚ) < 2)).mp this
  have he : unit p q ≤ E := by unfold unit; omega
  set e := unit p q
  set N := K * 2 ^ (E - e).toNat
  have hN : (p : ℚ) / q / 2 ^ e = N := by
    have : (2 : ℚ) ^ E = 2 ^ e * 2 ^ (E - e).toNat := by
      rw [← two_zpow_add_nat, Int.toNat_of_nonneg (by omega), add_sub_cancel]
    rw [h, this]
    simp only [N]
    push_cast
    field_simp
  have hsig : significand p q e = N := by
    unfold significand
    have hb : (0 : ℚ) < (q * 2 ^ e.toNat : Nat) := by positivity
    have := scaled_ratio p q e
    rw [hN, div_eq_iff hb.ne'] at this
    rw [show p * 2 ^ (-e).toNat = N * (q * 2 ^ e.toNat) by exact_mod_cast this]
    exact roundDiv_exact N _ (by positivity)
  have hN53 : N < 2 ^ 53 := by
    have : (N : ℚ) * 2 ^ e < 2 ^ 53 * 2 ^ e := by
      rw [← hN, div_mul_cancel₀ _ (by positivity)]
      calc (p : ℚ) / q < 2 ^ (floorLog2 p q + 1) := hhi
        _ ≤ 2 ^ (e + (53 : Nat)) := zpow_le_zpow_right₀ (by norm_num) (by unfold e unit; omega)
        _ = 2 ^ 53 * 2 ^ e := by rw [two_zpow_add_nat, mul_comm]
    exact_mod_cast lt_of_mul_lt_mul_right this (by positivity)
  have fin : (pack false N e).isFinite = true := by
    simp only [isFinite_pack, decide_eq_true_eq]
    unfold packExp
    rw [if_neg hN53.ne]; omega
  rw [roundPos_eq_pack false hp hq, hsig]
  refine ⟨fin, ?_⟩
  rw [value_pack fin, ← hN, div_mul_cancel₀ _ (by positivity)]

/-! ## Rounded arithmetic -/

/-- `x` is the non-negative rational `v` rounded to a double: the rounding of
a fraction `p / q` equal to `v`. -/
def Rounds (v : ℚ) (x : Binary64) : Prop :=
  ∃ p q : Nat, 0 < q ∧ (p : ℚ) / q = v ∧ x = roundPos false p q

/-- A rounded non-negative rational is a non-negative double or `+∞`. -/
theorem Rounds.cases {v : ℚ} {x : Binary64} (h : Rounds v x) :
    x = .infinity false ∨ ∃ m e, x = .finite false m e := by
  obtain ⟨p, q, hq, -, rfl⟩ := h
  rcases Nat.eq_zero_or_pos p with rfl | hp
  · exact .inr ⟨0, 0, by simp [roundPos]⟩
  · rw [roundPos_eq_pack false hp hq]
    unfold pack
    split <;> [split; split] <;> simp

theorem value_nonneg_of_rounds {v : ℚ} {x : Binary64} (h : Rounds v x) : 0 ≤ value x := by
  rcases h.cases with rfl | ⟨m, e, rfl⟩
  · simp [value]
  · simp only [value, Bool.false_eq_true, ↓reduceIte, one_mul]
    positivity

theorem Rounds.eq_finite {v : ℚ} {x : Binary64} (h : Rounds v x) (hf : x.isFinite = true) :
    ∃ m e, x = .finite false m e := by
  rcases h.cases with rfl | hx
  · simp [isFinite] at hf
  · exact hx

theorem Rounds.mono {v w : ℚ} {x y : Binary64} (hx : Rounds v x) (hy : Rounds w y)
    (h : v ≤ w) (hfin : y.isFinite = true) : x.isFinite = true ∧ value x ≤ value y := by
  obtain ⟨p₁, q₁, hq₁, rfl, rfl⟩ := hx
  obtain ⟨p₂, q₂, hq₂, rfl, rfl⟩ := hy
  rcases Nat.eq_zero_or_pos p₁ with rfl | hp₁
  · exact ⟨by simp [roundPos, isFinite], by
      simpa [roundPos, value] using value_nonneg_of_rounds ⟨p₂, q₂, hq₂, rfl, rfl⟩⟩
  rcases Nat.eq_zero_or_pos p₂ with rfl | hp₂
  · have : (0 : ℚ) < p₁ / q₁ := by positivity
    simp at h; linarith
  exact roundPos_mono hp₁ hq₁ hp₂ hq₂ h hfin

/-- A significand below `2^53` times a power of two in range rounds to itself. -/
theorem Rounds.exact {v : ℚ} {x : Binary64} (hx : Rounds v x) {K : Nat} {E : Int}
    (hK : K < 2 ^ 53) (hE : -1074 ≤ E) (hE' : E ≤ 971) (h : v = K * 2 ^ E) :
    x.isFinite = true ∧ value x = v := by
  obtain ⟨p, q, hq, rfl, rfl⟩ := hx
  rcases Nat.eq_zero_or_pos p with rfl | hp
  · simp [roundPos, isFinite, value]
  exact roundPos_exact hp hq hK hE hE' h

theorem rounds_roundPos {p q : Nat} (hq : 0 < q) : Rounds (p / q) (roundPos false p q) :=
  ⟨p, q, hq, rfl, rfl⟩

theorem rounds_ofInt {n : Int} (hn : 0 ≤ n) : Rounds n (ofInt n) :=
  ⟨n.natAbs, 1, Nat.one_pos, by simp [abs_of_nonneg hn], by
    simp only [ofInt, ofRat, decide_eq_false (not_lt.mpr hn)]⟩

theorem toRat_finite (m : Nat) (e : Int) :
    ∃ P Q : Nat, 0 < Q ∧ toRat (.finite false m e) = ((P : Int), Q) ∧
      (P : ℚ) / Q = value (.finite false m e) ∧ (P = 0 ↔ m = 0) := by
  simp only [toRat, Bool.false_eq_true, ↓reduceIte, value, one_mul]
  split
  · rename_i he
    refine ⟨m * 2 ^ e.toNat, 1, Nat.one_pos, by push_cast; rfl, ?_, by simp⟩
    rw [← Int.toNat_of_nonneg he]
    push_cast
    rw [zpow_natCast, div_one, Int.toNat_of_nonneg he]
  · rename_i he
    refine ⟨m, 2 ^ (-e).toNat, by positivity, rfl, ?_, Iff.rfl⟩
    rw [two_zpow_eq e, show e.toNat = 0 by omega]
    push_cast
    ring

theorem rounds_div {m k : Nat} {e f : Int} (hk : 0 < k) :
    Rounds (value (.finite false m e) / value (.finite false k f))
      (div (.finite false m e) (.finite false k f)) := by
  obtain ⟨P, Q, hQ, hx, hvx, -⟩ := toRat_finite m e
  obtain ⟨R, S, hS, hy, hvy, hR⟩ := toRat_finite k f
  have hR' : 0 < R := Nat.pos_of_ne_zero fun h => absurd (hR.mp h) hk.ne'
  simp only [div, hk.ne', ↓reduceIte, hx, hy]
  rw [← hvx, ← hvy]
  split
  · rename_i hP
    refine ⟨0, 1, Nat.one_pos, ?_, by simp [roundPos]⟩
    simp [show P = 0 by omega]
  · rename_i hP
    refine ⟨P * S, Q * R, by positivity, ?_, ?_⟩
    · push_cast; field_simp
    · simp only [ofRat]
      rw [if_neg (by omega)]
      congr 1
      simp; omega

theorem rounds_add (m k : Nat) (e f : Int) :
    Rounds (value (.finite false m e) + value (.finite false k f))
      (add (.finite false m e) (.finite false k f)) := by
  obtain ⟨P, Q, hQ, hx, hvx, -⟩ := toRat_finite m e
  obtain ⟨R, S, hS, hy, hvy, -⟩ := toRat_finite k f
  simp only [add, hx, hy]
  rw [← hvx, ← hvy]
  split
  · rename_i hn
    have hP : P = 0 := by nlinarith
    have hR : R = 0 := by nlinarith
    refine ⟨0, 1, Nat.one_pos, by simp [hP, hR], by simp [roundPos]⟩
  · rename_i hn
    refine ⟨P * S + R * Q, Q * S, by positivity, ?_, ?_⟩
    · push_cast; field_simp
    · simp only [ofRat]
      congr 1

theorem ceilInt_finite (m : Nat) (e : Int) :
    ceilInt (.finite false m e) = ⌈value (.finite false m e)⌉ := by
  obtain ⟨P, Q, -, hx, hvx, -⟩ := toRat_finite m e
  simp only [ceilInt, hx]
  rw [← hvx, ← neg_neg ((P : ℚ) / Q), Int.ceil_neg, ← neg_div, ← Int.cast_natCast (R := ℚ) P,
    ← Int.cast_neg, Rat.floor_intCast_div_natCast]
  rfl

/-- Integers from zero to below `2^53` convert to doubles exactly. -/
theorem ofInt_exact {n : Int} (h0 : 0 ≤ n) (h : n < 2 ^ 53) :
    ∃ m e, ofInt n = .finite false m e ∧ value (ofInt n) = n := by
  have hr := rounds_ofInt h0
  obtain ⟨hf, hv⟩ := hr.exact (K := n.toNat) (E := 0) (by omega) (by norm_num) (by norm_num)
    (by rw [zpow_zero, mul_one]; exact_mod_cast (Int.toNat_of_nonneg h0).symm)
  obtain ⟨m, e, he⟩ := hr.eq_finite hf
  exact ⟨m, e, he, hv⟩

/-- The conversion of a non-negative double's ceiling to a 64-bit integer,
whenever that ceiling fits. -/
theorem ceilToInt64_finite (m : Nat) (e : Int) (h : ⌈value (.finite false m e)⌉ ≤ maxInt64) :
    ceilToInt64 (.finite false m e) = ⌈value (.finite false m e)⌉ := by
  have : (0 : ℚ) ≤ value (.finite false m e) := by
    simp only [value, Bool.false_eq_true, ↓reduceIte, one_mul]
    positivity
  have hmin : minInt64 ≤ ⌈value (.finite false m e)⌉ := by
    have := Int.ceil_nonneg this
    unfold minInt64; omega
  simp [ceilToInt64, ceilInt_finite, hmin, h]

end Transclusion.Numeric.Binary64
