import Transclusion.Placeholder.Timeout
import Transclusion.Proofs.Web.Lifetime
import Transclusion.Proofs.Composition.Freshness
import Mathlib.Data.Nat.Digits.Defs

/-!
# Reading timeout attributes

What `parseTimeout` accepts and what it answers. An attribute is present
unless it is blank, and valid exactly when, trimmed, it is a timeout text
(`TimeoutText`): one or more ASCII digits, then nothing or `ms` for
milliseconds, or `s` for seconds, the digits spelling a number from 1 to
2^63 - 1.

A valid attribute's duration is that number of units in nanoseconds,
computed in 64 bits. It is the exact duration, and positive, while the
product fits a signed 64-bit count: up to 9223372036854 milliseconds or
9223372036 seconds. Past that it wraps around, and `9223372037s` reads as a
negative duration.

Main statement: `parseTimeout_reads`.
-/

namespace Transclusion

open Transclusion.Text Transclusion.Time

/-- The number that decimal digits spell, most significant first. -/
def decimalValue (ds : List Char) : Nat :=
  Nat.ofDigits 10 (ds.reverse.map fun c => c.toNat - '0'.toNat)

/-- `t` is a timeout of `n` units of `unit` nanoseconds as the attribute
grammar writes it: one or more ASCII digits spelling `n`, then no suffix or
`ms` for milliseconds, or `s` for seconds. -/
def TimeoutText (t : List Char) (n : Nat) (unit : Int) : Prop :=
  ∃ ds sfx, t = ds ++ sfx ∧ ds ≠ [] ∧ (∀ c ∈ ds, c.isDigit = true) ∧ n = decimalValue ds ∧
    ((sfx = [] ∨ sfx = ['m', 's']) ∧ unit = nsPerMilli ∨ sfx = ['s'] ∧ unit = nsPerSecond)

/-! ## Digits -/

theorem foldl_digits (a : Nat) (ds : List Char) :
    ds.foldl (fun acc c => acc * 10 + (c.toNat - '0'.toNat)) a = a * 10 ^ ds.length + decimalValue ds := by
  induction ds generalizing a with
  | nil => simp [decimalValue]
  | cons c ds ih =>
    rw [List.foldl_cons, ih]
    simp only [decimalValue, List.reverse_cons, List.map_append, List.map_cons, List.map_nil,
      Nat.ofDigits_append, Nat.ofDigits_singleton, List.length_map, List.length_reverse, List.length_cons]
    ring

theorem digitsValue_eq_some {ds : List Char} {n : Nat} :
    digitsValue ds = some n ↔ ds ≠ [] ∧ (∀ c ∈ ds, c.isDigit = true) ∧ n = decimalValue ds := by
  unfold digitsValue
  by_cases hne : ds = []
  · simp [hne]
  · by_cases hall : ∀ c ∈ ds, c.isDigit = true
    · have h1 : ds.isEmpty = false := List.isEmpty_eq_false_iff.mpr hne
      have h2 : ds.all Char.isDigit = true := List.all_eq_true.mpr hall
      simp only [h1, h2, Bool.not_true, Bool.or_self, Bool.false_eq_true, if_false, Option.some.injEq,
        foldl_digits, Nat.zero_mul, Nat.zero_add]
      exact ⟨fun h => ⟨hne, hall, h.symm⟩, fun h => h.2.2.symm⟩
    · have h2 : ds.all Char.isDigit = false := by simpa [List.all_eq_true] using hall
      simp [h2, hall]

theorem takeWhile_digits_append {ds sfx : List Char} (hd : ∀ c ∈ ds, c.isDigit = true)
    (hs : ∀ c ∈ sfx.head?, c.isDigit = false) : (ds ++ sfx).takeWhile Char.isDigit = ds := by
  induction ds with
  | nil =>
    cases sfx with
    | nil => rfl
    | cons c rest => simp [hs c rfl]
  | cons c ds ih =>
    have hc := hd c List.mem_cons_self
    simp [hc, ih fun x hx => hd x (List.mem_cons_of_mem _ hx)]

theorem timeoutUnit_eq_some {sfx : List Char} {unit : Int} :
    timeoutUnit sfx = some unit ↔
      (sfx = [] ∨ sfx = ['m', 's']) ∧ unit = nsPerMilli ∨ sfx = ['s'] ∧ unit = nsPerSecond := by
  unfold timeoutUnit
  split
  · simpa using eq_comm
  · simpa using eq_comm
  · simpa using eq_comm
  · rename_i h1 h2 h3
    simp only [reduceCtorEq, false_iff, not_or, not_and]
    exact ⟨fun h => (h.elim h1 h2).elim, fun h => (h3 h).elim⟩

/-- The grammar of timeout texts is what the reader's split into leading
digits and the rest accepts. -/
theorem timeoutText_iff (cs : List Char) (n : Nat) (unit : Int) :
    TimeoutText cs n unit ↔
      digitsValue (cs.takeWhile Char.isDigit) = some n ∧
        timeoutUnit (cs.drop (cs.takeWhile Char.isDigit).length) = some unit := by
  rw [digitsValue_eq_some, timeoutUnit_eq_some]
  constructor
  · rintro ⟨ds, sfx, rfl, hne, hd, hn, hu⟩
    have hs : ∀ c ∈ sfx.head?, c.isDigit = false := by
      rcases hu with ⟨rfl | rfl, -⟩ | ⟨rfl, -⟩ <;> simp
    rw [takeWhile_digits_append hd hs, List.drop_left]
    exact ⟨⟨hne, hd, hn⟩, hu⟩
  · rintro ⟨⟨hne, hd, hn⟩, hu⟩
    refine ⟨_, _, ?_, hne, hd, hn, hu⟩
    have hp := List.prefix_iff_eq_take.mp (List.takeWhile_prefix Char.isDigit (l := cs))
    calc cs = cs.take (cs.takeWhile Char.isDigit).length ++ cs.drop (cs.takeWhile Char.isDigit).length :=
          (List.take_append_drop _ _).symm
      _ = _ := by rw [← hp]

/-! ## The duration -/

/-- A product of non-negative numbers is its own 64-bit wrap exactly when it
fits a signed 64-bit count. -/
theorem wrap64_eq_self_iff {x : Int} (h0 : 0 ≤ x) : wrap64 x = x ↔ x ≤ maxDuration := by
  constructor
  · intro h
    exact h ▸ Composition.Page.wrap64_le x
  · exact Http.wrap64_of_nonneg h0

/-- The most units of `unit` nanoseconds whose duration fits a signed 64-bit
count of nanoseconds. -/
def maxUnits (unit : Int) : Int := maxDuration / unit

example : maxUnits nsPerMilli = 9223372036854 ∧ maxUnits nsPerSecond = 9223372036 := by decide

theorem mul_le_maxDuration_iff {n unit : Int} (hunit : 0 < unit) : n * unit ≤ maxDuration ↔ n ≤ maxUnits unit :=
  (Int.le_ediv_iff_mul_le hunit).symm

/-- A count of positive units that fits in a duration is read as it is, and
is positive; one that does not fit wraps. -/
theorem wrap64_units {n : Nat} {unit : Int} (hn : 0 < n) (hunit : 0 < unit) :
    (wrap64 (n * unit) = n * unit ↔ n ≤ maxUnits unit) ∧ (n ≤ maxUnits unit → 0 < wrap64 (n * unit)) := by
  have hpos : 0 < (n : Int) * unit := Int.mul_pos (by omega) hunit
  rw [← mul_le_maxDuration_iff hunit]
  refine ⟨wrap64_eq_self_iff hpos.le, fun hfit => ?_⟩
  rw [Http.wrap64_of_nonneg hpos.le hfit]
  exact hpos

theorem TimeoutText.unit_pos {cs : List Char} {n : Nat} {unit : Int} (h : TimeoutText cs n unit) : 0 < unit := by
  rcases h with ⟨-, -, -, -, -, -, ⟨-, rfl⟩ | ⟨-, rfl⟩⟩ <;> decide

theorem TimeoutText.ne_nil {cs : List Char} {n : Nat} {unit : Int} (h : TimeoutText cs n unit) : cs ≠ [] := by
  rintro rfl
  obtain ⟨ds, sfx, hsplit, hne, -⟩ := h
  exact hne (List.append_eq_nil_iff.mp hsplit.symm).1

theorem TimeoutText.unique {cs : List Char} {n n' : Nat} {unit unit' : Int} (h : TimeoutText cs n unit)
    (h' : TimeoutText cs n' unit') : n = n' ∧ unit = unit' := by
  obtain ⟨hn, hu⟩ := (timeoutText_iff _ _ _).mp h
  obtain ⟨hn', hu'⟩ := (timeoutText_iff _ _ _).mp h'
  exact ⟨Option.some.inj (hn.symm.trans hn'), Option.some.inj (hu.symm.trans hu')⟩

/-! ## What the reader answers -/

theorem parseTimeout_blank {v : String} (h : IsBlankText v) : parseTimeout v = {} := by
  have hb : (trimBlank v).isEmpty = true := String.isEmpty_iff.mpr h
  simp [parseTimeout, hb]

theorem parseTimeout_valid {v : String} (hb : ¬ IsBlankText v) {n : Nat} {unit : Int}
    (ht : TimeoutText (trimBlank v).toList n unit) (h1 : 0 < n) (h2 : n ≤ 9223372036854775807) :
    parseTimeout v = { ns := wrap64 (n * unit), present := true, ok := true } := by
  have hne : (trimBlank v).isEmpty = false := by simpa [String.isEmpty_iff, IsBlankText] using hb
  obtain ⟨hn, hu⟩ := (timeoutText_iff _ _ _).mp ht
  have hr : (0 < n && n ≤ 9223372036854775807) = true := by simp [h1, h2]
  simp only [parseTimeout, hne, Bool.false_eq_true, if_false, hn, hu, hr, if_true]

/-- An attribute that is not blank and no timeout text in range is present
and invalid. -/
theorem parseTimeout_invalid {v : String} (hb : ¬ IsBlankText v)
    (hno : ¬ ∃ n unit, TimeoutText (trimBlank v).toList n unit ∧ 0 < n ∧ n ≤ 9223372036854775807) :
    parseTimeout v = { present := true } := by
  have hne : (trimBlank v).isEmpty = false := by simpa [String.isEmpty_iff, IsBlankText] using hb
  simp only [parseTimeout, hne, Bool.false_eq_true, if_false]
  split
  · rename_i n unit hn hu
    -- both parts read, so only the range can fail
    have hr : ¬ (0 < n ∧ n ≤ 9223372036854775807) := fun hr =>
      hno ⟨n, unit, (timeoutText_iff _ _ _).mpr ⟨hn, hu⟩, hr⟩
    simp only [Bool.and_eq_true, decide_eq_true_eq, hr, if_false]
  · rfl

/-- Reading a timeout attribute `v`: it is present exactly when it is not
blank; it is valid exactly when, trimmed, it is a timeout text of `n` units
with `1 ≤ n ≤ 2^63 - 1`. A valid timeout of `n` units of `unit` nanoseconds
is `n * unit` wrapped to 64 bits: it equals `n * unit` exactly when `n` is
at most `maxUnits unit` (9223372036854 milliseconds, 9223372036 seconds), and
is positive then. -/
theorem parseTimeout_reads (v : String) :
    ((parseTimeout v).present = false ↔ IsBlankText v) ∧
    ((parseTimeout v).ok = true ↔
      ∃ n unit, TimeoutText (trimBlank v).toList n unit ∧ 1 ≤ n ∧ n ≤ 9223372036854775807) ∧
    (∀ n unit, TimeoutText (trimBlank v).toList n unit → (parseTimeout v).ok = true →
      (parseTimeout v).ns = wrap64 (n * unit) ∧
      ((parseTimeout v).ns = n * unit ↔ n ≤ maxUnits unit) ∧
      (n ≤ maxUnits unit → 0 < (parseTimeout v).ns)) := by
  by_cases hb : IsBlankText v
  · -- a blank attribute trims to nothing, and a timeout text has a digit
    have hnone : ∀ n unit, ¬ TimeoutText (trimBlank v).toList n unit := fun n unit ht =>
      ht.ne_nil (by rw [hb, String.toList_empty])
    rw [parseTimeout_blank hb]
    exact ⟨by simpa using hb, by simpa using fun n unit ht => absurd ht (hnone n unit), by simp⟩
  · by_cases hv : ∃ n unit, TimeoutText (trimBlank v).toList n unit ∧ 0 < n ∧ n ≤ 9223372036854775807
    · obtain ⟨n, unit, ht, h1, h2⟩ := hv
      rw [parseTimeout_valid hb ht h1 h2]
      refine ⟨by simpa using hb, iff_of_true rfl ⟨n, unit, ht, by omega, h2⟩, ?_⟩
      intro n' unit' ht' _
      obtain ⟨rfl, rfl⟩ := ht.unique ht'
      exact ⟨rfl, wrap64_units h1 ht.unit_pos⟩
    · rw [parseTimeout_invalid hb hv]
      refine ⟨by simpa using hb, ?_, by simp⟩
      simp only [Bool.false_eq_true, false_iff, not_exists, not_and]
      exact fun n unit ht h1 h2 => hv ⟨n, unit, ht, h1, h2⟩

end Transclusion
