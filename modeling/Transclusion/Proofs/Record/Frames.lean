import Mathlib.Tactic
import Transclusion.Record.Frame

/-!
# Record frames

A record frame is a tag byte, the varint of the payload's length, and the
payload, raw or as an LZ4 block. This module proves what unpacking gives back.

1. Varints: reading the varint of any length below `2^64` gives the length
   back and says how many bytes it took, whatever follows (`readVarint_varint`).
2. The LZ4 decoder keeps exactly the bytes it produced that fit its buffer
   (`Lz4.Decoding.Filled`, kept by every token: `tokenStep_filled`), so a block
   that decodes to the announced count fills the buffer (`decompress_filled`).
3. Every record unpacks to an error or to a payload of the length its varint
   announces; the error that stands for the runtime's refusal to allocate the
   buffer comes exactly from a compressed record announcing more than
   `maxBuffer` bytes (`unpack_declared`).
4. Packing then unpacking gives the payload back whenever the LZ4 decoder
   inverts its compressor on it, the frame is never longer than a raw one, and it
   is raw exactly when the block does not shrink the payload (`unpack_pack`).
-/

namespace Transclusion.Record

/-! ## Byte arrays as lists -/

theorem toList_loop (b : ByteArray) (i : Nat) (r : List UInt8) :
    ByteArray.toList.loop b i r = r.reverse ++ b.data.toList.drop i := by
  induction i, r using ByteArray.toList.loop.induct b with
  | case1 i r hlt ih =>
    have hlen : i < b.data.toList.length := by simpa [ByteArray.size_data] using hlt
    rw [ByteArray.toList.loop, if_pos hlt, ih, List.drop_eq_getElem_cons hlen, List.reverse_cons,
      List.append_assoc, List.singleton_append, Array.getElem_toList]
    cases b
    simp only [ByteArray.get!]
    rw [getElem!_pos]
  | case2 i r hge =>
    rw [ByteArray.toList.loop, if_neg hge,
      List.drop_eq_nil_of_le (by simp [ByteArray.size_data]; omega), List.append_nil]

theorem toList_eq_data (b : ByteArray) : b.toList = b.data.toList := by
  simp [ByteArray.toList, toList_loop]

/-! ## Varints -/

theorem varint_of_lt {n : Nat} (h : n < 128) : varint n = [n.toUInt8] := by
  rw [varint, if_pos h]

theorem varint_of_ge {n : Nat} (h : ¬ n < 128) :
    varint n = (n % 128 + 128).toUInt8 :: varint (n / 128) := by
  rw [varint, if_neg h]

theorem varint_ne_nil (n : Nat) : varint n ≠ [] := by
  rw [varint]; split <;> simp

/-- A varint read from the `i`-th byte on, at weight `2^(7 i)`, gives its value
at that weight, as long as it stays within 64 bits. -/
theorem readVarintFrom_varint (n : Nat) (rest : List UInt8) (i acc : Nat) (hi : i < 10)
    (hn : n * 2 ^ (7 * i) < 2 ^ 64) :
    readVarintFrom (varint n ++ rest) i (7 * i) acc =
      .value (acc + n * 2 ^ (7 * i)) (i + (varint n).length) := by
  induction n using Nat.strongRecOn generalizing i acc with
  | ind n ih =>
    by_cases hsmall : n < 128
    · -- the last byte; on the tenth it may only hold the 64th bit
      have hb : (n.toUInt8).toNat = n := by simp; omega
      have hlast : ¬ (i = 9 ∧ 1 < n) := by
        rintro ⟨rfl, h1⟩
        have : 2 * 2 ^ 63 ≤ n * 2 ^ 63 := Nat.mul_le_mul_right _ h1
        omega
      rw [varint_of_lt hsmall]
      simp only [List.cons_append, readVarintFrom, UInt8.lt_iff_toNat_lt, hb]
      simp [show i ≠ 10 by omega, hsmall]
      omega
    · -- a continued byte: seven bits here, the rest one place further
      have hb : ((n % 128 + 128).toUInt8).toNat = n % 128 + 128 := by simp; omega
      have hpow : 2 ^ (7 * (i + 1)) = 2 ^ (7 * i) * 128 := by
        rw [show 7 * (i + 1) = 7 * i + 7 by omega, pow_add]; norm_num
      have hfit : n / 128 * 2 ^ (7 * (i + 1)) < 2 ^ 64 :=
        calc n / 128 * 2 ^ (7 * (i + 1)) = n / 128 * 128 * 2 ^ (7 * i) := by rw [hpow]; ring
          _ ≤ n * 2 ^ (7 * i) := Nat.mul_le_mul_right _ (Nat.div_mul_le_self n 128)
          _ < 2 ^ 64 := hn
      have hnext : i + 1 < 10 := by
        have h128 : 128 * 2 ^ (7 * i) < 2 ^ 64 :=
          lt_of_le_of_lt (Nat.mul_le_mul_right _ (by omega)) hn
        have : 2 ^ (7 * i + 7) < 2 ^ 64 := by rw [pow_add]; linarith
        have := (Nat.pow_lt_pow_iff_right (by norm_num)).mp this
        omega
      rw [varint_of_ge hsmall]
      simp only [List.cons_append, readVarintFrom, UInt8.lt_iff_toNat_lt, hb]
      simp only [show (i == 10) = false by simpa using (by omega : i ≠ 10), Bool.false_eq_true,
        ↓reduceIte, show (128 : UInt8).toNat = 128 from rfl,
        show ¬ n % 128 + 128 < 128 by omega, Nat.add_sub_cancel]
      rw [show 7 * i + 7 = 7 * (i + 1) by omega, ih (n / 128) (by omega) (i + 1) _ hnext hfit,
        List.length_cons]
      congr 1
      · rw [hpow, add_assoc]
        congr 1
        conv_rhs => rw [← Nat.mod_add_div n 128]
        ring
      · omega

/-- The varint of a length below `2^64` reads back, whatever follows it. -/
theorem readVarint_varint {n : Nat} (hn : n < 2 ^ 64) (rest : List UInt8) :
    readVarint (varint n ++ rest) = .value n (varint n).length := by
  have h := readVarintFrom_varint n rest 0 0 (by decide) (by simpa using hn)
  simpa only [readVarint, Nat.mul_zero, pow_zero, Nat.mul_one, Nat.zero_add] using h

/-! ## The LZ4 decoder's buffer -/

namespace Lz4

theorem size_copyRange (out src : ByteArray) (a n : Nat) :
    (copyRange out src a n).size = out.size + n := by
  induction n with
  | zero => rfl
  | succ n ih =>
    simp only [copyRange, List.range_succ, List.foldl_append, List.foldl_cons, List.foldl_nil,
      ByteArray.size_push] at ih ⊢
    rw [ih]; rfl

theorem size_copyMatch (out : ByteArray) (size offset n : Nat) (h : out.size ≤ size) :
    (copyMatch out size offset n).size = min (out.size + n) size := by
  induction n with
  | zero => simp [copyMatch, h]
  | succ n ih =>
    simp only [copyMatch, List.range_succ, List.foldl_append, List.foldl_cons, List.foldl_nil]
      at ih ⊢
    split
    · rw [ByteArray.size_push, ih]; omega
    · omega

/-- The bytes a decoding holds are exactly those it produced that fit a buffer
of `size` bytes. -/
def Decoding.Filled (size : Nat) (d : Decoding) : Prop := d.out.size = min d.di size

variable {size : Nat}

theorem Decoding.Filled.literals {d : Decoding} (hd : d.Filled size) (src : ByteArray) (si a n : Nat) :
    Decoding.Filled size { si, di := d.di + n, out := copyLiterals d.out size src a n } := by
  unfold Decoding.Filled at *
  simp only [copyLiterals, size_copyRange, hd]
  omega

theorem Decoding.Filled.copies {d : Decoding} (hd : d.Filled size) (si offset n : Nat) :
    Decoding.Filled size { si, di := d.di + n, out := copyMatch d.out size offset n } := by
  unfold Decoding.Filled at *
  simp only [size_copyMatch _ _ _ _ (by omega : d.out.size ≤ size), hd]
  omega

variable {src : ByteArray}

theorem matchStep_filled {d d' : Decoding} {nibble : Nat} (hd : d.Filled size)
    (h : matchStep src size d nibble = some d') : d'.Filled size := by
  unfold matchStep at h
  dsimp only at h
  -- every branch refuses but the one that copies the match
  repeat' split at h
  all_goals first
    | (cases h; exact hd.copies _ _ _)
    | cases h

theorem tokenStep_filled {d d' : Decoding} {stop : Bool} (hd : d.Filled size)
    (h : tokenStep src size d = some (d', stop)) : d'.Filled size := by
  have hd₁ : Decoding.Filled size { d with si := d.si + 1 } := hd
  unfold tokenStep at h
  simp only at h
  split at h
  · -- sixteen literal bytes at once, then a short match or the general one
    split at h
    · cases h
    have hl := hd₁.literals src (d.si + 1 + (byteAt src d.si).toNat / 16) (d.si + 1)
      ((byteAt src d.si).toNat / 16)
    split at h
    · split at h
      · cases h
      · obtain ⟨rfl, -⟩ := Prod.mk.inj (Option.some.inj h)
        exact hl.copies _ _ _
    · split at h
      · obtain ⟨rfl, -⟩ := Prod.mk.inj (Option.some.inj h)
        exact hl
      split at h
      · cases h
      obtain ⟨d'', hm, he⟩ := Option.map_eq_some_iff.mp h
      obtain ⟨rfl, -⟩ := Prod.mk.inj he
      exact matchStep_filled hl hm
  · -- the general literal run
    split at h
    · cases h
    next lLen si _ =>
    split at h
    · cases h
    have hl := hd₁.literals src (si + lLen) si lLen
    split at h
    · obtain ⟨rfl, -⟩ := Prod.mk.inj (Option.some.inj h)
      exact hl
    split at h
    · cases h
    obtain ⟨d'', hm, he⟩ := Option.map_eq_some_iff.mp h
    obtain ⟨rfl, -⟩ := Prod.mk.inj he
    exact matchStep_filled hl hm

theorem decodeTokens_filled {fuel : Nat} {d d' : Decoding} (hd : d.Filled size)
    (h : decodeTokens src size fuel d = some d') : d'.Filled size := by
  induction fuel generalizing d with
  | zero => obtain rfl := Option.some.inj h; exact hd
  | succ fuel ih =>
    unfold decodeTokens at h
    split at h
    · split at h
      · cases h
      · next d₁ ht => obtain rfl := Option.some.inj h; exact tokenStep_filled hd ht
      · next d₁ ht => exact ih (tokenStep_filled hd ht) h
    · obtain rfl := Option.some.inj h; exact hd

theorem decompress_filled {got : Nat} {out : ByteArray}
    (h : decompress src size = some (got, out)) : out.size = min got size := by
  unfold decompress at h
  split at h
  · obtain ⟨rfl, rfl⟩ := Prod.mk.inj (Option.some.inj h)
    simp
  · obtain ⟨d, hd, he⟩ := Option.map_eq_some_iff.mp h
    obtain ⟨rfl, rfl⟩ := Prod.mk.inj he
    exact decodeTokens_filled (by simp [Decoding.Filled]) hd

end Lz4

/-! ## Unpacking any record -/

/-- The payload length a record announces: the varint after its tag byte. -/
def declaredLength : List UInt8 → Option Nat
  | [] => none
  | _ :: rest =>
    match readVarint rest with
    | .value n _ => some n
    | _ => none

theorem unpack_ok_length {b p : List UInt8} (h : unpack b = .ok p) :
    declaredLength b = some p.length := by
  match b with
  | [] => simp [unpack] at h
  | [t] => simp [unpack] at h
  | t :: x :: xs =>
    cases hr : readVarint (x :: xs) with
    | value size used =>
      simp only [declaredLength, hr, Option.some.injEq]
      by_cases hraw : t = rawTag
      · -- a raw body is checked against the length
        simp [unpack, hr, hraw] at h
        split at h
        · next hlen => obtain rfl := Except.ok.inj h; simp [hlen]
        · cases h
      by_cases hlz : t = lz4Tag
      · simp [unpack, hr, hlz, lz4Tag, rawTag, toList_eq_data] at h
        split at h
        · cases h
        split at h
        · cases h
        next got out hdec =>
        split at h
        · -- the block produced as many bytes as announced, so they all fit
          next hgot =>
          obtain rfl := Except.ok.inj h
          rw [Array.length_toList, ByteArray.size_data, Lz4.decompress_filled hdec, hgot,
            Nat.min_self]
        · cases h
      · simp [unpack, hr, hraw, hlz] at h
    | truncated => simp [unpack, hr] at h
    | overflow => simp [unpack, hr] at h

/-- The error standing for a buffer that cannot be allocated comes exactly
from a compressed record announcing more than `maxBuffer` bytes. -/
theorem unpack_unallocatable_iff (b : List UInt8) :
    unpack b = .error .unallocatable ↔
      b.head? = some lz4Tag ∧ ∃ n, declaredLength b = some n ∧ maxBuffer < n := by
  match b with
  | [] => simp [unpack, declaredLength]
  | [t] => simp [unpack, declaredLength, readVarint, readVarintFrom]
  | t :: x :: xs =>
    simp only [List.head?_cons, Option.some.injEq, declaredLength]
    cases hr : readVarint (x :: xs) with
    | value size used =>
      by_cases hraw : t = rawTag
      · simp only [unpack, hr, hraw, beq_self_eq_true, ↓reduceIte, show rawTag ≠ lz4Tag by decide,
          false_and, iff_false]
        split <;> simp
      by_cases hlz : t = lz4Tag
      · simp [unpack, hr, hlz, lz4Tag, rawTag]
        constructor
        · intro h
          by_contra hle
          have h' := h (by omega)
          split at h'
          · cases h'
          · split at h' <;> cases h'
        · intro hlt hle
          omega
      · simp [unpack, hr, hraw, hlz]
    | truncated => simp [unpack, hr]
    | overflow => simp [unpack, hr]

/-- Every record unpacks to an error or to a payload of the length it
announces, and the error standing for a buffer that cannot be allocated comes
exactly from a compressed record announcing more than `maxBuffer` bytes. -/
theorem unpack_declared (b : List UInt8) :
    (∀ p, unpack b = .ok p → declaredLength b = some p.length) ∧
    (unpack b = .error .unallocatable ↔
      b.head? = some lz4Tag ∧ ∃ n, declaredLength b = some n ∧ maxBuffer < n) :=
  ⟨fun _ h => unpack_ok_length h, unpack_unallocatable_iff b⟩

-- A compressed record announcing `2^64 - 1` bytes, past any buffer.
example : declaredLength [1, 255, 255, 255, 255, 255, 255, 255, 255, 255, 1, 0] = some (2 ^ 64 - 1) ∧
    unpack [1, 255, 255, 255, 255, 255, 255, 255, 255, 255, 1, 0] = .error .unallocatable := by
  decide

/-! ## Packing then unpacking -/

/-- The LZ4 block format's promise on one source: decoding the block the
compressor produced, into a buffer of the source's size, gives the source
back. -/
def Lz4.Inverts (src : ByteArray) : Prop :=
  Lz4.decompress (Lz4.compress src) src.size = some (src.size, src)

/-- Whether the LZ4 block of a payload is nonempty and shorter than it. -/
def Lz4.Shrinks (payload : List UInt8) : Prop :=
  0 < (Lz4.compress ⟨payload.toArray⟩).size ∧ (Lz4.compress ⟨payload.toArray⟩).size < payload.length

instance (payload : List UInt8) : Decidable (Lz4.Shrinks payload) :=
  inferInstanceAs (Decidable (_ ∧ _))

theorem pack_eq (p : List UInt8) :
    pack p = if Lz4.Shrinks p then lz4Tag :: varint p.length ++ (Lz4.compress ⟨p.toArray⟩).toList
      else rawTag :: varint p.length ++ p := by
  unfold pack
  dsimp only
  split
  · next hraw =>
    have : ¬ Lz4.Shrinks p := by
      simp only [Lz4.Shrinks, toList_eq_data, Array.length_toList, ByteArray.size_data,
        Bool.or_eq_true, beq_iff_eq, decide_eq_true_eq] at hraw ⊢
      omega
    rw [if_neg this]
  · next hlz =>
    have : Lz4.Shrinks p := by
      simp only [Lz4.Shrinks, toList_eq_data, Array.length_toList, ByteArray.size_data,
        Bool.or_eq_true, beq_iff_eq, decide_eq_true_eq, not_or] at hlz ⊢
      omega
    rw [if_pos this]

theorem unpack_raw {p : List UInt8} (hp : p.length < 2 ^ 64) :
    unpack (rawTag :: varint p.length ++ p) = .ok p := by
  have hr := readVarint_varint hp p
  obtain ⟨x, xs, hx⟩ := List.exists_cons_of_ne_nil (varint_ne_nil p.length)
  rw [hx, List.cons_append] at hr
  rw [hx]
  simp [unpack, hr, rawTag]

theorem unpack_compressed {p : List UInt8} (hp : p.length ≤ maxBuffer)
    (hlz : Lz4.Inverts ⟨p.toArray⟩) :
    unpack (lz4Tag :: varint p.length ++ (Lz4.compress ⟨p.toArray⟩).toList) = .ok p := by
  have hr := readVarint_varint (lt_of_le_of_lt hp (by decide)) (Lz4.compress ⟨p.toArray⟩).toList
  unfold Lz4.Inverts at hlz
  obtain ⟨x, xs, hx⟩ := List.exists_cons_of_ne_nil (varint_ne_nil p.length)
  rw [hx] at hr
  simp only [List.cons_append, toList_eq_data] at hr
  rw [hx]
  have hsize : (ByteArray.mk p.toArray).size = p.length := by simp [ByteArray.size]
  simp only [hsize] at hlz
  simp [unpack, hr, lz4Tag, rawTag, hp, hlz, toList_eq_data]

/-- Packing then unpacking gives any payload the runtime can hold back, given
that the LZ4 decoder inverts its compressor on it; the frame is never longer
than a raw frame, and it is raw exactly when the block does not shrink the
payload. -/
theorem unpack_pack (p : List UInt8) (hp : p.length ≤ maxBuffer) (hlz : Lz4.Inverts ⟨p.toArray⟩) :
    unpack (pack p) = .ok p ∧ (pack p).length ≤ 1 + (varint p.length).length + p.length ∧
      ((pack p).head? = some rawTag ↔ ¬ Lz4.Shrinks p) := by
  rw [pack_eq]
  by_cases hs : Lz4.Shrinks p
  · rw [if_pos hs]
    refine ⟨unpack_compressed hp hlz, ?_, by simp [hs, lz4Tag, rawTag]⟩
    have := hs.2
    simp [toList_eq_data]
    omega
  · rw [if_neg hs]
    exact ⟨unpack_raw (lt_of_le_of_lt hp (by decide)), by simp, by simp [hs]⟩

set_option maxRecDepth 10000 in
/-- Sixty-four zero bytes compress to a shorter LZ4 block, so they pack into an
LZ4 frame, which unpacks to them. -/
theorem unpack_pack_zeros :
    (List.replicate 64 (0 : UInt8)).length ≤ maxBuffer ∧ Lz4.Inverts ⟨(List.replicate 64 (0 : UInt8)).toArray⟩ ∧
      Lz4.Shrinks (List.replicate 64 0) ∧
      (unpack (pack (List.replicate 64 0)) = .ok (List.replicate 64 0) ∧
        (pack (List.replicate 64 0)).length ≤
          1 + (varint (List.replicate 64 (0 : UInt8)).length).length + (List.replicate 64 (0 : UInt8)).length ∧
        ((pack (List.replicate 64 0)).head? = some rawTag ↔ ¬ Lz4.Shrinks (List.replicate 64 0))) := by
  -- the one compression the kernel runs; both properties of the block read it off
  have hc : Lz4.compress ⟨(List.replicate 64 (0 : UInt8)).toArray⟩ =
      ⟨#[31, 0, 1, 0, 25, 0, 2, 0, 0, 2, 0, 176, 0, 0, 0, 0, 0, 0, 0, 0, 0, 0, 0]⟩ := by decide +kernel
  have hinv : Lz4.Inverts ⟨(List.replicate 64 (0 : UInt8)).toArray⟩ := by
    unfold Lz4.Inverts
    rw [hc]
    decide +kernel
  have hs : Lz4.Shrinks (List.replicate 64 0) := by
    unfold Lz4.Shrinks
    rw [hc]
    decide
  exact ⟨by decide, hinv, hs, unpack_pack _ (by decide) hinv⟩

end Transclusion.Record
