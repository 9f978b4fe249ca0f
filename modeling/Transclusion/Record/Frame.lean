import Transclusion.Record.Compression

/-!
# Disk record frames

A stored record is one tag byte (0 raw, 1 LZ4 block), the unsigned varint of
the payload's length, then the payload, compressed when that makes it
shorter. Unpacking checks the frame and, for compressed records, that the
block decodes to exactly the announced length, after checking that a buffer
of that length can be asked for at all.
-/

namespace Transclusion.Record

-- Powers take natural exponents through the core instance, so these definitions
-- elaborate to the same terms whatever else is imported beside them.
attribute [local instance (high)] instPowNat instNatPowNat

def rawTag : UInt8 := 0
/-- LZ4 block tag. -/
def lz4Tag : UInt8 := 1

/-- The base-128 little-endian varint of `n`: seven bits per byte, the high
bit set on every byte but the last. -/
def varint (n : Nat) : List UInt8 :=
  if n < 128 then [n.toUInt8] else (n % 128 + 128).toUInt8 :: varint (n / 128)
termination_by n
decreasing_by omega

/-- What reading a varint gives: the value and the bytes used, or a failure
(the bytes end inside the varint, or it runs past ten bytes or 64 bits). -/
inductive VarintRead where
  | value (n : Nat) (used : Nat)
  | truncated
  | overflow
  deriving Repr, DecidableEq

/-- Reads a varint from the front of `bs`; `i` counts the bytes read and
`shift` is the weight of the next one. -/
def readVarintFrom : List UInt8 → Nat → Nat → Nat → VarintRead
  | [], _, _, _ => .truncated
  | b :: rest, i, shift, acc =>
    if i == 10 then .overflow
    else if b < 128 then
      if i == 9 && b > 1 then .overflow else .value (acc + b.toNat * 2 ^ shift) (i + 1)
    else readVarintFrom rest (i + 1) (shift + 7) (acc + (b.toNat - 128) * 2 ^ shift)

/-- Reads a varint from the front of `bs`. -/
def readVarint (bs : List UInt8) : VarintRead := readVarintFrom bs 0 0 0

/-- Why a record did not unpack. -/
inductive UnpackError where
  | tooShort (length : Nat)
  | badLength
  | rawLength (got expected : Nat)
  | unknownTag (tag : UInt8)
  | invalidBlock
  | blockLength (got expected : Nat)
  | unallocatable
  deriving Repr, DecidableEq

def UnpackError.message : UnpackError → String
  | .tooShort n => s!"record too short: {n} bytes"
  | .badLength => "record: bad length prefix"
  | .rawLength got expected => s!"record: got {got} bytes, expected {expected}"
  | .unknownTag t => let n := t.toNat; s!"record: unknown frame tag {n}"
  | .invalidBlock => "lz4 decompress: lz4: invalid source or destination buffer too short"
  | .blockLength got expected => s!"lz4 decompress: got {got} bytes, expected {expected}"
  | .unallocatable => "panic: runtime error: makeslice: len out of range"

/-- The largest buffer that can be asked for, 2^48 bytes: a compressed
record announcing a longer payload (or a length that is negative as a signed
64-bit count) cannot be unpacked at all. -/
def maxBuffer : Nat := 2 ^ (48 : Nat)

/-- Packs a payload: LZ4 when the block is nonempty and shorter than the
payload, raw otherwise. -/
def pack (payload : List UInt8) : List UInt8 :=
  let block := (Lz4.compress (ByteArray.mk payload.toArray)).toList
  let head := varint payload.length
  if block.length == 0 || block.length ≥ payload.length then rawTag :: head ++ payload
  else lz4Tag :: head ++ block

def unpack (record : List UInt8) : Except UnpackError (List UInt8) :=
  match record with
  | tag :: rest@(_ :: _) =>
    match readVarint rest with
    | .value size used =>
      let body := rest.drop used
      if tag == rawTag then
        if body.length == size then .ok body else .error (.rawLength body.length size)
      else if tag == lz4Tag then
        if size > maxBuffer then .error .unallocatable else
        match Lz4.decompress (ByteArray.mk body.toArray) size with
        | none => .error .invalidBlock
        | some (got, out) =>
          if got == size then .ok out.toList else .error (.blockLength got size)
      else .error (.unknownTag tag)
    | _ => .error .badLength
  | _ => .error (.tooShort record.length)

theorem unpack_short (b : UInt8) : unpack [b] = .error (.tooShort 1) := rfl

end Transclusion.Record
