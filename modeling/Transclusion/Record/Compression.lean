/-!
# LZ4 blocks

The block format: a sequence of tokens, each a literal run followed by a
back-reference. A token byte holds the literal length in its high nibble and
the match length minus four in its low nibble; a nibble of 15 continues in
extension bytes (255 means "add and continue"). After the literals come the
little-endian 16-bit offset and the match length's extension bytes. The last
token carries only literals.

`compress` is the fast single-pass compressor with a 2^16-slot hash table of
six-byte sequences and accelerating skips over incompressible input; its
output is byte-for-byte what the record format stores, so record sizes agree.

`decompress` decodes into a buffer of a fixed size and reports the number of
bytes written, or failure. Its fast paths copy 16 literal or 18 match bytes
at once when the source and buffer allow, so it can report more bytes than
the buffer holds; callers compare the count with the expected size.
-/

namespace Transclusion.Record.Lz4

-- Powers take natural exponents through the core instance, so these definitions
-- elaborate to the same terms whatever else is imported beside them.
attribute [local instance (high)] instPowNat instNatPowNat

/-- The byte at `i`, zero past the end. -/
def byteAt (b : ByteArray) (i : Nat) : UInt8 :=
  if h : i < b.size then b[i] else 0

/-- The little-endian word of `n` bytes at `i`. -/
def wordAt (b : ByteArray) (i n : Nat) : Nat :=
  (List.range n).foldr (fun k acc => acc * 256 + (byteAt b (i + k)).toNat) 0

/-- The last position a match may start before. -/
def matchLimit : Nat := 14

/-- The hash of the low six bytes of a word: the top 16 bits of their product
with a fixed prime, modulo 2^64. -/
def blockHash (x : Nat) : Nat :=
  ((x % 2 ^ (48 : Nat)) * 2 ^ (16 : Nat) * 227718039650203 % 2 ^ (64 : Nat)) / 2 ^ (48 : Nat)

def window : Nat := 65536

/-- The hash table: the low 16 bits of the last position stored per slot, or
-1 for a slot never used. -/
abbrev Table := Array Int

def Table.fresh : Table := Array.replicate 65536 (-1)

/-- The candidate position for slot `h` seen from `si`: the stored low bits
placed in the current 64 KiB block, or the one before when that is not
behind `si`. Unused slots read as zero. -/
def Table.lookup (t : Table) (h : Nat) (si : Nat) : Int :=
  let stored := t.getD h (-1)
  let low : Int := if stored < 0 then 0 else stored
  let i := low + ((si / window) * window : Nat)
  if i ≥ si then i - window else i

/-- Records position `si` in slot `h`. -/
def Table.store (t : Table) (h : Nat) (si : Nat) : Table :=
  t.set! h ((si % window : Nat) : Int)

/-- Appends a length's extension bytes: runs of 255, then the rest. -/
def extension (out : ByteArray) (n : Nat) : ByteArray :=
  let rec go : Nat → ByteArray → Nat → ByteArray
    | 0, out, n => out.push n.toUInt8
    | fuel + 1, out, n => if n ≥ 255 then go fuel (out.push 255) (n - 255) else out.push n.toUInt8
  go (n / 255 + 1) out n

/-- Appends `src[a, a + n)`. -/
def copyRange (out : ByteArray) (src : ByteArray) (a n : Nat) : ByteArray :=
  (List.range n).foldl (fun o k => o.push (byteAt src (a + k))) out

/-- Emits one token: literals `src[anchor, anchor + lLen)`, then a match of
`mLen + 4` bytes at `offset`. -/
def emitToken (out : ByteArray) (src : ByteArray) (anchor lLen mLen offset : Nat) : ByteArray :=
  let token : Nat := (if mLen < 15 then mLen else 15) + 16 * (if lLen < 15 then lLen else 15)
  let out := out.push token.toUInt8
  let out := if lLen < 15 then out else extension out (lLen - 15)
  let out := copyRange out src anchor lLen
  let out := (out.push (offset % 256).toUInt8).push ((offset / 256) % 256).toUInt8
  if mLen < 15 then out else extension out (mLen - 15)

/-- Whether `offset` reaches back inside the window and the four bytes at
`ref` equal `word`. -/
def confirms (src : ByteArray) (si : Nat) (ref : Int) (word : Nat) : Bool :=
  let offset := (si : Int) - ref
  0 < offset && offset < window && wordAt src ref.toNat 4 == word % 2 ^ (32 : Nat)

/-- Extends a match forward eight bytes at a time while a whole word fits
before `limit`, stopping at the first differing byte. -/
def extendForward (src : ByteArray) (offset limit : Nat) : Nat → Nat → Nat
  | 0, si => si
  | fuel + 1, si =>
    if si + 8 ≤ limit then
      let a := wordAt src si 8
      let b := wordAt src (si - offset) 8
      if a == b then extendForward src offset limit fuel (si + 8)
      else
        let x := Nat.xor a b
        let same := ((List.range 8).takeWhile (fun k => (x / 256 ^ k) % 256 == 0)).length
        si + same
    else si

/-- Extends a match backwards while literals remain and the bytes before
agree. Returns the moved position and the number of bytes gained. -/
def extendBackward (src : ByteArray) (si offset lLen : Nat) : Nat → Nat × Nat
  | 0 => (si, 0)
  | fuel + 1 =>
    if lLen > 0 && si > offset && byteAt src (si - 1) == byteAt src (si - offset - 1) then
      let (p, k) := extendBackward src (si - 1) offset (lLen - 1) fuel
      (p, k + 1)
    else (si, 0)

/-- The compressor's state between searches. -/
structure Search where
  si : Nat
  anchor : Nat
  table : Table
  out : ByteArray

/-- The search loop; each round moves `si` forward by at least four. -/
def search (src : ByteArray) (sn : Nat) : Nat → Search → Search
  | 0, s => s
  | fuel + 1, s =>
    if s.si < sn then
      let si := s.si
      let word := wordAt src si 8
      let h := blockHash word
      let h2 := blockHash (word / 256)
      let ref := s.table.lookup h si
      let ref2 := s.table.lookup h2 (si + 1)
      let t := (s.table.store h si).store h2 (si + 1)
      -- the first of the three candidates that confirms
      let found : Option (Nat × Nat × Table) :=
        if confirms src si ref word then some (si, (si - ref).toNat, t)
        else
          let h3 := blockHash (word / 65536)
          let ref3 := t.lookup h3 (si + 2)
          if confirms src (si + 1) ref2 (word / 256) then some (si + 1, (si + 1 - ref2).toNat, t)
          else
            let t := t.store h3 (si + 2)
            if confirms src (si + 2) ref3 (word / 65536) then some (si + 2, (si + 2 - ref3).toNat, t)
            else none
      match found with
      | none =>
        let t := ((s.table.store h si).store h2 (si + 1)).store (blockHash (word / 65536)) (si + 2)
        let si := si + 2
        search src sn fuel { s with si := si + 2 + (si - s.anchor) / 128, table := t }
      | some (pos, offset, t) =>
        let lLen := pos - s.anchor
        let (start, back) := extendBackward src pos offset lLen lLen
        let lLen := lLen - back
        let base := start + 4
        let si := extendForward src offset sn (src.size / 8 + 1) (pos + 4)
        let mLen := si - base
        let out := emitToken s.out src s.anchor lLen mLen offset
        if si ≥ sn then { si, anchor := si, table := t, out }
        else
          let t := t.store (blockHash (wordAt src (si - 2) 8)) (si - 2)
          search src sn fuel { si, anchor := si, table := t, out }
    else s

def compress (src : ByteArray) : ByteArray :=
  let sn := src.size - matchLimit
  let s : Search := { si := 0, anchor := 0, table := Table.fresh, out := ByteArray.empty }
  let s := if src.size > matchLimit then search src sn (src.size + 1) s else s
  let lLen := src.size - s.anchor
  let out := s.out.push (16 * (if lLen < 15 then lLen else 15)).toUInt8
  let out := if lLen < 15 then out else extension out (lLen - 15)
  copyRange out src s.anchor lLen

/-! ## Decoding -/

/-- The decoder's position in the source, the count of bytes produced, and
the bytes produced that fit the buffer. -/
structure Decoding where
  si : Nat
  di : Nat
  out : ByteArray

/-- Reads a length's extension bytes from `si`: the added length and the
position after them, or nothing when the source ends first. -/
def readExtension (src : ByteArray) : Nat → Nat → Nat → Option (Nat × Nat)
  | 0, _, _ => none
  | fuel + 1, si, acc =>
    if si < src.size then
      let x := (byteAt src si).toNat
      if x == 255 then readExtension src fuel (si + 1) (acc + 255) else some (acc + x, si + 1)
    else none

/-- Appends the bytes of a back-reference one at a time, so that an overlap
repeats the pattern; stops at the buffer's end. -/
def copyMatch (out : ByteArray) (size offset n : Nat) : ByteArray :=
  (List.range n).foldl
    (fun o _ => if o.size < size then o.push (byteAt o (o.size - offset)) else o) out

def copyLiterals (out : ByteArray) (size : Nat) (src : ByteArray) (si n : Nat) : ByteArray :=
  copyRange out src si (min n (size - out.size))

/-- The general match step: offset, length extension, and the copy, which
fails when the offset reaches before the start or the match runs past the
buffer. -/
def matchStep (src : ByteArray) (size : Nat) (d : Decoding) (nibble : Nat) : Option Decoding :=
  if d.si + 1 < src.size then
    let offset := wordAt src d.si 2
    if offset == 0 then none
    else
      let si := d.si + 2
      let ext := if nibble == 15 then readExtension src (src.size + 1) si 0 else some (0, si)
      match ext with
      | none => none
      | some (more, si) =>
        let mLen := nibble + 4 + more
        if offset > d.di || d.di + mLen > size then none
        else some { si, di := d.di + mLen, out := copyMatch d.out size offset mLen }
  else none

/-- One token. `none` is failure; `some (d, true)` ends the block. -/
def tokenStep (src : ByteArray) (size : Nat) (d : Decoding) : Option (Decoding × Bool) :=
  let b := (byteAt src d.si).toNat
  let si := d.si + 1
  let lLen := b / 16
  let nibble := b % 16
  let d := { d with si }
  if lLen > 0 && lLen < 15 && si + 16 < src.size then
    -- copy sixteen bytes at once; fails only when already past the buffer
    if d.di > size then none
    else
      let d := { si := si + lLen, di := d.di + lLen, out := copyLiterals d.out size src si lLen }
      let offset := wordAt src d.si 2
      let mLen := nibble + 4
      if nibble < 15 && mLen ≤ offset && offset < d.di && d.di - offset + 18 ≤ size then
        -- copy eighteen match bytes at once
        if d.di > size then none
        else some ({ si := d.si + 2, di := d.di + mLen, out := copyMatch d.out size offset mLen }, false)
      else
        if d.si == src.size && nibble == 0 then some (d, true)
        else if d.si ≥ src.size then none
        else (matchStep src size d nibble).map (·, false)
  else
    let lit : Option (Nat × Nat) :=
      if lLen == 15 then readExtension src (src.size + 1) si 15 else some (lLen, si)
    match lit with
    | none => none
    | some (lLen, si) =>
      if lLen > 0 && (d.di + lLen > size || si + lLen > src.size) then none
      else
        let d : Decoding := { si := si + lLen, di := d.di + lLen, out := copyLiterals d.out size src si lLen }
        if d.si == src.size && nibble == 0 then some (d, true)
        else if d.si ≥ src.size then none
        else (matchStep src size d nibble).map (·, false)

/-- Decodes tokens while source remains; every token consumes at least one
source byte. -/
def decodeTokens (src : ByteArray) (size : Nat) : Nat → Decoding → Option Decoding
  | 0, d => some d
  | fuel + 1, d =>
    if d.si < src.size then
      match tokenStep src size d with
      | none => none
      | some (d, true) => some d
      | some (d, false) => decodeTokens src size fuel d
    else some d

/-- Decodes a block into a buffer of `size` bytes: the count of bytes
produced and the buffer's contents, or nothing on malformed input. An empty
block produces nothing. -/
def decompress (src : ByteArray) (size : Nat) : Option (Nat × ByteArray) :=
  if src.size == 0 then some (0, ByteArray.empty)
  else
    (decodeTokens src size (src.size + 1) { si := 0, di := 0, out := ByteArray.empty }).map
      fun d => (d.di, d.out)

end Transclusion.Record.Lz4
