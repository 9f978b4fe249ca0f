/-!
# BLAKE3

The BLAKE3 hash with its default 32-byte output. The input is cut into chunks
of 1024 bytes; each chunk is compressed block by block (64 bytes) into a
chaining value, and chaining values are merged pairwise into a binary tree
whose left subtrees are always complete. The root node is compressed once more
with the root flag, and its first eight words are the digest.

The tree is built the way a stream is hashed: chunk chaining values go onto a
stack, and after the `n`-th chunk the stack is merged once for every trailing
zero bit of `n`.
-/

namespace Transclusion.Digest.Blake3

def iv : Array UInt32 :=
  #[0x6A09E667, 0xBB67AE85, 0x3C6EF372, 0xA54FF53A, 0x510E527F, 0x9B05688C, 0x1F83D9AB,
    0x5BE0CD19]

def permutation : List Nat := [2, 6, 3, 10, 7, 0, 4, 13, 1, 11, 12, 5, 9, 14, 15, 8]

def chunkStart : UInt32 := 1
def chunkEnd : UInt32 := 2
def parentFlag : UInt32 := 4
def rootFlag : UInt32 := 8

def rotr (x : UInt32) (n : UInt32) : UInt32 := (x >>> n) ||| (x <<< (32 - n))

def mix (s : Array UInt32) (a b c d : Nat) (x y : UInt32) : Array UInt32 :=
  let va := s.getD a 0 + s.getD b 0 + x
  let vd := rotr (s.getD d 0 ^^^ va) 16
  let vc := s.getD c 0 + vd
  let vb := rotr (s.getD b 0 ^^^ vc) 12
  let va := va + vb + y
  let vd := rotr (vd ^^^ va) 8
  let vc := vc + vd
  let vb := rotr (vb ^^^ vc) 7
  ((s.set! a va).set! b vb |>.set! c vc).set! d vd

def round (s : Array UInt32) (m : Array UInt32) : Array UInt32 :=
  let w := fun i => m.getD i 0
  let s := mix s 0 4 8 12 (w 0) (w 1)
  let s := mix s 1 5 9 13 (w 2) (w 3)
  let s := mix s 2 6 10 14 (w 4) (w 5)
  let s := mix s 3 7 11 15 (w 6) (w 7)
  let s := mix s 0 5 10 15 (w 8) (w 9)
  let s := mix s 1 6 11 12 (w 10) (w 11)
  let s := mix s 2 7 8 13 (w 12) (w 13)
  mix s 3 4 9 14 (w 14) (w 15)

def permute (m : Array UInt32) : Array UInt32 :=
  (permutation.map fun i => m.getD i 0).toArray

def compress (cv : Array UInt32) (block : Array UInt32) (counter : Nat) (blockLen : Nat)
    (flags : UInt32) : Array UInt32 :=
  let s0 : Array UInt32 := cv ++ iv.extract 0 4 ++
    #[counter.toUInt32, (counter / 4294967296).toUInt32, blockLen.toUInt32, flags]
  let rec rounds : Nat → Array UInt32 → Array UInt32 → Array UInt32
    | 0, s, _ => s
    | n + 1, s, m => rounds n (round s m) (permute m)
  let s := rounds 7 s0 block
  (List.range 16).toArray.map fun i =>
    if i < 8 then s.getD i 0 ^^^ s.getD (i + 8) 0 else s.getD i 0 ^^^ cv.getD (i - 8) 0

/-- Little-endian words of a block of at most 64 bytes, padded with zeros. -/
def blockWords (bytes : List UInt8) : Array UInt32 :=
  let padded := bytes ++ List.replicate (64 - bytes.length) 0
  (List.range 16).toArray.map fun i =>
    let b := fun j => (padded.getD (4 * i + j) 0).toUInt32
    b 0 ||| (b 1 <<< 8) ||| (b 2 <<< 16) ||| (b 3 <<< 24)

/-- What the last compression of a node takes, kept so that the root flag can
still be added. -/
structure Output where
  cv : Array UInt32
  block : Array UInt32
  counter : Nat
  blockLen : Nat
  flags : UInt32

def Output.chainingValue (o : Output) : Array UInt32 :=
  (compress o.cv o.block o.counter o.blockLen o.flags).extract 0 8

def Output.rootWords (o : Output) : Array UInt32 :=
  (compress o.cv o.block o.counter o.blockLen (o.flags ||| rootFlag)).extract 0 8

/-- Cuts a list into pieces of `n` elements; the last may be shorter. -/
def pieces (n : Nat) (xs : List UInt8) : List (List UInt8) :=
  if 0 < n then
    if xs.length ≤ n then [xs]
    else xs.take n :: pieces n (xs.drop n)
  else [xs]
termination_by xs.length
decreasing_by simp_wf; omega

/-- The output of one chunk: every block but the last is compressed into the
chaining value. -/
def chunkOutput (chunk : List UInt8) (counter : Nat) : Output :=
  let blocks := pieces 64 chunk
  let n := blocks.length
  let rec go : List (List UInt8) → Nat → Array UInt32 → Output
    | [], _, cv => ⟨cv, blockWords [], counter, 0, chunkStart ||| chunkEnd⟩
    | [b], i, cv =>
      ⟨cv, blockWords b, counter, b.length, (if i = 0 then chunkStart else 0) ||| chunkEnd⟩
    | b :: bs, i, cv =>
      let flags := if i = 0 then chunkStart else 0
      go bs (i + 1) ((compress cv (blockWords b) counter 64 flags).extract 0 8)
  let _ := n
  go blocks 0 iv

def parentOutput (left right : Array UInt32) : Output :=
  ⟨iv, left ++ right, 0, 64, parentFlag⟩

/-- Pushes the chaining value of chunk number `total - 1`, merging once for
every trailing zero bit of `total`. -/
def pushChunk (stack : List (Array UInt32)) (cv : Array UInt32) (total : Nat) :
    List (Array UInt32) :=
  if 0 < total ∧ total % 2 = 0 then
    match stack with
    | top :: rest => pushChunk rest (parentOutput top cv).chainingValue (total / 2)
    | [] => [cv]
  else cv :: stack
termination_by total
decreasing_by omega

/-- The 32-byte digest of a byte list. -/
def hash (input : List UInt8) : List UInt8 :=
  let chunks := pieces 1024 input
  let (stack, _) := (chunks.dropLast.foldl (fun (acc : List (Array UInt32) × Nat) c =>
    let (st, i) := acc
    (pushChunk st (chunkOutput c i).chainingValue (i + 1), i + 1)) ([], 0))
  let last := chunkOutput (chunks.getLastD []) (chunks.length - 1)
  let root := stack.foldl (fun o cv => parentOutput cv o.chainingValue) last
  (root.rootWords.toList.map fun (w : UInt32) =>
    [w.toUInt8, (w >>> 8).toUInt8, (w >>> 16).toUInt8, (w >>> 24).toUInt8]).flatten

end Transclusion.Digest.Blake3
