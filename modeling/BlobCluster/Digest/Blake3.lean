import BlobCluster.Digest.Blocks

/-!
# BLAKE3

The hash function with a 32-byte output.  Input is cut into chunks of 1024 bytes, each chunk into
blocks of 64; a chunk has a chaining value, and chaining values are joined pairwise in a binary
tree whose left part is the largest power of two of chunks that leaves something for the right.
`hash` reads a whole byte string, `State` takes it in pieces and keeps the chaining values of the
chunks that are complete.
-/

namespace BlobCluster.Digest.Blake3

/-! ## Sixteen words -/

/-- Eight words: a chaining value or the input key. -/
structure Eight where
  (w0 w1 w2 w3 w4 w5 w6 w7 : UInt32)
  deriving DecidableEq, Repr

/-- Sixteen words: a message block or the working state. -/
structure Sixteen where
  (w0 w1 w2 w3 w4 w5 w6 w7 w8 w9 w10 w11 w12 w13 w14 w15 : UInt32)
  deriving DecidableEq, Repr

/-- The fixed key of the unkeyed mode. -/
def key : Eight :=
  ⟨0x6A09E667, 0xBB67AE85, 0x3C6EF372, 0xA54FF53A, 0x510E527F, 0x9B05688C, 0x1F83D9AB, 0x5BE0CD19⟩

/-- Rotation to the right by fewer than 32 bits. -/
def rotateRight (word count : UInt32) : UInt32 := (word >>> count) ||| (word <<< (32 - count))

/-- Four words under the quarter round. -/
structure Quarter where
  (a b c d : UInt32)

/-- Mixes two message words into four state words. -/
def quarter (a b c d x y : UInt32) : Quarter :=
  let a := a + b + x
  let d := rotateRight (d ^^^ a) 16
  let c := c + d
  let b := rotateRight (b ^^^ c) 12
  let a := a + b + y
  let d := rotateRight (d ^^^ a) 8
  let c := c + d
  let b := rotateRight (b ^^^ c) 7
  ⟨a, b, c, d⟩

/-- One round: the four columns, then the four diagonals. -/
def round (s m : Sixteen) : Sixteen :=
  let p := quarter s.w0 s.w4 s.w8 s.w12 m.w0 m.w1
  let q := quarter s.w1 s.w5 s.w9 s.w13 m.w2 m.w3
  let r := quarter s.w2 s.w6 s.w10 s.w14 m.w4 m.w5
  let t := quarter s.w3 s.w7 s.w11 s.w15 m.w6 m.w7
  let e := quarter p.a q.b r.c t.d m.w8 m.w9
  let f := quarter q.a r.b t.c p.d m.w10 m.w11
  let g := quarter r.a t.b p.c q.d m.w12 m.w13
  let h := quarter t.a p.b q.c r.d m.w14 m.w15
  ⟨e.a, f.a, g.a, h.a, h.b, e.b, f.b, g.b, g.c, h.c, e.c, f.c, f.d, g.d, h.d, e.d⟩

/-- The order of the message words for the next round. -/
def permute (m : Sixteen) : Sixteen :=
  ⟨m.w2, m.w6, m.w3, m.w10, m.w7, m.w0, m.w4, m.w13, m.w1, m.w11, m.w12, m.w5, m.w9, m.w14, m.w15,
    m.w8⟩

/-- That many rounds, the message permuted between them. -/
def rounds : Nat → Sixteen → Sixteen → Sixteen
  | 0, s, _ => s
  | n + 1, s, m => rounds n (round s m) (permute m)

/-! ## Compression -/

/-- Domain flags of a compression. -/
def flagChunkStart : UInt32 := 1
def flagChunkEnd : UInt32 := 2
def flagParent : UInt32 := 4
def flagRoot : UInt32 := 8

/-- The first eight words of the output of one compression. -/
def compress (cv : Eight) (block : Sixteen) (counter : UInt64) (length flags : UInt32) : Eight :=
  let s := rounds 7
    ⟨cv.w0, cv.w1, cv.w2, cv.w3, cv.w4, cv.w5, cv.w6, cv.w7, key.w0, key.w1, key.w2, key.w3,
      counter.toUInt32, (counter >>> 32).toUInt32, length, flags⟩ block
  ⟨s.w0 ^^^ s.w8, s.w1 ^^^ s.w9, s.w2 ^^^ s.w10, s.w3 ^^^ s.w11, s.w4 ^^^ s.w12, s.w5 ^^^ s.w13,
    s.w6 ^^^ s.w14, s.w7 ^^^ s.w15⟩

/-- Little-endian words of a byte string, missing bytes being zero. -/
def words : Nat → Bytes → List UInt32
  | 0, _ => []
  | n + 1, bytes => UInt32.ofNat (Bytes.toNatLE (bytes.take 4)) :: words n (bytes.drop 4)

/-- The message block of at most 64 bytes, padded with zeros. -/
def blockOf (bytes : Bytes) : Sixteen :=
  match words 16 bytes with
  | [a, b, c, d, e, f, g, h, i, j, k, l, m, n, o, p] =>
    ⟨a, b, c, d, e, f, g, h, i, j, k, l, m, n, o, p⟩
  | _ => ⟨0, 0, 0, 0, 0, 0, 0, 0, 0, 0, 0, 0, 0, 0, 0, 0⟩

/-- The message block of two chaining values. -/
def blockOfPair (l r : Eight) : Sixteen :=
  ⟨l.w0, l.w1, l.w2, l.w3, l.w4, l.w5, l.w6, l.w7, r.w0, r.w1, r.w2, r.w3, r.w4, r.w5, r.w6, r.w7⟩

/-! ## Chunks -/

/-- Compresses one block of a chunk: the chaining value so far and whether it is the first. -/
def chunkBlock (counter : UInt64) (s : Eight × Bool) (block : Bytes) : Eight × Bool :=
  (compress s.1 (blockOf block) counter 64 (if s.2 then flagChunkStart else 0), false)

/-- The value of one chunk of at most 1024 bytes; `extra` marks the chunk that is the whole
input. -/
def chunkValue (counter : Nat) (extra : UInt32) (chunk : Bytes) : Eight :=
  let number := UInt64.ofNat counter
  let (s, last) := absorb 64 (fun rest => !rest.isEmpty) (chunkBlock number) (key, true) chunk
  compress s.1 (blockOf last) number (UInt32.ofNat last.length)
    ((if s.2 then flagChunkStart else 0) ||| flagChunkEnd ||| extra)

/-! ## The tree -/

/-- The largest power of two below a count above one, found by doubling. -/
def leftCount (count : Nat) (power : Nat) : Nat → Nat
  | 0 => power
  | fuel + 1 => if 2 * power < count then leftCount count (2 * power) fuel else power

/-- Joins chaining values to one; `extra` marks the root.  One value stands for itself. -/
def join (extra : UInt32) : Nat → List Eight → Eight
  | _, [] => key
  | _, [value] => value
  | 0, value :: _ => value
  | fuel + 1, values =>
    let cut := leftCount values.length 1 values.length
    compress key
      (blockOfPair (join 0 fuel (values.take cut)) (join 0 fuel (values.drop cut)))
      0 64 (flagParent ||| extra)

/-- The output bytes of the root. -/
def outputBytes (v : Eight) : Bytes :=
  [v.w0, v.w1, v.w2, v.w3, v.w4, v.w5, v.w6, v.w7].flatMap fun w => Bytes.ofNatLE 4 w.toNat

/-- The digest from the chaining values of all chunks but the last and the bytes of the last.  The
last chunk is kept open until the end, because only then is it known whether it is the root. -/
def conclude (values : List Eight) (last : Bytes) : Bytes :=
  match values with
  | [] => outputBytes (chunkValue 0 flagRoot last)
  | _ :: _ =>
    let all := values ++ [chunkValue values.length 0 last]
    outputBytes (join flagRoot all.length all)

/-! ## Whole byte strings and streams -/

/-- Adds the value of one complete chunk to those before it, kept with the latest first. -/
def addChunk (values : List Eight × Nat) (chunk : Bytes) : List Eight × Nat :=
  (chunkValue values.2 0 chunk :: values.1, values.2 + 1)

/-- A chunk is complete only when more input follows it. -/
def absorbChunks (values : List Eight × Nat) (bytes : Bytes) : (List Eight × Nat) × Bytes :=
  absorb 1024 (fun rest => !rest.isEmpty) addChunk values bytes

def hash (bytes : Bytes) : Bytes :=
  let (values, last) := absorbChunks ([], 0) bytes
  conclude values.1.reverse last

/-- A digest under way: the chaining values of the complete chunks, latest first, with their
number, and the bytes of the chunk under way. -/
structure State where
  values : List Eight × Nat
  pending : Bytes
  deriving DecidableEq, Repr

def State.start : State := ⟨([], 0), []⟩

def State.write (s : State) (bytes : Bytes) : State :=
  let (values, pending) := absorbChunks s.values (s.pending ++ bytes)
  ⟨values, pending⟩

def State.finish (s : State) : Bytes := conclude s.values.1.reverse s.pending

end BlobCluster.Digest.Blake3
