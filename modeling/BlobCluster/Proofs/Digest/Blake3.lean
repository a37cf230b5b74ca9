import BlobCluster.Bytes.Utf8
import BlobCluster.Digest.Blake3
import BlobCluster.Proofs.Digest.Blocks
import Mathlib.Algebra.GroupWithZero.Nat
import Mathlib.Logic.Function.Iterate

/-!
# BLAKE3 by positions

`specified` gives the hash of a byte string by recursion on the byte string, as the algorithm is
described: a string of at most 1024 bytes is a chunk, and of a longer one the left part is the
largest power of two of chunks after which something is left.  A chunk is a chain over its blocks,
each under its own length and flags, and a compression works on its words by number.
`hash_eq_specified` says that `hash`, which goes through its input once, keeps the values of the
chunks before the last and joins them at the end, computes just this.
-/

namespace BlobCluster.Digest.Blake3

/-! ## Compression -/

/-- The word with its bits rotated to the right. -/
def rotated (word : UInt32) (count : Nat) : UInt32 := ⟨word.toBitVec.rotateRight count⟩

def Eight.get (words : Eight) (i : Fin 8) : UInt32 :=
  [words.w0, words.w1, words.w2, words.w3, words.w4, words.w5, words.w6, words.w7].get i

def Sixteen.get (words : Sixteen) (i : Fin 16) : UInt32 :=
  [words.w0, words.w1, words.w2, words.w3, words.w4, words.w5, words.w6, words.w7, words.w8,
    words.w9, words.w10, words.w11, words.w12, words.w13, words.w14, words.w15].get i

/-- Half of a mixing: one message word goes into four words of the state, with two rotations. -/
def halfMixed (state : Fin 16 → UInt32) (a b c d : Fin 16) (x : UInt32) (first second : Nat) :
    Fin 16 → UInt32 :=
  let newA := state a + state b + x
  let newD := rotated (state d ^^^ newA) first
  let newC := state c + newD
  let newB := rotated (state b ^^^ newC) second
  fun i => if i = a then newA else if i = b then newB else if i = c then newC
    else if i = d then newD else state i

/-- Two message words go into four words of the state. -/
def mixed (state : Fin 16 → UInt32) (a b c d : Fin 16) (x y : UInt32) : Fin 16 → UInt32 :=
  halfMixed (halfMixed state a b c d x 16 12) a b c d y 8 7

/-- The columns of the state and then its diagonals, by the numbers of their words. -/
def quarters : List (Fin 16 × Fin 16 × Fin 16 × Fin 16) :=
  [(0, 4, 8, 12), (1, 5, 9, 13), (2, 6, 10, 14), (3, 7, 11, 15),
    (0, 5, 10, 15), (1, 6, 11, 12), (2, 7, 8, 13), (3, 4, 9, 14)]

/-- One round: each quarter is mixed with the next two message words. -/
def rounded (state message : Fin 16 → UInt32) : Fin 16 → UInt32 :=
  quarters.zipIdx.foldl (fun state ((a, b, c, d), i) =>
    mixed state a b c d (message (Fin.ofNat 16 (2 * i))) (message (Fin.ofNat 16 (2 * i + 1)))) state

/-- Where the message words of the next round stand in this one. -/
def order : Fin 16 → Fin 16 := [2, 6, 3, 10, 7, 0, 4, 13, 1, 11, 12, 5, 9, 14, 15, 8].get

def paired (left right : Fin 8 → UInt32) : Fin 16 → UInt32 := fun i =>
  if h : i.val < 8 then left ⟨i, h⟩ else right ⟨i - 8, by omega⟩

/-- The state of a compression before its first round. -/
def seeded (value : Fin 8 → UInt32) (counter : UInt64) (length flags : UInt32) :
    Fin 16 → UInt32 :=
  paired value [key.w0, key.w1, key.w2, key.w3, counter.toUInt32, (counter >>> 32).toUInt32,
    length, flags].get

/-- One compression: seven rounds, and both halves of the state added. -/
def compressed (value : Fin 8 → UInt32) (message : Fin 16 → UInt32) (counter : UInt64)
    (length flags : UInt32) : Fin 8 → UInt32 :=
  let state := (List.range 7).foldl (fun state r => rounded state (message ∘ order^[r]))
    (seeded value counter length flags)
  fun i => state ⟨i, by omega⟩ ^^^ state ⟨i + 8, by omega⟩

/-- The message word that stands at a position of a block; missing bytes are zero. -/
def wordAt (bytes : Bytes) (i : Fin 16) : UInt32 :=
  UInt32.ofNat (Bytes.toNatLE ((bytes.drop (4 * i)).take 4))

/-! ## Chunks and the tree -/

/-- The next value in the chain over the blocks of a chunk.  The first block and the last are
marked, and the last one with `extra` too. -/
def linked (number : Nat) (extra : UInt32) (bytes : Bytes) (value : Fin 8 → UInt32) (k : Nat) :
    Fin 8 → UInt32 :=
  compressed value (wordAt (block 64 bytes k)) (UInt64.ofNat number)
    (UInt32.ofNat (block 64 bytes k).length)
    ((if k = 0 then flagChunkStart else 0)
      ||| if k = (bytes.length - 1) / 64 then flagChunkEnd ||| extra else 0)

/-- The value of a chunk under its number: a chain over its blocks. -/
def chunk (number : Nat) (extra : UInt32) (bytes : Bytes) : Fin 8 → UInt32 :=
  (List.range ((bytes.length - 1) / 64 + 1)).foldl (linked number extra bytes) key.get

theorem left_lt {count : Nat} (several : 2 ≤ count) : 2 ^ (count - 1).log2 < count := by
  have most := Nat.log2_self_le (n := count - 1) (by omega)
  omega

/-- The value of a byte string whose first chunk has the number `first`.  A string of more than one
chunk has a left part, which is the largest power of two of chunks that leaves something. -/
def subtree (first : Nat) (extra : UInt32) (bytes : Bytes) : Fin 8 → UInt32 :=
  if bytes.length ≤ 1024 then chunk first extra bytes
  else
    let left := 2 ^ ((bytes.length - 1) / 1024).log2
    compressed key.get
      (paired (subtree first 0 (bytes.take (1024 * left)))
        (subtree (first + left) 0 (bytes.drop (1024 * left))))
      0 64 (flagParent ||| extra)
termination_by bytes.length
decreasing_by
  all_goals
    have short := @left_lt ((bytes.length - 1) / 1024 + 1) (by omega)
    have some_ := Nat.two_pow_pos ((bytes.length - 1) / 1024).log2
    simp only [List.length_take, List.length_drop, Nat.add_sub_cancel] at *
    omega

/-- The hash of a byte string: the value of the whole of it as the root, the lowest byte of each
word first.  The running hash goes through the chunks in order and joins values on a stack; here the
tree is cut from the top. -/
def specified (bytes : Bytes) : Bytes :=
  (List.finRange 8).flatMap fun i => Bytes.ofNatLE 4 (subtree 0 flagRoot bytes i).toNat

/-! ## Compression by number and by name -/

theorem rotateRight_eq_rotated (word : UInt32) {count : UInt32} (few : 0 < count.toNat)
    (fit : count.toNat < 32) : rotateRight word count = rotated word count.toNat := by
  rw [← UInt32.toBitVec_inj]
  simp [rotateRight, rotated, UInt32.toBitVec_shiftRight, UInt32.toBitVec_shiftLeft,
    BitVec.rotateRight_def, Nat.mod_eq_of_lt fit]
  congr 2
  omega

def Quarter.put (q : Quarter) (state : Fin 16 → UInt32) (a b c d : Fin 16) : Fin 16 → UInt32 :=
  fun i => if i = a then q.a else if i = b then q.b else if i = c then q.c
    else if i = d then q.d else state i

def Distinct (a b c d : Fin 16) : Prop := [a, b, c, d].Nodup

instance (a b c d : Fin 16) : Decidable (Distinct a b c d) :=
  inferInstanceAs (Decidable ([a, b, c, d].Nodup))

/-- Both halves of a mixing are done at once to words that are distinct. -/
theorem mixed_eq_put (state : Fin 16 → UInt32) {a b c d : Fin 16} (distinct : Distinct a b c d)
    (x y : UInt32) : mixed state a b c d x y
      = (quarter (state a) (state b) (state c) (state d) x y).put state a b c d := by
  simp only [Distinct, List.nodup_cons, List.mem_cons, List.not_mem_nil, or_false, not_or]
    at distinct
  obtain ⟨⟨ab, ac, ad⟩, ⟨bc, bd⟩, cd, -⟩ := distinct
  have turn : ∀ word : UInt32, rotateRight word 16 = rotated word 16
      ∧ rotateRight word 12 = rotated word 12 ∧ rotateRight word 8 = rotated word 8
      ∧ rotateRight word 7 = rotated word 7 := fun word =>
    ⟨rotateRight_eq_rotated word (by decide) (by decide),
      rotateRight_eq_rotated word (by decide) (by decide),
      rotateRight_eq_rotated word (by decide) (by decide),
      rotateRight_eq_rotated word (by decide) (by decide)⟩
  funext i
  simp only [mixed, halfMixed, quarter, Quarter.put, turn, if_true, Ne.symm ab, Ne.symm ac,
    Ne.symm ad, Ne.symm bc, Ne.symm bd, Ne.symm cd, if_false]
  by_cases isA : i = a
  · simp only [if_pos isA]
  by_cases isB : i = b
  · simp only [if_neg isA, if_pos isB]
  by_cases isC : i = c
  · simp only [if_neg isA, if_neg isB, if_pos isC]
  · simp only [if_neg isA, if_neg isB, if_neg isC]
    split <;> rfl

theorem eq_get (words : Fin 16 → UInt32) :
    words = Sixteen.get ⟨words 0, words 1, words 2, words 3, words 4, words 5, words 6, words 7,
      words 8, words 9, words 10, words 11, words 12, words 13, words 14, words 15⟩ := by
  funext i
  match i with
  | 0 | 1 | 2 | 3 | 4 | 5 | 6 | 7 | 8 | 9 | 10 | 11 | 12 | 13 | 14 | 15 => rfl
  | ⟨n + 16, past⟩ => exact absurd past (by omega)

theorem rounded_eq (s m : Sixteen) : rounded s.get m.get = (round s m).get := by
  simp only [rounded, quarters, List.zipIdx_cons, List.zipIdx_nil, List.foldl_cons, List.foldl_nil]
  rw [mixed_eq_put _ (by decide), mixed_eq_put _ (by decide), mixed_eq_put _ (by decide),
    mixed_eq_put _ (by decide), mixed_eq_put _ (by decide), mixed_eq_put _ (by decide),
    mixed_eq_put _ (by decide), mixed_eq_put _ (by decide)]
  refine (eq_get _).trans ?_
  rfl

theorem get_permute (m : Sixteen) : (permute m).get = m.get ∘ order := by
  rw [eq_get (m.get ∘ order)]
  rfl

/-- The message of each round is permuted once more than that of the one before. -/
theorem get_rounds (count : Nat) (s m : Sixteen) :
    (rounds count s m).get
      = (List.range count).foldl (fun state r => rounded state (m.get ∘ order^[r])) s.get := by
  induction count generalizing s m with
  | zero => rfl
  | succ count ih =>
    rw [rounds, ih, List.range_succ_eq_map, List.foldl_cons, List.foldl_map, get_permute]
    simp only [Nat.succ_eq_add_one, Function.iterate_succ', Function.comp_assoc,
      Function.iterate_zero, Function.comp_id, rounded_eq]

theorem get_compress (value : Eight) (message : Sixteen) (counter : UInt64)
    (length flags : UInt32) : (compress value message counter length flags).get
      = compressed value.get message.get counter length flags := by
  have start : Sixteen.get ⟨value.w0, value.w1, value.w2, value.w3, value.w4, value.w5, value.w6,
      value.w7, key.w0, key.w1, key.w2, key.w3, counter.toUInt32, (counter >>> 32).toUInt32,
      length, flags⟩ = seeded value.get counter length flags := by
    rw [eq_get (seeded value.get counter length flags)]
    rfl
  funext i
  rw [compressed, ← start, ← get_rounds]
  match i with
  | 0 | 1 | 2 | 3 | 4 | 5 | 6 | 7 => rfl
  | ⟨n + 8, past⟩ => exact absurd past (by omega)

theorem get_blockOfPair (left right : Eight) :
    (blockOfPair left right).get = paired left.get right.get := by
  rw [eq_get (paired left.get right.get)]
  rfl

theorem get_blockOf (bytes : Bytes) : (blockOf bytes).get = wordAt bytes := by
  rw [eq_get (wordAt bytes)]
  simp only [blockOf, words, List.drop_drop]
  rfl

/-! ## Chunks in one pass -/

/-- A block before the last is compressed as the chain says. -/
theorem get_chunkBlock (number : Nat) (extra : UInt32) {bytes : Bytes} (s : Eight × Bool) {k : Nat}
    (before : k < (bytes.length - 1) / 64) (marked : s.2 = (k == 0)) :
    (chunkBlock (UInt64.ofNat number) s (block 64 bytes k)).1.get
      = linked number extra bytes s.1.get k := by
  rw [chunkBlock, get_compress, get_blockOf, linked, length_block (by decide) before, marked,
    if_neg (Nat.ne_of_lt before), UInt32.or_zero]
  simp only [beq_iff_eq]
  rfl

/-- Only before the first block is the chain marked. -/
theorem foldl_chunkBlock (number : Nat) (extra : UInt32) (bytes : Bytes) {count : Nat}
    (before : count ≤ (bytes.length - 1) / 64) :
    let s := (List.range count).foldl
      (fun s k => chunkBlock (UInt64.ofNat number) s (block 64 bytes k)) (key, true)
    s.2 = (count == 0)
      ∧ s.1.get = (List.range count).foldl (linked number extra bytes) key.get := by
  induction count with
  | zero => exact ⟨rfl, rfl⟩
  | succ count ih =>
    obtain ⟨marked, value⟩ := ih (Nat.le_of_succ_le before)
    rw [List.range_succ, List.foldl_append, List.foldl_append, ← value]
    exact ⟨rfl, get_chunkBlock number extra _ before marked⟩

theorem get_chunkValue (number : Nat) (extra : UInt32) (bytes : Bytes) :
    (chunkValue number extra bytes).get = chunk number extra bytes := by
  obtain ⟨marked, value⟩ := foldl_chunkBlock number extra bytes (Nat.le_refl _)
  rw [chunk, List.range_succ, List.foldl_append, ← value, chunkValue]
  simp only [absorb_unless_last (by decide : 0 < 64), get_compress, get_blockOf, marked,
    List.foldl_cons, List.foldl_nil, linked, beq_iff_eq, if_true, UInt32.or_assoc]

/-! ## The tree from the values of its chunks -/

/-- Doubling stops at the largest power of two below the count. -/
theorem leftCount_doubled {count k fuel : Nat} (below : 2 ^ k < count)
    (enough : count ≤ 2 ^ (k + fuel)) : leftCount count (2 ^ k) fuel = 2 ^ (count - 1).log2 := by
  induction fuel generalizing k with
  | zero => exact absurd (Nat.lt_of_lt_of_le below enough) (Nat.lt_irrefl _)
  | succ fuel ih =>
    have twice : 2 * 2 ^ k = 2 ^ (k + 1) := Nat.pow_succ'.symm
    rw [leftCount, twice]
    by_cases again : 2 ^ (k + 1) < count
    · rw [if_pos again]
      exact ih again (by rwa [Nat.add_assoc, Nat.add_comm 1])
    · have positive := Nat.two_pow_pos k
      have largest : (count - 1).log2 = k := (Nat.log2_eq_iff (by omega)).2 ⟨by omega, by omega⟩
      rw [if_neg again, largest]

theorem leftCount_eq {count : Nat} (several : 2 ≤ count) :
    leftCount count 1 count = 2 ^ (count - 1).log2 :=
  leftCount_doubled (k := 0) several (by
    rw [Nat.zero_add]
    exact Nat.le_of_lt Nat.lt_two_pow_self)

def chunkValues (first : Nat) (bytes : Bytes) : List Eight :=
  (List.range ((bytes.length - 1) / 1024 + 1)).map fun k =>
    chunkValue (first + k) 0 (block 1024 bytes k)

theorem length_chunkValues (first : Nat) (bytes : Bytes) :
    (chunkValues first bytes).length = (bytes.length - 1) / 1024 + 1 := by
  rw [chunkValues, List.length_map, List.length_range]

theorem take_chunkValues (first : Nat) {bytes : Bytes} {left : Nat} (some_ : 0 < left)
    (leaves : 1024 * left < bytes.length) :
    (chunkValues first bytes).take left = chunkValues first (bytes.take (1024 * left)) := by
  have count : (min (1024 * left) bytes.length - 1) / 1024 + 1 = left := by omega
  have within : min left ((bytes.length - 1) / 1024 + 1) = left := by omega
  rw [chunkValues, ← List.map_take, List.take_range, within, chunkValues, List.length_take, count]
  refine List.map_congr_left fun k inside => ?_
  have fits : 1024 * k + 1024 ≤ 1024 * left := by
    have := List.mem_range.1 inside
    omega
  rw [block, block, List.drop_take, List.take_take, Nat.min_eq_left (by omega)]

theorem drop_chunkValues (first : Nat) {bytes : Bytes} {left : Nat}
    (leaves : 1024 * left < bytes.length) :
    (chunkValues first bytes).drop left
      = chunkValues (first + left) (bytes.drop (1024 * left)) := by
  have count : (bytes.length - 1) / 1024 + 1
      = left + ((bytes.length - 1024 * left - 1) / 1024 + 1) := by omega
  rw [chunkValues, count, List.range_add, List.map_append, List.drop_left' (by simp), List.map_map,
    chunkValues, List.length_drop]
  refine List.map_congr_left fun k _ => ?_
  rw [Function.comp_apply, block_drop, Nat.add_assoc]

theorem chunkValues_short (first : Nat) {bytes : Bytes} (short : bytes.length ≤ 1024) :
    chunkValues first bytes = [chunkValue first 0 bytes] := by
  have one : (bytes.length - 1) / 1024 = 0 := by omega
  have whole : block 1024 bytes 0 = bytes := List.take_of_length_le short
  rw [chunkValues, one, List.range_one, List.map_singleton, whole, Nat.add_zero]

theorem join_single (extra : UInt32) (fuel : Nat) (value : Eight) :
    join extra fuel [value] = value := by
  cases fuel <;> rfl

theorem join_several (extra : UInt32) (fuel : Nat) {values : List Eight}
    (several : 2 ≤ values.length) :
    let left := 2 ^ (values.length - 1).log2
    join extra (fuel + 1) values
      = compress key (blockOfPair (join 0 fuel (values.take left)) (join 0 fuel (values.drop left)))
          0 64 (flagParent ||| extra) := by
  have notNone : values ≠ [] := fun none_ => by simp [none_] at several
  have notOne : ∀ value, values ≠ [value] := fun value one => by simp [one] at several
  rw [join, leftCount_eq several] <;> assumption

/-- The value of a lone chunk is not marked as the root. -/
theorem get_join_short {first fuel : Nat} {extra : UInt32} {bytes : Bytes}
    (short : bytes.length ≤ 1024) :
    (join extra fuel (chunkValues first bytes)).get = subtree first 0 bytes := by
  rw [chunkValues_short first short, join_single, get_chunkValue, subtree, if_pos short]

/-- The values of the chunks of a byte string are joined to the value of the whole, which is marked
unless it is a chunk. -/
theorem get_join {first : Nat} {extra : UInt32} {fuel : Nat} {bytes : Bytes}
    (marked : extra = 0 ∨ 1024 < bytes.length) (enough : (bytes.length - 1) / 1024 ≤ fuel) :
    (join extra fuel (chunkValues first bytes)).get = subtree first extra bytes := by
  have lone : bytes.length ≤ 1024 → extra = 0 := fun short => marked.resolve_right (by omega)
  induction fuel generalizing first extra bytes with
  | zero =>
    have short : bytes.length ≤ 1024 := by omega
    rw [get_join_short short, lone short]
  | succ fuel ih =>
    by_cases short : bytes.length ≤ 1024
    · rw [get_join_short short, lone short]
    · have several : 2 ≤ (chunkValues first bytes).length := by
        rw [length_chunkValues]
        omega
      have leaves := left_lt several
      have positive := Nat.two_pow_pos ((bytes.length - 1) / 1024).log2
      rw [subtree, if_neg short, join_several _ _ several, get_compress, get_blockOfPair]
      simp only [length_chunkValues, Nat.add_sub_cancel] at leaves ⊢
      rw [take_chunkValues first positive (by omega), drop_chunkValues first (by omega)]
      rw [ih (.inl rfl) (by rw [List.length_take]; omega) (fun _ => rfl),
        ih (.inl rfl) (by rw [List.length_drop]; omega) (fun _ => rfl)]

/-! ## The hash -/

/-- The values of the chunks before the last, the latest first. -/
theorem foldl_addChunk (bytes : Bytes) (count : Nat) :
    (List.range count).foldl (fun values k => addChunk values (block 1024 bytes k)) ([], 0)
      = (((List.range count).map fun k => chunkValue k 0 (block 1024 bytes k)).reverse, count) := by
  induction count with
  | zero => rfl
  | succ count ih =>
    rw [List.range_succ, List.foldl_append, ih, List.map_append, List.reverse_append]
    rfl

theorem outputBytes_eq (value : Eight) : outputBytes value
    = (List.finRange 8).flatMap fun i => Bytes.ofNatLE 4 (value.get i).toNat := rfl

theorem conclude_several {values : List Eight} (some_ : values ≠ []) (last : Bytes) :
    conclude values last
      = outputBytes (join flagRoot (values.length + 1)
          (values ++ [chunkValue values.length 0 last])) := by
  obtain ⟨first, rest, rfl⟩ := List.exists_cons_of_ne_nil some_
  rw [conclude, List.length_append]
  rfl

theorem hash_eq_specified (bytes : Bytes) : hash bytes = specified bytes := by
  rw [hash, absorbChunks, absorb_unless_last (by decide : 0 < 1024), foldl_addChunk]
  simp only [List.reverse_reverse]
  by_cases short : bytes.length ≤ 1024
  · have none_ : (bytes.length - 1) / 1024 = 0 := by omega
    have whole : block 1024 bytes 0 = bytes := List.take_of_length_le short
    rw [none_, whole, specified, subtree, if_pos short, ← get_chunkValue]
    rfl
  · have values : (List.range ((bytes.length - 1) / 1024)).map
          (fun k => chunkValue k 0 (block 1024 bytes k))
        ++ [chunkValue ((bytes.length - 1) / 1024) 0 (block 1024 bytes ((bytes.length - 1) / 1024))]
        = chunkValues 0 bytes := by
      rw [chunkValues, List.range_succ, List.map_append]
      simp only [Nat.zero_add, List.map_cons, List.map_nil]
    rw [conclude_several, List.length_map, List.length_range, values, outputBytes_eq,
      get_join (.inr (Nat.lt_of_not_le short)) (Nat.le_succ _), specified]
    intro none_
    have := congrArg List.length none_
    simp only [List.length_map, List.length_range, List.length_nil] at this
    omega

example : hash [] = [0xAF, 0x13, 0x49, 0xB9, 0xF5, 0xF9, 0xA1, 0xA6, 0xA0, 0x40, 0x4D, 0xEA, 0x36,
    0xDC, 0xC9, 0x49, 0x9B, 0xCB, 0x25, 0xC9, 0xAD, 0xC1, 0x12, 0xB7, 0xCC, 0x9A, 0x93, 0xCA, 0xE4,
    0x1F, 0x32, 0x62] := by
  decide +kernel

end BlobCluster.Digest.Blake3
