import BlobCluster.Bytes.Utf8
import BlobCluster.Digest.Xxh64
import BlobCluster.Proofs.Digest.Blocks
import Mathlib.Algebra.GroupWithZero.Nat

/-!
# XXH64 by positions

`specified` gives the hash of a byte string from the numbers that stand at its positions, as the
algorithm is described: four lanes, each over its own words of all stripes, then the length, then
the words, the half word and the bytes after the last stripe, and at the end the upper bits folded
onto the lower ones.  Words are numbers of which the first byte is the lowest, rotations are those
of bit vectors, and the upper bits of a word are a quotient.  Only the five primes are shared with
`hash`.  `hash_eq_specified` says that `hash`, which goes through its input once and keeps what does
not fill a stripe, computes just this.
-/

namespace BlobCluster.Digest.Xxh64

/-! ## The hash -/

/-- The number that stands at a position, over so many bytes. -/
def numberAt (bytes : Bytes) (size position : Nat) : UInt64 :=
  UInt64.ofNat (Bytes.toNatLE ((bytes.drop position).take size))

/-- The word with its bits rotated to the left. -/
def rotated (word : UInt64) (count : Nat) : UInt64 := ⟨word.toBitVec.rotateLeft count⟩

/-- What a lane is after one of its words. -/
def mixed (lane input : UInt64) : UInt64 := rotated (lane + input * prime2) 31 * prime1

/-- A lane after its words of so many stripes. -/
def lane (bytes : Bytes) (stripes : Nat) (start : UInt64) (i : Nat) : UInt64 :=
  (List.range stripes).foldl (fun acc k => mixed acc (numberAt bytes 8 (32 * k + 8 * i))) start

/-- What the lanes converge to. -/
def converged (one two three four : UInt64) : UInt64 :=
  [one, two, three, four].foldl (fun acc lane => (acc ^^^ mixed 0 lane) * prime1 + prime4)
    (rotated one 1 + rotated two 7 + rotated three 12 + rotated four 18)

/-- What the bytes after the last stripe make of a value: the words among them, a half word if there
is one, and then the single bytes. -/
def rested (bytes : Bytes) (acc : UInt64) : UInt64 :=
  let length := bytes.length
  let acc := (List.range (length % 32 / 8)).foldl (fun acc k =>
    rotated (acc ^^^ mixed 0 (numberAt bytes 8 (32 * (length / 32) + 8 * k))) 27 * prime1 + prime4)
    acc
  let acc :=
    if length % 8 < 4 then acc
    else rotated (acc ^^^ numberAt bytes 4 (8 * (length / 8)) * prime1) 23 * prime2 + prime3
  (List.range (length % 4)).foldl (fun acc k =>
    rotated (acc ^^^ numberAt bytes 1 (4 * (length / 4) + k) * prime5) 11 * prime1) acc

/-- A word with what is left of it above so many bits folded onto its end. -/
def folded (word : UInt64) (count : Nat) : UInt64 := word ^^^ UInt64.ofNat (word.toNat / 2 ^ count)

/-- The final mix: three folds with a product after each but the last. -/
def finished (acc : UInt64) : UInt64 := folded (folded (folded acc 33 * prime2) 29 * prime3) 32

/-- The hash of a byte string under the seed 0.  Four lanes go through the stripes independently,
and what fills no stripe is mixed in at the end; shorter strings have no lanes. -/
def specified (bytes : Bytes) : UInt64 :=
  let stripes := bytes.length / 32
  let acc :=
    if bytes.length < 32 then prime5
    else converged (lane bytes stripes (prime1 + prime2) 0) (lane bytes stripes prime2 1)
      (lane bytes stripes 0 2) (lane bytes stripes (0 - prime1) 3)
  finished (rested bytes (acc + UInt64.ofNat bytes.length))

/-! ## Words -/

theorem rotateLeft_eq_rotated (word : UInt64) {count : UInt64} (few : 0 < count.toNat)
    (fit : count.toNat < 64) : rotateLeft word count = rotated word count.toNat := by
  rw [← UInt64.toBitVec_inj]
  simp [rotateLeft, rotated, UInt64.toBitVec_shiftRight, UInt64.toBitVec_shiftLeft,
    BitVec.rotateLeft_def, Nat.mod_eq_of_lt fit]
  congr 2
  omega

theorem shiftLeft_or (acc : UInt64) (b : UInt8) :
    (acc <<< 8) ||| b.toUInt64 = acc * 256 + b.toUInt64 := by
  have small : b.toNat < 2 ^ 8 := b.toNat_lt
  have range := acc.toNat_lt
  have low : acc.toNat * 2 ^ 8 % 2 ^ 64 = (acc.toNat % 2 ^ 56) * 2 ^ 8 := by omega
  apply UInt64.toNat_inj.1
  rw [UInt64.toNat_or, UInt64.toNat_shiftLeft, UInt64.toNat_add, UInt64.toNat_mul,
    UInt8.toNat_toUInt64]
  show (acc.toNat <<< 8) % 2 ^ 64 ||| b.toNat = (acc.toNat * 256 % 2 ^ 64 + b.toNat) % 2 ^ 64
  rw [Nat.shiftLeft_eq, low, ← Nat.shiftLeft_eq, ← Nat.shiftLeft_add_eq_or_of_lt small,
    Nat.shiftLeft_eq]
  omega

theorem word_eq (bytes : Bytes) : word bytes = UInt64.ofNat (Bytes.toNatLE bytes) := by
  induction bytes with
  | nil => rfl
  | cons b rest ih =>
    show (word rest <<< 8) ||| b.toUInt64 = _
    rw [shiftLeft_or, ih, Bytes.toNatLE]
    apply UInt64.toNat_inj.1
    simp only [UInt64.toNat_add, UInt64.toNat_mul, UInt64.toNat_ofNat', UInt8.toNat_toUInt64]
    show (Bytes.toNatLE rest % 2 ^ 64 * 256 % 2 ^ 64 + b.toNat) % 2 ^ 64 = _
    omega

theorem round_eq_mixed (lane input : UInt64) : round lane input = mixed lane input := by
  rw [round, mixed, rotateLeft_eq_rotated _ (by decide) (by decide)]
  rfl

theorem word_take (bytes : Bytes) (size position : Nat) :
    word ((bytes.drop position).take size) = numberAt bytes size position := word_eq _

/-- A number in a block stands in the whole at the position of the block and its own. -/
theorem word_block {size part position : Nat} (bytes : Bytes) (k : Nat)
    (fits : position + part ≤ size) :
    word (((block size bytes k).drop position).take part)
      = numberAt bytes part (size * k + position) := by
  rw [block, List.drop_take, List.take_take, List.drop_drop, Nat.min_eq_left (by omega), word_take]

/-! ## Lanes -/

theorem stripe_eq (lanes : Lanes) (bytes : Bytes) (k : Nat) :
    lanes.stripe (block 32 bytes k)
      = ⟨mixed lanes.one (numberAt bytes 8 (32 * k)),
          mixed lanes.two (numberAt bytes 8 (32 * k + 8)),
          mixed lanes.three (numberAt bytes 8 (32 * k + 16)),
          mixed lanes.four (numberAt bytes 8 (32 * k + 24))⟩ := by
  have at_ : ∀ position, position + 8 ≤ 32 →
      word (((block 32 bytes k).drop position).take 8) = numberAt bytes 8 (32 * k + position) :=
    fun position fits => word_block bytes k fits
  have first := at_ 0 (by decide)
  rw [List.drop_zero, Nat.add_zero] at first
  simp only [Lanes.stripe, List.drop_drop, round_eq_mixed, first, at_ 8 (by decide),
    at_ 16 (by decide), at_ 24 (by decide)]

/-- The lanes go through the stripes side by side. -/
theorem foldl_stripe (bytes : Bytes) (stripes : Nat) :
    (List.range stripes).foldl (fun lanes k => lanes.stripe (block 32 bytes k)) Lanes.start
      = ⟨lane bytes stripes (prime1 + prime2) 0, lane bytes stripes prime2 1,
          lane bytes stripes 0 2, lane bytes stripes (0 - prime1) 3⟩ := by
  induction stripes with
  | zero => rfl
  | succ stripes ih =>
    rw [List.range_succ, List.foldl_append, ih]
    simp only [List.foldl_cons, List.foldl_nil, stripe_eq, lane, List.range_succ,
      List.foldl_append, Nat.mul_zero, Nat.add_zero, Nat.mul_one]

theorem merge_eq_converged (lanes : Lanes) :
    lanes.merge = converged lanes.one lanes.two lanes.three lanes.four := by
  simp only [Lanes.merge, mergeLane, round_eq_mixed, converged, List.foldl_cons, List.foldl_nil]
  rw [rotateLeft_eq_rotated _ (by decide) (by decide),
    rotateLeft_eq_rotated _ (by decide) (by decide),
    rotateLeft_eq_rotated _ (by decide) (by decide),
    rotateLeft_eq_rotated _ (by decide) (by decide)]
  rfl

/-! ## After the last stripe -/

theorem numberAt_drop (bytes : Bytes) (size first position : Nat) :
    numberAt (bytes.drop first) size position = numberAt bytes size (first + position) := by
  rw [numberAt, numberAt, List.drop_drop]

theorem tailWord_block (acc : UInt64) (bytes : Bytes) (first k : Nat) :
    tailWord acc (block 8 (bytes.drop first) k)
      = rotated (acc ^^^ mixed 0 (numberAt bytes 8 (first + 8 * k))) 27 * prime1 + prime4 := by
  rw [tailWord, round_eq_mixed, rotateLeft_eq_rotated _ (by decide) (by decide), block, word_take,
    numberAt_drop]
  rfl

/-- Single bytes are taken one after the other. -/
theorem tailBytes_eq_foldl (acc : UInt64) (bytes : Bytes) :
    tailBytes acc bytes = (List.range bytes.length).foldl (fun acc k =>
      rotated (acc ^^^ numberAt bytes 1 k * prime5) 11 * prime1) acc := by
  induction bytes generalizing acc with
  | nil => rfl
  | cons b rest ih =>
    have first : numberAt (b :: rest) 1 0 = b.toUInt64 := by
      rw [← UInt64.toNat_inj]
      simp [numberAt, Bytes.toNatLE]
    have later : ∀ k, numberAt (b :: rest) 1 (k + 1) = numberAt rest 1 k := fun _ => rfl
    rw [tailBytes, ih, List.length_cons, List.range_succ_eq_map, List.foldl_cons, List.foldl_map,
      rotateLeft_eq_rotated _ (by decide) (by decide), first]
    simp only [Nat.succ_eq_add_one, later]
    rfl

theorem tailHalf_eq (acc : UInt64) (bytes : Bytes) (short : bytes.length < 8) :
    tailHalf acc bytes
      = (List.range (bytes.length % 4)).foldl (fun acc k =>
          rotated (acc ^^^ numberAt bytes 1 (4 * (bytes.length / 4) + k) * prime5) 11 * prime1)
        (if bytes.length < 4 then acc
          else rotated (acc ^^^ numberAt bytes 4 0 * prime1) 23 * prime2 + prime3) := by
  unfold tailHalf
  by_cases half : 4 ≤ bytes.length
  · have one : bytes.length / 4 = 1 := by omega
    have left : bytes.length - 4 = bytes.length % 4 := by omega
    have number : word (bytes.take 4) = numberAt bytes 4 0 := word_take bytes 4 0
    have turn : (23 : UInt64).toNat = 23 := rfl
    rw [if_pos half, if_neg (by omega), tailBytes_eq_foldl, List.length_drop, left, one, number,
      rotateLeft_eq_rotated _ (by decide) (by decide), turn]
    simp only [numberAt_drop, Nat.mul_one]
  · have none_ : bytes.length / 4 = 0 := by omega
    have left : bytes.length = bytes.length % 4 := by omega
    rw [if_neg half, if_pos (by omega), tailBytes_eq_foldl, none_, ← left]
    simp only [Nat.mul_zero, Nat.zero_add]

theorem tail_eq_rested (acc : UInt64) (bytes : Bytes) :
    tail acc (bytes.drop (32 * (bytes.length / 32))) = rested bytes acc := by
  have after : (bytes.drop (32 * (bytes.length / 32))).length = bytes.length % 32 := by
    rw [List.length_drop]
    omega
  have position : 32 * (bytes.length / 32) + 8 * (bytes.length % 32 / 8)
      = 8 * (bytes.length / 8) := by omega
  have left : (bytes.drop (8 * (bytes.length / 8))).length = bytes.length % 8 := by
    rw [List.length_drop]
    omega
  have single : ∀ k, 8 * (bytes.length / 8) + (4 * (bytes.length % 8 / 4) + k)
      = 4 * (bytes.length / 4) + k := by omega
  have count : bytes.length % 8 % 4 = bytes.length % 4 := by omega
  simp only [tail, absorb_always (by decide : 0 < 8), after, List.drop_drop, position,
    tailWord_block, rested]
  rw [tailHalf_eq _ _ (by omega), left, count]
  simp only [numberAt_drop, single, Nat.add_zero]

/-! ## The final mix -/

theorem xor_shiftRight_eq_folded (word : UInt64) {count : UInt64} (fit : count.toNat < 64) :
    word ^^^ (word >>> count) = folded word count.toNat := by
  have quotient : word >>> count = UInt64.ofNat (word.toNat / 2 ^ count.toNat) := by
    apply UInt64.toNat_inj.1
    rw [UInt64.toNat_shiftRight, Nat.mod_eq_of_lt fit, Nat.shiftRight_eq_div_pow,
      UInt64.toNat_ofNat_of_lt' (Nat.lt_of_le_of_lt (Nat.div_le_self ..) word.toNat_lt)]
  rw [folded, quotient]

theorem avalanche_eq_finished (acc : UInt64) : avalanche acc = finished acc := by
  simp only [avalanche, finished]
  rw [xor_shiftRight_eq_folded acc (by decide), xor_shiftRight_eq_folded _ (by decide),
    xor_shiftRight_eq_folded _ (by decide)]
  rfl

/-! ## The whole -/

theorem hash_eq_specified (bytes : Bytes) : hash bytes = specified bytes := by
  have swap : ∀ merged : UInt64, (if 32 ≤ bytes.length then merged else prime5)
      = if bytes.length < 32 then prime5 else merged := by
    intro merged
    simp only [← Nat.not_lt, ite_not]
  simp only [hash, absorb_always (by decide : 0 < 32), foldl_stripe, conclude, merge_eq_converged,
    tail_eq_rested, avalanche_eq_finished, swap, specified]

example : specified (Bytes.toUtf8 "Nobody inspects the spammish repetition")
    = 0xFBCEA83C8A378BF1 := by
  decide +kernel

end BlobCluster.Digest.Xxh64
