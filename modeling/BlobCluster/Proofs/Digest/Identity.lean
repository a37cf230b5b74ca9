import BlobCluster.Proofs.Digest.Blake3
import BlobCluster.Proofs.Digest.Streaming
import BlobCluster.Proofs.Digest.Xxh64

/-!
# What a blob is called

`Algorithm.identity` is the text that the hash functions give by their description: the hash of the
whole byte string, in lowercase hexadecimal digits.  `ofChunks_is_identity` says that a hasher comes
to this text whatever chunks it takes the bytes in, and that a store accepts it as an id.
-/

namespace BlobCluster.Digest

/-- The lowest digits of a number in hexadecimal, the highest of them first. -/
def hexText (digits n : Nat) : List Char :=
  (List.range digits).map fun i => hexDigits.getD (n / 16 ^ (digits - 1 - i) % 16) '0'

namespace Algorithm

/-- How many digits the texts of an algorithm have. -/
def digits : Algorithm → Nat
  | xxh64 => 16
  | blake3 => 64

/-- The text for a byte string: the 64-bit hash as one number, or the 32 bytes of the hash one after
the other. -/
def identity : Algorithm → Bytes → String
  | xxh64, bytes => String.ofList (hexText 16 (Xxh64.specified bytes).toNat)
  | blake3, bytes => String.ofList ((Blake3.specified bytes).flatMap fun b => hexText 2 b.toNat)

end Algorithm

/-! ## Hexadecimal texts -/

theorem hexDigit_eq {n : Nat} (small : n < 16) : Bytes.hexDigit n = hexDigits.getD n '0' := by
  revert n
  decide

/-- The last digit of a text is the lowest one of the number. -/
theorem hexText_succ (digits n : Nat) :
    hexText (digits + 1) n = hexText digits (n / 16) ++ [hexDigits.getD (n % 16) '0'] := by
  rw [hexText, List.range_succ, List.map_append, hexText]
  have last : digits + 1 - 1 - digits = 0 := by omega
  congr 1
  · refine List.map_congr_left fun i inside => ?_
    have before := List.mem_range.1 inside
    have higher : digits + 1 - 1 - i = digits - 1 - i + 1 := by omega
    rw [higher, Nat.pow_succ', Nat.div_div_eq_div_mul]
  · rw [List.map_singleton, last, Nat.pow_zero, Nat.div_one]

theorem hexPair_eq (b : UInt8) : Bytes.hexPair b = hexText 2 b.toNat := by
  have small := b.toNat_lt
  have high : b.toNat / 16 % 16 = b.toNat / 16 := by omega
  rw [hexText_succ, hexText_succ, Bytes.hexPair, hexDigit_eq (by omega), hexDigit_eq (by omega),
    high]
  rfl

/-- A number written with its highest byte first is written with its highest digit first. -/
theorem flatMap_ofNatBE (count n : Nat) :
    (Bytes.ofNatBE count n).flatMap Bytes.hexPair = hexText (2 * count) n := by
  induction count generalizing n with
  | zero => rfl
  | succ count ih =>
    have higher : n / 256 = n / 16 / 16 := by rw [Nat.div_div_eq_div_mul]
    have low : (UInt8.ofNat n).toNat / 16 % 16 = n / 16 % 16 := by
      rw [UInt8.toNat_ofNat']
      omega
    have lowest : (UInt8.ofNat n).toNat % 16 = n % 16 := by
      rw [UInt8.toNat_ofNat']
      omega
    have bytes : Bytes.ofNatBE (count + 1) n = Bytes.ofNatBE count (n / 256) ++ [UInt8.ofNat n] :=
      List.reverse_cons
    rw [bytes, List.flatMap_append, ih, Nat.mul_succ, hexText_succ, hexText_succ, higher,
      List.append_assoc]
    congr 1
    rw [List.flatMap_singleton, hexPair_eq, hexText_succ, hexText_succ, low, lowest]
    rfl

/-- The digest is the text that the description of the algorithm gives. -/
theorem digest_eq_identity (algorithm : Algorithm) (bytes : Bytes) :
    algorithm.digest bytes = algorithm.identity bytes := by
  cases algorithm with
  | xxh64 =>
    rw [Algorithm.digest, Bytes.toHex, Algorithm.hash, flatMap_ofNatBE, Xxh64.hash_eq_specified]
    rfl
  | blake3 =>
    rw [Algorithm.digest, Bytes.toHex, Algorithm.hash, Blake3.hash_eq_specified,
      funext hexPair_eq]
    rfl

theorem length_hexText (digits n : Nat) : (hexText digits n).length = digits := by
  rw [hexText, List.length_map, List.length_range]

theorem length_identity (algorithm : Algorithm) (bytes : Bytes) :
    (algorithm.identity bytes).toList.length = algorithm.digits := by
  cases algorithm with
  | xxh64 => rw [Algorithm.identity, String.toList_ofList, length_hexText]; rfl
  | blake3 =>
    have long : (Blake3.specified bytes).length = 32 := by
      simp only [Blake3.specified, List.length_flatMap, Bytes.length_ofNatLE]
      rfl
    rw [Algorithm.identity, String.toList_ofList, ← funext hexPair_eq, length_flatMap_hexPair, long]
    rfl

/-! ## Identities -/

/-- However the bytes of a blob are cut into chunks, a hasher that takes the chunks one by one comes
to the digest of the whole.  It is the text that the description of the algorithm gives, of a fixed
number of lowercase hexadecimal digits, and every store accepts it as an id.

That the pieces make no difference is `absorb_append`: either hasher keeps what does not fill a
block and takes it up with the next piece.  The description goes by positions in the whole string
and knows of no pieces, blocks under way or order of evaluation. -/
theorem ofChunks_is_identity (algorithm : Algorithm) (chunks : List Bytes) :
    let whole := chunks.flatten
    (chunks.foldl Hasher.addChunk (Hasher.start algorithm)).finish = algorithm.digest whole
      ∧ algorithm.digest whole = algorithm.identity whole
      ∧ (algorithm.digest whole).toList.length = algorithm.digits
      ∧ (∀ c ∈ (algorithm.digest whole).toList, c ∈ hexDigits)
      ∧ BlobId.validate (algorithm.digest whole) = .ok () := by
  intro whole
  have described := digest_eq_identity algorithm whole
  refine ⟨ofChunks_eq_digest algorithm chunks, described, ?_, ?_, ?_⟩
  · rw [described]
    exact length_identity algorithm whole
  · exact fun _ mem => mem_hexDigits_of_mem_digest mem
  · exact BlobId.validate_eq_ok_iff.2 (valid_digest algorithm whole)

end BlobCluster.Digest
