import BlobCluster.Digest
import BlobCluster.Proofs.BlobId
import BlobCluster.Storage.Volume

/-!
# Digests of streams

A hasher that has taken a byte string in any pieces is in the one state that stands for that byte
string (`Hasher.reading`), so the identity of a blob does not depend on how its bytes were cut
(`ofChunks_eq_digest`).

The identities themselves are lowercase hexadecimal texts of a fixed length.  So they are ids that a
store accepts, and none of them is a name under which a store keeps a file that is not complete yet.
-/

namespace BlobCluster.Digest

/-! ## The state that stands for a byte string -/

namespace Xxh64.State

def reading (bytes : Bytes) : State :=
  let (lanes, pending) := absorb 32 (fun _ => true) Lanes.stripe Lanes.start bytes
  ⟨lanes, pending, bytes.length⟩

theorem write_reading (bytes chunk : Bytes) :
    (reading bytes).write chunk = reading (bytes ++ chunk) := by
  have both := @absorb_append _ 32 (fun _ => true) Lanes.stripe (fun _ _ h => h) Lanes.start bytes
    chunk
  unfold reading write
  rw [both, List.length_append]

theorem reading_nil : reading [] = start := by
  unfold reading
  rw [absorb]
  rfl

end Xxh64.State

namespace Blake3.State

def reading (bytes : Bytes) : State :=
  let (values, pending) := absorbChunks ([], 0) bytes
  ⟨values, pending⟩

theorem write_reading (bytes chunk : Bytes) :
    (reading bytes).write chunk = reading (bytes ++ chunk) := by
  have mono : ∀ rest more : Bytes, (!rest.isEmpty) = true → (!(rest ++ more).isEmpty) = true := by
    intro rest more h
    cases rest with
    | nil => cases h
    | cons b rest => rfl
  have both := @absorb_append _ 1024 (fun rest => !rest.isEmpty) addChunk mono ([], 0) bytes chunk
  unfold reading write absorbChunks
  rw [both]

theorem reading_nil : reading [] = start := by
  unfold reading absorbChunks
  rw [absorb]
  rfl

end Blake3.State

namespace Hasher

/-- The hasher of an algorithm after these bytes. -/
def reading : Algorithm → Bytes → Hasher
  | .xxh64, bytes => .xxh64 (.reading bytes)
  | .blake3, bytes => .blake3 (.reading bytes)

theorem reading_nil (algorithm : Algorithm) : reading algorithm [] = start algorithm := by
  cases algorithm with
  | xxh64 => exact congrArg Hasher.xxh64 Xxh64.State.reading_nil
  | blake3 => exact congrArg Hasher.blake3 Blake3.State.reading_nil

theorem addChunk_reading (algorithm : Algorithm) (bytes chunk : Bytes) :
    (reading algorithm bytes).addChunk chunk = reading algorithm (bytes ++ chunk) := by
  cases algorithm with
  | xxh64 => exact congrArg Hasher.xxh64 (Xxh64.State.write_reading bytes chunk)
  | blake3 => exact congrArg Hasher.blake3 (Blake3.State.write_reading bytes chunk)

theorem finish_reading (algorithm : Algorithm) (bytes : Bytes) :
    (reading algorithm bytes).finish = algorithm.digest bytes := by
  cases algorithm <;> rfl

/-- Chunks that are taken one by one are taken as their concatenation. -/
theorem foldl_addChunk_reading (algorithm : Algorithm) (bytes : Bytes) (chunks : List Bytes) :
    chunks.foldl addChunk (reading algorithm bytes)
      = reading algorithm (bytes ++ chunks.flatten) := by
  induction chunks generalizing bytes with
  | nil => simp
  | cons chunk rest ih =>
    rw [List.foldl_cons, addChunk_reading, ih, List.flatten_cons, List.append_assoc]

end Hasher

theorem ofChunks_eq_digest (algorithm : Algorithm) (chunks : List Bytes) :
    ofChunks algorithm chunks = algorithm.digest chunks.flatten := by
  unfold ofChunks
  rw [← Hasher.reading_nil, Hasher.foldl_addChunk_reading, Hasher.finish_reading]
  rfl

/-! ## What identities look like -/

def hexDigits : List Char := "0123456789abcdef".toList

theorem hexDigit_mem {n : Nat} (h : n < 16) : Bytes.hexDigit n ∈ hexDigits := by
  revert n
  decide

theorem mem_hexDigits_of_mem_hexPair {b : UInt8} {c : Char} (h : c ∈ Bytes.hexPair b) :
    c ∈ hexDigits := by
  have small := b.toNat_lt
  simp only [Bytes.hexPair, List.mem_cons, List.not_mem_nil, or_false] at h
  rcases h with rfl | rfl
  · exact hexDigit_mem (by omega)
  · exact hexDigit_mem (by omega)

theorem mem_hexDigits_of_mem_digest {algorithm : Algorithm} {bytes : Bytes} {c : Char}
    (h : c ∈ (algorithm.digest bytes).toList) : c ∈ hexDigits := by
  simp only [Algorithm.digest, Bytes.toHex, String.toList_ofList, List.mem_flatMap] at h
  obtain ⟨b, -, pair⟩ := h
  exact mem_hexDigits_of_mem_hexPair pair

theorem length_outputBytes (v : Blake3.Eight) : (Blake3.outputBytes v).length = 32 := by
  simp [Blake3.outputBytes, Bytes.length_ofNatLE]

theorem length_hash (algorithm : Algorithm) (bytes : Bytes) :
    (algorithm.hash bytes).length = 8 ∨ (algorithm.hash bytes).length = 32 := by
  cases algorithm with
  | xxh64 => exact .inl (Bytes.length_ofNatBE _ _)
  | blake3 =>
    right
    show (Blake3.conclude _ _).length = 32
    unfold Blake3.conclude
    split <;> exact length_outputBytes _

theorem length_flatMap_hexPair (bytes : Bytes) :
    (bytes.flatMap Bytes.hexPair).length = 2 * bytes.length := by
  induction bytes with
  | nil => rfl
  | cons b rest ih =>
    rw [List.flatMap_cons, List.length_append, ih, List.length_cons]
    simp [Bytes.hexPair]
    omega

theorem length_digest (algorithm : Algorithm) (bytes : Bytes) :
    (algorithm.digest bytes).toList.length = 16 ∨ (algorithm.digest bytes).toList.length = 64 := by
  have pairs : (algorithm.digest bytes).toList.length = 2 * (algorithm.hash bytes).length := by
    rw [Algorithm.digest, Bytes.toHex, String.toList_ofList, length_flatMap_hexPair]
  have length := length_hash algorithm bytes
  omega

/-- A character of one byte that may stand in an id. -/
def isPlain (c : Char) : Bool :=
  c.utf8Size == 1 && !BlobId.isSeparator c && !BlobId.isControl c

theorem utf8ByteSize_ofList {characters : List Char} (h : ∀ c ∈ characters, c.utf8Size = 1) :
    (String.ofList characters).utf8ByteSize = characters.length := by
  induction characters with
  | nil => rfl
  | cons c rest ih =>
    have first := h c (List.mem_cons_self ..)
    have others := ih fun d mem => h d (List.mem_cons_of_mem _ mem)
    have split_ : String.ofList (c :: rest) = String.singleton c ++ String.ofList rest := by
      rw [← String.toList_inj]
      simp
    rw [split_, String.utf8ByteSize_append, String.utf8ByteSize_singleton, first, others,
      List.length_cons]
    omega

theorem utf8ByteSize_of_plain {text : String} (plain : text.toList.all isPlain = true) :
    text.utf8ByteSize = text.toList.length := by
  have narrow : ∀ c ∈ text.toList, c.utf8Size = 1 := by
    intro c mem
    have one := List.all_eq_true.1 plain c mem
    simp only [isPlain, Bool.and_eq_true, beq_iff_eq] at one
    exact one.1.1
  rw [← utf8ByteSize_ofList narrow, String.ofList_toList]

/-- A text of plain characters that is not too short or too long is a blob id. -/
theorem valid_of_plain {text : String} (plain : text.toList.all isPlain = true)
    (long : 2 < text.toList.length) (short : text.toList.length ≤ BlobId.maxLength) :
    BlobId.Valid text := by
  have size := utf8ByteSize_of_plain plain
  have notShort : ∀ other : String, other.toList.length ≤ 2 → text ≠ other := by
    rintro _ few rfl
    omega
  have none_of : ∀ test : Char → Bool, (∀ c, isPlain c = true → test c = false) →
      text.toList.any test = false := by
    intro test fails
    rw [List.any_eq_false]
    intro c mem
    rw [fails c (List.all_eq_true.1 plain c mem)]
    exact Bool.false_ne_true
  have noSeparator := none_of BlobId.isSeparator fun c one => by
    simp only [isPlain, Bool.and_eq_true, Bool.not_eq_true'] at one
    exact one.1.2
  have noControl := none_of BlobId.isControl fun c one => by
    simp only [isPlain, Bool.and_eq_true, Bool.not_eq_true'] at one
    exact one.2
  have some_ : text.isEmpty = false := by simp [notShort "" (by decide)]
  exact BlobId.valid_iff.2 ⟨some_, by omega,
    ⟨noSeparator, notShort "." (by decide), notShort ".." (by decide)⟩, noControl⟩

theorem isPlain_of_mem_hexDigits {c : Char} (h : c ∈ hexDigits) : isPlain c = true := by
  have all : hexDigits.all isPlain = true := by decide
  exact List.all_eq_true.1 all c h

theorem all_isPlain_digest (algorithm : Algorithm) (bytes : Bytes) :
    (algorithm.digest bytes).toList.all isPlain = true :=
  List.all_eq_true.2 fun _ mem => isPlain_of_mem_hexDigits (mem_hexDigits_of_mem_digest mem)

theorem valid_digest (algorithm : Algorithm) (bytes : Bytes) :
    BlobId.Valid (algorithm.digest bytes) := by
  have length := length_digest algorithm bytes
  refine valid_of_plain (all_isPlain_digest algorithm bytes) ?_ ?_
  · omega
  · simp only [BlobId.maxLength]
    omega

theorem utf8ByteSize_digest_le (algorithm : Algorithm) (bytes : Bytes) :
    (algorithm.digest bytes).utf8ByteSize ≤ 64 := by
  have length := length_digest algorithm bytes
  rw [utf8ByteSize_of_plain (all_isPlain_digest algorithm bytes)]
  omega

theorem not_temp_prefix_digest (algorithm : Algorithm) (bytes : Bytes) :
    ¬ "temp-".toList <+: (algorithm.digest bytes).toList := by
  intro begins
  have first : 't' ∈ "temp-".toList := by simp
  have digit := mem_hexDigits_of_mem_digest (begins.subset first)
  revert digit
  decide

theorem digest_ne_temporaryName (algorithm : Algorithm) (bytes : Bytes) (serial : Nat) :
    algorithm.digest bytes ≠ Volume.temporaryName serial := by
  intro same
  apply not_temp_prefix_digest algorithm bytes
  have begins : "temp-".toList <+: "temp-00000000-0000-4000-8000-".toList := by decide
  rw [same]
  unfold Volume.temporaryName
  rw [String.append_assoc, String.toList_append]
  exact begins.trans (List.prefix_append _ _)

end BlobCluster.Digest
