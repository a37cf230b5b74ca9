import BlobCluster.Digest.Blocks

/-!
# Blocks of a byte string

What is absorbed of a byte string are its blocks from the first one on, each at its position:
`absorb_eq_foldl` says how many, and that nothing is left over but what follows them.
-/

namespace BlobCluster.Digest

variable {σ : Type}

/-- The block with a number; the last one may be shorter, and past the end it is empty. -/
def block (size : Nat) (bytes : Bytes) (k : Nat) : Bytes := (bytes.drop (size * k)).take size

theorem block_drop (size : Nat) (bytes : Bytes) (first k : Nat) :
    block size (bytes.drop (size * first)) k = block size bytes (first + k) := by
  rw [block, block, List.drop_drop, Nat.mul_add]

/-- What is left when the blocks before it are taken is the last block, if it is no longer. -/
theorem block_eq_drop {size : Nat} {bytes : Bytes} {k : Nat}
    (last : bytes.length ≤ size * (k + 1)) : block size bytes k = bytes.drop (size * k) := by
  refine List.take_of_length_le ?_
  rw [List.length_drop]
  rw [Nat.mul_succ] at last
  omega

/-- Blocks are absorbed as long as they are full and at least `more` bytes follow them. -/
theorem absorb_eq_foldl {size more : Nat} (positive : 0 < size) {ready : Bytes → Bool}
    (isReady : ∀ rest, ready rest = true ↔ more ≤ rest.length) (step : σ → Bytes → σ) (s : σ)
    (bytes : Bytes) :
    let count := (bytes.length - more) / size
    absorb size ready step s bytes
      = ((List.range count).foldl (fun s k => step s (block size bytes k)) s,
          bytes.drop (size * count)) := by
  fun_induction absorb size ready step s bytes with
  | case1 s bytes first rest h ih =>
    obtain ⟨-, full, goesOn⟩ := h
    have enough : more ≤ bytes.length - size := by
      rw [isReady, List.length_drop] at goesOn
      exact goesOn
    have long : size ≤ bytes.length := by
      rw [List.length_take] at full
      omega
    have count : (bytes.length - more) / size = (rest.length - more) / size + 1 := by
      rw [List.length_drop, Nat.div_eq_sub_div positive (by omega), Nat.sub_right_comm]
    have shifted : ∀ k, block size rest k = block size bytes (k + 1) := by
      intro k
      have from_ := block_drop size bytes 1 k
      rwa [Nat.mul_one, Nat.add_comm] at from_
    intro blocks
    rw [ih, show blocks = _ from count, List.range_succ_eq_map, List.foldl_cons, List.foldl_map]
    simp only [shifted]
    congr 1
    rw [List.drop_drop, Nat.mul_succ, Nat.add_comm]
  | case2 s bytes first rest h =>
    have short : bytes.length - more < size := by
      refine Nat.lt_of_not_le fun long => h ⟨positive, ?_, (isReady _).2 ?_⟩
      · rw [List.length_take]
        omega
      · rw [List.length_drop]
        omega
    intro blocks
    rw [show blocks = 0 from Nat.div_eq_of_lt short]
    simp

theorem absorb_always {size : Nat} (positive : 0 < size) (step : σ → Bytes → σ) (s : σ)
    (bytes : Bytes) :
    absorb size (fun _ => true) step s bytes
      = ((List.range (bytes.length / size)).foldl (fun s k => step s (block size bytes k)) s,
          bytes.drop (size * (bytes.length / size))) := by
  have always : ∀ rest : Bytes, true = true ↔ 0 ≤ rest.length := fun _ =>
    ⟨fun _ => Nat.zero_le _, fun _ => rfl⟩
  exact absorb_eq_foldl positive always step s bytes

/-- A block is absorbed once more follows it, so the last one is left over even if it is full. -/
theorem absorb_unless_last {size : Nat} (positive : 0 < size) (step : σ → Bytes → σ)
    (s : σ) (bytes : Bytes) :
    let last := (bytes.length - 1) / size
    absorb size (fun rest => !rest.isEmpty) step s bytes
      = ((List.range last).foldl (fun s k => step s (block size bytes k)) s,
          block size bytes last) := by
  have more : ∀ rest : Bytes, (!rest.isEmpty) = true ↔ 1 ≤ rest.length := by
    intro rest
    cases rest <;> simp
  intro last
  rw [absorb_eq_foldl positive more, block_eq_drop]
  have past := Nat.lt_mul_div_succ (bytes.length - 1) positive
  show bytes.length ≤ size * ((bytes.length - 1) / size + 1)
  omega

theorem length_block {size k : Nat} {bytes : Bytes} (positive : 0 < size)
    (before : k < (bytes.length - 1) / size) : (block size bytes k).length = size := by
  have within := (Nat.le_div_iff_mul_le positive).1 before
  rw [Nat.succ_mul, Nat.mul_comm] at within
  rw [block, List.length_take, List.length_drop]
  omega

end BlobCluster.Digest
