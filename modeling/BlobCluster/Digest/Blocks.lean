import BlobCluster.Bytes

/-!
# Cutting a stream into blocks

A streaming digest keeps the bytes that do not yet fill a block and absorbs full blocks as they
arrive.  `absorb` is that loop, for any block size and any step.  Its main law is
`absorb_append`: absorbing one piece and then the next, with what was left over in front, ends
where absorbing both at once does, so the cuts between pieces cannot be seen.
-/

namespace BlobCluster.Digest

variable {σ : Type}

/-- Feeds full blocks of `size` bytes to `step` as long as `ready` allows it for the bytes after
the block; returns the state and the bytes that were not absorbed. -/
def absorb (size : Nat) (ready : Bytes → Bool) (step : σ → Bytes → σ) (s : σ) (bytes : Bytes) :
    σ × Bytes :=
  let block := bytes.take size
  let rest := bytes.drop size
  if _h : 0 < size ∧ block.length = size ∧ ready rest = true then
    absorb size ready step (step s block) rest
  else (s, bytes)
termination_by bytes.length
decreasing_by
  simp only [block, rest, List.length_take, List.length_drop] at *
  omega

/-- Absorbing in two pieces is absorbing their concatenation, provided that more bytes never
make a block less ready. -/
theorem absorb_append {size : Nat} {ready : Bytes → Bool} {step : σ → Bytes → σ}
    (mono : ∀ rest more, ready rest = true → ready (rest ++ more) = true)
    (s : σ) (bytes more : Bytes) :
    absorb size ready step s (bytes ++ more)
      = absorb size ready step (absorb size ready step s bytes).1
          ((absorb size ready step s bytes).2 ++ more) := by
  fun_induction absorb size ready step s bytes with
  | case1 s bytes block rest h ih =>
    obtain ⟨hpos, hlen, hready⟩ := h
    have hle : size ≤ bytes.length := by
      simp only [block, List.length_take] at hlen
      omega
    have htake : (bytes ++ more).take size = block := by
      simp [block, List.take_append_of_le_length hle]
    have hdrop : (bytes ++ more).drop size = rest ++ more := by
      simp [rest, List.drop_append_of_le_length hle]
    rw [absorb]
    simp only [htake, hdrop]
    rw [dif_pos ⟨hpos, hlen, mono _ _ hready⟩]
    exact ih
  | case2 s bytes block rest h => rfl

end BlobCluster.Digest
