import BlobCluster.Messages

/-!
# Streams of messages

A stream of messages is good as long as chunks arrive.  What becomes of it is decided by the first
item that is no chunk, if there is one: a failure, or a message that has no place there.  If there
is none, the stream has its header and its chunks, and nothing else is the same stream.
-/

namespace BlobCluster

/-- Only chunks arrive, or there is a first item that is none. -/
theorem arriving_cases {α : Type} (chunk : Bytes → α) (messages : Arriving α) :
    (∃ chunks : List Bytes, messages = chunks.map fun bytes => .ok (chunk bytes))
      ∨ ∃ (chunks : List Bytes) (odd : Except Failure α) (later : Arriving α),
        messages = (chunks.map fun bytes => .ok (chunk bytes)) ++ odd :: later
          ∧ ∀ bytes, odd ≠ .ok (chunk bytes) := by
  induction messages with
  | nil => exact .inl ⟨[], rfl⟩
  | cons first rest ih =>
    by_cases good : ∃ bytes, first = .ok (chunk bytes)
    · obtain ⟨bytes, rfl⟩ := good
      rcases ih with ⟨chunks, rfl⟩ | ⟨chunks, odd, later, rfl, strange⟩
      · exact .inl ⟨bytes :: chunks, rfl⟩
      · exact .inr ⟨bytes :: chunks, odd, later, rfl, strange⟩
    · exact .inr ⟨[], first, rest, rfl, not_exists.1 good⟩

/-- The same chunks arrive in two streams only if they are the same. -/
theorem chunks_inj {α : Type} {chunk : Bytes → α}
    (inj : ∀ one other, chunk one = chunk other → one = other) {chunks chunks' : List Bytes}
    (same : (chunks.map fun bytes => .ok (chunk bytes) : Arriving α)
      = chunks'.map fun bytes => .ok (chunk bytes)) :
    chunks = chunks' := by
  have inj' : ∀ one other, (Except.ok (chunk one) : Except Failure α) = .ok (chunk other) →
      one = other :=
    fun one other equal => inj one other (Except.ok.inj equal)
  exact (List.map_inj_right inj').1 same

/-! ## Saves -/

theorem saveMessages_ok (blob : String) (chunks : List Bytes) :
    saveMessages blob (chunks.map .ok)
      = .ok (.blob blob) :: chunks.map fun chunk => .ok (.chunk chunk) := by
  simp [saveMessages, Except.map]

theorem saveMessages_inj {one other : String} {chunks chunks' : List Bytes}
    (same : saveMessages one (chunks.map .ok) = saveMessages other (chunks'.map .ok)) :
    one = other ∧ chunks = chunks' := by
  rw [saveMessages_ok, saveMessages_ok] at same
  obtain ⟨named, equal⟩ := List.cons.inj same
  exact ⟨SaveMessage.blob.inj (Except.ok.inj named),
    chunks_inj (fun _ _ => SaveMessage.chunk.inj) equal⟩

/-! ## Uploads -/

theorem uploadMessages_ok (size : UInt64) (chunks : List Bytes) :
    uploadMessages size (chunks.map .ok)
      = .ok (.info size) :: chunks.map fun chunk => .ok (.chunk chunk) := by
  simp [uploadMessages, Except.map]

theorem uploadMessages_inj {size size' : UInt64} {chunks chunks' : List Bytes}
    (same : uploadMessages size (chunks.map .ok) = uploadMessages size' (chunks'.map .ok)) :
    size = size' ∧ chunks = chunks' := by
  rw [uploadMessages_ok, uploadMessages_ok] at same
  obtain ⟨told, equal⟩ := List.cons.inj same
  exact ⟨UploadMessage.info.inj (Except.ok.inj told),
    chunks_inj (fun _ _ => UploadMessage.chunk.inj) equal⟩

end BlobCluster
