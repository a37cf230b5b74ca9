import BlobCluster.Proofs.Storage.Temporary
import BlobCluster.Proofs.Worker.Ready

/-!
# Saves commit or leave nothing

A save is `Complete` if it names a valid id once, brings nothing but chunks after that, and they
have the digest that was named.  Every other save is `Refused`, with the failure that the first
message which is not as it should be calls for.  On a store that is ready there is nothing between
the two: a complete save leaves the file of the blob with the bytes that came and nothing else, and
of a refused one nothing is left at all, however far it got.
-/

namespace BlobCluster.Worker

variable {volume : Volume} {store : ChunkStore} {file : ChunkFile} {place top : Path}
  {algorithm : Digest.Algorithm} {blob : String} {bytes : Bytes} {rest : Arriving SaveMessage}
  {messages : Arriving SaveMessage}

/-! ## Verdicts -/

/-- The messages are a valid id and then chunks of these bytes, which have the id as their
digest. -/
def Complete (algorithm : Digest.Algorithm) (messages : Arriving SaveMessage) (blob : String)
    (bytes : Bytes) : Prop :=
  BlobId.Valid blob ∧ algorithm.digest bytes = blob
    ∧ ∃ chunks : List Bytes, messages = saveMessages blob (chunks.map .ok) ∧ chunks.flatten = bytes

/-- What is wrong with a save, and how it fails.  Every stream is one of these or complete.  The
text of the failure is part of the case, as the sender is told it. -/
inductive Refused (algorithm : Digest.Algorithm) : Arriving SaveMessage → Failure → Prop
  | empty : Refused algorithm [] ⟨.invalidArgument, "empty save stream"⟩
  | headless (bytes : Bytes) (later : Arriving SaveMessage) :
    Refused algorithm (.ok (.chunk bytes) :: later)
      ⟨.invalidArgument, "save stream must start with the blob hash"⟩
  | broken (e : Failure) (later : Arriving SaveMessage) :
    Refused algorithm (.error e :: later) ⟨.cancelled, "save stream failed: " ++ e.display⟩
  | unnamed {blob : String} {objection : BlobId.Objection} (later : Arriving SaveMessage)
    (objected : BlobId.objection? blob = some objection) :
    Refused algorithm (.ok (.blob blob) :: later) ⟨.invalidArgument, objection.text blob⟩
  | repeated {blob : String} (valid : BlobId.Valid blob) (chunks : List Bytes) (other : String)
    (later : Arriving SaveMessage) :
    Refused algorithm (saveMessages blob (chunks.map .ok) ++ .ok (.blob other) :: later)
      ⟨.invalidArgument, "second hash message in save stream of " ++ blob⟩
  | interrupted {blob : String} (valid : BlobId.Valid blob) (chunks : List Bytes) (e : Failure)
    (later : Arriving SaveMessage) :
    Refused algorithm (saveMessages blob (chunks.map .ok) ++ .error e :: later)
      ⟨.cancelled, "save stream of " ++ blob ++ " interrupted after "
        ++ toString chunks.flatten.length ++ " bytes: " ++ e.display⟩
  | mismatch {blob : String} (valid : BlobId.Valid blob) (chunks : List Bytes)
    (differs : algorithm.digest chunks.flatten ≠ blob) :
    Refused algorithm (saveMessages blob (chunks.map .ok)) hashMismatch

theorem refused_of_incomplete
    (incomplete : ∀ blob bytes, ¬ Complete algorithm messages blob bytes) :
    ∃ e, Refused algorithm messages e := by
  match messages with
  | [] => exact ⟨_, .empty⟩
  | .error e :: later => exact ⟨_, .broken e later⟩
  | .ok (.chunk bytes) :: later => exact ⟨_, .headless bytes later⟩
  | .ok (.blob blob) :: rest =>
    rcases objected : BlobId.objection? blob with _ | objection
    · rcases arriving_cases SaveMessage.chunk rest with ⟨chunks, rfl⟩
        | ⟨chunks, odd, later, rfl, strange⟩
      · rw [← saveMessages_ok] at incomplete ⊢
        exact ⟨_, .mismatch objected chunks fun same =>
          incomplete blob _ ⟨objected, same, chunks, rfl, rfl⟩⟩
      · rw [← List.cons_append, ← saveMessages_ok]
        match odd with
        | .error e => exact ⟨_, .interrupted objected chunks e later⟩
        | .ok (.blob other) => exact ⟨_, .repeated objected chunks other later⟩
        | .ok (.chunk bytes) => exact absurd rfl (strange bytes)
    · exact ⟨_, .unnamed rest objected⟩

/-! ## Filling -/

/-- A temporary file whose chunks are followed by something else is not filled. -/
theorem leaves_fill_append {e : Failure} (sound : volume.Sound) (h : file.Holds volume place [])
    (chunks : List Bytes)
    (odd : ∀ (file : ChunkFile) (volume : Volume), file.size = chunks.flatten.length →
      Leaves (receive blob file (.reading algorithm chunks.flatten) rest) volume
        fun r _ => r = .error e) :
    Leaves (fill store algorithm blob file ((chunks.map fun chunk => .ok (.chunk chunk)) ++ rest))
      volume fun r _ => r = .error e := by
  unfold fill
  rw [← Digest.Hasher.reading_nil]
  refine Leaves.bind (leaves_receive_append blob chunks rest sound h ?_)
  intro file' between _ holds
  rw [List.nil_append] at holds ⊢
  refine (odd file' between holds.size).mono ?_
  rintro _ _ rfl
  rfl

/-- Nor is one whose chunks have another digest than was named. -/
theorem leaves_fill_mismatch (sound : volume.Sound) (h : file.Holds volume place [])
    (chunks : List Bytes) (differs : algorithm.digest chunks.flatten ≠ blob) :
    Leaves (fill store algorithm blob file (chunks.map fun chunk => .ok (.chunk chunk))) volume
      fun r _ => r = .error hashMismatch := by
  unfold fill
  rw [← Digest.Hasher.reading_nil]
  refine Leaves.bind ((leaves_receive_chunks blob chunks sound h).mono ?_)
  rintro _ after ⟨-, rfl, -⟩
  rw [followed_ok, Digest.Hasher.finish_reading, List.nil_append, if_neg differs]
  rfl

/-! ## Saving -/

theorem leaves_saveIn_failed (ready : store.Ready volume top)
    (few : volume.entries.rows.length < 2 ^ 48) (valid : BlobId.Valid blob) {e : Failure}
    (failed : ∀ file created name, store.Ready created top → file.Holds created (top ++ [name]) [] →
      Leaves (fill store algorithm blob file rest) created fun r _ => r = .error e) :
    Leaves (saveIn store algorithm (.ok (.blob blob) :: rest)) volume fun r after =>
      r = .error e ∧ volume.Keeps after fun _ => False := by
  refine (leaves_saveIn_named ready valid failed).mono ?_
  rintro _ _ ⟨rfl, after, gone, rfl⟩
  exact ⟨rfl, gone.undone (ready.seen_freeSerial few)⟩

/-- A save that is refused fails as it should, and nothing is left of it.  The temporary name was
free before, so removing the file undoes what was done. -/
theorem leaves_saveIn_refused (ready : store.Ready volume top)
    (few : volume.entries.rows.length < 2 ^ 48) {e : Failure}
    (refused : Refused algorithm messages e) :
    Leaves (saveIn store algorithm messages) volume fun r after =>
      r = .error e ∧ volume.Keeps after fun _ => False := by
  have nothing : volume.Keeps volume fun _ => False := .refl ready.sound
  cases refused with
  | empty => exact ⟨rfl, nothing⟩
  | headless => exact ⟨rfl, nothing⟩
  | broken => exact ⟨rfl, nothing⟩
  | @unnamed blob objection later objected =>
    have rejected : BlobId.validate blob = .error ⟨.invalidArgument, objection.text blob⟩ := by
      rw [BlobId.validate, objected]
    refine Leaves.except_bind (fun e' refused => ?_) fun _ accepted => ?_
    · cases rejected.symm.trans refused
      exact ⟨rfl, nothing⟩
    · cases rejected.symm.trans accepted
  | repeated valid chunks other later =>
    rw [saveMessages_ok]
    exact leaves_saveIn_failed ready few valid fun file created name ready holds =>
      leaves_fill_append ready.sound holds chunks fun _ _ _ => rfl
  | interrupted valid chunks e later =>
    rw [saveMessages_ok]
    refine leaves_saveIn_failed ready few valid fun file created name ready holds =>
      leaves_fill_append ready.sound holds chunks fun file _ size => ?_
    rw [← size]
    rfl
  | mismatch valid chunks differs =>
    rw [saveMessages_ok]
    exact leaves_saveIn_failed ready few valid fun file created name ready holds =>
      leaves_fill_mismatch ready.sound holds chunks differs

/-- A save that is complete leaves the file of the blob, and nothing else.  The temporary file is
renamed onto the blob, so at the end there is no second copy of the bytes. -/
theorem leaves_saveIn_complete (ready : store.Ready volume top)
    (few : volume.entries.rows.length < 2 ^ 48)
    (complete : Complete algorithm messages blob bytes) :
    Leaves (saveIn store algorithm messages) volume fun r after =>
      r = .ok blob ∧ volume.Replaced after (top ++ [blob]) (some (.file bytes)) := by
  obtain ⟨valid, rfl, chunks, rfl, rfl⟩ := complete
  have ordinary := ChunkStore.ordinary_digest algorithm chunks.flatten
  rw [saveMessages_ok]
  refine (leaves_saveIn_named ready valid fun file created name ready holds =>
    leaves_fill_of_ready ready holds algorithm chunks).mono ?_
  rintro _ after ⟨rfl, between, gone, chunks', target, arrived, located, shown⟩
  obtain rfl : top ++ [_] = target := Except.ok.inj ((ready.locate ordinary).symm.trans located)
  obtain rfl : chunks = chunks' := chunks_inj (fun _ _ => SaveMessage.chunk.inj) arrived
  exact ⟨rfl, (gone.undone (ready.seen_freeSerial few)).replaced shown⟩

end BlobCluster.Worker
