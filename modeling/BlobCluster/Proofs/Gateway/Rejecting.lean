import BlobCluster.Proofs.Gateway.Buffering
import BlobCluster.Proofs.Storage.Temporary

/-!
# Uploads that are rejected

An upload is `Complete` if it declares a size and then brings chunks of that many bytes.  Every
other upload is `Rejected`, with the failure that its first odd message calls for.  An upload that
is rejected by its header leaves the scratch folder alone; any other leaves one file in it that was
not there before, with the bytes that had come by then.
-/

namespace BlobCluster

/-- The folder has one more temporary file, with these bytes, and all else is seen as before. -/
def Volume.Gains (volume after : Volume) (top : Path) (bytes : Bytes) : Prop :=
  ∃ serial, volume.seen (top ++ [temporaryName serial]) = none
    ∧ volume.Replaced after (top ++ [temporaryName serial]) (some (.file bytes))

namespace Gateway

variable {volume : Volume} {scratch : ChunkStore} {top : Path} {algorithm : Digest.Algorithm}
  {messages : Arriving UploadMessage} {size : UInt64} {bytes : Bytes}

/-! ## Verdicts -/

/-- The messages declare a size and bring these bytes, which are as many. -/
def Complete (messages : Arriving UploadMessage) (size : UInt64) (bytes : Bytes) : Prop :=
  bytes.length = size.toNat
    ∧ ∃ chunks : List Bytes, messages = uploadMessages size (chunks.map .ok)
      ∧ chunks.flatten = bytes

/-- What is wrong with an upload, how it fails, and the bytes that have come if its header is good.
Every stream is one of these or complete, in whichever pieces its bytes come.  The bytes are kept
because they have passed through a scratch file when the fault is found. -/
inductive Rejected : Arriving UploadMessage → Failure → Option Bytes → Prop
  | empty : Rejected [] ⟨.invalidArgument, "empty upload stream"⟩ none
  | headless (bytes : Bytes) (later : Arriving UploadMessage) :
    Rejected (.ok (.chunk bytes) :: later)
      ⟨.invalidArgument, "upload must start with the blob info"⟩ none
  | broken (e : Failure) (later : Arriving UploadMessage) :
    Rejected (.error e :: later) ⟨.cancelled, "upload stream failed: " ++ e.display⟩ none
  | repeated (size : UInt64) (chunks : List Bytes) (other : UInt64)
    (later : Arriving UploadMessage) :
    Rejected (uploadMessages size (chunks.map .ok) ++ .ok (.info other) :: later)
      ⟨.invalidArgument, "blob info sent more than once"⟩ (some chunks.flatten)
  | interrupted (size : UInt64) (chunks : List Bytes) (e : Failure)
    (later : Arriving UploadMessage) :
    Rejected (uploadMessages size (chunks.map .ok) ++ .error e :: later)
      ⟨.cancelled, "upload interrupted after " ++ toString chunks.flatten.length ++ " bytes: "
        ++ e.display⟩ (some chunks.flatten)
  | miscounted (size : UInt64) (chunks : List Bytes)
    (differs : chunks.flatten.length ≠ size.toNat) :
    Rejected (uploadMessages size (chunks.map .ok)) (wrongSize size chunks.flatten.length)
      (some chunks.flatten)

theorem rejected_of_incomplete (incomplete : ∀ size bytes, ¬ Complete messages size bytes) :
    ∃ e received, Rejected messages e received := by
  match messages with
  | [] => exact ⟨_, _, .empty⟩
  | .error e :: later => exact ⟨_, _, .broken e later⟩
  | .ok (.chunk bytes) :: later => exact ⟨_, _, .headless bytes later⟩
  | .ok (.info size) :: rest =>
    rcases arriving_cases UploadMessage.chunk rest with ⟨chunks, rfl⟩
      | ⟨chunks, odd, later, rfl, strange⟩
    · rw [← uploadMessages_ok] at incomplete ⊢
      exact ⟨_, _, .miscounted size chunks fun same => incomplete size _ ⟨same, chunks, rfl, rfl⟩⟩
    · rw [← List.cons_append, ← uploadMessages_ok]
      match odd with
      | .error e => exact ⟨_, _, .interrupted size chunks e later⟩
      | .ok (.info other) => exact ⟨_, _, .repeated size chunks other later⟩
      | .ok (.chunk bytes) => exact absurd rfl (strange bytes)

/-! ## What is left in the scratch folder -/

/-- What an upload has left in the folder: nothing, or one file with the bytes that came. -/
def Remains (volume after : Volume) (top : Path) : Option Bytes → Prop
  | none => volume.Keeps after fun _ => False
  | some bytes => volume.Gains after top bytes

/-- The next temporary file is one more file. -/
theorem gains_of_replaced (ready : scratch.Ready volume top)
    (few : volume.entries.rows.length < 2 ^ 48) {after : Volume}
    (replaced : volume.Replaced after
      (top ++ [Volume.temporaryName (volume.freeSerial scratch.root)]) (some (.file bytes))) :
    volume.Gains after top bytes :=
  ⟨_, ready.seen_freeSerial few, replaced⟩

/-- An upload whose chunks are followed by something else is left as far as it came. -/
theorem leaves_bufferIn_append (ready : scratch.Ready volume top)
    (few : volume.entries.rows.length < 2 ^ 48) (chunks : List Bytes)
    {rest : Arriving UploadMessage} {e : Failure}
    (odd : ∀ (file : ChunkFile) (volume : Volume), file.size = chunks.flatten.length →
      receive file (.reading algorithm chunks.flatten) rest volume = (.error e, volume)) :
    Leaves (bufferIn scratch algorithm (uploadMessages size (chunks.map .ok) ++ rest)) volume
      fun r after => r = .error e ∧ volume.Gains after top chunks.flatten := by
  rw [uploadMessages_ok]
  refine Leaves.bind (ready.leaves_createTemporary.mono ?_)
  rintro _ created ⟨file, rfl, new, holds⟩
  rw [followed_ok, ← Digest.Hasher.reading_nil]
  refine Leaves.bind (leaves_receive_append chunks rest new.sound holds ?_)
  intro file' between keeps holds'
  rw [List.nil_append] at holds' ⊢
  unfold Leaves
  rw [odd file' between holds'.size]
  exact ⟨rfl, gains_of_replaced ready few (replaced_of_holds new keeps holds')⟩

/-- An upload that is rejected fails as it should, and leaves what had come.  Unlike a worker the
gateway keeps the scratch file of a failed upload. -/
theorem leaves_bufferIn_rejected (ready : scratch.Ready volume top)
    (few : volume.entries.rows.length < 2 ^ 48) {e : Failure} {received : Option Bytes}
    (rejected : Rejected messages e received) :
    Leaves (bufferIn scratch algorithm messages) volume fun r after =>
      r = .error e ∧ Remains volume after top received := by
  have nothing : volume.Keeps volume fun _ => False := .refl ready.sound
  cases rejected with
  | empty => exact ⟨rfl, nothing⟩
  | headless => exact ⟨rfl, nothing⟩
  | broken => exact ⟨rfl, nothing⟩
  | repeated size chunks other later =>
    exact leaves_bufferIn_append ready few chunks fun _ _ _ => rfl
  | interrupted size chunks e later =>
    refine leaves_bufferIn_append ready few chunks fun file _ counted => ?_
    rw [← counted]
    rfl
  | miscounted size chunks differs =>
    rw [uploadMessages_ok]
    refine Leaves.bind (ready.leaves_createTemporary.mono ?_)
    rintro _ created ⟨file, rfl, new, holds⟩
    rw [followed_ok, ← Digest.Hasher.reading_nil]
    refine Leaves.bind ((leaves_receive_chunks chunks new.sound holds).mono ?_)
    rintro _ after ⟨keeps, file', rfl, holds'⟩
    rw [List.nil_append] at holds'
    rw [← holds'.size] at differs
    rw [followed_ok, ← holds'.size]
    simp only [if_neg differs]
    exact ⟨rfl, gains_of_replaced ready few (replaced_of_holds new keeps holds')⟩

end Gateway

end BlobCluster
