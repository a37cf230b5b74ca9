import BlobCluster.Http.Body
import BlobCluster.Proofs.Http.Link
import BlobCluster.Worker.Client

/-!
# Saves in pieces

A save that is sent to a worker arrives as the pieces of a body, which break off where the messages
of the save do.  The worker does the same with either: it writes the same bytes, and it fails at the
same place, if at all.
-/

namespace BlobCluster.Worker

open Http

/-- The messages that a worker makes of the pieces of a body. -/
def regrouped (body : Arriving Bytes) : Arriving SaveMessage :=
  (body.map fun piece => piece.mapError fun e =>
    (⟨.cancelled, "request body: " ++ e.display⟩ : Failure)).map fun item => item.map .chunk

variable {blob : String} {volume : Volume}

/-- The same is received from the messages of a save and from their pieces. -/
theorem sameOutcome_receive (file : ChunkFile) (hasher : Digest.Hasher)
    (messages : Arriving SaveMessage) :
    SameOutcome (receive blob file hasher (regrouped (pieces messages)) volume)
      (receive blob file hasher messages volume) := by
  induction messages generalizing file hasher volume with
  | nil => exact .refl _
  | cons message rest ih =>
    rcases message with e | id | bytes
    · exact .of_errors _ _ volume
    · exact .of_errors _ _ volume
    · exact .bind (.refl _) fun file after => ih file (hasher.addChunk bytes)

theorem receive_fails (file : ChunkFile) (hasher : Digest.Hasher) {messages : Arriving SaveMessage}
    (broken : arrivesWhole (pieces messages) = false) :
    (receive blob file hasher messages volume).1.toOption = none := by
  induction messages generalizing file hasher volume with
  | nil => cases broken
  | cons message rest ih =>
    rcases message with e | id | bytes
    · rfl
    · rfl
    · exact toOption_of_rest fun file after => ih file (hasher.addChunk bytes) broken

/-! ## Files -/

/-- A temporary file is kept or removed after the same outcome. -/
theorem sameOutcome_discarding (file : ChunkFile) {action action' : Storing Unit}
    (same : SameOutcome (action volume) (action' volume)) :
    SameOutcome (discarding file action volume) (discarding file action' volume) := by
  unfold discarding
  rcases same.cases with ⟨e, e', after, failed, failed'⟩ | equal
  · rw [failed, failed']
    exact .of_errors _ _ _
  · rw [equal]
    exact .refl _

theorem sameOutcome_saveIn (store : ChunkStore) (algorithm : Digest.Algorithm)
    (messages : Arriving SaveMessage) :
    SameOutcome (saveIn store algorithm (.ok (.blob blob) :: regrouped (pieces messages)) volume)
      (saveIn store algorithm (.ok (.blob blob) :: messages) volume) :=
  .bind (.refl _) fun _ _ => .bind (.refl _) fun file _ =>
    .bind (sameOutcome_discarding file
      (.bind (sameOutcome_receive file (.start algorithm) messages) fun _ _ => .refl _))
      fun _ _ => .refl _

theorem saveIn_fails (store : ChunkStore) (algorithm : Digest.Algorithm)
    {messages : Arriving SaveMessage} (broken : arrivesWhole (pieces messages) = false) :
    (saveIn store algorithm (.ok (.blob blob) :: messages) volume).1.toOption = none := by
  refine toOption_of_rest fun _ _ => toOption_of_rest fun file after => ?_
  have unfilled : (fill store algorithm blob file messages after).1.toOption = none :=
    toOption_of_first (receive_fails file (.start algorithm) broken)
  refine toOption_of_first ?_
  unfold discarding
  revert unfilled
  generalize fill store algorithm blob file messages after = outcome
  obtain ⟨e | ⟨⟩, t⟩ := outcome
  · exact fun _ => rfl
  · exact nofun

theorem sameOutcome_attempt {α : Type} (worker : Worker) (call : WorkerCall)
    {action action' : Storing α} (same : ∀ volume, SameOutcome (action volume) (action' volume)) :
    SameOutcome (worker.attempt call action) (worker.attempt call action') := by
  unfold attempt
  rcases worker.outages.strike call with ⟨_ | e, outages⟩
  · rcases (same worker.volume).cases with ⟨e, e', after, failed, failed'⟩ | equal
    · simp only [onVolume, failed, failed']
      exact .of_errors _ _ _
    · simp only [onVolume, equal]
      exact .refl _
  · exact .refl _

theorem attempt_fails {α : Type} (worker : Worker) (call : WorkerCall) {action : Storing α}
    (fails : (action worker.volume).1.toOption = none) :
    (worker.attempt call action).1.toOption = none := by
  unfold attempt
  rcases worker.outages.strike call with ⟨_ | e, outages⟩
  · exact fails
  · rfl

/-- A save comes to the same from its messages and from their pieces. -/
theorem sameOutcome_save (worker : Worker) (messages : Arriving SaveMessage) :
    SameOutcome (worker.save (.ok (.blob blob) :: regrouped (pieces messages)))
      (worker.save (.ok (.blob blob) :: messages)) :=
  worker.sameOutcome_attempt .save fun _ =>
    sameOutcome_saveIn worker.store worker.algorithm messages

theorem save_fails (worker : Worker) {messages : Arriving SaveMessage}
    (broken : arrivesWhole (pieces messages) = false) :
    (worker.save (.ok (.blob blob) :: messages)).1.toOption = none :=
  worker.attempt_fails .save (saveIn_fails worker.store worker.algorithm broken)

end BlobCluster.Worker
