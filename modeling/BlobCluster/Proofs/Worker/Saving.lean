import BlobCluster.Proofs.Messages
import BlobCluster.Proofs.Storage.Files
import BlobCluster.Worker.Basic

/-!
# What the calls of a worker do to its files

A save that fails leaves a temporary name free and changes nothing else, whichever of its steps
failed; one that succeeds has moved the temporary file to the place of the blob after all bytes were
there and had the announced digest.  `leaves_saveIn` and `leaves_removeFrom` say this about what is
seen at every place of the volume.  For clients this comes to `SaveOutcome` and `Kept`: the file of
a `Lasting` id, which no temporary file has, changes only if the call is about that id.
-/

namespace BlobCluster

namespace Worker

variable {volume : Volume} {store : ChunkStore} {file : ChunkFile} {place : Path}
  {content : Bytes} {algorithm : Digest.Algorithm}

/-! ## Saving -/

/-- Receiving touches only the file that is filled; it gets to the end if the messages are chunks,
and then the file and the digest have taken them all. -/
theorem leaves_receive (blob : String) (messages : Arriving SaveMessage) (sound : volume.Sound)
    (h : file.Holds volume place content) :
    Leaves (receive blob file (.reading algorithm content) messages) volume fun r after =>
      volume.Keeps after (· = place) ∧
      match r with
      | .ok hasher => ∃ chunks : List Bytes, messages = chunks.map (fun chunk => .ok (.chunk chunk))
          ∧ hasher = .reading algorithm (content ++ chunks.flatten)
          ∧ after.seen place = some (.file (content ++ chunks.flatten))
      | .error _ => ∀ chunks : List Bytes,
          messages ≠ chunks.map fun chunk => .ok (.chunk chunk) := by
  induction messages generalizing volume file content with
  | nil =>
    refine ⟨.refl sound, [], rfl, ?_, ?_⟩
    · simp
    · show volume.seen place = _
      simpa using h.seen
  | cons message rest ih =>
    match message with
    | .error e =>
      refine ⟨.refl sound, fun chunks => ?_⟩
      cases chunks <;> exact nofun
    | .ok (.blob _) =>
      refine ⟨.refl sound, fun chunks => ?_⟩
      cases chunks <;> exact nofun
    | .ok (.chunk bytes) =>
      refine Leaves.bind ((ChunkFile.leaves_append sound h bytes).mono ?_)
      rintro _ after ⟨file', rfl, -, replaced, holds⟩
      rw [followed_ok, Digest.Hasher.addChunk_reading]
      refine (ih replaced.sound holds).mono ?_
      rintro r last ⟨keeps, outcome⟩
      refine ⟨replaced.keeps.trans keeps, ?_⟩
      cases r with
      | error e =>
        rintro (_ | ⟨chunk, chunks⟩) same
        · cases same
        · exact outcome chunks (List.cons.inj same).2
      | ok hasher =>
        obtain ⟨chunks, rfl, rfl, seen⟩ := outcome
        refine ⟨bytes :: chunks, rfl, ?_, ?_⟩
        · simp
        · simpa using seen

/-- Filling a new file touches only it, until it is complete and has the announced digest; then it
is taken from its place and is the file of the blob. -/
theorem leaves_fill (store : ChunkStore) (algorithm : Digest.Algorithm) (blob : String)
    (messages : Arriving SaveMessage) (sound : volume.Sound)
    (h : file.Holds volume place []) :
    Leaves (fill store algorithm blob file messages) volume fun r after =>
      match r with
      | .ok () => ∃ (chunks : List Bytes) (between : Volume) (target : Path),
          messages = chunks.map (fun chunk => .ok (.chunk chunk))
          ∧ algorithm.digest chunks.flatten = blob
          ∧ volume.locate (store.pathFor blob) = .ok target
          ∧ volume.Replaced between place none
          ∧ between.Replaced after target (some (.file chunks.flatten))
      | .error _ => volume.Keeps after (· = place) := by
  unfold fill
  rw [← Digest.Hasher.reading_nil]
  refine Leaves.bind ((leaves_receive blob messages sound h).mono ?_)
  rintro (e | hasher) filled ⟨keeps, outcome⟩
  · exact keeps
  · obtain ⟨chunks, rfl, rfl, seen⟩ := outcome
    rw [followed_ok, Digest.Hasher.finish_reading, List.nil_append]
    split
    next same =>
      refine Leaves.bind ((store.leaves_persist keeps.sound (keeps.stay.locate h.located) seen
        blob).mono ?_)
      rintro (e | _) after outcome
      · obtain rfl : after = filled := outcome
        exact keeps
      · obtain ⟨-, target, between, located, gone, shown⟩ := outcome
        rw [List.nil_append] at shown
        exact ⟨chunks, between, target, rfl, same, keeps.stay_back.locate located,
          keeps.replaced_here gone, shown⟩
    next => exact keeps

/-- What is done with a temporary file may fail, but then the file is gone and nothing else was
touched. -/
theorem leaves_discarding {action : Storing Unit} {post : Volume → Prop}
    (located : volume.locate file.path = .ok place) (noFolder : volume.seen place ≠ some .folder)
    (h : Leaves action volume fun r after =>
      match r with
      | .ok () => post after
      | .error _ => volume.Keeps after (· = place)) :
    Leaves (discarding file action) volume fun r after =>
      match r with
      | .ok () => post after
      | .error _ => volume.Replaced after place none := by
  unfold Leaves discarding at *
  revert h
  generalize action volume = outcome
  intro h
  obtain ⟨e | _, after⟩ := outcome
  · have stillNoFolder : after.seen place ≠ some .folder := by
      rw [Ne, Volume.seen_eq_folder_iff, h.folders, ← Volume.seen_eq_folder_iff]
      exact noFolder
    exact h.replaced_here (ChunkFile.leaves_remove h.sound (h.stay.locate located) stillNoFolder)
  · exact h

/-- Nothing is seen to have changed, but a temporary name may be free that was taken.  In the second
case a file that stood under the temporary name before was overwritten and then removed. -/
def Cleared (store : ChunkStore) (volume after : Volume) : Prop :=
  volume.Keeps after (fun _ => False) ∨ ∃ serial place, BlobId.Valid (Volume.temporaryName serial)
    ∧ volume.locate (store.pathFor (Volume.temporaryName serial)) = .ok place
    ∧ volume.Replaced after place none

/-- What a save comes to on the volume.  If it succeeds, all chunks of the blob arrived and have the
digest that was announced, and the file of the blob has these bytes.  Otherwise nothing is seen to
have changed, but for a temporary name. -/
theorem leaves_saveIn (messages : Arriving SaveMessage) (sound : volume.Sound) :
    Leaves (saveIn store algorithm messages) volume fun r after =>
      match r with
      | .ok blob => ∃ (chunks : List Bytes) (between : Volume) (target : Path),
          messages = saveMessages blob (chunks.map .ok) ∧ BlobId.Valid blob
          ∧ algorithm.digest chunks.flatten = blob
          ∧ volume.locate (store.pathFor blob) = .ok target
          ∧ Cleared store volume between
          ∧ between.Replaced after target (some (.file chunks.flatten))
      | .error _ => Cleared store volume after := by
  have nothing : Cleared store volume volume := .inl (.refl sound)
  match messages with
  | [] => exact nothing
  | .error e :: _ => exact nothing
  | .ok (.chunk _) :: _ => exact nothing
  | .ok (.blob blob) :: rest =>
    refine Leaves.except_bind (fun _ _ => nothing) fun _ accepted => ?_
    have valid : BlobId.Valid blob := BlobId.validate_eq_ok_iff.1 accepted
    refine Leaves.bind ((store.leaves_createTemporary sound).mono ?_)
    rintro (e | file) created outcome
    · exact .inl outcome
    obtain ⟨serial, place, validName, path, new, holds⟩ := outcome
    have located := new.keeps.stay_back.locate holds.located
    rw [path] at located
    have cleared : ∀ {after : Volume}, created.Replaced after place none →
        Cleared store volume after :=
      fun gone => .inr ⟨serial, place, validName, located, new.trans gone⟩
    have noFolder : created.seen place ≠ some .folder := by
      rw [new.seen_self]
      exact nofun
    rw [followed_ok]
    refine Leaves.bind ((leaves_discarding holds.located noFolder
      (leaves_fill store algorithm blob rest new.sound holds)).mono ?_)
    rintro (e | _) after outcome
    · exact cleared outcome
    · obtain ⟨chunks, between, target, rfl, same, target', gone, shown⟩ := outcome
      exact ⟨chunks, between, target, (saveMessages_ok _ _).symm, valid, same,
        new.keeps.stay_back.locate target', cleared gone, shown⟩

/-! ## Removing -/

/-- Removing a blob changes nothing, or the file of the blob is gone.  Ids that are not valid and
files that are not there are refused before anything is changed. -/
theorem leaves_removeFrom (blob : String) (sound : volume.Sound) :
    Leaves (removeFrom store blob) volume fun _ after => after = volume
      ∨ ∃ place, BlobId.Valid blob ∧ volume.locate (store.pathFor blob) = .ok place
        ∧ volume.Replaced after place none := by
  refine Leaves.bind ((store.leaves_load blob).mono ?_)
  rintro (e | file) after ⟨rfl, loaded⟩
  · exact .inl rfl
  · obtain ⟨valid, path, place, content, holds⟩ := loaded
    have noFolder : after.seen place ≠ some .folder := by
      rw [holds.seen]
      exact nofun
    have located := holds.located
    rw [path] at located
    rw [followed_ok]
    refine Leaves.bind ((ChunkFile.leaves_remove sound holds.located noFolder).mono ?_)
    intro r last gone
    rcases r with e | _ | _ <;> exact .inr ⟨place, valid, located, gone⟩

/-! ## Files that stay -/

/-- The file of every lasting id has the bytes it had, but for ids that are excepted. -/
def Untouched (store : ChunkStore) (volume after : Volume) (except : String → Prop) : Prop :=
  ∀ id, ChunkStore.Lasting id → ¬ except id →
    after.bytes? (store.pathFor id) = volume.bytes? (store.pathFor id)

variable {after : Volume} {except : String → Prop} {blob : String}

theorem Untouched.trans {between : Volume} (h : Untouched store volume between except)
    (h' : Untouched store between after except) : Untouched store volume after except :=
  fun id lasting spared => (h' id lasting spared).trans (h id lasting spared)

/-- Whatever is done at the place of an id, the files of other ids stay. -/
theorem untouched_of_replaced {item : Option Volume.Item} (valid : BlobId.Valid blob)
    (located : volume.locate (store.pathFor blob) = .ok place)
    (replaced : volume.Replaced after place item) : Untouched store volume after (· = blob) := by
  intro id lasting differs
  apply replaced.keeps.bytes?
  intro place' located'
  exact ChunkStore.place_ne lasting.valid valid differs located' located

/-- No lasting id is a temporary name. -/
theorem untouched_of_cleared (cleared : Cleared store volume after) :
    Untouched store volume after except := by
  rcases cleared with keeps | ⟨serial, place, valid, located, gone⟩
  · exact fun _ _ _ => keeps.bytes? fun _ _ => id
  · intro id lasting _
    exact untouched_of_replaced valid located gone id lasting (lasting.named serial)

theorem Cleared.sound (cleared : Cleared store volume after) : after.Sound := by
  rcases cleared with keeps | ⟨_, _, -, -, gone⟩
  · exact keeps.sound
  · exact gone.sound

theorem Cleared.keeps (cleared : Cleared store volume after) :
    ∃ touched, volume.Keeps after touched := by
  rcases cleared with keeps | ⟨_, _, -, -, gone⟩
  · exact ⟨_, keeps⟩
  · exact ⟨_, gone.keeps⟩

/-! ## Reading -/

theorem leaves_readFrom (store : ChunkStore) (volume : Volume) (blob : String) :
    Leaves (readFrom store blob) volume fun _ after => after = volume := by
  refine Leaves.bind ((store.leaves_load blob).mono ?_)
  rintro (e | file) after ⟨rfl, -⟩ <;> rfl

theorem leaves_readFrom_of_bytes? {blob : String} {bytes : Bytes} (valid : BlobId.Valid blob)
    (there : volume.bytes? (store.pathFor blob) = some bytes) :
    Leaves (readFrom store blob) volume fun r _ =>
      ∃ stream, r = .ok stream ∧ stream.failure = none ∧ stream.bytes = bytes := by
  refine Leaves.bind ((store.leaves_load_of_bytes? valid there).mono ?_)
  rintro _ after ⟨rfl, file, place, rfl, holds⟩
  exact ⟨_, rfl, holds.stream⟩

/-! ## Calls -/

/-- The bytes a worker has as a blob. -/
def holds? (worker : Worker) (blob : String) : Option Bytes :=
  worker.volume.bytes? (worker.store.pathFor blob)

/-- What a call leaves as it was: what the worker is, and its blobs, but for those that are
excepted. -/
structure Kept (worker after : Worker) (except : String → Prop) : Prop where
  address : after.address = worker.address
  store : after.store = worker.store
  algorithm : after.algorithm = worker.algorithm
  sound : after.volume.Sound
  blobs : ∀ id, ChunkStore.Lasting id → ¬ except id → after.holds? id = worker.holds? id

variable {worker after : Worker} {except except' : String → Prop}

namespace Kept

theorem mono (h : worker.Kept after except) (more : ∀ id, except id → except' id) :
    worker.Kept after except' :=
  { h with blobs := fun id lasting spared => h.blobs id lasting fun is => spared (more id is) }

end Kept

/-- A call is struck, or it answers what its action does. -/
theorem attempt_cases {α : Type} (worker : Worker) (call : WorkerCall) (action : Storing α) :
    (∃ e outages, worker.attempt call action = (.error e, { worker with outages }))
      ∨ ∃ outages, worker.attempt call action = ((action worker.volume).1,
        { worker with outages, volume := (action worker.volume).2 }) := by
  unfold attempt
  rcases worker.outages.strike call with ⟨_ | e, outages⟩
  · exact .inr ⟨outages, rfl⟩
  · exact .inl ⟨e, outages, rfl⟩

/-- A call that is struck leaves the worker as it was, any other what its action leaves. -/
theorem attempt_of_leaves {α : Type} (call : WorkerCall) (action : Storing α)
    (post : Except Failure α → Worker → Prop) (sound : worker.volume.Sound)
    (struck : ∀ e after, worker.Kept after (fun _ => False) → post (.error e) after)
    (h : Leaves action worker.volume fun r volume =>
      ∀ outages, post r { worker with outages, volume }) :
    post (worker.attempt call action).1 (worker.attempt call action).2 := by
  rcases worker.attempt_cases call action with ⟨e, outages, answered⟩ | ⟨outages, answered⟩
  · rw [answered]
    exact struck e _ ⟨rfl, rfl, rfl, sound, fun _ _ _ => rfl⟩
  · rw [answered]
    exact h outages

/-- What a save may come to: it succeeds only with all bytes of the announced digest, which the
worker then has as that blob, and other blobs stay. -/
def SaveOutcome (worker : Worker) (messages : Arriving SaveMessage) :
    Except Failure String → Worker → Prop
  | .ok blob, after => ∃ chunks : List Bytes, messages = saveMessages blob (chunks.map .ok)
      ∧ worker.algorithm.digest chunks.flatten = blob
      ∧ after.holds? blob = some chunks.flatten ∧ worker.Kept after (· = blob)
  | .error _, after => worker.Kept after fun _ => False

theorem saveOutcome_save (messages : Arriving SaveMessage) (sound : worker.volume.Sound) :
    worker.SaveOutcome messages (worker.save messages).1 (worker.save messages).2 := by
  apply worker.attempt_of_leaves .save _ (worker.SaveOutcome messages) sound
  · exact fun e after kept => kept
  · refine (leaves_saveIn messages sound).mono ?_
    rintro (e | blob) volume outcome outages
    · exact ⟨rfl, rfl, rfl, outcome.sound, untouched_of_cleared outcome⟩
    · obtain ⟨chunks, between, target, arrived, valid, same, located, cleared, shown⟩ := outcome
      obtain ⟨touched, keeps⟩ := cleared.keeps
      have within := keeps.stay.locate located
      have there : volume.bytes? (worker.store.pathFor blob) = some chunks.flatten :=
        Volume.bytes?_eq_some_iff.2 ⟨target, shown.keeps.stay.locate within, shown.seen_self⟩
      exact ⟨chunks, arrived, same, there, rfl, rfl, rfl, shown.sound,
        (untouched_of_cleared cleared).trans (untouched_of_replaced valid within shown)⟩

/-- A call whose action leaves the blobs that are not excepted leaves them. -/
theorem kept_attempt {α : Type} (call : WorkerCall) {action : Storing α}
    (sound : worker.volume.Sound)
    (h : Leaves action worker.volume fun _ volume => volume.Sound
      ∧ Untouched worker.store worker.volume volume except) :
    worker.Kept (worker.attempt call action).2 except := by
  apply worker.attempt_of_leaves call action (fun _ after => worker.Kept after except) sound
  · exact fun e after kept => kept.mono fun _ => False.elim
  · refine h.mono ?_
    rintro r volume ⟨sound', untouched⟩ outages
    exact ⟨rfl, rfl, rfl, sound', untouched⟩

theorem kept_remove (blob : String) (sound : worker.volume.Sound) :
    worker.Kept (worker.remove blob).2 (· = blob) := by
  refine kept_attempt .remove sound ((leaves_removeFrom blob sound).mono ?_)
  rintro r volume (rfl | ⟨place, valid, located, gone⟩)
  · exact ⟨sound, fun _ _ _ => rfl⟩
  · exact ⟨gone.sound, untouched_of_replaced valid located gone⟩

theorem kept_read (blob : String) (sound : worker.volume.Sound) :
    worker.Kept (worker.read blob).2 except := by
  refine kept_attempt .read sound ((leaves_readFrom _ _ blob).mono ?_)
  rintro r volume rfl
  exact ⟨sound, fun _ _ _ => rfl⟩

theorem kept_health (sound : worker.volume.Sound) : worker.Kept worker.health.2 except :=
  kept_attempt .health sound ⟨sound, fun _ _ _ => rfl⟩

theorem kept_freeStorage (sound : worker.volume.Sound) :
    worker.Kept worker.freeStorage.2 except := by
  refine kept_attempt .freeStorage sound ?_
  refine Leaves.get_bind ?_
  cases worker.volume.find worker.store.root <;> exact ⟨sound, fun _ _ _ => rfl⟩

/-- Handing out a stream only wears off outages. -/
theorem serve_worker (worker : Worker) (failure : Option Failure) (chunks : List Bytes) :
    ∃ outages, (worker.serve failure chunks).2 = { worker with outages } := by
  induction chunks generalizing worker with
  | nil => exact ⟨worker.outages, rfl⟩
  | cons chunk rest ih =>
    unfold serve
    generalize worker.outages.strike .chunk = struck
    obtain ⟨_ | e, outages⟩ := struck
    · exact ih { worker with outages }
    · exact ⟨outages, rfl⟩

theorem kept_deliver (stream : ChunkStream) (sound : worker.volume.Sound) :
    worker.Kept (worker.deliver stream).2 except := by
  obtain ⟨outages, worn⟩ := worker.serve_worker stream.failure stream.chunks
  unfold deliver
  rw [worn]
  exact ⟨rfl, rfl, rfl, sound, fun _ _ _ => rfl⟩

/-! ## Any calls -/

/-- What may happen to a worker: it is called, or it meets with other outages. -/
inductive Step : Worker → Worker → Prop
  | save (worker : Worker) (messages : Arriving SaveMessage) : Step worker (worker.save messages).2
  | read (worker : Worker) (blob : String) : Step worker (worker.read blob).2
  | deliver (worker : Worker) (stream : ChunkStream) : Step worker (worker.deliver stream).2
  | remove (worker : Worker) (blob : String) : Step worker (worker.remove blob).2
  | health (worker : Worker) : Step worker worker.health.2
  | freeStorage (worker : Worker) : Step worker worker.freeStorage.2
  | meet (worker : Worker) (outages : Outages WorkerCall) (reachable : Bool) :
    Step worker { worker with outages, reachable }

/-- Whatever happens to a worker, it stays what it is.  What it may lose is given by the step: the
blob of a save or of a removal. -/
theorem Step.kept (step : Step worker after) (sound : worker.volume.Sound) :
    ∃ except, worker.Kept after except := by
  cases step with
  | save messages =>
    have outcome := saveOutcome_save messages sound
    revert outcome
    generalize worker.save messages = answered
    intro outcome
    obtain ⟨e | blob, last⟩ := answered
    · exact ⟨_, outcome⟩
    · obtain ⟨chunks, -, -, -, kept⟩ := outcome
      exact ⟨_, kept⟩
  | read blob => exact ⟨fun _ => False, kept_read blob sound⟩
  | deliver stream => exact ⟨fun _ => False, kept_deliver stream sound⟩
  | remove blob => exact ⟨_, kept_remove blob sound⟩
  | health => exact ⟨fun _ => False, kept_health sound⟩
  | freeStorage => exact ⟨fun _ => False, kept_freeStorage sound⟩
  | meet outages reachable =>
    exact ⟨fun _ => False, rfl, rfl, rfl, sound, fun _ _ _ => rfl⟩

/-! ## Starting -/

theorem sound_of_start {address root : String} {chunkSize masters : Nat} (sound : volume.Sound)
    (started : start volume address root chunkSize algorithm masters = .ok worker) :
    worker.volume.Sound := by
  have opened := ChunkStore.sound_open root chunkSize sound
  unfold start at started
  split at started
  next => cases started
  next store volume' same =>
    rw [same] at opened
    split at started
    · cases started
    · cases started
      exact opened

/-! ## Calls without outages -/

/-- A call of a worker without outages does what its action does. -/
theorem attempt_of_calm {α : Type} (calm : worker.outages = []) (call : WorkerCall)
    (action : Storing α) : worker.attempt call action = worker.onVolume action := by
  have same : { worker with outages := [] } = worker := by rw [← calm]
  unfold attempt
  rw [calm, Outages.strike_nil]
  simp only [same]

/-- A worker without outages hands out a stream as it is. -/
theorem deliver_of_calm (calm : worker.outages = []) (stream : ChunkStream) :
    worker.deliver stream = (stream, worker) := by
  obtain ⟨chunks, failure⟩ := stream
  unfold deliver
  induction chunks with
  | nil => rfl
  | cons chunk rest ih =>
    unfold serve
    have same : { worker with outages := [] } = worker := by rw [← calm]
    rw [calm, Outages.strike_nil]
    simp only [same]
    rw [ih]

/-- A worker without outages opens a blob it has, and the stream has all its bytes. -/
theorem read_of_holds? {blob : String} {bytes : Bytes} (calm : worker.outages = [])
    (valid : BlobId.Valid blob) (there : worker.holds? blob = some bytes) :
    ∃ stream, worker.read blob = (.ok stream, worker) ∧ stream.failure = none
      ∧ stream.bytes = bytes := by
  have unchanged := leaves_readFrom worker.store worker.volume blob
  obtain ⟨stream, opened, rest⟩ := leaves_readFrom_of_bytes? valid there
  refine ⟨stream, ?_, rest⟩
  unfold read
  rw [attempt_of_calm calm]
  unfold onVolume
  rw [show readFrom worker.store blob worker.volume = (.ok stream, worker.volume) from
    Prod.ext opened unchanged]

end Worker

end BlobCluster
