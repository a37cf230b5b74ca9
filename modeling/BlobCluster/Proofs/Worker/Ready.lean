import BlobCluster.Proofs.Storage.Ready
import BlobCluster.Proofs.Worker.Tidy

/-!
# Workers that cannot refuse a save

A worker whose store is ready takes every save that is complete and has the digest it announces: the
bytes are written, they have the digest because they are the bytes that were announced, and nothing
is in the way of the name.  Whatever a worker is asked, its store stays ready.
-/

namespace BlobCluster

/-- A folder that is there and empty is ready, if it leaves room for names. -/
theorem ChunkStore.ready_of_empty {store : ChunkStore} {volume : Volume} (sound : volume.Sound)
    (empty : volume.list? store.root = some [])
    (room : store.root.textSize + longestId + 1 ≤ Volume.longestPath) :
    ∃ top, store.Ready volume top := by
  have clean : ∃ top, store.Tidy .xxh64 volume top := Tidy.of_empty sound empty
  obtain ⟨top, tidy⟩ := clean
  refine ⟨top, tidy.sound, tidy.located, tidy.folder, fun name folder => ?_, room⟩
  obtain ⟨bytes, isFile, -⟩ := tidy.named name .folder (Volume.seen_eq_folder_iff.2 folder)
  cases isFile

namespace Worker

variable {volume : Volume} {store : ChunkStore} {file : ChunkFile} {place top : Path}
  {content : Bytes} {algorithm : Digest.Algorithm} {worker after : Worker}

/-! ## Saving -/

/-- Chunks are taken into the file and the digest before anything else is looked at. -/
theorem leaves_receive_append {post : Except Failure Digest.Hasher → Volume → Prop} (blob : String)
    (chunks : List Bytes) (rest : Arriving SaveMessage) (sound : volume.Sound)
    (h : file.Holds volume place content)
    (later : ∀ file' between, volume.Keeps between (· = place) →
      file'.Holds between place (content ++ chunks.flatten) →
      Leaves (receive blob file' (.reading algorithm (content ++ chunks.flatten)) rest) between
        post) :
    Leaves (receive blob file (.reading algorithm content)
      ((chunks.map fun chunk => .ok (.chunk chunk)) ++ rest)) volume post := by
  induction chunks generalizing volume file content with
  | nil =>
    simp only [List.flatten_nil, List.append_nil] at later
    exact later file volume (.refl sound) h
  | cons bytes chunks ih =>
    refine Leaves.bind ((ChunkFile.leaves_append sound h bytes).mono ?_)
    rintro _ after ⟨file', rfl, -, replaced, holds⟩
    rw [followed_ok, Digest.Hasher.addChunk_reading]
    refine ih replaced.sound holds fun last between keeps holds' => ?_
    rw [List.append_assoc] at holds' ⊢
    exact later last between (replaced.keeps.trans keeps) holds'

theorem leaves_receive_chunks (blob : String) (chunks : List Bytes) (sound : volume.Sound)
    (h : file.Holds volume place content) :
    Leaves (receive blob file (.reading algorithm content)
        (chunks.map fun chunk => .ok (.chunk chunk))) volume fun r after =>
      volume.Keeps after (· = place)
        ∧ r = .ok (.reading algorithm (content ++ chunks.flatten))
        ∧ after.seen place = some (.file (content ++ chunks.flatten)) := by
  rw [← List.append_nil (chunks.map _)]
  exact leaves_receive_append blob chunks [] sound h
    fun _ _ keeps holds => ⟨keeps, rfl, holds.seen⟩

theorem discarding_fst (file : ChunkFile) (action : Storing Unit) (volume : Volume) :
    (discarding file action volume).1 = (action volume).1 := by
  unfold discarding
  obtain ⟨e | _, after⟩ := action volume <;> rfl

/-- A save under a valid id ends like the filling of its temporary file, which is gone then.  The
filling is a premise because complete and refused saves differ in it alone. -/
theorem leaves_saveIn_named (ready : store.Ready volume top) {blob : String}
    (valid : BlobId.Valid blob) {rest : Arriving SaveMessage} {outcome : Except Failure Unit}
    (filled : ∀ file created name, store.Ready created top →
      file.Holds created (top ++ [name]) [] →
      Leaves (fill store algorithm blob file rest) created fun r _ => r = outcome) :
    Leaves (saveIn store algorithm (.ok (.blob blob) :: rest)) volume fun r after =>
      r = outcome.map (fun _ => blob) ∧ ∃ between, volume.Replaced between
          (top ++ [Volume.temporaryName (volume.freeSerial store.root)]) none ∧
        match outcome with
        | .ok () => ∃ (chunks : List Bytes) (target : Path),
            rest = chunks.map (fun chunk => .ok (.chunk chunk))
            ∧ volume.locate (store.pathFor blob) = .ok target
            ∧ between.Replaced after target (some (.file chunks.flatten))
        | .error _ => after = between := by
  refine Leaves.validate_bind valid ?_
  refine Leaves.bind (ready.leaves_createTemporary.mono ?_)
  rintro _ created ⟨file, rfl, new, holds⟩
  have noFolder : created.seen (top ++ [Volume.temporaryName (volume.freeSerial store.root)])
      ≠ some .folder := by
    rw [new.seen_self]
    exact nofun
  have discarded := leaves_discarding holds.located noFolder
    (leaves_fill store algorithm blob rest new.sound holds)
  have ended := filled file created _ (ready.keeps new.keeps) holds
  rw [followed_ok]
  refine Leaves.bind ?_
  unfold Leaves at ended discarded ⊢
  rw [← discarding_fst file] at ended
  rw [ended] at discarded ⊢
  cases outcome with
  | error e => exact ⟨rfl, _, new.trans discarded, rfl⟩
  | ok =>
    obtain ⟨chunks, between, target, arrived, -, located, gone, shown⟩ := discarded
    exact ⟨rfl, between, new.trans gone, chunks, target, arrived,
      new.keeps.stay_back.locate located, shown⟩

theorem leaves_fill_of_ready (ready : store.Ready volume top) {name : String}
    (holds : file.Holds volume (top ++ [name]) []) (algorithm : Digest.Algorithm)
    (chunks : List Bytes) :
    Leaves (fill store algorithm (algorithm.digest chunks.flatten) file
      (chunks.map fun chunk => .ok (.chunk chunk))) volume fun r _ => r = .ok () := by
  unfold fill
  rw [← Digest.Hasher.reading_nil]
  refine Leaves.bind ((leaves_receive_chunks _ chunks ready.sound holds).mono ?_)
  rintro _ received ⟨keeps, rfl, seen⟩
  rw [followed_ok, Digest.Hasher.finish_reading, List.nil_append, if_pos rfl]
  refine Leaves.bind (((ready.keeps keeps).leaves_persist (keeps.stay.locate holds.located) seen
    (ChunkStore.ordinary_digest algorithm chunks.flatten)).mono ?_)
  rintro _ last ⟨named, rfl⟩
  rfl

theorem leaves_saveIn_of_ready (ready : store.Ready volume top) (algorithm : Digest.Algorithm)
    (chunks : List Bytes) :
    Leaves (saveIn store algorithm
        (saveMessages (algorithm.digest chunks.flatten) (chunks.map .ok))) volume fun r _ =>
      r = .ok (algorithm.digest chunks.flatten) := by
  have ordinary := ChunkStore.ordinary_digest algorithm chunks.flatten
  rw [saveMessages_ok]
  exact (leaves_saveIn_named ready ordinary.valid fun file created name ready holds =>
    leaves_fill_of_ready ready holds algorithm chunks).mono fun r _ ended => ended.1

/-! ## Calls -/

def Ready (worker : Worker) : Prop := ∃ top, worker.store.Ready worker.volume top

theorem Ready.sound (ready : worker.Ready) : worker.volume.Sound := by
  obtain ⟨top, ready⟩ := ready
  exact ready.sound

/-- A worker that is ready and has no outages takes every save that is complete; all it changes is
on its volume. -/
theorem save_of_ready (ready : worker.Ready) (calm : worker.outages = []) (chunks : List Bytes) :
    ∃ volume, worker.save (saveMessages (worker.algorithm.digest chunks.flatten) (chunks.map .ok))
      = (.ok (worker.algorithm.digest chunks.flatten), { worker with volume }) := by
  obtain ⟨top, ready⟩ := ready
  have saved := leaves_saveIn_of_ready ready worker.algorithm chunks
  unfold save
  rw [attempt_of_calm calm]
  exact ⟨_, Prod.ext saved rfl⟩

/-- A call leaves a store ready if its action does nothing but change files.  An outage that strikes
before the action leaves the volume as it was. -/
theorem ready_attempt {α : Type} (call : WorkerCall) {action : Storing α} (ready : worker.Ready)
    (h : Leaves action worker.volume fun _ volume =>
      ∃ touched, worker.volume.Keeps volume touched) : (worker.attempt call action).2.Ready := by
  obtain ⟨top, before⟩ := ready
  rcases worker.attempt_cases call action with ⟨e, outages, answered⟩ | ⟨outages, answered⟩
  · rw [answered]
    exact ⟨top, before⟩
  · obtain ⟨touched, keeps⟩ := h
    rw [answered]
    exact ⟨top, before.keeps keeps⟩

theorem Step.ready (step : Step worker after) (ready : worker.Ready) : after.Ready := by
  have sound := ready.sound
  have nothing : ∃ touched, worker.volume.Keeps worker.volume touched :=
    ⟨fun _ => False, .refl sound⟩
  cases step with
  | save messages =>
    refine ready_attempt .save ready ((leaves_saveIn messages sound).mono ?_)
    rintro (e | blob) volume outcome
    · exact outcome.keeps
    · obtain ⟨chunks, between, target, -, -, -, -, cleared, shown⟩ := outcome
      obtain ⟨touched, keeps⟩ := cleared.keeps
      exact ⟨fun place => touched place ∨ place = target,
        (keeps.mono fun _ => .inl).trans (shown.keeps.mono fun _ => .inr)⟩
  | remove blob =>
    refine ready_attempt .remove ready ((leaves_removeFrom blob sound).mono ?_)
    rintro r volume (rfl | ⟨place, -, -, gone⟩)
    · exact nothing
    · exact ⟨_, gone.keeps⟩
  | read blob =>
    refine ready_attempt .read ready ((leaves_readFrom _ _ blob).mono ?_)
    rintro r volume rfl
    exact nothing
  | deliver stream =>
    obtain ⟨outages, worn⟩ := worker.serve_worker stream.failure stream.chunks
    unfold Worker.deliver
    rw [worn]
    exact ready
  | health => exact ready_attempt .health ready nothing
  | freeStorage =>
    refine ready_attempt .freeStorage ready (Leaves.get_bind ?_)
    cases worker.volume.find worker.store.root <;> exact nothing
  | meet outages reachable => exact ready

/-- However often a worker is called, its store stays ready and it stays what it is. -/
theorem Served.ready (served : Served worker after) (ready : worker.Ready) :
    after.Ready ∧ after.address = worker.address ∧ after.algorithm = worker.algorithm := by
  induction served with
  | refl => exact ⟨ready, rfl, rfl⟩
  | tail _ step ih =>
    obtain ⟨before, address, algorithm⟩ := ih
    obtain ⟨except, kept⟩ := step.kept before.sound
    exact ⟨step.ready before, kept.address.trans address, kept.algorithm.trans algorithm⟩

end Worker

end BlobCluster
