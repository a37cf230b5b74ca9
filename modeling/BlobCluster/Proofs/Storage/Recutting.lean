import BlobCluster.Proofs.Storage.Confinement

/-!
# What was appended comes back in chunks

A file is made, bytes are appended to it through its handle, and in between it may get another id.
The handle `Keeps` what was appended: it leads to a file with just these bytes and counts them, and
the file can be loaded under the id that it has by then.  So every reading of it gives these bytes
cut into chunks, wherever the borders between the appended pieces were, and readings of one handle
do not disturb each other, in whichever order they are advanced.
-/

namespace BlobCluster

/-! ## Editing a file -/

/-- What is done with a file through its handle. -/
inductive Edit where
  | append (bytes : Bytes)
  /-- The file gets an id. -/
  | persist (id : String)

/-- The bytes that are added to the file. -/
def Edit.bytes : Edit → Bytes
  | .append bytes => bytes
  | .persist _ => []

/-- A handle with the id of its file and the volume that the file is on. -/
structure Held where
  file : ChunkFile
  id : String
  volume : Volume

namespace ChunkStore

/-- The store has just made an empty file, under an id or as a temporary file. -/
inductive Makes (store : ChunkStore) (volume : Volume) : Held → Prop where
  | create {id : String} {file : ChunkFile} {after : Volume}
      (created : store.create id volume = (.ok file, after)) : Makes store volume ⟨file, id, after⟩
  | temporary {file : ChunkFile} {after : Volume}
      (created : store.createTemporary volume = (.ok file, after)) :
      Makes store volume ⟨file, (volume.drawName store.root).1, after⟩

/-- The outcome of one edit.  If it is refused, the handle is used as it is. -/
def edit (store : ChunkStore) (held : Held) : Edit → Held
  | .append bytes =>
    match held.file.append bytes held.volume with
    | (.ok file, volume) => { held with file, volume }
    | (.error _, volume) => { held with volume }
  | .persist id =>
    match store.persist held.file id held.volume with
    | (.ok file, volume) => ⟨file, id, volume⟩
    | (.error _, volume) => { held with volume }

end ChunkStore

/-! ## What the handle keeps -/

variable {store : ChunkStore} {volume : Volume} {held : Held} {content : Bytes}

/-- The handle leads to the file of its id, which has this content, and counts its bytes.  The place
is not fixed, since a renaming moves the file; the id always leads to it. -/
structure Held.Keeps (held : Held) (store : ChunkStore) (content : Bytes) : Prop where
  sound : held.volume.Sound
  valid : BlobId.Valid held.id
  path : held.file.path = store.pathFor held.id
  chunkSize : held.file.chunkSize = store.chunkSize
  holds : ∃ place, held.file.Holds held.volume place content

theorem ChunkFile.append_eq_ok {file more : ChunkFile} {after : Volume} {bytes : Bytes}
    (appended : file.append bytes volume = (.ok more, after)) :
    more = { file with size := file.size + bytes.length } := by
  unfold append at appended
  split at appended <;> cases appended
  rfl

theorem Held.Keeps.append (keeps : held.Keeps store content) (bytes : Bytes) :
    ∃ file after, held.file.append bytes held.volume = (.ok file, after)
      ∧ (⟨file, held.id, after⟩ : Held).Keeps store (content ++ bytes) := by
  obtain ⟨place, holds⟩ := keeps.holds
  obtain ⟨file, outcome, path, replaced, holds'⟩ :=
    ChunkFile.leaves_append keeps.sound holds bytes
  have appended : held.file.append bytes held.volume
      = (.ok file, (held.file.append bytes held.volume).2) := Prod.ext outcome rfl
  have same := ChunkFile.append_eq_ok appended
  refine ⟨file, _, appended, replaced.sound, keeps.valid, path.trans keeps.path, ?_, place, holds'⟩
  rw [same]
  exact keeps.chunkSize

theorem Held.Keeps.persist (keeps : held.Keeps store content) {id : String} {file : ChunkFile}
    {after : Volume} (persisted : store.persist held.file id held.volume = (.ok file, after)) :
    (⟨file, id, after⟩ : Held).Keeps store content := by
  obtain ⟨place, holds⟩ := keeps.holds
  obtain ⟨valid, renamed, rfl⟩ := ChunkStore.persist_eq_ok_iff.1 persisted
  obtain ⟨target, between, located, gone, replaced⟩ :=
    keeps.sound.rename renamed holds.located holds.seen
  have located' := replaced.keeps.stay.locate (gone.keeps.stay.locate located)
  exact ⟨replaced.sound, valid, rfl, keeps.chunkSize, target, located', replaced.seen_self,
    holds.size⟩

theorem ChunkStore.Makes.keeps (made : store.Makes volume held) (sound : volume.Sound) :
    held.Keeps store [] := by
  have fresh : ∀ {id : String} {volume after : Volume} {file : ChunkFile}, volume.Sound →
      store.create id volume = (.ok file, after) → (⟨file, id, after⟩ : Held).Keeps store [] := by
    intro id volume after file sound created
    obtain ⟨valid, written, rfl⟩ := create_eq_ok_iff.1 created
    obtain ⟨place, located, replaced⟩ := sound.write written
    exact ⟨replaced.sound, valid, rfl, rfl, place, replaced.keeps.stay.locate located,
      replaced.seen_self, rfl⟩
  cases made with
  | create created => exact fresh sound created
  | temporary created => exact fresh (sound.drawName store.root).sound created

theorem Held.Keeps.edit (keeps : held.Keeps store content) (change : Edit) :
    (store.edit held change).Keeps store (content ++ change.bytes) := by
  cases change with
  | append bytes =>
    obtain ⟨file, after, appended, keeps'⟩ := keeps.append bytes
    simp only [ChunkStore.edit, appended]
    exact keeps'
  | persist id =>
    simp only [Edit.bytes, List.append_nil, ChunkStore.edit]
    cases persisted : store.persist held.file id held.volume with
    | mk outcome after =>
      cases outcome with
      | ok file => exact keeps.persist persisted
      | error e =>
        obtain rfl := ChunkStore.persist_eq_error persisted
        exact keeps

theorem Held.Keeps.edits (keeps : held.Keeps store content) (edits : List Edit) :
    (edits.foldl store.edit held).Keeps store (content ++ edits.flatMap Edit.bytes) := by
  induction edits generalizing held content with
  | nil => simpa using keeps
  | cons change edits ih =>
    rw [List.foldl_cons, List.flatMap_cons, ← List.append_assoc]
    exact ih (keeps.edit change)

/-! ## Several readings -/

namespace Progress

/-- Several readings, of which one after the other takes one more look at the file, in the order of
a schedule. -/
def interleaved (schedule : List Nat) (volume : Volume) (readings : List Progress) :
    List Progress :=
  schedule.foldl (fun readings turn => readings.modify turn (·.advance volume)) readings

/-- Each reading goes on as if there were no other.  Looking does not change the volume and each
reader has its own offset, so only the number of its own turns matters to a reading. -/
theorem getElem?_interleaved (schedule : List Nat) (volume : Volume) (readings : List Progress)
    (i : Nat) :
    (interleaved schedule volume readings)[i]?
      = readings[i]?.map (·.through (List.replicate (schedule.count i) volume)) := by
  induction schedule generalizing readings with
  | nil => simp [interleaved]
  | cons turn schedule ih =>
    have rest : interleaved (turn :: schedule) volume readings
        = interleaved schedule volume (readings.modify turn (·.advance volume)) := rfl
    rw [rest, ih, List.getElem?_modify]
    by_cases mine : turn = i
    · subst mine
      rw [List.count_cons_self, List.replicate_succ]
      cases readings[turn]? <;> simp
    · rw [List.count_cons_of_ne mine]
      simp [mine]

end Progress

namespace ChunkReader.Reads

variable {reader : ChunkReader} {number : Nat} {bytes : Bytes}

/-- Any number of looks gives as many of the chunks that are to come, and the offset counts their
bytes. -/
theorem through (h : reader.Reads volume number bytes) (items : List (Except Failure Bytes))
    (looks : Nat) :
    let reading := (⟨reader, items⟩ : Progress).through (List.replicate looks volume)
    let chunks := (Bytes.cut reader.chunkSize (bytes.drop reader.offset)).take looks
    reading.items = items ++ chunks.map .ok
      ∧ reading.reader.offset = reader.offset + chunks.flatten.length := by
  induction looks generalizing reader items with
  | zero => simp
  | succ looks ih =>
    rw [List.replicate_succ, Progress.through_cons]
    by_cases inside : reader.offset < reader.size
    · have given := h.next inside
      rw [Progress.advance_of_next given, h.cut_eq inside, List.take_succ_cons]
      obtain ⟨items', offset⟩ := ih
        (h.past ((bytes.drop reader.offset).take reader.chunkSize))
        (items ++ [.ok ((bytes.drop reader.offset).take reader.chunkSize)])
      refine ⟨items'.trans ?_, offset.trans ?_⟩
      · simp
      · simp [Nat.add_assoc]
    · have atEnd : reader.size ≤ reader.offset := by omega
      rw [Progress.advance_of_next (next_of_end atEnd), h.cut_of_end atEnd]
      obtain ⟨items', offset⟩ := ih (h.closed atEnd) (items ++ [])
      have none_ := h.cut_of_end atEnd
      refine ⟨items'.trans ?_, offset.trans ?_⟩
      · show _ ++ ((Bytes.cut reader.chunkSize (bytes.drop reader.offset)).take looks).map _ = _
        rw [none_]
        simp
      · show reader.offset
          + ((Bytes.cut reader.chunkSize (bytes.drop reader.offset)).take looks).flatten.length = _
        rw [none_]
        simp

end ChunkReader.Reads

/-! ## Cut again -/

/-- A handle that keeps some bytes gives them cut into chunks, all at once or a few of them. -/
theorem Held.Keeps.chunks (keeps : held.Keeps store content) (looks : Nat) :
    let reading := held.file.reading.through (List.replicate looks held.volume)
    let chunks := Bytes.cut store.chunkSize content
    (held.file.chunks.drain held.volume).1 = chunks.map .ok
      ∧ reading.items = (chunks.take looks).map .ok
      ∧ reading.reader.offset = (chunks.take looks).flatten.length := by
  obtain ⟨place, holds⟩ := keeps.holds
  obtain ⟨number, reads⟩ := holds.reads
  have whole : Bytes.cut held.file.chunks.chunkSize (content.drop held.file.chunks.offset)
      = Bytes.cut store.chunkSize content := by
    rw [← keeps.chunkSize]
    rfl
  obtain ⟨items, offset⟩ := reads.through [] looks
  rw [whole] at items offset
  refine ⟨?_, items, offset.trans (Nat.zero_add _)⟩
  rw [reads.drain, whole]

/-- The id of a handle that keeps some bytes can be loaded, and what is loaded keeps them too. -/
theorem Held.Keeps.load (keeps : held.Keeps store content) :
    ∃ loaded, store.load held.id held.volume = (.ok loaded, held.volume)
      ∧ (⟨loaded, held.id, held.volume⟩ : Held).Keeps store content := by
  obtain ⟨place, holds⟩ := keeps.holds
  have located := holds.located
  rw [keeps.path] at located
  obtain ⟨number, node, rfl⟩ := Volume.seen_eq_file_iff.1 holds.seen
  have found := Volume.find_eq_ok_iff.2 ⟨place, located, node⟩
  have loaded : store.load held.id held.volume
      = (.ok (store.handle held.id (held.volume.content number).size), held.volume) := by
    unfold ChunkStore.load
    simp only [BlobId.validate_eq_ok_iff.2 keeps.valid, found]
  exact ⟨_, loaded, keeps.sound, keeps.valid, rfl, rfl, place, located, holds.seen,
    (Array.length_toList ..).symm⟩

namespace ChunkStore

/-- After any edits of a file that was just made, its handle counts the bytes that were appended and
can still be appended to, and a reading gives these bytes, cut into full chunks and one that has the
rest.  Loading the id that the file has by then gives the same.  Several readings through the
handle, advanced in any order, each give the chunks from the first one on, and the offset of each
counts the bytes that it has given.

The invariant of an edit is that the handle leads to the file of the id, counts its bytes, and that
these are the ones appended so far.  Readings share nothing but the file, so in an interleaving each
of them takes as many looks as the schedule has turns for it (`getElem?_interleaved`). -/
theorem recut_after_edits (sound : volume.Sound) (made : store.Makes volume held)
    (edits : List Edit) :
    let held := edits.foldl store.edit held
    let bytes := edits.flatMap Edit.bytes
    let chunks := Bytes.cut store.chunkSize bytes
    held.file.size = bytes.length
      ∧ (∀ more, ∃ file after, held.file.append more held.volume = (.ok file, after))
      ∧ (held.file.chunks.drain held.volume).1 = chunks.map .ok
      ∧ chunks.flatten = bytes
      ∧ chunks.length = held.file.size ⌈/⌉ store.chunkSize
      ∧ (∀ chunk ∈ chunks.dropLast, chunk.length = store.chunkSize)
      ∧ (∀ chunk ∈ chunks, 1 ≤ chunk.length ∧ chunk.length ≤ store.chunkSize)
      ∧ (∃ loaded, store.load held.id held.volume = (.ok loaded, held.volume)
          ∧ loaded.size = held.file.size
          ∧ (loaded.chunks.drain held.volume).1 = chunks.map .ok)
      ∧ ∀ count schedule i, i < count → ∃ reading,
          (Progress.interleaved schedule held.volume (List.replicate count held.file.reading))[i]?
              = some reading
            ∧ reading.items = (chunks.take (schedule.count i)).map .ok
            ∧ reading.reader.offset = (chunks.take (schedule.count i)).flatten.length := by
  intro held bytes chunks
  have keeps : held.Keeps store bytes := (made.keeps sound).edits edits
  have size : held.file.size = bytes.length := by
    obtain ⟨place, holds⟩ := keeps.holds
    exact holds.size
  refine ⟨size, fun more => ?_, (keeps.chunks 0).1, Bytes.flatten_cut store.chunkSize_pos bytes, ?_,
    fun chunk mem => Bytes.length_of_mem_dropLast_cut mem, fun chunk => Bytes.length_of_mem_cut, ?_,
    fun count schedule i inside => ?_⟩
  · obtain ⟨file, after, appended, -⟩ := keeps.append more
    exact ⟨file, after, appended⟩
  · rw [size]
    exact Bytes.length_cut store.chunkSize_pos bytes
  · obtain ⟨loaded, outcome, keeps'⟩ := keeps.load
    obtain ⟨place, holds⟩ := keeps'.holds
    exact ⟨loaded, outcome, holds.size.trans size.symm, (keeps'.chunks 0).1⟩
  · refine ⟨_, ?_, (keeps.chunks (schedule.count i)).2⟩
    rw [Progress.getElem?_interleaved, List.getElem?_replicate, if_pos inside]
    rfl

/-- A file in the folder that gets another id between three appends, one of them of no bytes. -/
theorem recut_on_shelf : ∃ held, onShelf.Makes Volume.shelf held
    ∧ let edits : List Edit := [.append [1, 2, 3], .persist "c", .append [], .append [4, 5]]
      let held := edits.foldl onShelf.edit held
      held.id = "c" ∧ held.file.size = 5
        ∧ (held.file.chunks.drain held.volume).1 = [[1, 2], [3, 4], [5]].map .ok := by
  have created : ∃ after,
      onShelf.create "b" Volume.shelf = (.ok (onShelf.handle "b" 0), after) := by
    have located : Volume.shelf.locate (onShelf.pathFor "b") = .ok ["s", "b"] := by decide +kernel
    refine exists_create (by decide +kernel) located ?_
    rw [Ne, Volume.seen_eq_folder_iff]
    decide +kernel
  obtain ⟨after, created⟩ := created
  obtain rfl : (onShelf.create "b" Volume.shelf).2 = after := by rw [created]
  have made : onShelf.Makes Volume.shelf _ := .create created
  have recut := recut_after_edits Volume.sound_shelf made
    [.append [1, 2, 3], .persist "c", .append [], .append [4, 5]]
  have chunks : Bytes.cut onShelf.chunkSize [1, 2, 3, 4, 5] = [[1, 2], [3, 4], [5]] := by
    simp [Bytes.cut, onShelf]
  refine ⟨_, made, by decide +kernel, recut.1, ?_⟩
  exact recut.2.2.1.trans (congrArg _ chunks)

end ChunkStore

end BlobCluster
