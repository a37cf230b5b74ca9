import BlobCluster.Proofs.Storage.Confinement
import BlobCluster.Proofs.Storage.Growing
import BlobCluster.Proofs.Storage.Temporary

/-!
# Reading on while names change

A reader that has given a chunk has its file open, and goes on with the content of that file
whatever name the file has by then, if any.  An `Incident` is anything that can be done on a volume.
One that `Spares` a content may take names away or give them, and the file may grow, but the file is
neither made anew nor cut short.  As long as there are only such incidents a reader goes on
undisturbed.
-/

namespace BlobCluster

/-! ## What can be done on a volume -/

/-- Something that is done on a volume: by a store, through a handle, or from outside. -/
inductive Incident where
  | openStore (root : String) (chunkSize : Nat)
  | create (store : ChunkStore) (id : String)
  | createTemporary (store : ChunkStore)
  | load (store : ChunkStore) (id : String)
  | persist (store : ChunkStore) (file : ChunkFile) (id : String)
  | append (file : ChunkFile) (bytes : Bytes)
  | removeFile (file : ChunkFile)
  | write (path : Path) (bytes : Bytes)
  | resize (path : Path) (length : Nat)
  | makeFolder (path : Path)
  | rename (source target : Path)
  | delete (path : Path)
  | removeFolder (path : Path)
  | removeTree (path : Path)

namespace Incident

/-- The volume after an incident, also if it is refused. -/
def outcome (volume : Volume) : Incident → Volume
  | openStore root chunkSize => (ChunkStore.open root chunkSize volume).2
  | create store id => (store.create id volume).2
  | createTemporary store => (store.createTemporary volume).2
  | load store id => (store.load id volume).2
  | persist store file id => (store.persist file id volume).2
  | append file bytes => (file.append bytes volume).2
  | removeFile file => (file.remove volume).2
  | write path bytes => (volume.write path bytes).toOption.getD volume
  | resize path length => (volume.resize path length).toOption.getD volume
  | makeFolder path => (volume.makeFolder path).toOption.getD volume
  | rename source target => (volume.rename source target).toOption.getD volume
  | delete path => (volume.remove path).toOption.getD volume
  | removeFolder path => (volume.removeFolder path).toOption.getD volume
  | removeTree path => (volume.removeTree path).toOption.getD volume

/-- The content with a number is not made anew, written over or cut short.  Only names count: what
is made under a name that does not lead to the content leaves it alone, and this is all that is
asked of a temporary file, whose name is drawn. -/
def Spares (volume : Volume) (number : Nat) : Incident → Prop
  | create store id => volume.find (store.pathFor id) ≠ .ok (.file number)
  | createTemporary store =>
    volume.find (store.pathFor (Volume.temporaryName (volume.freeSerial store.root)))
      ≠ .ok (.file number)
  | write path _ => volume.find path ≠ .ok (.file number)
  | resize path length =>
    volume.find path = .ok (.file number) → (volume.content number).size ≤ length
  | _ => True

end Incident

/-! ## Incidents that spare a content -/

namespace ChunkStore

variable {store : ChunkStore} {volume : Volume} {number : Nat} {id : String}

theorem grows_create (elsewhere : volume.find (store.pathFor id) ≠ .ok (.file number)) :
    volume.Grows (store.create id volume).2 number := by
  cases created : store.create id volume with
  | mk outcome after =>
    cases outcome with
    | error e =>
      rw [create_eq_error created]
      exact .refl volume number
    | ok file => exact Volume.grows_of_write elsewhere (create_eq_ok_iff.1 created).2.1

theorem grows_createTemporary
    (elsewhere : volume.find
        (store.pathFor (Volume.temporaryName (volume.freeSerial store.root)))
      ≠ .ok (.file number)) :
    volume.Grows (store.createTemporary volume).2 number := by
  have created : store.createTemporary volume
      = store.create (Volume.temporaryName (volume.freeSerial store.root))
        (volume.drawName store.root).2 := rfl
  have stay : (volume.drawName store.root).2.FoldersStay volume := by
    intro place folder
    cases place <;> exact folder
  have drawn : volume.Grows (volume.drawName store.root).2 number := .of_contents rfl
  rw [created]
  refine drawn.trans (grows_create fun found => elsewhere ?_)
  obtain ⟨place, located, there⟩ := Volume.find_eq_ok_iff.1 found
  refine Volume.find_eq_ok_iff.2 ⟨place, stay.locate located, ?_⟩
  cases place <;> exact there

theorem grows_persist (store : ChunkStore) (file : ChunkFile) (id : String) :
    volume.Grows (store.persist file id volume).2 number := by
  cases persisted : store.persist file id volume with
  | mk outcome after =>
    cases outcome with
    | error e =>
      rw [persist_eq_error persisted]
      exact .refl volume number
    | ok named => exact .of_contents (Volume.contents_rename (persist_eq_ok_iff.1 persisted).2.1)

theorem contents_open (root : String) (chunkSize : Nat) :
    (ChunkStore.open root chunkSize volume).2.contents = volume.contents := by
  have made : (makeRoot root volume).2.contents = volume.contents := by
    unfold makeRoot
    split
    · rfl
    · split
      · rfl
      · exact Volume.contents_makeFolders _
  unfold ChunkStore.open
  split
  · revert made
    generalize makeRoot root volume = outcome
    intro made
    obtain ⟨e | _, after⟩ := outcome <;> exact made
  · rfl

end ChunkStore

theorem ChunkFile.grows_append {volume : Volume} {number : Nat} (file : ChunkFile) (bytes : Bytes) :
    volume.Grows (file.append bytes volume).2 number := by
  unfold append
  split
  · exact .refl volume number
  · exact Volume.grows_of_append ‹_›

theorem ChunkFile.contents_remove {volume : Volume} (file : ChunkFile) :
    (file.remove volume).2.contents = volume.contents := by
  unfold remove
  split
  · rfl
  · rfl
  · exact Volume.contents_remove ‹_›

/-- The name of a temporary file is not taken while there are fewer entries than names to draw, so
it leads to no content. -/
theorem Incident.spares_createTemporary {volume : Volume}
    (few : volume.entries.rows.length < 2 ^ 48) (store : ChunkStore) (number : Nat) :
    (createTemporary store).Spares volume number := by
  intro taken
  have free := Volume.free_freeSerial few store.root
  unfold ChunkStore.pathFor at taken
  rw [taken] at free
  cases free

theorem Incident.Spares.grows {incident : Incident} {volume : Volume} {number : Nat}
    (spares : incident.Spares volume number) : volume.Grows (incident.outcome volume) number := by
  cases incident with
  | openStore root chunkSize => exact .of_contents (ChunkStore.contents_open root chunkSize)
  | create store id => exact ChunkStore.grows_create spares
  | createTemporary store => exact ChunkStore.grows_createTemporary spares
  | load store id =>
    rw [outcome, ChunkStore.load_snd]
    exact .refl volume number
  | persist store file id => exact store.grows_persist file id
  | append file bytes => exact file.grows_append bytes
  | removeFile file => exact .of_contents file.contents_remove
  | write path bytes => exact .of_outcome fun _ => Volume.grows_of_write spares
  | resize path length => exact .of_outcome fun _ => Volume.grows_of_resize spares
  | makeFolder path =>
    exact .of_outcome fun _ made => .of_contents (Volume.contents_makeFolder made)
  | rename source target =>
    exact .of_outcome fun _ renamed => .of_contents (Volume.contents_rename renamed)
  | delete path => exact .of_outcome fun _ gone => .of_contents (Volume.contents_remove gone)
  | removeFolder path =>
    exact .of_outcome fun _ gone => .of_contents (Volume.contents_removeFolder gone)
  | removeTree path =>
    exact .of_outcome fun _ gone => .of_contents (Volume.contents_removeTree gone)

/-! ## Incidents and looks by turns -/

/-- An incident, or a look of the reader at its file. -/
inductive Turn where
  | incident (what : Incident)
  | look

namespace Turn

def take : Progress × Volume → Turn → Progress × Volume
  | (reading, volume), .incident what => (reading, what.outcome volume)
  | (reading, volume), .look => (reading.advance volume, volume)

/-- Every incident spares the content with a number on the volume as it is by then.  A file may be
made or renamed in between, so what spares the content on one volume may not do so on a later
one. -/
def Spared (number : Nat) : Volume → List Turn → Prop
  | _, [] => True
  | volume, .incident what :: turns =>
    what.Spares volume number ∧ Spared number (what.outcome volume) turns
  | volume, .look :: turns => Spared number volume turns

end Turn

/-- The reader has a file open that begins with these bytes, which are as many as it counts. -/
structure ChunkReader.ReadsOn (reader : ChunkReader) (volume : Volume) (number : Nat)
    (bytes : Bytes) : Prop extends reader.Reads volume number bytes where
  opened : reader.Live → reader.opened = some number

/-- What a reading has given, and what is to come if it goes on in these bytes. -/
def Progress.total (reading : Progress) (bytes : Bytes) : List (Except Failure Bytes) :=
  reading.items
    ++ (Bytes.cut reading.reader.chunkSize (bytes.drop reading.reader.offset)).map .ok

namespace ChunkReader.ReadsOn

variable {reading : Progress} {volume after : Volume} {number : Nat} {bytes : Bytes}

/-- A content that grows can be gone on with, whatever the file is called. -/
theorem grows {reader : ChunkReader} (h : reader.ReadsOn volume number bytes)
    (grows : volume.Grows after number) : reader.ReadsOn after number bytes where
  opens live := .inl (h.opened live)
  begins := h.begins.trans grows
  size := h.size
  sound := h.sound
  opened := h.opened

/-- A look gives the next chunk of what is to come, and the file stays open. -/
theorem advance (h : reading.reader.ReadsOn volume number bytes) :
    (reading.advance volume).reader.ReadsOn volume number bytes
      ∧ (reading.advance volume).total bytes = reading.total bytes := by
  by_cases inside : reading.reader.offset < reading.reader.size
  · rw [Progress.advance_of_next (h.next inside)]
    refine ⟨⟨h.past _, fun _ => rfl⟩, ?_⟩
    unfold Progress.total
    rw [h.cut_eq inside]
    simp
  · have atEnd : reading.reader.size ≤ reading.reader.offset := by omega
    rw [Progress.advance_of_next (Reads.next_of_end atEnd)]
    refine ⟨⟨h.closed atEnd, fun live => absurd live.2 inside⟩, ?_⟩
    unfold Progress.total
    rw [Option.toList_none, List.append_nil]
    rfl

/-- Turns that spare the content change neither what was given nor what is to come.  The induction
is on the turns: an incident leaves the open content alone, and a look moves bytes from what is to
come to what was given. -/
theorem turns (h : reading.reader.ReadsOn volume number bytes) {turns : List Turn}
    (spared : Turn.Spared number volume turns) :
    let last := turns.foldl Turn.take (reading, volume)
    last.1.reader.ReadsOn last.2 number bytes ∧ last.1.total bytes = reading.total bytes := by
  induction turns generalizing reading volume with
  | nil => exact ⟨h, rfl⟩
  | cons turn turns ih =>
    cases turn with
    | incident what => exact ih (h.grows spared.1.grows) spared.2
    | look =>
      obtain ⟨h', same⟩ := h.advance
      obtain ⟨h'', same'⟩ := ih h' spared
      exact ⟨h'', same'.trans same⟩

end ChunkReader.ReadsOn

/-- A reader that has given a chunk of a file with as many bytes as it counts gives the rest of
these bytes and does not fail, as long as the content of the file is spared, whatever else is done
in between.

With the first chunk the reader has found its file and goes by the number of the content from then
on, so names do not matter any more.  `whole` is asked for because the size is that of the handle:
another handle may have made the file anew in the meantime, and then it can end before the size is
reached.  What spares the content only makes it longer (`Incident.Spares.grows`). -/
theorem Progress.undisturbed_if_spared {before reader : ChunkReader} {volume : Volume}
    {chunk : Bytes} {number : Nat} (given : before.next volume = (some (.ok chunk), reader))
    (opened : reader.opened = some number) (whole : reader.size ≤ (volume.content number).size)
    {turns : List Turn} (spared : Turn.Spared number volume turns) :
    let bytes := (volume.content number).toList.take reader.size
    let last := turns.foldl Turn.take (⟨reader, []⟩, volume)
    last.1.items ++ (last.1.reader.drain last.2).1
      = (Bytes.cut reader.chunkSize (bytes.drop reader.offset)).map .ok := by
  intro bytes last
  have sound : reader.failed = false := by
    obtain ⟨live, n, -, -, -, rfl⟩ := ChunkReader.next_eq_ok given
    exact live.1
  have size : bytes.length = reader.size := by
    rw [List.length_take, Array.length_toList]
    omega
  have start : (⟨reader, []⟩ : Progress).reader.ReadsOn volume number bytes :=
    ⟨⟨fun _ => .inl opened, List.take_prefix .., size, sound⟩, fun _ => opened⟩
  obtain ⟨end_, same⟩ := start.turns spared
  rw [end_.drain]
  exact same

/-- On the shelf a file is read to its end although it grows, gets another name, leaves its own to a
new file and is removed, with a temporary file made in between. -/
theorem Progress.undisturbed_on_shelf :
    let file := ChunkStore.onShelf.handle "a" 3
    let renamed := ChunkStore.onShelf.handle "c" 4
    let turns : List Turn := [.incident (.append file [9]), .incident (.persist .onShelf file "c"),
      .incident (.create .onShelf "a"), .incident (.createTemporary .onShelf),
      .incident (.removeFile renamed), .look]
    ∃ reader, file.chunks.next Volume.shelf = (some (.ok [1, 2]), reader)
      ∧ let last := turns.foldl Turn.take (⟨reader, []⟩, Volume.shelf)
        last.1.items ++ (last.1.reader.drain last.2).1 = [.ok [3]] := by
  intro file renamed turns
  have first : (file.chunks.next Volume.shelf).1 = some (.ok [1, 2]) := by decide +kernel
  have given : file.chunks.next Volume.shelf
      = (some (.ok [1, 2]), (file.chunks.next Volume.shelf).2) := Prod.ext first rfl
  let grown := Incident.outcome Volume.shelf (.append file [9])
  let moved := Incident.outcome grown (.persist .onShelf file "c")
  let replaced := Incident.outcome moved (.create .onShelf "a")
  have elsewhere : moved.find (ChunkStore.onShelf.pathFor "a") ≠ .ok (.file 0) := by decide +kernel
  have few : replaced.entries.rows.length < 2 ^ 48 := by decide +kernel
  have spared : Turn.Spared 0 Volume.shelf turns :=
    ⟨trivial, trivial, elsewhere, Incident.spares_createTemporary few _ _, trivial, trivial⟩
  have rest := undisturbed_if_spared given (by decide +kernel) (by decide +kernel) spared
  refine ⟨_, given, rest.trans ?_⟩
  have bytes : ((Volume.shelf.content 0).toList.take (file.chunks.next Volume.shelf).2.size).drop
      (file.chunks.next Volume.shelf).2.offset = [3] := by decide +kernel
  have size : (file.chunks.next Volume.shelf).2.chunkSize = 2 := by decide +kernel
  rw [bytes, size]
  simp [Bytes.cut]

/-! ## Files made anew -/

/-- Makes a file of four bytes, makes it anew with two, and goes on with the first handle. -/
def ChunkStore.makeAnew (store : ChunkStore) (id : String) : Storing ChunkFile := do
  let file ← store.create id
  let stale ← file.append [1, 2, 3, 4]
  let fresh ← store.create id
  let _ ← fresh.append [5, 6]
  return stale

/-- A reader may count bytes that were in its file before the file was made anew.  It fails where
they end, with nothing done in between. -/
theorem Progress.fails_if_made_anew :
    ∃ file volume, ChunkStore.onShelf.makeAnew "b" Volume.shelf = (.ok file, volume)
      ∧ ∃ chunk reader number, file.chunks.next volume = (some (.ok chunk), reader)
        ∧ reader.opened = some number ∧ Turn.Spared number volume []
        ∧ ∃ e, (reader.drain volume).1 = [.error e] := by
  let file := ChunkStore.onShelf.handle "b" 4
  let volume := (ChunkStore.onShelf.makeAnew "b" Volume.shelf).2
  let reader := (file.chunks.next volume).2
  have outcome : (ChunkStore.onShelf.makeAnew "b" Volume.shelf).1 = .ok file := by decide +kernel
  have first : (file.chunks.next volume).1 = some (.ok [5, 6]) := by decide +kernel
  have opened : reader.opened = some 1 := by decide +kernel
  have failure : (reader.next volume).1 = some (.error (reader.shortRead 0)) := by decide +kernel
  have atEnd : ((reader.next volume).2.next volume).1 = none := by decide +kernel
  have second : reader.next volume
      = (some (.error (reader.shortRead 0)), (reader.next volume).2) := by
    rw [← failure]
  have third : (reader.next volume).2.next volume
      = (none, ((reader.next volume).2.next volume).2) := by
    rw [← atEnd]
  refine ⟨file, volume, Prod.ext outcome rfl, [5, 6], reader, 1, Prod.ext first rfl, opened,
    trivial, reader.shortRead 0, ?_⟩
  rw [ChunkReader.drain_of_item second, ChunkReader.drain_of_end third]

end BlobCluster
