import BlobCluster.Proofs.Storage.Trail
import BlobCluster.Proofs.Storage.Undisturbed

/-!
# Files that are gone

A file is `Gone` from its path if there is nothing at the goal and no file on the trail, so that the
path leads to nothing, be it for want of the file or of a folder on the way.  That can only be
undone at a place of the trail.  An incident that `Bypasses` a path makes or names nothing there,
and as long as there are only such incidents every handle with the path finds its file gone.

A handle counts no bytes once its file was removed through it, and a reader that has no bytes to
give does not look for its file.  So that handle, of all those with the path, reads like one on an
empty file.
-/

namespace BlobCluster

namespace Volume

variable {volume after : Volume} {here place path : Path}

/-! ## Paths from which a file is gone -/

/-- A path that could be walked leads to nothing: there is nothing at its goal, and no file in the
place of a folder on the way there.  Folders on the way may be missing by now, so that removing them
does not bring the file back. -/
structure Gone (volume : Volume) (path : Path) : Prop where
  short : path.textSize ≤ longestPath
  names : ∀ part ∈ path, part.utf8ByteSize ≤ longestName
  noFile : ∀ place ∈ path.trail, ∀ number, volume.at? place ≠ some (.file number)
  noFolder : volume.at? path.goal ≠ some .folder

/-- Walking where no file is on the trail leads to the goal or ends at a missing folder.  The names
are short, so the only way to fail is a part that is missing, and after that the walk does not go
on. -/
theorem walk_of_noFile (names : ∀ part ∈ path, part.utf8ByteSize ≤ longestName)
    (noFile : ∀ place ∈ Path.trailFrom here path, ∀ number,
      volume.at? place ≠ some (.file number)) :
    volume.walk here path = .ok (Path.goalFrom here path)
      ∨ volume.walk here path = .error .noEntry := by
  induction path generalizing here with
  | nil => exact .inl rfl
  | cons part rest ih =>
    simp only [walk]
    rcases there : volume.at? here with _ | _ | number
    · have stepped : volume.step here part = .error .noEntry := by rw [step, there]
      rw [stepped]
      exact .inr rfl
    · have stepped : volume.step here part = .ok (here.turn part) := by
        have short := Nat.not_lt.2 (names part (List.mem_cons_self ..))
        simp only [step, there, beq_iff_eq, if_neg short, Path.turn]
        split
        · rfl
        · split <;> rfl
      rw [stepped]
      exact ih (fun other mem => names other (List.mem_cons_of_mem _ mem))
        fun place mem => noFile place (List.mem_cons_of_mem _ mem)
    · exact absurd there (noFile here (List.mem_cons_self ..) number)

namespace Gone

theorem absent (gone : volume.Gone path) : volume.at? path.goal = none := by
  rcases there : volume.at? path.goal with _ | _ | number
  · rfl
  · exact absurd there gone.noFolder
  · exact absurd there (gone.noFile _ (Path.goalFrom_mem_trailFrom [] path) number)

/-- The place of the path is found, or else a folder on the way is missing. -/
theorem locate (gone : volume.Gone path) :
    volume.locate path = .ok path.goal ∨ volume.locate path = .error .noEntry := by
  rw [Volume.locate, if_neg (Nat.not_lt.2 gone.short)]
  exact walk_of_noFile gone.names gone.noFile

theorem find (gone : volume.Gone path) : volume.find path = .error .noEntry := by
  rcases gone.locate with located | refused
  · rw [Volume.find, located]
    simp only [gone.absent]
  · rw [Volume.find, refused]

theorem of_remove (removed : volume.remove path = .ok after) : after.Gone path := by
  unfold remove at removed
  split at removed
  · cases removed
  · rename_i place located
    split at removed
    · cases removed
    · cases removed
    · rename_i number there
      cases removed
      obtain ⟨goal, folders⟩ := locate_eq_ok located
      have places := at?_erase volume (ne_nil_of_at? there nofun)
      unfold Volume.locate at located
      split at located
      · cases located
      · rename_i short
        refine ⟨Nat.not_lt.1 short, fun part => names_of_walk located, ?_, ?_⟩
        · intro other mem number
          rw [places]
          split
          next => exact nofun
          next elsewhere =>
            rw [folders other mem elsewhere]
            exact nofun
        · rw [places, ← goal, if_pos rfl]
          exact nofun

end Gone

/-- What may come to a place for a file to stay gone from a path. -/
def Aside (path place : Path) : Node → Prop
  | .folder => place ≠ path.goal
  | .file _ => place ∉ path.trail

/-- A file stays gone if what comes to places is aside of its path. -/
theorem Gone.brings (gone : volume.Gone path) (h : volume.Brings after (Aside path)) :
    after.Gone path where
  short := gone.short
  names := gone.names
  noFile place mem number there := by
    rcases h place _ there with there | aside
    · exact gone.noFile place mem number there
    · exact aside mem
  noFolder there := by
    rcases h path.goal _ there with there | aside
    · exact gone.noFolder there
    · exact aside rfl

/-- Nothing at or below a place that is not on the trail is on the trail. -/
theorem aside_of_prefix {there : Path} (elsewhere : there ∉ path.trail) (place : Path)
    (node : Node) (below : there <+: place) : Aside path place node := by
  have off : place ∉ path.trail := fun mem => elsewhere (Path.mem_trail_of_prefix mem below)
  cases node with
  | folder => exact fun same => off (same ▸ Path.goalFrom_mem_trailFrom [] path)
  | file number => exact off

/-- A path leads nowhere on the trail of another. -/
def LeadsAside (volume : Volume) (path other : Path) : Prop :=
  ∀ place, volume.locate other = .ok place → place ∉ path.trail

theorem LeadsAside.of_locate {other : Path} (located : volume.locate other = .ok place)
    (off : place ∉ path.trail) : volume.LeadsAside path other := by
  intro place' located'
  obtain rfl : place = place' := Except.ok.inj (located.symm.trans located')
  exact off

end Volume

/-! ## Incidents that bypass a path -/

/-- Nothing is made or named on the trail of a path, and no folder at its goal.  What is done to a
file that is not there is refused, so it bypasses any path. -/
def Incident.Bypasses (path : Path) (volume : Volume) : Incident → Prop
  | openStore root _ =>
    path.goal ∉ (Volume.makeable (Path.ofText (Text.dropSlashes root))).trail
  | create store id => volume.LeadsAside path (store.pathFor id)
  | createTemporary store =>
    volume.LeadsAside path
      (store.pathFor (Volume.temporaryName (volume.freeSerial store.root)))
  | persist store file id =>
    (volume.find file.path).toBool = true → volume.LeadsAside path (store.pathFor id)
  | write other _ => volume.LeadsAside path other
  | makeFolder other => ∀ place, volume.locate other = .ok place → place ≠ path.goal
  | rename source target =>
    (volume.find source).toBool = true → volume.LeadsAside path target
  | _ => True

/-- Every incident bypasses the path on the volume as it is by then.  A path that is free now may be
made later, so this cannot be asked on the first volume alone. -/
def Incident.AllBypass (path : Path) : Volume → List Incident → Prop
  | _, [] => True
  | volume, incident :: rest =>
    incident.Bypasses path volume ∧ AllBypass path (incident.outcome volume) rest

namespace ChunkStore

variable {store : ChunkStore} {volume : Volume} {path : Path} {id : String}

theorem brings_create (aside : volume.LeadsAside path (store.pathFor id)) :
    volume.Brings (store.create id volume).2 (Volume.Aside path) := by
  cases created : store.create id volume with
  | mk outcome after =>
    cases outcome with
    | error e =>
      rw [create_eq_error created]
      exact .refl volume
    | ok file =>
      exact Volume.brings_write (create_eq_ok_iff.1 created).2.1
        fun place located _ => aside place located

theorem brings_createTemporary (aside : volume.LeadsAside path
      (store.pathFor (Volume.temporaryName (volume.freeSerial store.root)))) :
    volume.Brings (store.createTemporary volume).2 (Volume.Aside path) := by
  have created : store.createTemporary volume
      = store.create (Volume.temporaryName (volume.freeSerial store.root))
        (volume.drawName store.root).2 := rfl
  have stay : (volume.drawName store.root).2.FoldersStay volume := by
    intro place folder
    cases place <;> exact folder
  have drawn : volume.Brings (volume.drawName store.root).2 (Volume.Aside path) := .of_entries rfl
  rw [created]
  exact drawn.trans (brings_create fun place located => aside place (stay.locate located))

theorem brings_persist {file : ChunkFile}
    (aside : (volume.find file.path).toBool = true → volume.LeadsAside path (store.pathFor id)) :
    volume.Brings (store.persist file id volume).2 (Volume.Aside path) := by
  cases persisted : store.persist file id volume with
  | mk outcome after =>
    cases outcome with
    | error e =>
      rw [persist_eq_error persisted]
      exact .refl volume
    | ok named =>
      exact Volume.brings_rename (persist_eq_ok_iff.1 persisted).2.1
        fun there located present => Volume.aside_of_prefix (aside present there located)

theorem brings_open {root : String} (chunkSize : Nat)
    (aside : path.goal ∉ (Volume.makeable (Path.ofText (Text.dropSlashes root))).trail) :
    volume.Brings (ChunkStore.open root chunkSize volume).2 (Volume.Aside path) := by
  have made : volume.Brings (makeRoot root volume).2 (Volume.Aside path) := by
    unfold makeRoot
    split
    · exact .refl volume
    · split
      · exact .refl volume
      · exact Volume.brings_makeFolders fun place mem same => aside (same ▸ mem)
  unfold ChunkStore.open
  split
  · revert made
    generalize makeRoot root volume = outcome
    intro made
    obtain ⟨e | _, after⟩ := outcome <;> exact made
  · exact .refl volume

end ChunkStore

theorem ChunkFile.brings_append {volume : Volume} {new : Path → Node → Prop} (file : ChunkFile)
    (bytes : Bytes) : volume.Brings (file.append bytes volume).2 new := by
  unfold append
  split
  · exact .refl volume
  · exact Volume.brings_append ‹_›

theorem ChunkFile.brings_remove {volume : Volume} {new : Path → Node → Prop} (file : ChunkFile) :
    volume.Brings (file.remove volume).2 new := by
  unfold remove
  split
  · exact .refl volume
  · exact .refl volume
  · exact Volume.brings_remove ‹_›

/-- An incident that bypasses a path brings nothing to it. -/
theorem Incident.Bypasses.brings {incident : Incident} {volume : Volume} {path : Path}
    (bypasses : incident.Bypasses path volume) :
    volume.Brings (incident.outcome volume) (Volume.Aside path) := by
  cases incident with
  | openStore root chunkSize => exact ChunkStore.brings_open chunkSize bypasses
  | create store id => exact ChunkStore.brings_create bypasses
  | createTemporary store => exact ChunkStore.brings_createTemporary bypasses
  | load store id =>
    rw [outcome, ChunkStore.load_snd]
    exact .refl volume
  | persist store file id => exact ChunkStore.brings_persist bypasses
  | append file bytes => exact file.brings_append bytes
  | removeFile file => exact file.brings_remove
  | write other bytes =>
    exact .of_outcome fun _ written =>
      Volume.brings_write written fun place located _ => bypasses place located
  | resize other length => exact .of_outcome fun _ => Volume.brings_resize
  | makeFolder other => exact .of_outcome fun _ made => Volume.brings_makeFolder made bypasses
  | rename source target =>
    exact .of_outcome fun _ renamed => Volume.brings_rename renamed fun there located present =>
      Volume.aside_of_prefix (bypasses present there located)
  | delete other => exact .of_outcome fun _ => Volume.brings_remove
  | removeFolder other => exact .of_outcome fun _ => Volume.brings_removeFolder
  | removeTree other => exact .of_outcome fun _ => Volume.brings_removeTree

/-- A file stays gone as long as its path is bypassed. -/
theorem Volume.Gone.incidents {volume : Volume} {path : Path} (gone : volume.Gone path)
    {incidents : List Incident} (bypass : Incident.AllBypass path volume incidents) :
    (incidents.foldl Incident.outcome volume).Gone path := by
  induction incidents generalizing volume with
  | nil => exact gone
  | cons incident rest ih => exact ih (gone.brings bypass.1.brings) bypass.2

/-! ## Handles whose file is gone -/

namespace ChunkFile

/-- What a handle answers when there is no file for it.  Nothing that is tried changes the volume,
and all of it says that the file is not there, except that a handle which counts no bytes is read
without a look at its file. -/
structure FindsGone (file : ChunkFile) (volume : Volume) : Prop where
  append : ∀ bytes, file.append bytes volume = (.error (ChunkStore.noFile file.label), volume)
  remove : file.remove volume = (.ok false, volume)
  /-- An id that is not valid, or cannot be named for another reason, is another failure. -/
  persist : ∀ store id, ∃ e, ChunkStore.persist store file id volume = (.error e, volume)
    ∧ (BlobId.Valid id → (∀ why, volume.locate (store.pathFor id) = .error why → why = .noEntry) →
        e = ChunkStore.noFile file.label)
  chunks : (file.chunks.drain volume).1
    = if file.size = 0 then [] else [.error (ChunkStore.noFile file.label)]
  stream : file.stream volume
    = if file.size = 0 then ⟨[], none⟩ else ⟨[], some (ChunkStore.noFile file.label)⟩

variable {file : ChunkFile} {volume after : Volume}

theorem append_of_gone (gone : volume.Gone file.path) (bytes : Bytes) :
    file.append bytes volume = (.error (ChunkStore.noFile file.label), volume) := by
  have refused : volume.append file.path bytes = .error .noEntry := by
    rw [Volume.append, gone.find]
  rw [ChunkFile.append, refused]
  rfl

theorem remove_of_gone (gone : volume.Gone file.path) :
    file.remove volume = (.ok false, volume) := by
  have refused : volume.remove file.path = .error .noEntry := by
    rcases gone.locate with located | refused
    · rw [Volume.remove, located]
      simp only [gone.absent]
    · rw [Volume.remove, refused]
  rw [ChunkFile.remove, refused]

/-- A file that is gone cannot be renamed; only if the new path leads nowhere can that be another
refusal. -/
theorem rename_of_gone (gone : volume.Gone file.path) (target : Path) :
    ∃ why, volume.rename file.path target = .error why
      ∧ (why = .noEntry ∨ volume.locate target = .error why) := by
  unfold Volume.rename
  rcases gone.locate with located | refused
  · rw [located]
    cases there : volume.locate target with
    | error why => exact ⟨why, rfl, .inr rfl⟩
    | ok place =>
      refine ⟨.noEntry, ?_, .inl rfl⟩
      simp only [Volume.renamePlace, gone.absent]
  · rw [refused]
    exact ⟨.noEntry, rfl, .inl rfl⟩

theorem persist_of_gone (gone : volume.Gone file.path) (store : ChunkStore) (id : String) :
    ∃ e, store.persist file id volume = (.error e, volume)
      ∧ (BlobId.Valid id →
          (∀ why, volume.locate (store.pathFor id) = .error why → why = .noEntry) →
          e = ChunkStore.noFile file.label) := by
  unfold ChunkStore.persist
  cases valid : BlobId.validate id with
  | error e =>
    refine ⟨e, rfl, fun isValid => ?_⟩
    rw [BlobId.validate_eq_ok_iff.2 isValid] at valid
    cases valid
  | ok =>
    obtain ⟨why, refused, cause⟩ := rename_of_gone gone (store.pathFor id)
    refine ⟨file.failure "rename" why, by simp only [refused], fun _ nameable => ?_⟩
    obtain rfl : why = .noEntry := cause.elim (fun same => same) (nameable why)
    rfl

/-- A new reader gives nothing if the handle counts no bytes, and else only the failure to open the
file. -/
theorem chunks_of_gone (gone : volume.Gone file.path) : (file.chunks.drain volume).1
    = if file.size = 0 then [] else [.error (ChunkStore.noFile file.label)] := by
  split
  next empty =>
    have ended : ¬ file.chunks.Live := fun live => absurd live.2 (by
      show ¬ 0 < file.size
      omega)
    exact ChunkReader.drain_of_end (ChunkReader.next_of_not_live ended volume)
  next some_ =>
    have live : file.chunks.Live := ⟨rfl, Nat.pos_of_ne_zero some_⟩
    have refused : file.chunks.source volume = .error (ChunkStore.noFile file.label) := by
      have missing : volume.find file.chunks.path = .error .noEntry := gone.find
      unfold ChunkReader.source
      simp only [missing]
      rfl
    have first := ChunkReader.next_of_live live volume
    rw [ChunkReader.fetch_of_error refused] at first
    have ended : ¬ file.chunks.broken.Live := fun live => Bool.noConfusion live.1
    rw [ChunkReader.drain_of_item first,
      ChunkReader.drain_of_end (ChunkReader.next_of_not_live ended volume)]

theorem findsGone (gone : volume.Gone file.path) : file.FindsGone volume where
  append := append_of_gone gone
  remove := remove_of_gone gone
  persist := persist_of_gone gone
  chunks := chunks_of_gone gone
  stream := by
    rw [ChunkFile.stream, chunks_of_gone gone]
    split <;> rfl

/-- Once a handle has removed its file, and as long as nothing is made or named on its path, every
handle with that path finds its file gone.  The handle itself counts no bytes any more, so it still
reads like one on an empty file.

The whole trail of the path has to be bypassed and not only its end, because a folder that is put in
place of another part of the path changes where it leads.  A handle that still counts bytes fails to
open the file; the one that was used for the removal counts none, and nothing is opened to read
none. -/
theorem gone_unless_put_back (removed : file.remove volume = (.ok true, after))
    {incidents : List Incident} (bypass : Incident.AllBypass file.path after incidents) :
    let last := incidents.foldl Incident.outcome after
    (∀ handle : ChunkFile, handle.path = file.path → handle.FindsGone last)
      ∧ (file.emptied.chunks.drain last).1 = []
      ∧ file.emptied.stream last = ⟨[], none⟩ := by
  intro last
  have gone : last.Gone file.path := by
    refine Volume.Gone.incidents ?_ bypass
    unfold ChunkFile.remove at removed
    split at removed <;> cases removed
    exact .of_remove ‹_›
  have finds : ∀ handle : ChunkFile, handle.path = file.path → handle.FindsGone last :=
    fun handle same => findsGone (same ▸ gone)
  exact ⟨finds, (finds file.emptied rfl).chunks, (finds file.emptied rfl).stream⟩

/-- On the shelf a file stays gone while the handle is tried again, other files are made, and the
folder is removed. -/
theorem gone_from_shelf :
    let file := ChunkStore.onShelf.handle "a" 3
    let incidents : List Incident := [.append file.emptied [9],
      .persist .onShelf file.emptied "a", .create .onShelf "b", .createTemporary .onShelf,
      .removeTree ["s"], .removeFile file.emptied]
    ∃ after, file.remove Volume.shelf = (.ok true, after)
      ∧ file.FindsGone (incidents.foldl Incident.outcome after)
      ∧ file.emptied.FindsGone (incidents.foldl Incident.outcome after) := by
  intro file incidents
  have removed : (file.remove Volume.shelf).1 = .ok true := by decide +kernel
  let after := (file.remove Volume.shelf).2
  let made := Incident.outcome after (.create .onShelf "b")
  let temporary := Volume.temporaryName (made.freeSerial ChunkStore.onShelf.root)
  have missing : (after.find file.path).toBool = false := by decide +kernel
  have first : after.locate ["s", "b"] = .ok ["s", "b"] := by decide +kernel
  have second : made.locate (ChunkStore.onShelf.pathFor temporary) = .ok ["s", temporary] := by
    decide +kernel
  have bypass : Incident.AllBypass file.path after incidents :=
    ⟨trivial, fun there => absurd (there.symm.trans missing) nofun,
      .of_locate first (by decide +kernel), .of_locate second (by decide +kernel), trivial, trivial,
      trivial⟩
  have finds := (gone_unless_put_back (Prod.ext removed rfl) bypass).1
  exact ⟨after, Prod.ext removed rfl, finds file rfl, finds file.emptied rfl⟩

/-- A handle through which a file with bytes was removed does not report, when it is read, that the
file is not there: it gives nothing and no failure. -/
theorem reads_empty_though_gone :
    let file := ChunkStore.onShelf.handle "a" 3
    ∃ after, file.remove Volume.shelf = (.ok true, after)
      ∧ after.find file.path = .error .noEntry
      ∧ (file.emptied.chunks.drain after).1 ≠ [.error (ChunkStore.noFile file.label)]
      ∧ file.emptied.stream after ≠ ⟨[], some (ChunkStore.noFile file.label)⟩ := by
  intro file
  have removed : (file.remove Volume.shelf).1 = .ok true := by decide +kernel
  have missing : (file.remove Volume.shelf).2.find file.path = .error .noEntry := by
    decide +kernel
  have first : (file.emptied.chunks.next (file.remove Volume.shelf).2).1 = none := by
    decide +kernel
  have nothing : (file.emptied.chunks.drain (file.remove Volume.shelf).2).1 = [] :=
    ChunkReader.drain_of_end (Prod.ext first rfl)
  refine ⟨(file.remove Volume.shelf).2, Prod.ext removed rfl, missing, ?_, ?_⟩
  · rw [nothing]
    exact nofun
  · rw [ChunkFile.stream, nothing]
    exact nofun

end ChunkFile

end BlobCluster
