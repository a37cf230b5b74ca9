import BlobCluster.Proofs.Storage.Files

/-!
# Stores that are ready

What is done with the files of a store can be refused for many reasons, all of which lie in the
folder of the store: it is gone, its path is too long, or something in it is a folder.  A store is
`Ready` where none of them is there.  Then a temporary file can be made, and a file can be given the
name of any digest.  Nothing that is done to files makes or removes a folder, so a store that is
ready stays so.
-/

namespace BlobCluster

theorem Path.textSize_concat (path : Path) (part : String) :
    Path.textSize (path ++ [part]) = path.textSize + part.utf8ByteSize + 1 := by
  simp [textSize, List.foldl_append]

namespace Volume

variable {volume : Volume} {folder top : Path} {name : String}

/-- In a folder that is there every name leads to its place, if the path is not too long. -/
theorem locate_concat (located : volume.locate folder = .ok top)
    (isFolder : volume.at? top = some .folder) (noDot : name ≠ ".") (noDots : name ≠ "..")
    (short : name.utf8ByteSize ≤ longestName)
    (room : folder.textSize + name.utf8ByteSize + 1 ≤ longestPath) :
    volume.locate (folder ++ [name]) = .ok (top ++ [name]) := by
  have walked : volume.walk [] folder = .ok top := by
    unfold locate at located
    split at located
    · cases located
    · exact located
  have last : volume.step top name = .ok (top ++ [name]) := by
    unfold step
    simp only [isFolder, beq_iff_eq, noDot, noDots, if_false, Nat.not_lt.2 short]
  unfold locate
  rw [Path.textSize_concat, if_neg (Nat.not_lt.2 room), walk_append, walked]
  simp only [walk, last]

end Volume

namespace ChunkStore

variable {store : ChunkStore} {volume after : Volume} {top : Path} {id : String}

/-! ## Names -/

/-- Bytes in the longest name of a file that nodes make. -/
def longestId : Nat := 64

/-- A name of a file that nodes make. -/
structure Ordinary (id : String) : Prop where
  valid : BlobId.Valid id
  short : id.utf8ByteSize ≤ longestId

theorem ordinary_digest (algorithm : Digest.Algorithm) (bytes : Bytes) :
    Ordinary (algorithm.digest bytes) :=
  ⟨Digest.valid_digest algorithm bytes, Digest.utf8ByteSize_digest_le algorithm bytes⟩

theorem ordinary_temporaryName (serial : Nat) : Ordinary (Volume.temporaryName serial) := by
  have spelled : (Volume.temporaryName serial).toList = "temp-00000000-0000-4000-8000-".toList
      ++ (Bytes.ofNatBE 6 serial).flatMap Bytes.hexPair ++ ".blob".toList := by
    unfold Volume.temporaryName
    generalize "temp-00000000-0000-4000-8000-" = first
    generalize ".blob" = last
    rw [String.toList_append, String.toList_append, String.toList_ofList]
  have length : (Volume.temporaryName serial).toList.length = 46 := by
    rw [spelled, List.length_append, List.length_append, Digest.length_flatMap_hexPair,
      Bytes.length_ofNatBE]
    decide
  have digits : ((Bytes.ofNatBE 6 serial).flatMap Bytes.hexPair).all Digest.isPlain = true := by
    rw [List.all_eq_true]
    intro c mem
    obtain ⟨b, -, pair⟩ := List.mem_flatMap.1 mem
    exact Digest.isPlain_of_mem_hexDigits (Digest.mem_hexDigits_of_mem_hexPair pair)
  have plain : (Volume.temporaryName serial).toList.all Digest.isPlain = true := by
    rw [spelled, List.all_append, List.all_append, digits]
    decide
  constructor
  · refine Digest.valid_of_plain plain ?_ ?_ <;> rw [length]
    · decide
    · decide
  · rw [Digest.utf8ByteSize_of_plain plain, length]
    decide

/-! ## Readiness -/

/-- The folder of a store is there and has no folders in it, and there is room in a path for the
names of files.  Room is asked for the longest id, so that no name can fail for the length of its
path. -/
structure Ready (store : ChunkStore) (volume : Volume) (top : Path) : Prop where
  sound : volume.Sound
  located : volume.locate store.root = .ok top
  folder : volume.at? top = some .folder
  files : ∀ name, volume.at? (top ++ [name]) ≠ some .folder
  room : store.root.textSize + longestId + 1 ≤ Volume.longestPath

namespace Ready

/-- Whatever is done to files, a store stays ready. -/
theorem keeps (ready : store.Ready volume top) {touched : Path → Prop}
    (h : volume.Keeps after touched) : store.Ready after top where
  sound := h.sound
  located := h.stay.locate ready.located
  folder := (h.folders top).2 ready.folder
  files name folder := ready.files name ((h.folders _).1 folder)
  room := ready.room

theorem locate (ready : store.Ready volume top) (ordinary : Ordinary id) :
    volume.locate (store.pathFor id) = .ok (top ++ [id]) := by
  obtain ⟨noDot, noDots⟩ := ne_dot_of_valid ordinary.valid
  have short := ordinary.short
  have room := ready.room
  refine Volume.locate_concat ready.located ready.folder noDot noDots ?_ ?_
  · exact Nat.le_trans short (by decide)
  · omega

theorem leaves_create (ready : store.Ready volume top) (ordinary : Ordinary id) :
    Leaves (store.create id) volume fun r after => ∃ file, r = .ok file
      ∧ volume.Replaced after (top ++ [id]) (some (.file []))
      ∧ file.Holds after (top ++ [id]) [] := by
  have located := ready.locate ordinary
  obtain ⟨after, written⟩ := Volume.exists_write located (ready.files id) []
  obtain ⟨place, located', replaced⟩ := ready.sound.write written
  obtain rfl : top ++ [id] = place := Except.ok.inj (located.symm.trans located')
  unfold Leaves create
  simp only [BlobId.validate_eq_ok_iff.2 ordinary.valid, written]
  exact ⟨_, rfl, replaced, replaced.keeps.stay.locate located, replaced.seen_self, rfl⟩

theorem leaves_createTemporary (ready : store.Ready volume top) :
    Leaves store.createTemporary volume fun r after =>
      let name := Volume.temporaryName (volume.freeSerial store.root)
      ∃ file, r = .ok file ∧ volume.Replaced after (top ++ [name]) (some (.file []))
        ∧ file.Holds after (top ++ [name]) [] := by
  have drawn := ready.sound.drawName store.root
  have named : store.createTemporary volume
      = store.create (Volume.temporaryName (volume.freeSerial store.root))
        (volume.drawName store.root).2 := rfl
  have created := (ready.keeps drawn).leaves_create
    (ordinary_temporaryName (volume.freeSerial store.root))
  unfold Leaves at created ⊢
  rw [named]
  obtain ⟨file, made, replaced, holds⟩ := created
  exact ⟨file, made, drawn.replaced replaced, holds⟩

theorem leaves_persist (ready : store.Ready volume top) {file : ChunkFile} {name : String}
    {content : Bytes} (located : volume.locate file.path = .ok (top ++ [name]))
    (seen : volume.seen (top ++ [name]) = some (.file content)) (ordinary : Ordinary id) :
    Leaves (store.persist file id) volume fun r _ => ∃ named, r = .ok named := by
  obtain ⟨number, there, -⟩ := Volume.seen_eq_file_iff.1 seen
  have above : volume.at? (top ++ [id]).dropLast = some .folder := by
    rw [List.dropLast_concat]
    exact ready.folder
  obtain ⟨after, renamed⟩ := ready.sound.exists_renamePlace there above (ready.files id)
  have moved : volume.rename file.path (store.pathFor id) = .ok after := by
    unfold Volume.rename
    rw [located, ready.locate ordinary]
    exact renamed
  unfold Leaves persist
  simp only [BlobId.validate_eq_ok_iff.2 ordinary.valid, moved]
  exact ⟨_, rfl⟩

end Ready

end ChunkStore

end BlobCluster
