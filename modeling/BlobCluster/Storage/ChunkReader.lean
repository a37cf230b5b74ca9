import BlobCluster.Storage.ChunkStore

/-!
# Reading in chunks

A reader goes through the file of a handle from its first byte on, one chunk at a time.  The file
is opened at the first chunk and read by its number from then on.  The reader gives as many bytes
as the handle counted when the reader was made; a file that has become shorter is a failure, and
after a failure there is nothing more.  `ChunkFile.stream` gives everything a reader would give up
to its first failure.
-/

namespace BlobCluster

structure ChunkReader where
  path : Path
  label : String
  /-- The number of the file, once it is open. -/
  opened : Option Nat
  /-- Bytes given so far. -/
  offset : Nat
  /-- Bytes to give in all. -/
  size : Nat
  chunkSize : Nat
  chunkSize_pos : 0 < chunkSize
  /-- A failure has been given. -/
  failed : Bool

/-- A reader that starts at the first byte. -/
def ChunkFile.chunks (file : ChunkFile) : ChunkReader :=
  ⟨file.path, file.label, none, 0, file.size, file.chunkSize, file.chunkSize_pos, false⟩

namespace ChunkReader

/-- Bytes of the next chunk. -/
def want (reader : ChunkReader) : Nat := min reader.chunkSize (reader.size - reader.offset)

/-- The file has fewer bytes than it should. -/
def shortRead (reader : ChunkReader) (got : Nat) : Failure :=
  ⟨.storage, "short read of " ++ reader.label ++ " at offset " ++ toString reader.offset
    ++ ": got " ++ toString got ++ " of " ++ toString reader.want ++ " bytes"⟩

/-- What a refusal to open the file means. -/
def openFailure (reader : ChunkReader) : Refusal → Failure
  | .noEntry => ChunkStore.noFile reader.label
  | e => ⟨.storage, "failed to open " ++ reader.label ++ ": " ++ e.text⟩

/-- The number of the file, which is opened if need be.  The path is resolved once, and after that
the reader goes by the number, whatever becomes of the name. -/
def source (reader : ChunkReader) (volume : Volume) : Except Failure Nat :=
  match reader.opened with
  | some number => .ok number
  | none =>
    match volume.find reader.path with
    | .error e => .error (reader.openFailure e)
    | .ok .folder =>
      .error ⟨.storage, "failed to read " ++ reader.label ++ ": " ++ Refusal.isFolder.text⟩
    | .ok (.file number) => .ok number

/-- The bytes of the next chunk with the number of the file they are from.  Less than is due means
that the file has become shorter, which is a failure; that it has become longer is not noticed. -/
def fetch (reader : ChunkReader) (volume : Volume) : Except Failure (Nat × Bytes) :=
  match reader.source volume with
  | .error e => .error e
  | .ok number =>
    let content := volume.content number
    let bytes := (content.extract reader.offset (reader.offset + reader.want)).toList
    if bytes.length < reader.want then .error (reader.shortRead bytes.length)
    else .ok (number, bytes)

/-- The next chunk or a failure, if there is one, and the reader after it.  After a failure or at
its end it gives nothing more and has closed the file. -/
def next (reader : ChunkReader) (volume : Volume) :
    Option (Except Failure Bytes) × ChunkReader :=
  if reader.failed || reader.size ≤ reader.offset then (none, { reader with opened := none })
  else
    match reader.fetch volume with
    | .error e => (some (.error e), { reader with opened := none, failed := true })
    | .ok (number, bytes) =>
      (some (.ok bytes), { reader with opened := some number, offset := reader.offset + bytes.length })

/-- Bytes still to come; a failed reader has none. -/
def remaining (reader : ChunkReader) : Nat :=
  if reader.failed then 0 else reader.size - reader.offset

theorem want_le (reader : ChunkReader) : reader.want ≤ reader.size - reader.offset :=
  Nat.min_le_right _ _

theorem want_pos (reader : ChunkReader) (h : reader.offset < reader.size) : 0 < reader.want := by
  have := reader.chunkSize_pos
  unfold want
  omega

theorem length_of_fetch {reader : ChunkReader} {volume : Volume} {number : Nat} {bytes : Bytes}
    (h : reader.fetch volume = .ok (number, bytes)) : bytes.length = reader.want := by
  unfold fetch at h
  split at h
  · cases h
  · simp only at h
    split at h
    · cases h
    · rename_i long
      cases h
      have := reader.want_le
      simp only [Array.length_toList, Array.size_extract] at long ⊢
      omega

theorem remaining_next {reader : ChunkReader} {volume : Volume} {item : Except Failure Bytes}
    {after : ChunkReader} (h : reader.next volume = (some item, after)) :
    after.remaining < reader.remaining := by
  unfold next at h
  split at h
  · cases h
  · rename_i live
    simp only [Bool.or_eq_true, decide_eq_true_eq, not_or, Bool.not_eq_true] at live
    obtain ⟨sound, inside⟩ := live
    split at h
    · cases h
      simp only [remaining, sound]
      simp
      omega
    · rename_i number bytes fetched
      cases h
      have length := length_of_fetch fetched
      have positive := reader.want_pos (by omega)
      simp only [remaining, sound]
      simp
      omega

/-- Everything a reader still gives on a volume that stays as it is. -/
def drain (reader : ChunkReader) (volume : Volume) : List (Except Failure Bytes) × ChunkReader :=
  match h : reader.next volume with
  | (none, after) => ([], after)
  | (some item, after) =>
    have := remaining_next h
    let (items, last) := after.drain volume
    (item :: items, last)
termination_by reader.remaining

end ChunkReader

/-! ## Streams -/

/-- Chunks in order, and the failure that ends them, if one does. -/
structure ChunkStream where
  chunks : List Bytes
  failure : Option Failure
  deriving DecidableEq, Repr

/-- The items of a reader up to the first failure. -/
def ChunkStream.ofItems : List (Except Failure Bytes) → ChunkStream
  | [] => ⟨[], none⟩
  | .error e :: _ => ⟨[], some e⟩
  | .ok chunk :: rest =>
    let stream := ofItems rest
    { stream with chunks := chunk :: stream.chunks }

/-- The bytes of the file from the first one on, up to the first failure. -/
def ChunkFile.stream (file : ChunkFile) (volume : Volume) : ChunkStream :=
  .ofItems (file.chunks.drain volume).1

end BlobCluster
