import BlobCluster.BlobId
import BlobCluster.Storage.Volume
import BlobCluster.Text.Trim

/-!
# Chunk stores

A chunk store keeps each blob as one file in a folder, named by the blob's id.  A `ChunkFile` is a
handle on such a file: it remembers the path and how many bytes were appended, so its size is not
looked up again.  Every operation works on the volume of its node; one that fails leaves the
volume as it was, but for the folders that were made for a store which then could not be opened.
-/

namespace BlobCluster

/-- Work on a volume that may fail. -/
abbrev Storing := ExceptT Failure (StateM Volume)

/-- A folder of blobs that are read in chunks of one size. -/
structure ChunkStore where
  root : Path
  /-- How the folder is written in messages. -/
  label : String
  chunkSize : Nat
  chunkSize_pos : 0 < chunkSize

/-- A handle on a file of a store. -/
structure ChunkFile where
  path : Path
  /-- How the path is written in messages. -/
  label : String
  /-- Bytes appended so far. -/
  size : Nat
  chunkSize : Nat
  chunkSize_pos : 0 < chunkSize
  deriving DecidableEq

namespace ChunkStore

/-- A store that cannot be read. -/
def noChunks : Failure := ⟨.invalidConfig, "chunk size must be positive"⟩

/-- Makes the folder that a text names.  A slash at its end does not count. -/
def makeRoot (root : String) (volume : Volume) : Except Refusal Unit × Volume :=
  if root.contains '\x00' then (.error .unwritable, volume)
  else if Volume.longestPath < root.utf8ByteSize then (.error .nameTooLong, volume)
  else volume.makeFolders (Path.ofText (Text.dropSlashes root))

/-- Opens a store in the folder that a text names, which is made if needed. -/
def «open» (root : String) (chunkSize : Nat) : Storing ChunkStore := fun volume =>
  if h : 0 < chunkSize then
    match makeRoot root volume with
    | (.error e, volume) =>
      (.error ⟨.storage, "failed to create blob root " ++ root ++ ": " ++ e.text⟩, volume)
    | (.ok (), volume) => (.ok ⟨Path.ofText root, root, chunkSize, h⟩, volume)
  else (.error noChunks, volume)

/-- How the path of an id is written. -/
def labelFor (store : ChunkStore) (id : String) : String :=
  if store.label.endsWith "/" then store.label ++ id else store.label ++ "/" ++ id

def pathFor (store : ChunkStore) (id : String) : Path := store.root ++ [id]

def handle (store : ChunkStore) (id : String) (size : Nat) : ChunkFile :=
  ⟨store.pathFor id, store.labelFor id, size, store.chunkSize, store.chunkSize_pos⟩

/-- Makes an empty file for an id; a former content is lost. -/
def create (store : ChunkStore) (id : String) : Storing ChunkFile := fun volume =>
  match BlobId.validate id with
  | .error e => (.error e, volume)
  | .ok () =>
    match volume.write (store.pathFor id) [] with
    | .error e =>
      (.error ⟨.storage, "failed to create " ++ store.labelFor id ++ ": " ++ e.text⟩, volume)
    | .ok volume => (.ok (store.handle id 0), volume)

/-- Makes an empty file under a temporary name. -/
def createTemporary (store : ChunkStore) : Storing ChunkFile := fun volume =>
  let (name, volume) := volume.drawName store.root
  store.create name volume

def noFile (label : String) : Failure := ⟨.notFound, "blob file " ++ label⟩

def load (store : ChunkStore) (id : String) : Storing ChunkFile := fun volume =>
  match BlobId.validate id with
  | .error e => (.error e, volume)
  | .ok () =>
    let label := store.labelFor id
    match volume.find (store.pathFor id) with
    | .error .noEntry => (.error (noFile label), volume)
    | .error e => (.error ⟨.storage, "failed to stat " ++ label ++ ": " ++ e.text⟩, volume)
    | .ok .folder => (.error ⟨.storage, label ++ " is not a file"⟩, volume)
    | .ok (.file number) => (.ok (store.handle id (volume.content number).size), volume)

def contains (store : ChunkStore) (id : String) (volume : Volume) : Bool :=
  decide (BlobId.Valid id) && volume.isFile (store.pathFor id)

end ChunkStore

namespace ChunkFile

/-- What a refused operation on the file of a handle means. -/
def failure (file : ChunkFile) (action : String) : Refusal → Failure
  | .noEntry => ChunkStore.noFile file.label
  | e => ⟨.storage, "failed to " ++ action ++ " " ++ file.label ++ ": " ++ e.text⟩

def append (file : ChunkFile) (bytes : Bytes) : Storing ChunkFile := fun volume =>
  match volume.append file.path bytes with
  | .error e => (.error (file.failure "open for appending" e), volume)
  | .ok volume => (.ok { file with size := file.size + bytes.length }, volume)

/-- The handle of a file that its owner has given up. -/
def emptied (file : ChunkFile) : ChunkFile := { file with size := 0 }

/-- Removes the file; the answer says whether there was one.  The handle is `emptied` by this,
whatever the outcome. -/
def remove (file : ChunkFile) : Storing Bool := fun volume =>
  match volume.remove file.path with
  | .error .noEntry => (.ok false, volume)
  | .error e => (.error (file.failure "remove" e), volume)
  | .ok volume => (.ok true, volume)

end ChunkFile

/-- Gives the file of a handle the name of an id; a file of that name is replaced. -/
def ChunkStore.persist (store : ChunkStore) (file : ChunkFile) (id : String) : Storing ChunkFile :=
  fun volume =>
    match BlobId.validate id with
    | .error e => (.error e, volume)
    | .ok () =>
      match volume.rename file.path (store.pathFor id) with
      | .error e => (.error (file.failure "rename" e), volume)
      | .ok volume => (.ok { file with path := store.pathFor id, label := store.labelFor id }, volume)

end BlobCluster
