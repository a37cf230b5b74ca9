import BlobCluster.Bytes
import BlobCluster.Table

/-!
# Volumes

A volume is what a node keeps its files on: folders and files by their place, and the contents of
files by number.  A place is written from the top by names alone.  A path may also have dots in it,
and `walk` finds the place that it leads to, through folders that have to be there.  A place leads
to a file's number and the number to its content, so a file that is open keeps its content when its
place is given up or taken by another file.  Every operation that changes places answers the new
volume or why it is refused; a refusal changes nothing, except that `makeFolders` keeps the folders
it has made on the way.
-/

namespace BlobCluster

/-- The parts of a path, from the top of the volume: names, a dot for the folder itself and two
dots for the folder above. -/
abbrev Path := List String

namespace Path

/-- The path that a text with slashes names.  A slash at the end asks for a folder, as a dot
does. -/
def ofText (text : String) : Path :=
  let parts := text.splitOn "/"
  parts.filter (!·.isEmpty) ++ (if 1 < parts.length && parts.getLast? == some "" then ["."] else [])

/-- Bytes of the text of a path, with a slash before each part. -/
def textSize (path : Path) : Nat := path.foldl (fun size part => size + part.utf8ByteSize + 1) 0

/-- The path without dots at its end. -/
def withoutDots (path : Path) : Path := (path.reverse.dropWhile (· == ".")).reverse

end Path

/-- What a path leads to. -/
inductive Node where
  | folder
  /-- A file and the number of its content. -/
  | file (content : Nat)
  deriving DecidableEq, Repr

/-- A place with what is there. -/
structure Entry where
  path : Path
  node : Node
  deriving DecidableEq, Repr

inductive Refusal where
  | noEntry
  | taken
  | notFolder
  | isFolder
  | invalid
  | nameTooLong
  | notEmpty
  /-- No path can hold a NUL. -/
  | unwritable
  deriving DecidableEq, Repr

namespace Refusal

/-- The number of a refusal; one that is found before anything is looked up has none. -/
def number? : Refusal → Option Nat
  | noEntry => some 2
  | taken => some 17
  | notFolder => some 20
  | isFolder => some 21
  | invalid => some 22
  | nameTooLong => some 36
  | notEmpty => some 39
  | unwritable => none

def reason : Refusal → String
  | noEntry => "No such file or directory"
  | taken => "File exists"
  | notFolder => "Not a directory"
  | isFolder => "Is a directory"
  | invalid => "Invalid argument"
  | nameTooLong => "File name too long"
  | notEmpty => "Directory not empty"
  | unwritable => "file name contained an unexpected NUL byte"

/-- The reason with its number, as it stands in messages. -/
def text (refusal : Refusal) : String :=
  refusal.reason ++ (match refusal.number? with
    | some number => " (os error " ++ toString number ++ ")"
    | none => "")

end Refusal

/-- The files of a node.  Names and contents are kept apart: an entry has the number of a content,
and a content stays when its entry goes or moves, since a file that is open is read on by its
number. -/
structure Volume where
  entries : Table Entry.path
  /-- Contents by number; those without a path may still be open. -/
  contents : Array (Array UInt8)
  /-- How many temporary names have been given. -/
  drawn : Nat

namespace Volume

def blank : Volume := ⟨.empty, #[], 0⟩

instance : Inhabited Volume := ⟨blank⟩

/-! ## Looking -/

/-- Longest name of an entry in bytes. -/
def longestName : Nat := 255

/-- What is at a place.  The top of the volume is a folder. -/
def at? (volume : Volume) : Path → Option Node
  | [] => some .folder
  | place => (volume.entries.find? place).map (·.node)

/-- The place that one part of a path leads to from a place, which has to be a folder.  The root has
itself above it, as `dropLast` of no names is no names. -/
def step (volume : Volume) (here : Path) (part : String) : Except Refusal Path :=
  match volume.at? here with
  | none => .error .noEntry
  | some (.file _) => .error .notFolder
  | some .folder =>
    if part == "." then .ok here
    else if part == ".." then .ok here.dropLast
    else if longestName < part.utf8ByteSize then .error .nameTooLong
    else .ok (here ++ [part])

/-- The place that a path leads to from a place.  Everything on the way has to be a folder; what is
at the place itself does not matter. -/
def walk (volume : Volume) (here : Path) : Path → Except Refusal Path
  | [] => .ok here
  | part :: rest =>
    match volume.step here part with
    | .error e => .error e
    | .ok place => volume.walk place rest

/-- Longest text of a path in bytes. -/
def longestPath : Nat := 4095

/-- The place that a path leads to from the top. -/
def locate (volume : Volume) (path : Path) : Except Refusal Path :=
  if longestPath < path.textSize then .error .nameTooLong else volume.walk [] path

def find (volume : Volume) (path : Path) : Except Refusal Node :=
  match volume.locate path with
  | .error e => .error e
  | .ok place =>
    match volume.at? place with
    | some node => .ok node
    | none => .error .noEntry

def content (volume : Volume) (number : Nat) : Array UInt8 := volume.contents.getD number #[]

/-- The bytes of the file at a path. -/
def bytes? (volume : Volume) (path : Path) : Option Bytes :=
  match volume.find path with
  | .ok (.file number) => some (volume.content number).toList
  | _ => none

def isFolder (volume : Volume) (path : Path) : Bool :=
  match volume.find path with
  | .ok .folder => true
  | _ => false

def isFile (volume : Volume) (path : Path) : Bool :=
  match volume.find path with
  | .ok (.file _) => true
  | _ => false

/-- A place lies directly in a folder. -/
def isChild (folder place : Path) : Bool := !place.isEmpty && place.dropLast == folder

/-- A place lies somewhere below a folder. -/
def isBelow (folder place : Path) : Bool := folder.isPrefixOf place && place != folder

/-- The names in the folder at a place in ascending order, files with their size. -/
def namesIn (volume : Volume) (folder : Path) : List (String × Option Nat) :=
  (volume.entries.rows.filter fun e => isChild folder e.path).map fun e =>
    (e.path.getLastD "",
      match e.node with
      | .folder => none
      | .file number => some (volume.content number).size)

/-- The names in the folder that a path leads to. -/
def list? (volume : Volume) (path : Path) : Option (List (String × Option Nat)) :=
  match volume.locate path with
  | .error _ => none
  | .ok place => if volume.at? place = some .folder then some (volume.namesIn place) else none

/-! ## Changing -/

def set (volume : Volume) (place : Path) (node : Node) : Volume :=
  { volume with entries := volume.entries.put ⟨place, node⟩ }

def setContent (volume : Volume) (number : Nat) (content : Array UInt8) : Volume :=
  { volume with contents := volume.contents.setIfInBounds number content }

/-- Adds bytes at the end of a content. -/
def extendContent (volume : Volume) (number : Nat) (bytes : Bytes) : Volume :=
  { volume with contents := volume.contents.modify number (·.appendList bytes) }

/-- Makes a file with this content where a path leads to; a file that is there already gets the
content. -/
def write (volume : Volume) (path : Path) (bytes : Bytes) : Except Refusal Volume :=
  match volume.locate path with
  | .error e => .error e
  | .ok place =>
    match volume.at? place with
    | some .folder => .error .isFolder
    | some (.file number) => .ok (volume.setContent number bytes.toArray)
    | none =>
      let number := volume.contents.size
      .ok (({ volume with contents := volume.contents.push bytes.toArray }).set place (.file number))

/-- Adds bytes at the end of the file that a path leads to. -/
def append (volume : Volume) (path : Path) (bytes : Bytes) : Except Refusal Volume :=
  match volume.find path with
  | .error e => .error e
  | .ok .folder => .error .isFolder
  | .ok (.file number) => .ok (volume.extendContent number bytes)

/-- Cuts the file that a path leads to down to a length, or fills it up with zeros. -/
def resize (volume : Volume) (path : Path) (length : Nat) : Except Refusal Volume :=
  match volume.find path with
  | .error e => .error e
  | .ok .folder => .error .isFolder
  | .ok (.file number) =>
    let content := volume.content number
    .ok (volume.setContent number
      (content.take length ++ Array.replicate (length - content.size) 0))

def makeFolder (volume : Volume) (path : Path) : Except Refusal Volume :=
  match volume.locate path with
  | .error e => .error e
  | .ok place =>
    match volume.at? place with
    | some _ => .error .taken
    | none => .ok (volume.set place .folder)

/-- Goes along a path and makes the folders that are missing on it. -/
def makeAlong (volume : Volume) (here : Path) : Path → Except Refusal Unit × Volume
  | [] => (.ok (), volume)
  | part :: rest =>
    match volume.step here part with
    | .error e => (.error e, volume)
    | .ok place =>
      match volume.at? place with
      | some .folder => volume.makeAlong place rest
      | some (.file _) => (.error .taken, volume)
      | none => (volume.set place .folder).makeAlong place rest

/-- The part of a path along which folders are made.  A path that ends in a dot wants its last
folder to be there already. -/
def makeable (path : Path) : Path :=
  if path.getLast? == some "." then path.withoutDots.dropLast else path

/-- Makes the folder that a path leads to and those on the way to it, as far as they are missing.
Those that were made stay, even if a later one is refused. -/
def makeFolders (volume : Volume) (path : Path) : Except Refusal Unit × Volume :=
  match volume.find path with
  | .ok .folder => (.ok (), volume)
  | .ok (.file _) => (.error .taken, volume)
  | .error .noEntry =>
    match volume.makeAlong [] (makeable path) with
    | (.error e, volume) => (.error e, volume)
    | (.ok (), volume) => ((volume.find path).map fun _ => (), volume)
  | .error e => (.error e, volume)

def remove (volume : Volume) (path : Path) : Except Refusal Volume :=
  match volume.locate path with
  | .error e => .error e
  | .ok place =>
    match volume.at? place with
    | none => .error .noEntry
    | some .folder => .error .isFolder
    | some (.file _) => .ok { volume with entries := volume.entries.erase place }

/-- Nothing lies below a place. -/
def isEmptyFolder (volume : Volume) (place : Path) : Bool :=
  !volume.entries.rows.any fun e => isBelow place e.path

def removeFolder (volume : Volume) (path : Path) : Except Refusal Volume :=
  match volume.locate path with
  | .error e => .error e
  | .ok place =>
    match volume.at? place with
    | none => .error .noEntry
    | some (.file _) => .error .notFolder
    | some .folder =>
      if volume.isEmptyFolder place then .ok { volume with entries := volume.entries.erase place }
      else .error .notEmpty

/-- Removes a folder with everything below it. -/
def removeTree (volume : Volume) (path : Path) : Except Refusal Volume :=
  match volume.locate path with
  | .error e => .error e
  | .ok place =>
    match volume.at? place with
    | none => .error .noEntry
    | some (.file _) => .error .notFolder
    | some .folder =>
      .ok { volume with entries := volume.entries.keep fun e => !place.isPrefixOf e.path }

/-- Gives everything at and below one place another place.  A row that was at the other place gives
way. -/
def move (volume : Volume) (source target : Path) : Volume :=
  let moved := volume.entries.rows.filter fun e => source.isPrefixOf e.path
  let others := volume.entries.keep fun e => !source.isPrefixOf e.path && e.path != target
  { volume with
    entries := moved.foldl (fun table e =>
      table.put ⟨target ++ e.path.drop source.length, e.node⟩) others }

/-- Gives what is at one place another place.  A file replaces a file, a folder an empty folder;
giving something its own place changes nothing. -/
def renamePlace (volume : Volume) (source target : Path) : Except Refusal Volume :=
  match volume.at? source with
  | none => .error .noEntry
  | some node =>
    if isBelow source target then .error .invalid
    else if isBelow target source then .error .notEmpty
    else if source = target then .ok volume
    else match node, volume.at? target with
      | .file _, some .folder => .error .isFolder
      | .folder, some (.file _) => .error .notFolder
      | .folder, some .folder =>
        if volume.isEmptyFolder target then .ok (volume.move source target) else .error .notEmpty
      | _, _ => .ok (volume.move source target)

def rename (volume : Volume) (source target : Path) : Except Refusal Volume :=
  match volume.locate source, volume.locate target with
  | .error e, _ => .error e
  | _, .error e => .error e
  | .ok source, .ok target => volume.renamePlace source target

/-! ## Temporary names -/

def temporaryName (serial : Nat) : String :=
  "temp-00000000-0000-4000-8000-"
    ++ String.ofList ((Bytes.ofNatBE 6 serial).flatMap Bytes.hexPair) ++ ".blob"

/-- The first serial number not given yet whose name is free in a folder.  There is one among the
first that are one more than the entries. -/
def freeSerial (volume : Volume) (folder : Path) : Nat :=
  let serials := (List.range (volume.entries.rows.length + 1)).map (volume.drawn + ·)
  (serials.find? fun n => !(volume.find (folder ++ [temporaryName n])).toBool).getD volume.drawn

/-- Takes a temporary name that is free in a folder. -/
def drawName (volume : Volume) (folder : Path) : String × Volume :=
  let serial := volume.freeSerial folder
  (temporaryName serial, { volume with drawn := serial + 1 })

end Volume

end BlobCluster
