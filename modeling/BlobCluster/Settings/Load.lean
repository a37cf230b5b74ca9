import BlobCluster.Settings.Coercion
import BlobCluster.Settings.Toml.Document
import BlobCluster.Storage.Volume

/-!
# Loading settings

Settings come from a file, named or the usual one of the working folder, and from variables of the
environment, which win over the file.  The format of a file is told by the end of its name.  The
file and the variables are put into one tree, and the settings are read from that.
-/

namespace BlobCluster.Settings

/-! ## Formats -/

/-- The formats of settings files. -/
inductive Format where
  | toml
  | json
  deriving DecidableEq, Repr

namespace Format

/-- Every format, in the order in which a file of unknown ending is looked for. -/
def all : List Format := [toml, json]

/-- How the names of files of a format end, after the point. -/
def ending : Format → String
  | toml => "toml"
  | json => "json"

/-- The format of a file with this name: what follows the last point tells it, if something stands
before that point. -/
def ofName? (name : String) : Option Format :=
  match (name.splitOn ".").reverse with
  | last :: before :: rest =>
    if before.isEmpty && rest.isEmpty then none else all.find? (·.ending == last)
  | _ => none

end Format

/-! ## Trees from JSON -/

mutual

/-- The tree that a complete JSON value says.  A whole number beyond 64 bits is a fraction; of
members with one name the last counts. -/
def treeOfJson? : Json → Option Tree
  | .null => some .null
  | .bool b => some (.bool b)
  | .number (.natural n) => some (.integer n)
  | .number (.negative n) => some (.integer (-Int.ofNat n))
  | .number (.real minus significand exponent) =>
    (Numeric.Magnitude.ofScaled? significand exponent).map fun m => .real (.finite minus m)
  | .number .huge => none
  | .string content => content.map .text
  | .array items closed => do
    let trees ← treesOfItems? items
    if closed then return .list trees else none
  | .object members closed => do
    let trees ← treesOfMembers? [] members
    if closed then return .table trees else none
  | .cut => none

/-- The trees of the items of an array. -/
def treesOfItems? : List Json → Option (List Tree)
  | [] => some []
  | item :: rest => do return (← treeOfJson? item) :: (← treesOfItems? rest)

/-- The trees of the members of an object, added to those before. -/
def treesOfMembers? (before : List (String × Tree)) :
    List (Option String × Json) → Option (List (String × Tree))
  | [] => some before
  | (none, _) :: _ => none
  | (some name, value) :: rest => do
    treesOfMembers? (setMember name (← treeOfJson? value) before) rest

end

/-- Deepest nesting of a JSON file. -/
def deepest : Nat := 127

/-- The table that a JSON file holds. -/
def readJson? (bytes : Bytes) : Option Tree :=
  let (value, ended) := Json.readText bytes
  if ended && value.depth ≤ deepest then treeOfJson? value else none

/-! ## Files -/

/-- The mark of UTF-8 that may stand before the text of a file. -/
def mark : Bytes := [0xEF, 0xBB, 0xBF]

/-- The bytes after the mark. -/
def withoutMark (bytes : Bytes) : Bytes :=
  if mark.isPrefixOf bytes then bytes.drop mark.length else bytes

/-- The members that a file of a format says at its top. -/
def Format.read? (format : Format) (bytes : Bytes) : Option (List (String × Tree)) :=
  let text := Bytes.lossyUtf8 (withoutMark bytes)
  let tree := match format with
    | toml => Toml.read? text
    | json => readJson? (Bytes.toUtf8 text)
  match tree with
  | some (.table members) => some members
  | _ => none

/-- The path with a point and an ending after its last name. -/
def withEnding (path : Path) (ending : String) : Path :=
  path.dropLast ++ [path.getLastD "" ++ "." ++ ending]

/-- The format and the bytes of the settings file at a path.  Where no file is, those of a file of
that name with the ending of a format. -/
def locate? (volume : Volume) (path : Path) : Option (Format × Bytes) :=
  match volume.bytes? path with
  | some bytes => (Format.ofName? (path.getLastD "")).map fun format => (format, bytes)
  | none => Format.all.findSome? fun format =>
      (volume.bytes? (withEnding path format.ending)).map fun bytes => (format, bytes)

/-! ## Variables -/

/-- How the names of the variables begin that are settings, in lower case. -/
def heading : String := "triblob__"

/-- A character of the name of a variable in lower case.  Beyond ASCII only the Kelvin sign
becomes a character that the name of a setting can hold. -/
def lowerChar (c : Char) : Char := if c = '\u212a' then 'k' else c.toLower

/-- The key that a variable sets: what follows the heading, in lower case, with a point for two
underscores. -/
def keyOfVariable? (name : String) : Option String :=
  let name := String.ofList (name.toList.map lowerChar)
  if name.startsWith heading then
    some ((String.ofList (name.toList.drop heading.length)).replace "__" ".")
  else none

/-- What the variables of the environment say, as texts under their keys. -/
def entriesOfVariables (environment : List (String × String)) : List (String × Tree) :=
  environment.filterMap fun (name, value) => (keyOfVariable? name).map fun key => (key, .text value)

/-! ## Loading -/

/-- Why settings cannot be loaded. -/
inductive LoadFault where
  /-- There is no file of a known format. -/
  | noFile
  /-- The text of the file is not of its format. -/
  | unreadable
  /-- A value cannot stand for its setting. -/
  | unfit
  deriving DecidableEq, Repr

def LoadFault.text : LoadFault → String
  | noFile => "there is no settings file of a known format"
  | unreadable => "the settings file is not of its format"
  | unfit => "a value is not of the type of its setting"

def LoadFault.failure (fault : LoadFault) : Failure := ⟨.invalidConfig, fault.text⟩

/-- The name of the usual settings file, without ending. -/
def usualName : String := "triblob"

/-- What the file says.  A named file has to be there, the usual one of the folder does not. -/
def entriesOfFile (volume : Volume) (folder : Path) (file? : Option Path) :
    Except LoadFault (List (String × Tree)) :=
  match locate? volume (file?.getD (folder ++ [usualName])) with
  | some (format, bytes) =>
    match format.read? bytes with
    | some members => .ok members
    | none => .error .unreadable
  | none => if file?.isSome then .error .noFile else .ok []

/-- Loads the settings from a file and from the environment; of several that say the same the
later one counts. -/
def loadFrom (volume : Volume) (folder : Path) (file? : Option Path)
    (environment : List (String × String)) : Except LoadFault Settings := do
  let members ← entriesOfFile volume folder file?
  let tree := ((Tree.table []).setAll members).setAll (entriesOfVariables environment)
  match ofTree? tree with
  | some settings => .ok settings
  | none => .error .unfit

/-- Loads the settings; what goes wrong is an invalid configuration. -/
def load (volume : Volume) (folder : Path) (file? : Option Path)
    (environment : List (String × String)) : Except Failure Settings :=
  (loadFrom volume folder file? environment).mapError LoadFault.failure

end BlobCluster.Settings
