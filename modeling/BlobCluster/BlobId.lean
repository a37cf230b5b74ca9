import BlobCluster.Bytes.Utf8
import BlobCluster.Failure
import BlobCluster.Text.Quoted

/-!
# Blob ids

A blob id is the name of a file directly below the folder of a store, so it must not lead out of
that folder.  `validate` refuses every other text and says why; of several reasons the first in
the order of `Objection` is given.
-/

namespace BlobCluster.BlobId

/-- Why a text is no blob id. -/
inductive Objection where
  | empty
  | tooLong
  | notFileName
  | controlCharacter
  deriving DecidableEq, Repr

/-- Longest id in bytes. -/
def maxLength : Nat := 255

/-- A control character: the two blocks of controls and DELETE. -/
def isControl (c : Char) : Bool := c.toNat < 0x20 || (0x7F ≤ c.toNat && c.toNat ≤ 0x9F)

/-- The character separates the parts of a path. -/
def isSeparator (c : Char) : Bool := c == '/' || c == '\\'

def objection? (text : String) : Option Objection :=
  if text.isEmpty then some .empty
  else if maxLength < Bytes.utf8Length text then some .tooLong
  else if text.toList.any isSeparator || text == "." || text == ".." then some .notFileName
  else if text.toList.any isControl then some .controlCharacter
  else none

def Valid (text : String) : Prop := objection? text = none

instance (text : String) : Decidable (Valid text) := inferInstanceAs (Decidable (_ = _))

def Objection.text (id : String) : Objection → String
  | empty => "blob id cannot be empty"
  | tooLong => "blob id too long (max 255 bytes)"
  | notFileName => "blob id " ++ Text.quoted id ++ " is not a valid file name"
  | controlCharacter => "blob id contains invalid characters"

/-- Accepts the blob ids. -/
def validate (id : String) : Except Failure Unit :=
  match objection? id with
  | some objection => .error ⟨.invalidArgument, objection.text id⟩
  | none => .ok ()

theorem validate_eq_ok_iff {id : String} : validate id = .ok () ↔ Valid id := by
  unfold validate Valid
  cases objection? id <;> simp

end BlobCluster.BlobId
