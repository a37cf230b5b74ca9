import BlobCluster.Json.Reader

/-!
# Reading values of known types

A value that should be of some type can be wrong in two ways: the text breaks off being JSON
(`malformed`), or it is JSON of another shape (`mismatched`).  The first fault in the order of the
text is the one reported.  Records are objects, or arrays of their fields in order; unknown
members are skipped, a member given twice is an error, and an optional one may be missing.
-/

namespace BlobCluster.Json

/-- Why a value cannot be read as its type. -/
inductive Fault where
  | malformed
  | mismatched
  deriving DecidableEq, Repr

/-- A reading of a value. -/
abbrev Reading (α : Type) := Json → Except Fault α

/-! ## Scalars -/

/-- The fault of a value of another type than wanted.  Of containers only the opening bracket
has been looked at, everything else has been read to its end. -/
def otherType : Json → Fault
  | .cut => .malformed
  | .string none => .malformed
  | .number .huge => .malformed
  | _ => .mismatched

def asText : Reading String
  | .string (some s) => .ok s
  | other => .error (otherType other)

/-- A natural number below 2^64. -/
def asNatural : Reading UInt64
  | .number (.natural n) => .ok (UInt64.ofNat n)
  | other => .error (otherType other)

/-- A whole number of 64 bits with sign. -/
def asSigned : Reading Int64
  | .number (.natural n) => if n < Numeric.signedBound then .ok (Int64.ofInt n) else .error .mismatched
  | .number (.negative n) => .ok (Int64.ofInt (-n))
  | other => .error (otherType other)

def asBool : Reading Bool
  | .bool b => .ok b
  | other => .error (otherType other)

/-- The value is skipped: only its form counts. -/
def skipped : Reading Unit := fun value => if value.whole then .ok () else .error .malformed

def asTexts : Reading (List String)
  | .array items closed => do
    let texts ← items.mapM asText
    if closed then .ok texts else .error .malformed
  | other => .error (otherType other)

/-- One of several names, written as a string or as an object with that single member and no
value. -/
def asName {α : Type} (ofName? : String → Option α) : Reading α
  | .string (some s) =>
    match ofName? s with
    | some a => .ok a
    | none => .error .mismatched
  | .object ((some name, value) :: rest) closed =>
    match ofName? name with
    | none => .error .mismatched
    | some a =>
      match value with
      | .null => if closed && rest.isEmpty then .ok a else .error .malformed
      | other => .error (otherType other)
  | _ => .error .malformed

/-! ## Records -/

/-- A field of a record: its name, the test its value has to pass, and whether it may be
missing. -/
structure Field where
  name : String
  test : Json → Except Fault Unit
  optional : Bool

/-- A field whose value is read in this way. -/
def field {α : Type} (name : String) (reading : Reading α) : Field :=
  ⟨name, fun value => (reading value).map fun _ => (), false⟩

/-- A field that has a default. -/
def optionalField {α : Type} (name : String) (reading : Reading α) : Field :=
  ⟨name, fun value => (reading value).map fun _ => (), true⟩

/-- Fields with their values. -/
abbrev Members := List (String × Json)

/-- Members of an object in order: known ones are tested and kept, unknown ones skipped.  What is
skipped may have any names in it, but the names of the record itself have to be texts. -/
def takeMembers (fields : List Field) :
    Members → List (Option String × Json) → Except Fault Members
  | taken, [] => .ok taken.reverse
  | _, (none, _) :: _ => .error .malformed
  | taken, (some name, value) :: rest =>
    match fields.find? (·.name == name) with
    | none => do
      skipped value
      takeMembers fields taken rest
    | some f =>
      if taken.any (·.1 == name) then .error .mismatched
      else do
        f.test value
        takeMembers fields ((name, value) :: taken) rest

/-- Every field that has no default is there. -/
def noneMissing (fields : List Field) (taken : Members) : Bool :=
  fields.all fun f => f.optional || taken.any (·.1 == f.name)

/-- Items of an array taken as the fields in order. -/
def takeItems : List Field → List Json → Bool → Except Fault Members
  | [], [], closed => if closed then .ok [] else .error .malformed
  | [], _ :: _, _ => .error .malformed
  | f :: fields, [], closed =>
    if !closed then .error .malformed
    else if f.optional then takeItems fields [] closed
    else .error .mismatched
  | f :: fields, item :: items, closed => do
    f.test item
    let rest ← takeItems fields items closed
    return (f.name, item) :: rest

/-- The fields of a record that are present, each with a value that passes its test.  An array
stands for a record by position, which no sender of ours writes but the reader takes. -/
def asRecord (fields : List Field) : Reading Members
  | .object members closed => do
    let taken ← takeMembers fields [] members
    if !closed then .error .malformed
    else if noneMissing fields taken then .ok taken
    else .error .mismatched
  | .array items closed => takeItems fields items closed
  | other => .error (otherType other)

def Members.get {α : Type} (members : Members) (name : String) (reading : Reading α) :
    Except Fault α :=
  match members.lookup name with
  | some value => reading value
  | none => .error .mismatched

/-- The value of a field, or its default if it is missing. -/
def Members.getD {α : Type} (members : Members) (name : String) (reading : Reading α)
    (default : α) : Except Fault α :=
  match members.lookup name with
  | some value => reading value
  | none => .ok default

/-! ## Texts -/

/-- Reads a text that is one value of a type and nothing else.  The text is read to its end even if
the value is complete before, since anything but blanks after it is an error. -/
def decode? {α : Type} (reading : Reading α) (bytes : Bytes) : Option α :=
  let (value, ended) := readText bytes
  match reading value with
  | .ok a => if ended then some a else none
  | .error _ => none

end BlobCluster.Json
