import BlobCluster.Http.Name.Label

/-!
# Host names

A host name in lowercase ASCII.  Characters are folded first, so that a name has one form however
it is typed; the labels between the dots are then read, checked and written.
-/

namespace BlobCluster.Http.Name

/-- A name with its characters folded, in normal form. -/
def folded? (name : List Char) : Option (List Char) :=
  if Label.isAscii name then some (name.map Char.toLower)
  else (name.mapM fold?).map fun parts => Text.normalize parts.flatten

/-- Either no label runs from right to left, or each label runs one way. -/
def agree (labels : List Label) : Bool :=
  !labels.any (·.any Label.runsLeft) || labels.all Label.runsOneWay

def labels? (name : List Char) : Option (List Label) := do
  let labels ← ((← folded? name).splitOn '.').mapM Label.read?
  if agree labels then some labels else none

/-- A name in lowercase ASCII. -/
def ascii? (name : List Char) : Option (List Char) :=
  (labels? name).map fun labels => List.intercalate ['.'] (labels.map Label.written)

end BlobCluster.Http.Name
