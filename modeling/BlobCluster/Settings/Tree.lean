import BlobCluster.Numeric.Real

/-!
# Trees of settings

What a settings file says before its values are read as anything: scalars, lists and tables.  A
`Route` leads from a tree to a place in it, `Tree.set` puts a value there, and a table that is put
on a table is merged into it, member by member.
-/

namespace BlobCluster.Settings

/-! ## Members -/

/-- Gives a member a value; a new member comes last. -/
def setMember {α : Type} (name : String) (value : α) : List (String × α) → List (String × α)
  | [] => [(name, value)]
  | (other, old) :: rest =>
    if other = name then (name, value) :: rest else (other, old) :: setMember name value rest

theorem lookup_setMember {α : Type} (name : String) (value : α) (ms : List (String × α)) :
    (setMember name value ms).lookup name = some value := by
  induction ms with
  | nil => simp [setMember]
  | cons m rest ih =>
    obtain ⟨other, old⟩ := m
    by_cases h : other = name
    · simp [setMember, h]
    · have differ : (name == other) = false := beq_false_of_ne fun e => h e.symm
      rw [setMember, if_neg h, List.lookup_cons, differ]
      exact ih

/-! ## Trees -/

/-- A value of a settings file. -/
inductive Tree where
  | null
  | bool (b : Bool)
  | integer (i : Int)
  | real (r : Numeric.Real)
  | text (s : String)
  | list (items : List Tree)
  /-- Members with distinct names. -/
  | table (members : List (String × Tree))

namespace Tree

/-! ## Parts -/

/-- The value of a member, null for one that is not there. -/
def memberD (ms : List (String × Tree)) (name : String) : Tree := (ms.lookup name).getD null

/-- The members of a table; of anything else there are none. -/
def members : Tree → List (String × Tree)
  | table ms => ms
  | _ => []

/-- The items of a list; of anything else there are none. -/
def items : Tree → List Tree
  | list xs => xs
  | _ => []

/-! ## Merging -/

mutual

/-- Puts a value in the place of another.  A table is merged into the table that is there; any
other value replaces what is there. -/
def merge (old : Tree) : Tree → Tree
  | table ms => table (mergeMembers old.members ms)
  | value => value

def mergeMembers (old : List (String × Tree)) : List (String × Tree) → List (String × Tree)
  | [] => old
  | (name, value) :: rest =>
    mergeMembers (setMember name (merge (memberD old name) value) old) rest

end

end Tree

/-! ## Routes -/

/-- One step into a tree. -/
inductive Step where
  | member (name : String)
  /-- An item by its place, counted from the end if negative. -/
  | item (place : Int)
  deriving DecidableEq, Repr

/-- Steps from the root of a tree. -/
abbrev Route := List Step

/-- A character of a plain name. -/
def isPlain (c : Char) : Bool := c.isAlphanum || c == '_' || c == '-'

def readPlain? (text : List Char) : Option (String × List Char) :=
  match text.takeWhile isPlain with
  | [] => none
  | name => some (String.ofList name, text.dropWhile isPlain)

def skipSpaces (text : List Char) : List Char := text.dropWhile fun c => c == ' ' || c == '\t'

/-- Reads a place in brackets, after the opening one; blanks may stand around it. -/
def readPlace? (text : List Char) : Option (Int × List Char) :=
  let (minus, text) := match skipSpaces text with
    | '-' :: rest => (true, rest)
    | other => (false, other)
  match text.takeWhile Char.isDigit, skipSpaces (text.dropWhile Char.isDigit) with
  | [], _ => none
  | digits, ']' :: rest => do
    let n ← (String.ofList digits).toNat?
    if n < Numeric.signedBound then return (if minus then -Int.ofNat n else Int.ofNat n, rest) else none
  | _, _ => none

/-- Reads the steps after the first; `fuel` bounds their number. -/
def readSteps? : Nat → List Char → Option Route
  | _, [] => some []
  | 0, _ :: _ => none
  | fuel + 1, '.' :: rest => do
    let (name, rest) ← readPlain? rest
    return .member name :: (← readSteps? fuel rest)
  | fuel + 1, '[' :: rest => do
    let (place, rest) ← readPlace? rest
    return .item place :: (← readSteps? fuel rest)
  | _ + 1, _ :: _ => none

/-- Reads plain names with points between them and places in brackets. -/
def readRoute? (text : List Char) : Option Route := do
  let (name, rest) ← readPlain? text
  return .member name :: (← readSteps? rest.length rest)

/-- The route that a key stands for; a key that is none stands for a member of that name. -/
def Route.ofKey (key : String) : Route := (readRoute? key.toList).getD [.member key]

namespace Tree

/-- The list with a place for an item, and its number from the front; missing items are null. -/
def makeRoom (xs : List Tree) (place : Int) : List Tree × Nat :=
  if 0 ≤ place then
    (xs ++ List.replicate (place.toNat + 1 - xs.length) null, place.toNat)
  else if place.natAbs ≤ xs.length then (xs, xs.length - place.natAbs)
  else (List.replicate (place.natAbs - xs.length) null ++ xs, 0)

/-- Changes the value at the end of a route.  What stands in the way is replaced by an empty table
or list. -/
def alter (change : Tree → Tree) : Route → Tree → Tree
  | [], tree => change tree
  | .member name :: rest, tree =>
    table (setMember name (alter change rest (memberD tree.members name)) tree.members)
  | .item place :: rest, tree =>
    let (xs, i) := makeRoom tree.items place
    list (xs.set i (alter change rest (xs.getD i null)))

def set (tree : Tree) (route : Route) (value : Tree) : Tree :=
  alter (fun old => merge old value) route tree

/-- Puts the values of keys into a tree, one after the other. -/
def setAll (tree : Tree) (entries : List (String × Tree)) : Tree :=
  entries.foldl (fun tree (key, value) => tree.set (Route.ofKey key) value) tree

end Tree

end BlobCluster.Settings
