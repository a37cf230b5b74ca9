import BlobCluster.Settings.Tree

/-!
# Tables of a TOML file under construction

Headers and dotted keys may come back to a table that an earlier line began, but not to every one.
A sheet is the list of members of a table with, for each table in it, how it came about
(`Standing`):

* a header opens a table that is new or was only passed through by other headers,
* a dotted key adds to a table that dotted keys began or that headers have only passed through,
* a table or list written as a value is complete.
-/

namespace BlobCluster.Settings.Toml

/-- How a table came about. -/
inductive Standing where
  /-- Headers of tables inside it passed through it. -/
  | passed
  /-- Dotted keys began it. -/
  | dotted
  /-- A header opened it. -/
  | opened
  deriving DecidableEq, Repr

/-- The standing of a table to which a dotted key has led: the one it adds its value to becomes a
table of dotted keys.  A table that a header has opened is closed to dotted keys. -/
def Standing.addedTo? (atEnd : Bool) : Standing → Option Standing
  | .passed => some (if atEnd then .dotted else .passed)
  | .dotted => some .dotted
  | .opened => none

/-- A member of a table under construction. -/
inductive Node where
  | value (tree : Tree)
  | table (standing : Standing) (members : List (String × Node))
  /-- A list of tables that headers began; only the last one is still open. -/
  | rows (earlier : List Tree) (last : List (String × Node))

/-- The members of a table under construction. -/
abbrev Sheet := List (String × Node)

namespace Sheet

/-! ## What a sheet says -/

mutual

/-- The value that a node holds. -/
def treeOf : Node → Tree
  | .value tree => tree
  | .table _ members => .table (treesOf members)
  | .rows earlier last => .list (earlier ++ [.table (treesOf last)])

/-- The values that members hold. -/
def treesOf : List (String × Node) → List (String × Tree)
  | [] => []
  | (name, node) :: rest => (name, treeOf node) :: treesOf rest

end

def tree (sheet : Sheet) : Tree := .table (treesOf sheet)

/-! ## Dotted keys -/

/-- Adds a value under a key of one or more names; a name that is taken is refused. -/
def add? (value : Tree) : List String → Sheet → Option Sheet
  | [], _ => none
  | name :: more, sheet =>
    match sheet.lookup name with
    | none =>
      if more.isEmpty then some (sheet ++ [(name, .value value)])
      else (add? value more []).map fun sub => sheet ++ [(name, .table .dotted sub)]
    | some node =>
      if more.isEmpty then none
      else match node with
        | .value _ => none
        | .table standing sub => do
          let standing ← standing.addedTo? (more.length == 1)
          let sub ← add? value more sub
          return setMember name (.table standing sub) sheet
        | .rows earlier last =>
          if more.length = 1 then none
          else (add? value more last).map fun last => setMember name (.rows earlier last) sheet

/-! ## Headers -/

/-- Changes the sheet at a path of headers; a table that is missing on the way is made, and of a
list of tables the last one is meant. -/
def within? (change : Sheet → Option Sheet) : List String → Sheet → Option Sheet
  | [], sheet => change sheet
  | name :: more, sheet =>
    match sheet.lookup name with
    | none => (within? change more []).map fun sub => sheet ++ [(name, .table .passed sub)]
    | some (.table standing sub) =>
      (within? change more sub).map fun sub => setMember name (.table standing sub) sheet
    | some (.rows earlier last) =>
      (within? change more last).map fun last => setMember name (.rows earlier last) sheet
    | some (.value _) => none

/-- Opens a table: it is new, or headers have only passed through it. -/
def open? (name : String) (sheet : Sheet) : Option Sheet :=
  match sheet.lookup name with
  | none => some (sheet ++ [(name, .table .opened [])])
  | some (.table .passed sub) => some (setMember name (.table .opened sub) sheet)
  | some _ => none

/-- Opens a further table of a list of tables. -/
def openRow? (name : String) (sheet : Sheet) : Option Sheet :=
  match sheet.lookup name with
  | none => some (sheet ++ [(name, .rows [] [])])
  | some (.rows earlier last) =>
    some (setMember name (.rows (earlier ++ [.table (treesOf last)]) []) sheet)
  | some _ => none

end Sheet

end BlobCluster.Settings.Toml
