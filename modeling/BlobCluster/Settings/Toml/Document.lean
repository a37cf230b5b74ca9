import BlobCluster.Settings.Toml.Moment
import BlobCluster.Settings.Toml.Scalar
import BlobCluster.Settings.Toml.Sheet
import BlobCluster.Settings.Toml.Text

/-!
# TOML files

A TOML file is a list of lines: headers, which say in which table the following lines are, and
entries, which give a key a value.  `readLines?` reads them, `Sheet` takes them in, and `read?` is
both.
-/

namespace BlobCluster.Settings.Toml

/-! ## Blanks, comments and keys -/

def skipBlanks (text : List Char) : List Char := text.dropWhile isBlank

/-- Drops a comment from the front, if there is one, up to the end of its line. -/
def skipComment? (text : List Char) : Option (List Char) :=
  match text with
  | '#' :: rest =>
    if (rest.takeWhile (!isLineEnd ·)).all isPrintable then some (rest.dropWhile (!isLineEnd ·))
    else none
  | other => some other

/-- Drops blanks, comments and line ends; `fuel` bounds their number. -/
def skipGapsWith? : Nat → List Char → Option (List Char)
  | 0, text => some text
  | fuel + 1, text =>
    match text.dropWhile isGap with
    | '#' :: rest => do skipGapsWith? fuel (← skipComment? ('#' :: rest))
    | other => some other

def skipGaps? (text : List Char) : Option (List Char) := skipGapsWith? text.length text

/-- Reads one name of a key: quoted, or plain letters, digits, underscores and dashes. -/
def readName? (text : List Char) : Option (String × List Char) :=
  match text with
  | [] => none
  | c :: rest => if c = '"' || c = '\'' then readShort? c rest else readPlain? text

/-- Reads the names of a key, with points and blanks between them; `fuel` bounds their number. -/
def readKeyWith? : Nat → List Char → Option (List String × List Char)
  | 0, _ => none
  | fuel + 1, text => do
    let (name, rest) ← readName? text
    match skipBlanks rest with
    | '.' :: rest => do
      let (names, rest) ← readKeyWith? fuel (skipBlanks rest)
      return (name :: names, rest)
    | rest => return ([name], rest)

/-- Most names of a key, and most lists and tables written inside one another. -/
def deepest : Nat := 80

/-- Reads a key with the blanks around it. -/
def readKey? (text : List Char) : Option (List String × List Char) :=
  (readKeyWith? text.length (skipBlanks text)).filter (·.1.length ≤ deepest)

/-! ## Values -/

/-- A character of a number, a word, a date or a time. -/
def isAtom (c : Char) : Bool :=
  c.isAlphanum || c == '+' || c == '-' || c == '_' || c == '.' || c == ':'

/-- Takes the characters of a scalar; a time may follow a date after one space. -/
def takeAtom (text : List Char) : List Char × List Char :=
  let atom := text.takeWhile isAtom
  match text.dropWhile isAtom with
  | ' ' :: c :: rest =>
    if isDate atom && c.isDigit then
      (atom ++ ' ' :: (c :: rest).takeWhile isAtom, (c :: rest).dropWhile isAtom)
    else (atom, ' ' :: c :: rest)
  | rest => (atom, rest)

/-- The value of a scalar that is no string. -/
def scalar? (atom : List Char) : Option Tree :=
  if atom = "true".toList then some (.bool true)
  else if atom = "false".toList then some (.bool false)
  else match whole? atom with
    | some i => if isSigned64 i then some (.integer i) else none
    | none => ((fraction? atom).map .real).or ((moment? atom).map .text)

/-- Entries of a table written as a value: keys with their values. -/
abbrev Entries := List (List String × Tree)

def tableOf? (entries : Entries) : Option Tree :=
  (entries.foldlM (fun sheet (key, value) => Sheet.add? value key sheet) []).map Sheet.tree

mutual

/-- Reads a value in which so many `levels` of lists and tables may stand; `fuel` bounds the number
of nested or following values. -/
def readValueWith? : Nat → Nat → List Char → Option (Tree × List Char)
  | 0, _, _ => none
  | fuel + 1, levels, text =>
    match text with
    | [] => none
    | c :: rest =>
      if c = '"' || c = '\'' then (readString? c rest).map fun (s, rest) => (.text s, rest)
      else if c = '[' then
        if levels = 0 then none
        else (readItemsWith? fuel (levels - 1) rest).map fun (items, rest) => (.list items, rest)
      else if c = '{' then
        if levels = 0 then none
        else do
          let (entries, rest) ← readEntriesWith? fuel (levels - 1) rest
          return (← tableOf? entries, rest)
      else
        let (atom, rest) := takeAtom text
        (scalar? atom).map fun value => (value, rest)

/-- Reads the items of a list up to its closing bracket; a comma may follow the last one. -/
def readItemsWith? : Nat → Nat → List Char → Option (List Tree × List Char)
  | 0, _, _ => none
  | fuel + 1, levels, text => do
    match ← skipGaps? text with
    | ']' :: rest => return ([], rest)
    | text =>
      let (item, rest) ← readValueWith? fuel levels text
      match ← skipGaps? rest with
      | ']' :: rest => return ([item], rest)
      | ',' :: rest => do
        let (items, rest) ← readItemsWith? fuel levels rest
        return (item :: items, rest)
      | _ => none

/-- Reads the entries of a table up to its closing brace; a comma may follow the last one. -/
def readEntriesWith? : Nat → Nat → List Char → Option (Entries × List Char)
  | 0, _, _ => none
  | fuel + 1, levels, text => do
    match ← skipGaps? text with
    | '}' :: rest => return ([], rest)
    | text =>
      let (key, rest) ← readKey? text
      let (value, rest) ← readValueWith? fuel levels (skipBlanks (← dropMark? '=' rest))
      match ← skipGaps? rest with
      | '}' :: rest => return ([(key, value)], rest)
      | ',' :: rest => do
        let (entries, rest) ← readEntriesWith? fuel levels rest
        return ((key, value) :: entries, rest)
      | _ => none

end

/-- Reads a value.  Every nested value and every further item takes at least one character, so
twice the length bounds the calls. -/
def readValue? (text : List Char) : Option (Tree × List Char) :=
  readValueWith? (2 * text.length + 2) deepest text

/-! ## Lines -/

/-- A line that says something. -/
inductive Line where
  /-- The following entries are in this table. -/
  | header (key : List String)
  /-- The following entries are in a new table at the end of this list. -/
  | rowHeader (key : List String)
  | entry (key : List String) (value : Tree)

/-- Reads a header or an entry. -/
def readLine? (text : List Char) : Option (Line × List Char) :=
  match text with
  | '[' :: '[' :: rest => do
    let (key, rest) ← readKey? rest
    return (.rowHeader key, ← dropMark? ']' (← dropMark? ']' rest))
  | '[' :: rest => do
    let (key, rest) ← readKey? rest
    return (.header key, ← dropMark? ']' rest)
  | text => do
    let (key, rest) ← readKey? text
    let (value, rest) ← readValue? (skipBlanks (← dropMark? '=' rest))
    return (.entry key value, rest)

/-- Reads all lines; after what a line says only blanks and a comment may follow.  `fuel` bounds
the number of lines. -/
def readLinesWith? : Nat → List Char → Option (List Line)
  | 0, _ => none
  | fuel + 1, text => do
    match ← skipGaps? text with
    | [] => return []
    | text =>
      let (line, rest) ← readLine? text
      match ← skipComment? (skipBlanks rest) with
      | [] => return [line]
      | rest => do return line :: (← readLinesWith? fuel (← dropLineEnd? rest))

def readLines? (text : List Char) : Option (List Line) := readLinesWith? (text.length + 1) text

/-! ## Files -/

/-- The tables so far and the table in which entries are. -/
structure Draft where
  sheet : Sheet
  place : List String

/-- Takes in one line. -/
def Draft.take? (draft : Draft) : Line → Option Draft
  | .header key => do
    let name ← key.getLast?
    return ⟨← draft.sheet.within? (Sheet.open? name) key.dropLast, key⟩
  | .rowHeader key => do
    let name ← key.getLast?
    return ⟨← draft.sheet.within? (Sheet.openRow? name) key.dropLast, key⟩
  | .entry key value => do
    return { draft with sheet := ← draft.sheet.within? (Sheet.add? value key) draft.place }

/-- The table that a file holds. -/
def read? (text : String) : Option Tree := do
  guard (hasWellEndedLines text.toList)
  let lines ← readLines? text.toList
  let draft ← lines.foldlM Draft.take? ⟨[], []⟩
  return draft.sheet.tree

end BlobCluster.Settings.Toml
