import BlobCluster.Bytes

/-!
# Strings of a TOML file

A string stands between quotes, single or double, once or thrice.  `readRaw?` and `readRawLong?`
find where it ends; what is between double quotes is then decoded by `unescape?`.  A line ends in a
line feed, with or without a carriage return before it; a string of several lines keeps either.
-/

namespace BlobCluster.Settings.Toml

/-! ## Characters -/

def isLineEnd (c : Char) : Bool := c == '\n' || c == '\r'

/-- Every carriage return stands before a line feed. -/
def hasWellEndedLines : List Char → Bool
  | [] => true
  | '\r' :: '\n' :: rest => hasWellEndedLines rest
  | c :: rest => c != '\r' && hasWellEndedLines rest

/-- Removes the end of a line from the front, if it is there. -/
def dropLineEnd? : List Char → Option (List Char)
  | '\n' :: rest => some rest
  | '\r' :: '\n' :: rest => some rest
  | _ => none

/-- A blank within a line. -/
def isBlank (c : Char) : Bool := c == ' ' || c == '\t'

/-- A blank or a character of the end of a line. -/
def isGap (c : Char) : Bool := isBlank c || isLineEnd c

/-- A character that may stand for itself within a line. -/
def isPrintable (c : Char) : Bool := c == '\t' || (0x20 ≤ c.toNat && c.toNat ≠ 0x7F)

/-! ## Ends -/

/-- The characters up to a quote and the rest after it.  Where escapes count, the character after
a backslash does not end the string. -/
def readRaw? (quote : Char) (escapes : Bool) : List Char → Option (List Char × List Char)
  | [] => none
  | [c] => if c = quote then some ([], []) else none
  | c :: d :: rest =>
    if c = quote then some ([], d :: rest)
    else if escapes && c == '\\' then
      (readRaw? quote escapes rest).map fun (raw, rest) => (c :: d :: raw, rest)
    else (readRaw? quote escapes (d :: rest)).map fun (raw, rest) => (c :: raw, rest)

/-- Number of quotes at the front, up to five. -/
def quoteRun (quote : Char) (text : List Char) : Nat :=
  ((text.take 5).takeWhile (· == quote)).length

/-- The characters up to three quotes in a row and the rest after these; one or two more quotes
right before the last three belong to the string. -/
def readRawLong? (quote : Char) (escapes : Bool) : List Char → Option (List Char × List Char)
  | [] => none
  | c :: rest =>
    let run := quoteRun quote (c :: rest)
    if 3 ≤ run then some (List.replicate (run - 3) quote, (c :: rest).drop run)
    else if escapes && c == '\\' then
      match rest with
      | [] => none
      | d :: rest => (readRawLong? quote escapes rest).map fun (raw, rest) => (c :: d :: raw, rest)
    else (readRawLong? quote escapes rest).map fun (raw, rest) => (c :: raw, rest)

/-! ## Escapes -/

/-- What a decoder of escapes expects next. -/
inductive Mode where
  | plain
  | escape
  /-- That many hexadecimal digits are owed; the number read so far. -/
  | hex (owed : Nat) (code : Nat)
  /-- Blanks after a backslash, up to the end of the line. -/
  | lineEnd
  /-- Blanks of further lines. -/
  | margin

/-- The character of a short escape. -/
def shortEscape? (c : Char) : Option Char :=
  if c = 'b' then some '\x08'
  else if c = 't' then some '\t'
  else if c = 'n' then some '\n'
  else if c = 'f' then some '\x0c'
  else if c = 'r' then some '\r'
  else if c = 'e' then some '\x1b'
  else if c = '"' || c = '\\' then some c
  else none

/-- Number of hexadecimal digits after the letter of a numeric escape. -/
def hexLength? (c : Char) : Option Nat :=
  if c = 'x' then some 2 else if c = 'u' then some 4 else if c = 'U' then some 8 else none

/-- The character with this code point. -/
def charOf? (code : Nat) : Option Char := if code.isValidChar then some (Char.ofNat code) else none

/-- Decodes what stands between double quotes; `long` strings go over several lines, of which a
backslash at the end of one joins it to the text of the next. -/
def unescape? (long : Bool) : Mode → List Char → Option (List Char)
  | .plain, [] => some []
  | .margin, [] => some []
  | _, [] => none
  | .escape, c :: rest =>
    match shortEscape? c, hexLength? c with
    | some e, _ => (unescape? long .plain rest).map (e :: ·)
    | none, some owed => unescape? long (.hex owed 0) rest
    | none, none =>
      if long && isLineEnd c then unescape? long .margin rest
      else if long && isBlank c then unescape? long .lineEnd rest
      else none
  | .hex owed code, c :: rest =>
    match Bytes.hexValue? c with
    | none => none
    | some digit =>
      let code := 16 * code + digit
      if 1 < owed then unescape? long (.hex (owed - 1) code) rest
      else
        match charOf? code with
        | none => none
        | some e => (unescape? long .plain rest).map (e :: ·)
  | .lineEnd, c :: rest =>
    if isLineEnd c then unescape? long .margin rest
    else if isBlank c then unescape? long .lineEnd rest
    else none
  | .margin, c :: rest =>
    if isGap c then unescape? long .margin rest
    else if c = '\\' then unescape? long .escape rest
    else if isPrintable c then (unescape? long .plain rest).map (c :: ·)
    else none
  | .plain, c :: rest =>
    if c = '\\' then unescape? long .escape rest
    else if isPrintable c || (long && isLineEnd c) then (unescape? long .plain rest).map (c :: ·)
    else none

/-- The content of a string without escapes. -/
def literal? (long : Bool) (raw : List Char) : Option (List Char) :=
  if raw.all fun c => isPrintable c || (long && isLineEnd c) then some raw else none

/-! ## Strings -/

/-- Decodes the characters between the quotes. -/
def decode? (quote : Char) (long : Bool) (raw : List Char) : Option String :=
  (if quote = '"' then unescape? long .plain raw else literal? long raw).map String.ofList

/-- Reads a string of one line, after its opening quote. -/
def readShort? (quote : Char) (text : List Char) : Option (String × List Char) := do
  let (raw, rest) ← readRaw? quote (quote == '"') text
  return (← decode? quote false raw, rest)

/-- Reads a string of several lines, after its opening quotes; a line end right there does not
count. -/
def readLong? (quote : Char) (text : List Char) : Option (String × List Char) := do
  let text := (dropLineEnd? text).getD text
  let (raw, rest) ← readRawLong? quote (quote == '"') text
  return (← decode? quote true raw, rest)

/-- Reads a string of either length, after its first quote. -/
def readString? (quote : Char) (text : List Char) : Option (String × List Char) :=
  match text with
  | c :: d :: rest =>
    if c = quote && d = quote then readLong? quote rest else readShort? quote text
  | _ => readShort? quote text

end BlobCluster.Settings.Toml
