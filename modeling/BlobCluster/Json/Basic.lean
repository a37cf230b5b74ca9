import BlobCluster.Bytes.Utf8

/-!
# JSON values and their compact text

A value as it is read from a text, in the order of the text.  A text that stops being JSON is
still a value up to that place: `cut` stands where nothing sensible follows, and a container that
was not closed says so.  A reader of records can thus tell whether a wrong value or a broken text
comes first.  `render` writes the compact text of a value: no blanks, members in order, and only
those characters escaped that have to be.
-/

namespace BlobCluster

/-- A number by what it can be read as.  The bounds are those between which a reader passes from one
representation to the next. -/
inductive Json.Number where
  /-- A natural number below 2^64 written without point and exponent. -/
  | natural (n : Nat)
  /-- A negative number down to -2^63 written without point and exponent, by its absolute value. -/
  | negative (n : Nat)
  /-- Any other number: the sign, the first digits as a number and the power of ten to it. -/
  | real (minus : Bool) (significand : Nat) (exponent : Int)
  /-- A number too large for a binary fraction of 64 bits. -/
  | huge
  deriving DecidableEq, Repr

inductive Json where
  | null
  | bool (b : Bool)
  | number (n : Json.Number)
  /-- A string; without content if its escapes or bytes are no characters. -/
  | string (content : Option String)
  | array (items : List Json) (closed : Bool)
  /-- Members with their names; a name is missing if its escapes or bytes are no characters. -/
  | object (members : List (Option String × Json)) (closed : Bool)
  /-- The text is no JSON from here on. -/
  | cut
  deriving Repr

namespace Json

/-! ## Values to write -/

def text (s : String) : Json := .string (some s)
def nat (n : Nat) : Json := .number (.natural n)
def int (i : Int) : Json :=
  if i < 0 then .number (.negative i.natAbs) else .number (.natural i.natAbs)
def list (items : List Json) : Json := .array items true
def record (members : List (String × Json)) : Json :=
  .object (members.map fun (name, value) => (some name, value)) true
def texts (items : List String) : Json := list (items.map text)

/-! ## Text -/

/-- Four hexadecimal digits of a code below 2^16. -/
def hexFour (n : Nat) : List Char :=
  [Bytes.hexDigit (n / 4096 % 16), Bytes.hexDigit (n / 256 % 16), Bytes.hexDigit (n / 16 % 16),
    Bytes.hexDigit (n % 16)]

/-- One character inside a string. -/
def escapeChar (c : Char) : List Char :=
  if c = '"' then ['\\', '"']
  else if c = '\\' then ['\\', '\\']
  else if c = '\x08' then ['\\', 'b']
  else if c = '\x0c' then ['\\', 'f']
  else if c = '\n' then ['\\', 'n']
  else if c = '\r' then ['\\', 'r']
  else if c = '\t' then ['\\', 't']
  else if c.toNat < 0x20 then ['\\', 'u'] ++ hexFour c.toNat
  else [c]

def renderString (s : String) : String :=
  String.ofList ('"' :: s.toList.flatMap escapeChar ++ ['"'])

/-- A string that may have no content; then it is a surrogate without partner. -/
def renderContent : Option String → String
  | some s => renderString s
  | none => "\"\\ud800\""

/-- A number; those that are not whole stand by their digits and power of ten. -/
def renderNumber : Number → String
  | .natural n => toString n
  | .negative n => "-" ++ toString n
  | .real minus significand exponent =>
    (if minus then "-" else "") ++ toString significand ++ "e" ++ toString exponent
  | .huge => "1e999"

mutual

/-- The compact text of a value. -/
def render : Json → String
  | .null => "null"
  | .bool b => if b then "true" else "false"
  | .number n => renderNumber n
  | .string content => renderContent content
  | .array items closed => "[" ++ renderItems items ++ (if closed then "]" else "")
  | .object members closed =>
    "\x7b" ++ renderMembers members ++ (if closed then "\x7d" else "")
  | .cut => ""

/-- The items of an array with commas between them. -/
def renderItems : List Json → String
  | [] => ""
  | [item] => render item
  | item :: more :: rest => render item ++ "," ++ renderItems (more :: rest)

/-- The members of an object with commas between them. -/
def renderMembers : List (Option String × Json) → String
  | [] => ""
  | [(name, value)] => renderContent name ++ ":" ++ render value
  | (name, value) :: more :: rest =>
    renderContent name ++ ":" ++ render value ++ "," ++ renderMembers (more :: rest)

end

mutual

/-- Nesting depth of containers. -/
def depth : Json → Nat
  | .array items _ => 1 + depthItems items
  | .object members _ => 1 + depthMembers members
  | _ => 0

/-- Greatest depth of the items. -/
def depthItems : List Json → Nat
  | [] => 0
  | item :: rest => max (depth item) (depthItems rest)

/-- Greatest depth of the members. -/
def depthMembers : List (Option String × Json) → Nat
  | [] => 0
  | (_, value) :: rest => max (depth value) (depthMembers rest)

end

mutual

/-- The text was complete JSON: nothing cut, every container closed. -/
def whole : Json → Bool
  | .cut => false
  | .array items closed => closed && wholeItems items
  | .object members closed => closed && wholeMembers members
  | _ => true

/-- Every item is complete. -/
def wholeItems : List Json → Bool
  | [] => true
  | item :: rest => whole item && wholeItems rest

/-- Every member is complete. -/
def wholeMembers : List (Option String × Json) → Bool
  | [] => true
  | (_, value) :: rest => whole value && wholeMembers rest

end

end Json

end BlobCluster
