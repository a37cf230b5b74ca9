import BlobCluster.Http.Name.Letters
import BlobCluster.Http.Punycode
import BlobCluster.Text.Composition
import BlobCluster.Text.Direction
import BlobCluster.Text.Joining

/-!
# Labels

The parts of a host name between dots.  A label with characters beyond ASCII has a form in ASCII,
which starts with `xn--`.  Not every text is such a label: it has to be in normal form, to start
with no mark, to hold joiners only where they show, and to run in one direction where any label of
the name runs from right to left.
-/

namespace BlobCluster.Http.Name

open Text

abbrev Label := List Char

namespace Label

def isAscii (label : Label) : Bool := label.all (·.toNat < 128)

/-- How the ASCII form of a label starts. -/
def mark : List Char := "xn--".toList

/-- The text has the start of an ASCII form. -/
def isMarked (label : Label) : Bool := mark.isPrefixOf label

/-! ## Joiners -/

/-- The first character that is not transparent. -/
def firstOpaque? (text : List Char) : Option Char := text.find? (!isTransparent ·)

/-- A joiner shows after a virama; one that keeps letters apart also shows between two letters
that would join. -/
def joinerShows (before : List Char) (joiner : Char) (after : List Char) : Bool :=
  before.head?.any isVirama ||
    joiner.toNat == 0x200C && (firstOpaque? before).any joinsNext &&
      (firstOpaque? after).any joinsPrevious

/-- Each joiner shows, where the characters before the rest of a label are given in reverse. -/
def joinersShow (before : List Char) : List Char → Bool
  | [] => true
  | c :: rest =>
    (if c.toNat == 0x200C || c.toNat == 0x200D then joinerShows before c rest else true) &&
      joinersShow (c :: before) rest

/-! ## Directions -/

/-- The character makes its name one that runs from right to left.  There is none before the
Hebrew letters. -/
def runsLeft (c : Char) : Bool :=
  0x590 ≤ c.toNat &&
    [Direction.rightToLeft, .arabicLetter, .arabicDigit].contains (Direction.ofChar c)

/-- What a label that starts with a letter from left to right may hold. -/
def rightward : List Direction :=
  [.leftToRight, .europeanDigit, .europeanSeparator, .commonSeparator, .europeanTerminator,
    .neutral, .boundary, .nonspacing]

/-- What a label that starts with a letter from right to left may hold. -/
def leftward : List Direction :=
  [.rightToLeft, .arabicLetter, .arabicDigit, .europeanDigit, .europeanSeparator,
    .commonSeparator, .europeanTerminator, .neutral, .boundary, .nonspacing]

/-- The directions of a label agree with its first one, and so does the last one that is of no
mark. -/
def runsOneWay (label : Label) : Bool :=
  let directions := label.map Direction.ofChar
  let last := (directions.reverse.find? (· != .nonspacing)).getD .neutral
  match directions with
  | [] => true
  | .leftToRight :: _ =>
    directions.all rightward.contains && [Direction.leftToRight, .europeanDigit].contains last
  | first :: _ =>
    [Direction.rightToLeft, .arabicLetter].contains first && directions.all leftward.contains &&
      [Direction.rightToLeft, .arabicLetter, .europeanDigit, .arabicDigit].contains last &&
      !(directions.contains .europeanDigit && directions.contains .arabicDigit)

/-! ## Forms -/

/-- Longest label with characters beyond ASCII. -/
def longest : Nat := 1000

/-- Longest ASCII form of a label, without its start. -/
def longestForm : Nat := 2000

/-- A text may be a label, as far as one label alone can tell.  In ASCII there is nothing to look
for. -/
def isSound (label : Label) : Bool :=
  isAscii label ||
    label.all isPlain && normalize label == label && !label.head?.any isMark &&
      joinersShow [] label && label.length ≤ longest && !isMarked label

/-- The label that a text between dots stands for. -/
def read? (text : List Char) : Option Label := do
  let label ←
    if isMarked text then
      let form := text.drop mark.length
      if isAscii form && form.length ≤ longestForm then Punycode.decode? form else none
    else some text
  if isSound label then some label else none

def written (label : Label) : List Char :=
  if isAscii label then label else mark ++ Punycode.encode label

end Label

end BlobCluster.Http.Name
