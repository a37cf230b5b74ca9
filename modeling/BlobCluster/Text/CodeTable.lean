/-!
# Tables of characters

A table about characters is kept as lines of text, which are short to read and to write: rows
between commas, in a row numbers between blanks, and digits to the base sixteen.
-/

namespace BlobCluster.Text

/-- An inclusive range of code points. -/
structure CodeRange where
  first : Nat
  last : Nat
  deriving DecidableEq, Repr

namespace CodeTable

/-- The value of a capital hexadecimal digit. -/
def digitValue (c : Char) : Nat := if c.toNat < 58 then c.toNat - 48 else c.toNat - 55

/-- The number that digits to the base sixteen write. -/
def number (digits : List Char) : Nat := digits.foldl (fun n c => 16 * n + digitValue c) 0

def rows (lines : List String) : List (List Nat) :=
  lines.flatMap fun line =>
    (line.toList.splitOn ',').map fun row => (row.splitOn ' ').map number

/-- A row of one number is a single code point, a row of two a range. -/
def range? : List Nat → Option CodeRange
  | [only] => some ⟨only, only⟩
  | [first, last] => some ⟨first, last⟩
  | _ => none

/-- The ranges of a table. -/
def ranges (lines : List String) : List CodeRange := (rows lines).filterMap range?

/-- The character is in one of the ranges. -/
def covers (ranges : List CodeRange) (c : Char) : Bool :=
  ranges.any fun range => range.first ≤ c.toNat && c.toNat ≤ range.last

end CodeTable

end BlobCluster.Text
