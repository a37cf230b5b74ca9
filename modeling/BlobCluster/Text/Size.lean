import BlobCluster.Numeric.Rounding

/-!
# Sizes for people

A number of bytes is shown in the largest unit up to petabytes in which it is at least one, with
two places.  The number is first taken to 53 significant bits; dividing by 1024 then loses
nothing, and the two places are those of the exact value, a half going to the even neighbour.
-/

namespace BlobCluster.Text

/-- Bytes in a megabyte, the unit of space accounting. -/
def mebibyte : Nat := 1024 * 1024

/-- The nearest number with at most 53 significant bits. -/
def toSignificant (n : Nat) : Nat :=
  if n < Nat.pow 2 53 then n
  else
    let unit := Nat.pow 2 (n.log2 - 52)
    Numeric.roundDiv n unit * unit

/-- Units after the byte, each 1024 times the one before. -/
def sizeUnits : List String := ["KB", "MB", "GB", "TB", "PB"]

/-- The unit to show a size in and the number of bytes in it: the next larger unit is taken as
long as the size is at least one of it. -/
def chooseUnit (size scale : Nat) (unit : String) : List String → String × Nat
  | [] => (unit, scale)
  | larger :: rest =>
    if 1024 * scale ≤ size then chooseUnit size (1024 * scale) larger rest else (unit, scale)

/-- Hundredths with a point and two digits. -/
def showHundredths (n : Nat) : String :=
  toString (n / 100) ++ "." ++ String.ofList [Nat.digitChar (n / 10 % 10), Nat.digitChar (n % 10)]

/-- A number of bytes in its unit with two places. -/
def showSize (bytes : Nat) : String :=
  let size := toSignificant bytes
  let (unit, scale) := chooseUnit size 1 "B" sizeUnits
  showHundredths (Numeric.roundDiv (100 * size) scale) ++ " " ++ unit

/-- Whole megabytes that hold a number of bytes. -/
def megabytesFor (bytes : UInt64) : UInt64 :=
  UInt64.ofNat ((bytes.toNat + (mebibyte - 1)) / mebibyte)

end BlobCluster.Text
