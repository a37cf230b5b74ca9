import BlobCluster.Numeric.Shortest

/-!
# Numbers with a fraction

A number as a binary fraction of 64 bits holds it: a sign with a magnitude, an infinity, or no
number at all.
-/

namespace BlobCluster.Numeric

/-- A binary fraction of 64 bits. -/
inductive Real where
  | finite (minus : Bool) (magnitude : Nat)
  | infinite (minus : Bool)
  /-- Not a number. -/
  | undefined
  deriving DecidableEq, Repr

namespace Real

/-- The number nearest to a decimal, or an infinity beyond the largest.  A decimal whose first
digit stands beyond the 310th place before the point, or the 330th after it, is decided by that
alone. -/
def ofDecimal (minus : Bool) (significand : Nat) (exponent : Int) : Real :=
  let top := Int.ofNat (Magnitude.digitCount significand) + exponent
  if significand = 0 || top < -330 then finite minus 0
  else if 310 < top then infinite minus
  else
    let (a, b) := Magnitude.tenPower exponent
    let magnitude := Magnitude.ofRatio (significand * a) b
    if magnitude < Magnitude.infinite then finite minus magnitude else infinite minus

def isZero : Real → Bool
  | finite _ magnitude => magnitude == 0
  | _ => false

/-- The nearest natural number below 2^64, a half going up; what lies outside goes to the nearer
end, and what is no number to zero. -/
def toWord : Real → UInt64
  | finite true _ => 0
  | finite false magnitude =>
    let unit := Nat.pow 2 Magnitude.unitPlaces
    let rounded := (2 * magnitude + unit) / (2 * unit)
    UInt64.ofNat (min rounded (UInt64.size - 1))
  | infinite true => 0
  | infinite false => UInt64.ofNat (UInt64.size - 1)
  | undefined => 0

/-- The shortest positional text that reads back as the number. -/
def render : Real → String
  | finite minus magnitude => (if minus then "-" else "") ++ Magnitude.render magnitude
  | infinite minus => if minus then "-inf" else "inf"
  | undefined => "NaN"

end Real

end BlobCluster.Numeric
