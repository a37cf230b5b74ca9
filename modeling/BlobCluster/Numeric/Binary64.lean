import BlobCluster.Numeric.Rounding

/-!
# Binary fractions of 64 bits

The magnitude of a finite binary fraction of 64 bits is a whole number of the smallest one,
2^-1074, with at most 53 significant bits.  A magnitude is that whole number here, so that every
operation is exact arithmetic followed by one rounding to the nearest, a half going to even.
-/

namespace BlobCluster.Numeric.Magnitude

/-- Binary places of the unit: a magnitude `k` stands for `k / 2^1074`. -/
def unitPlaces : Nat := 1074

/-- The first magnitude beyond the finite ones. -/
def infinite : Nat := Nat.pow 2 (1024 + unitPlaces)

/-- The magnitude nearest to a quotient. -/
def ofRatio (n d : Nat) : Nat :=
  let scaled := n * Nat.pow 2 unitPlaces
  let whole := scaled / d
  if whole < Nat.pow 2 53 then roundDiv scaled d
  else
    let unit := Nat.pow 2 (whole.log2 - 52)
    roundDiv scaled (d * unit) * unit

def ofNat (n : Nat) : Nat := ofRatio n 1

def mul (a b : Nat) : Nat := ofRatio (a * b) (Nat.pow 2 (2 * unitPlaces))

def div (a b : Nat) : Nat := ofRatio a b

def powerOfTen (n : Nat) : Nat := ofNat (Nat.pow 10 n)

/-- A significand with a power of ten, by at most one multiplication or repeated division, each
rounded; `none` beyond the finite magnitudes. -/
def scaleBy (magnitude : Nat) (exponent : Int) : Nat → Option Nat
  | 0 => if 0 ≤ exponent then some magnitude else some 0
  | fuel + 1 =>
    if magnitude = 0 then some 0
    else if exponent.natAbs ≤ 308 then
      if 0 ≤ exponent then
        let product := mul magnitude (powerOfTen exponent.natAbs)
        if product < infinite then some product else none
      else some (div magnitude (powerOfTen exponent.natAbs))
    else if 0 ≤ exponent then none
    else scaleBy (div magnitude (powerOfTen 308)) (exponent + 308) fuel

/-- The magnitude of a significand below 2^64 with a power of ten.  Four divisions by 10^308
leave nothing of any significand. -/
def ofScaled? (significand : Nat) (exponent : Int) : Option Nat :=
  scaleBy (ofNat significand) exponent 4

/-- A significand with a power of ten is in the finite range. -/
def scalesToFinite (significand : Nat) (exponent : Int) : Bool :=
  (ofScaled? significand exponent).isSome

end BlobCluster.Numeric.Magnitude
