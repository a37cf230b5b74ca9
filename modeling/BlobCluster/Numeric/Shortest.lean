import BlobCluster.Numeric.Binary64

/-!
# Shortest decimal of a binary fraction

Among the decimals that round back to a magnitude, `shortest` takes one with the fewest digits and
of those the nearest.  The decimals that round back are an interval around the magnitude, whose
ends belong to it if the significand is even.  If a decimal of `n` digits lies in the interval, so
does one of the two neighbours of the magnitude on the grid of `n` digits, and only these are
tested.
-/

namespace BlobCluster.Numeric.Magnitude

/-! ## The interval that rounds to a magnitude -/

/-- Distance to the next magnitude above. -/
def gapAbove (k : Nat) : Nat := Nat.pow 2 (k.log2 - 52)

/-- Distance to the next magnitude below: half of the other at a power of two. -/
def gapBelow (k : Nat) : Nat :=
  if k = Nat.pow 2 k.log2 ∧ 52 < k.log2 then gapAbove k / 2 else gapAbove k

def isEven (k : Nat) : Bool := k / gapAbove k % 2 == 0

/-- A positive quotient, in units, rounds to the magnitude. -/
def nearest (k n d : Nat) : Bool :=
  let low := (4 * k - 2 * gapBelow k) * d
  let high := (4 * k + 2 * gapAbove k) * d
  if isEven k then low ≤ 4 * n && 4 * n ≤ high else low < 4 * n && 4 * n < high

/-! ## Decimal grids -/

def digitCount (n : Nat) : Nat := (Nat.toDigits 10 n).length

/-- The power of ten of the first digit of a positive magnitude. -/
def decade (k : Nat) : Int :=
  let unit := Nat.pow 2 unitPlaces
  if unit ≤ k then Int.ofNat (digitCount (k / unit)) - 1
  else
    match (List.range (unitPlaces + 1)).find? fun t => unit ≤ k * Nat.pow 10 t with
    | some t => -Int.ofNat t
    | none => -Int.ofNat unitPlaces

/-- A power of ten as numerator and denominator. -/
def tenPower (exponent : Int) : Nat × Nat :=
  if 0 ≤ exponent then (Nat.pow 10 exponent.natAbs, 1) else (1, Nat.pow 10 exponent.natAbs)

/-- The neighbour on the grid of `10 ^ exponent` that rounds back to the magnitude; of two the
nearer, and the upper one from the middle on. -/
def onGrid? (k : Nat) (exponent : Int) : Option Nat :=
  let (a, b) := tenPower exponent
  let step := a * Nat.pow 2 unitPlaces
  let below := k * b / step
  let fits (c : Nat) : Bool := nearest k (c * step) b
  if fits below then
    if fits (below + 1) && (2 * below + 1) * step ≤ 2 * (k * b) then some (below + 1)
    else some below
  else if fits (below + 1) then some (below + 1)
  else none

/-- Digits and power of ten of the shortest decimal of a positive magnitude: seventeen digits
always suffice. -/
def shortest (k : Nat) : Nat × Int :=
  let grids := (List.range 17).map fun n => decade k - Int.ofNat n
  match grids.findSome? fun exponent => (onGrid? k exponent).map fun c => (c, exponent) with
  | some found => found
  | none => (0, 0)

/-! ## Positional text -/

/-- The characters up to the last that is no zero. -/
def trimZeros (digits : List Char) : List Char :=
  (digits.reverse.dropWhile (· == '0')).reverse

/-- A whole part and a fraction, the point left out if nothing follows it. -/
def joinPoint (whole fraction : List Char) : String :=
  match trimZeros fraction with
  | [] => String.ofList whole
  | places => String.ofList (whole ++ '.' :: places)

/-- Positional text of digits with a power of ten. -/
def positional (significand : Nat) (exponent : Int) : String :=
  let digits := Nat.toDigits 10 significand
  if 0 ≤ exponent then String.ofList (digits ++ List.replicate exponent.natAbs '0')
  else
    let places := exponent.natAbs
    if places < digits.length then
      joinPoint (digits.take (digits.length - places)) (digits.drop (digits.length - places))
    else joinPoint ['0'] (List.replicate (places - digits.length) '0' ++ digits)

def render (k : Nat) : String :=
  if k = 0 then "0" else
    let (significand, exponent) := shortest k
    positional significand exponent

end BlobCluster.Numeric.Magnitude
