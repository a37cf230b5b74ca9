import BlobCluster.Bytes
import BlobCluster.Numeric.Real

/-!
# Numbers of a TOML file

A number is written in digits among which single underscores may stand.  A whole number is decimal
with a sign, or hexadecimal, octal or binary without one; a number with a fraction or an exponent
is decimal.
-/

namespace BlobCluster.Settings.Toml

/-! ## Digits -/

/-- The value of a digit in a base up to sixteen. -/
def digitValue? (base : Nat) (c : Char) : Option Nat := (Bytes.hexValue? c).filter (· < base)

/-- The digits after a first one, each with at most one underscore before it. -/
def furtherDigits? (base : Nat) : List Char → Option (List Nat)
  | [] => some []
  | '_' :: c :: rest => do
    let d ← digitValue? base c
    return d :: (← furtherDigits? base rest)
  | c :: rest => do
    let d ← digitValue? base c
    return d :: (← furtherDigits? base rest)

/-- Digits that start and end with a digit. -/
def digits? (base : Nat) : List Char → Option (List Nat)
  | [] => none
  | c :: rest => do
    let d ← digitValue? base c
    return d :: (← furtherDigits? base rest)

/-- Decimal digits of which a first zero is the only one. -/
def unpadded? (text : List Char) : Option (List Nat) :=
  (digits? 10 text).filter fun ds => ds.head? != some 0 || ds.length == 1

def valueOf (base : Nat) (digits : List Nat) : Nat := digits.foldl (fun n d => base * n + d) 0

/-- Takes a sign from the front: whether it is there and whether it is a minus. -/
def takeSign : List Char → Bool × Bool × List Char
  | '+' :: rest => (true, false, rest)
  | '-' :: rest => (true, true, rest)
  | other => (false, false, other)

/-! ## Whole numbers -/

/-- The magnitude of a whole number after its sign; a signed one is decimal. -/
def wholeMagnitude? (signed : Bool) : List Char → Option Nat
  | '0' :: 'x' :: rest => if signed then none else (digits? 16 rest).map (valueOf 16)
  | '0' :: 'o' :: rest => if signed then none else (digits? 8 rest).map (valueOf 8)
  | '0' :: 'b' :: rest => if signed then none else (digits? 2 rest).map (valueOf 2)
  | text => (unpadded? text).map (valueOf 10)

/-- A whole number of any size. -/
def whole? (text : List Char) : Option Int := do
  let (signed, minus, text) := takeSign text
  let n ← wholeMagnitude? signed text
  return if minus then -Int.ofNat n else Int.ofNat n

/-- The number is one of 64 bits with sign. -/
def isSigned64 (i : Int) : Bool := -Int.ofNat Numeric.signedBound ≤ i && i < Int.ofNat Numeric.signedBound

/-! ## Numbers with a fraction -/

/-- A digit or an underscore. -/
def isNumeral (c : Char) : Bool := c.isDigit || c == '_'

/-- The digits after the point, if there is one. -/
def takePlaces? : List Char → Option (List Nat × List Char)
  | '.' :: rest => do return (← digits? 10 (rest.takeWhile isNumeral), rest.dropWhile isNumeral)
  | other => some ([], other)

/-- The exponent at the end, if there is one. -/
def takeExponent? : List Char → Option Int
  | [] => some 0
  | c :: rest =>
    if c = 'e' || c = 'E' then do
      let (_, minus, rest) := takeSign rest
      let n := valueOf 10 (← digits? 10 rest)
      return if minus then -Int.ofNat n else Int.ofNat n
    else none

/-- A number with a fraction or an exponent. -/
def fraction? (text : List Char) : Option Numeric.Real := do
  let (_, minus, text) := takeSign text
  if text = "inf".toList then return .infinite minus
  else if text = "nan".toList then return .undefined
  else
    let whole ← unpadded? (text.takeWhile isNumeral)
    let (places, rest) ← takePlaces? (text.dropWhile isNumeral)
    let exponent ← takeExponent? rest
    let number := Numeric.Real.ofDecimal minus (valueOf 10 (whole ++ places))
      (exponent - Int.ofNat places.length)
    match number with
    | .infinite _ => none
    | finite => return finite

end BlobCluster.Settings.Toml
