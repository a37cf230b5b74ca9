/-!
# Punycode

A label of a host name with characters beyond ASCII is written with ASCII letters and digits: the
ASCII characters first, then for each other character, in ascending order, how far to count from
the place and character before it.  Digits are to the base 36 with a bias that adapts to the
distances.
-/

namespace BlobCluster.Http.Punycode

/-- The digit with a value below 36. -/
def digit (n : Nat) : Char := if n < 26 then Char.ofNat (97 + n) else Char.ofNat (22 + n)

def threshold (place bias : Nat) : Nat :=
  if place ≤ bias then 1 else if bias + 26 ≤ place then 26 else place - bias

/-- Divides a distance until it is small, counting the places. -/
def shrink (distance places : Nat) : Nat × Nat :=
  if 455 < distance then shrink (distance / 35) (places + 36) else (distance, places)
termination_by distance
decreasing_by exact Nat.div_lt_self (by omega) (by omega)

/-- The bias after a distance. -/
def adapt (distance count : Nat) (first : Bool) : Nat :=
  let distance := if first then distance / 700 else distance / 2
  let (distance, places) := shrink (distance + distance / count) 0
  places + 36 * distance / (distance + 38)

/-- The digits of a distance, from a place on. -/
def digits (bias place distance : Nat) : List Char :=
  let t := threshold place bias
  if distance < t then [digit distance]
  else digit (t + (distance - t) % (36 - t)) :: digits bias (place + 36) ((distance - t) / (36 - t))
termination_by distance
decreasing_by
  have low : 1 ≤ threshold place bias := by
    unfold threshold
    split
    · exact Nat.le_refl 1
    · split <;> omega
  have := Nat.div_le_self (distance - threshold place bias) (36 - threshold place bias)
  omega

structure State where
  written : List Char
  distance : Nat
  bias : Nat
  handled : Nat

/-- Passes one character while those with a code are written. -/
def pass (ascii code : Nat) (s : State) (c : Char) : State :=
  if c.toNat < code then { s with distance := s.distance + 1 }
  else if c.toNat = code then
    { written := s.written ++ digits s.bias 36 s.distance
      distance := 0
      bias := adapt s.distance (s.handled + 1) (s.handled == ascii)
      handled := s.handled + 1 }
  else s

/-- Writes the characters with the given codes, in ascending order. -/
def writeCodes (label : List Char) (ascii : Nat) : List Nat → Nat → State → State
  | [], _, s => s
  | code :: rest, next, s =>
    let s := { s with distance := s.distance + (code - next) * (s.handled + 1) }
    let s := label.foldl (pass ascii code) s
    writeCodes label ascii rest (code + 1) { s with distance := s.distance + 1 }

/-- A label in ASCII. -/
def encode (label : List Char) : List Char :=
  let ascii := label.filter (·.toNat < 128)
  let codes := ((label.filter (128 ≤ ·.toNat)).map (·.toNat)).eraseDups.mergeSort (· ≤ ·)
  let s := writeCodes label ascii.length codes 128 ⟨[], 0, 72, ascii.length⟩
  ascii ++ (if ascii.isEmpty then [] else ['-']) ++ s.written

/-! ## Reading -/

def digitValue? (c : Char) : Option Nat :=
  if 'a' ≤ c && c ≤ 'z' then some (c.toNat - 97)
  else if '0' ≤ c && c ≤ '9' then some (c.toNat - 22)
  else none

/-- No distance is as great. -/
def limit : Nat := 4294967296

/-- Where the reading stands: the characters so far, the code and the place from which the next
distance counts, the bias, and the part of a distance whose digits have been read, with the place
and the weight of its next digit. -/
structure Reading where
  label : List Char
  code : Nat
  start : Nat
  bias : Nat
  distance : Nat
  place : Nat
  weight : Nat

/-- The reading before the first distance. -/
def Reading.begin (ascii : List Char) : Reading := ⟨ascii, 128, 0, 72, 0, 36, 1⟩

/-- Puts the character at the end of a distance into the label. -/
def Reading.insert? (r : Reading) (distance : Nat) : Option Reading :=
  let count := r.label.length + 1
  let code := r.code + (r.start + distance) / count
  let spot := (r.start + distance) % count
  if code.isValidChar then
    some
      { label := r.label.take spot ++ Char.ofNat code :: r.label.drop spot
        code := code
        start := spot + 1
        bias := adapt distance count (r.start == 0)
        distance := 0
        place := 36
        weight := 1 }
  else none

/-- Reads one digit. -/
def Reading.push? (r : Reading) (c : Char) : Option Reading := do
  let value ← digitValue? c
  let distance := r.distance + value * r.weight
  let t := threshold r.place r.bias
  let weight := r.weight * (36 - t)
  if limit ≤ distance then none
  else if value < t then r.insert? distance
  else if limit ≤ weight then none
  else some { r with distance := distance, place := r.place + 36, weight := weight }

/-- The characters before the last hyphen and those after it.  A hyphen at the start is none that
separates. -/
def splitHyphen (text : List Char) : List Char × List Char :=
  let (rest, ascii) := text.reverse.span (· != '-')
  if ascii.length < 2 then ([], text) else ((ascii.drop 1).reverse, rest.reverse)

/-- The label behind an ASCII form.  No form ends within a distance, and none stands for a label
that is all ASCII. -/
def decode? (form : List Char) : Option (List Char) := do
  let (ascii, digits) := splitHyphen form
  let r ← digits.foldlM Reading.push? (Reading.begin ascii)
  if r.place == 36 && !digits.isEmpty then some r.label else none

end BlobCluster.Http.Punycode
