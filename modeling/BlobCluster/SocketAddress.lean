/-!
# Socket addresses

An internet address with a port, in its text form: four decimal octets or, in brackets, eight
groups of hexadecimal digits of which one run of zero groups may be left out.  `parse?` accepts
every such form, `render` writes the one canonical form.
-/

namespace BlobCluster

/-- An address of either family with a port. -/
inductive SocketAddress where
  | v4 (a b c d : UInt8) (port : UInt16)
  /-- Eight groups, the zone (zero for none) and the port. -/
  | v6 (groups : Vector UInt16 8) (zone : UInt32) (port : UInt16)
  deriving DecidableEq, Repr

namespace SocketAddress

/-! ## Numbers -/

def digitValue? (base : Nat) (c : Char) : Option Nat :=
  let value? :=
    if '0' ≤ c ∧ c ≤ '9' then some (c.toNat - 48)
    else if 'a' ≤ c ∧ c ≤ 'f' then some (c.toNat - 87)
    else if 'A' ≤ c ∧ c ≤ 'F' then some (c.toNat - 55)
    else none
  value?.filter (· < base)

/-- Digits at the front with their value, and the rest. -/
def spanDigits (base : Nat) : List Char → List Nat × List Char
  | [] => ([], [])
  | c :: rest =>
    match digitValue? base c with
    | some d =>
      let (digits, rest) := spanDigits base rest
      (d :: digits, rest)
    | none => ([], c :: rest)

/-- Reads a number below `bound` of at most `most` digits; unless `padded`, a zero stands only
alone. -/
def readNumber? (base : Nat) (most : Option Nat) (padded : Bool) (bound : Nat)
    (text : List Char) : Option (Nat × List Char) :=
  let (digits, rest) := spanDigits base text
  let value := digits.foldl (fun acc d => base * acc + d) 0
  if digits.isEmpty then none
  else if most.any (· < digits.length) then none
  else if !padded && digits.head? == some 0 && 1 < digits.length then none
  else if value < bound then some (value, rest)
  else none

/-- Removes a character from the front. -/
def drop? (c : Char) : List Char → Option (List Char)
  | [] => none
  | d :: rest => if c = d then some rest else none

/-! ## Reading -/

def readOctet? (text : List Char) : Option (UInt8 × List Char) := do
  let (n, rest) ← readNumber? 10 (some 3) false 256 text
  return (UInt8.ofNat n, rest)

/-- Reads four octets with points between them. -/
def readOctets? (text : List Char) : Option ((UInt8 × UInt8 × UInt8 × UInt8) × List Char) := do
  let (a, text) ← readOctet? text
  let (b, text) ← readOctet? (← drop? '.' text)
  let (c, text) ← readOctet? (← drop? '.' text)
  let (d, text) ← readOctet? (← drop? '.' text)
  return ((a, b, c, d), text)

/-- Reads a port after its colon; it may be padded with zeros. -/
def readPort? (text : List Char) : Option (UInt16 × List Char) := do
  let (n, rest) ← readNumber? 10 none true UInt16.size (← drop? ':' text)
  return (UInt16.ofNat n, rest)

/-- Removes the colon that stands before every group but the first. -/
def dropColonUnless? (first : Bool) (text : List Char) : Option (List Char) :=
  if first then some text else drop? ':' text

/-- A group of two octets. -/
def joinOctets (high low : UInt8) : UInt16 := UInt16.ofNat (256 * high.toNat + low.toNat)

/-- Reads up to `limit` groups with colons between them.  Where two groups are left to read, four
octets may stand for them and end the groups; the answer says whether they did. -/
def readGroups (first : Bool) : Nat → List Char → List UInt16 × Bool × List Char
  | 0, text => ([], false, text)
  | limit + 1, text =>
    let octets? := if limit = 0 then none else (dropColonUnless? first text).bind readOctets?
    match octets? with
    | some ((a, b, c, d), rest) => ([joinOctets a b, joinOctets c d], true, rest)
    | none =>
      match (dropColonUnless? first text).bind (readNumber? 16 (some 4) true UInt16.size) with
      | some (n, rest) =>
        let (groups, octets, rest) := readGroups false limit rest
        (UInt16.ofNat n :: groups, octets, rest)
      | none => ([], false, text)

/-- Reads the eight groups of an address. -/
def readGroups8? (text : List Char) : Option (Vector UInt16 8 × List Char) :=
  let (head, octets, rest) := readGroups true 8 text
  if h : head.toArray.size = 8 then some (⟨head.toArray, h⟩, rest)
  else if octets then none
  else do
    let rest ← drop? ':' (← drop? ':' rest)
    let (tail, _, rest) := readGroups true (7 - head.length) rest
    let all := head ++ List.replicate (8 - head.length - tail.length) 0 ++ tail
    if h : all.toArray.size = 8 then some (⟨all.toArray, h⟩, rest) else none

/-- Reads the zone after its percent sign, if there is one. -/
def readZone? (text : List Char) : Option (UInt32 × List Char) :=
  match text with
  | '%' :: rest => do
    let (n, rest) ← readNumber? 10 none true UInt32.size rest
    return (UInt32.ofNat n, rest)
  | other => some (0, other)

def readV4? (text : List Char) : Option (SocketAddress × List Char) := do
  let ((a, b, c, d), text) ← readOctets? text
  let (port, text) ← readPort? text
  return (.v4 a b c d port, text)

def readV6? (text : List Char) : Option (SocketAddress × List Char) := do
  let (groups, text) ← readGroups8? (← drop? '[' text)
  let (zone, text) ← readZone? text
  let (port, text) ← readPort? (← drop? ']' text)
  return (.v6 groups zone port, text)

/-- Accepts a text that is an address and nothing else. -/
def ended? (read : Option (SocketAddress × List Char)) : Option SocketAddress :=
  match read with
  | some (address, []) => some address
  | _ => none

def parse? (text : String) : Option SocketAddress :=
  (ended? (readV4? text.toList)).or (ended? (readV6? text.toList))

/-! ## Writing -/

def renderOctets (a b c d : Nat) : String :=
  toString a ++ "." ++ toString b ++ "." ++ toString c ++ "." ++ toString d

/-- Groups in hexadecimal with colons between them. -/
def renderGroups (groups : List UInt16) : String :=
  String.intercalate ":" (groups.map fun g => String.ofList (Nat.toDigits 16 g.toNat))

def zeroRun : List UInt16 → Nat
  | [] => 0
  | g :: rest => if g = 0 then 1 + zeroRun rest else 0

/-- Start and length of the first longest run of zero groups. -/
def longestRun (groups : List UInt16) : Nat × Nat :=
  (List.range groups.length).foldl (fun best start =>
    let run := zeroRun (groups.drop start)
    if best.2 < run then (start, run) else best) (0, 0)

/-- Groups of which the first longest run of at least two zero groups is left out. -/
def renderRuns (groups : List UInt16) : String :=
  let (start, run) := longestRun groups
  if 1 < run then
    renderGroups (groups.take start) ++ "::" ++ renderGroups (groups.drop (start + run))
  else renderGroups groups

/-- The eight groups of an address; the block of mapped addresses shows its octets. -/
def renderAddress (groups : List UInt16) : String :=
  match groups with
  | [0, 0, 0, 0, 0, 0xFFFF, high, low] =>
    "::ffff:" ++ renderOctets (high.toNat / 256) (high.toNat % 256) (low.toNat / 256)
      (low.toNat % 256)
  | groups => renderRuns groups

/-- The canonical text form. -/
def render : SocketAddress → String
  | .v4 a b c d port => renderOctets a.toNat b.toNat c.toNat d.toNat ++ ":" ++ toString port.toNat
  | .v6 groups zone port =>
    "[" ++ renderAddress groups.toList ++ (if zone = 0 then "" else "%" ++ toString zone.toNat)
      ++ "]:" ++ toString port.toNat

end SocketAddress

end BlobCluster
