import BlobCluster.Digest.Blocks

/-!
# XXH64 with seed 0

Four lanes take 32-byte stripes; the bytes after the last full stripe are mixed in at the end in
words of eight, four and one.  `hash` reads a whole byte string, `State` takes it in pieces.
Both share the stripe round and the finish and differ only in when the stripes are taken.
-/

namespace BlobCluster.Digest.Xxh64

/-! ## Words -/

def prime1 : UInt64 := 0x9E3779B185EBCA87
def prime2 : UInt64 := 0xC2B2AE3D27D4EB4F
def prime3 : UInt64 := 0x165667B19E3779F9
def prime4 : UInt64 := 0x85EBCA77C2B2AE63
def prime5 : UInt64 := 0x27D4EB2F165667C5

/-- Rotation to the left by fewer than 64 bits. -/
def rotateLeft (word count : UInt64) : UInt64 := (word <<< count) ||| (word >>> (64 - count))

/-- The little-endian word of a byte string. -/
def word (bytes : Bytes) : UInt64 := bytes.foldr (fun b acc => (acc <<< 8) ||| b.toUInt64) 0

/-! ## Lanes -/

structure Lanes where
  one : UInt64
  two : UInt64
  three : UInt64
  four : UInt64
  deriving DecidableEq, Repr

def Lanes.start : Lanes := ⟨prime1 + prime2, prime2, 0, 0 - prime1⟩

/-- One word into one lane. -/
def round (lane input : UInt64) : UInt64 := rotateLeft (lane + input * prime2) 31 * prime1

/-- One stripe of 32 bytes, eight to each lane. -/
def Lanes.stripe (lanes : Lanes) (block : Bytes) : Lanes :=
  let second := block.drop 8
  let third := second.drop 8
  let fourth := third.drop 8
  ⟨round lanes.one (word (block.take 8)), round lanes.two (word (second.take 8)),
    round lanes.three (word (third.take 8)), round lanes.four (word (fourth.take 8))⟩

/-- Folds one lane into the merged value. -/
def mergeLane (acc lane : UInt64) : UInt64 := (acc ^^^ round 0 lane) * prime1 + prime4

/-- The merged value of the lanes. -/
def Lanes.merge (lanes : Lanes) : UInt64 :=
  let sum := rotateLeft lanes.one 1 + rotateLeft lanes.two 7 + rotateLeft lanes.three 12
    + rotateLeft lanes.four 18
  mergeLane (mergeLane (mergeLane (mergeLane sum lanes.one) lanes.two) lanes.three) lanes.four

/-! ## The bytes after the last stripe -/

def tailBytes (acc : UInt64) : Bytes → UInt64
  | [] => acc
  | b :: rest => tailBytes (rotateLeft (acc ^^^ b.toUInt64 * prime5) 11 * prime1) rest

/-- One remaining word of four bytes, if there is one, and then single bytes. -/
def tailHalf (acc : UInt64) (bytes : Bytes) : UInt64 :=
  if 4 ≤ bytes.length then
    tailBytes (rotateLeft (acc ^^^ word (bytes.take 4) * prime1) 23 * prime2 + prime3) (bytes.drop 4)
  else tailBytes acc bytes

/-- Mixes one remaining word of eight bytes into the value. -/
def tailWord (acc : UInt64) (block : Bytes) : UInt64 :=
  rotateLeft (acc ^^^ round 0 (word block)) 27 * prime1 + prime4

/-- All remaining bytes: words of eight, at most one of four, then single bytes. -/
def tail (acc : UInt64) (bytes : Bytes) : UInt64 :=
  let (acc, rest) := absorb 8 (fun _ => true) tailWord acc bytes
  tailHalf acc rest

/-- The last mixing of all bits. -/
def avalanche (h : UInt64) : UInt64 :=
  let h := (h ^^^ (h >>> 33)) * prime2
  let h := (h ^^^ (h >>> 29)) * prime3
  h ^^^ (h >>> 32)

/-- The digest from the lanes after all full stripes, the bytes left over and the total length. -/
def conclude (lanes : Lanes) (rest : Bytes) (total : Nat) : UInt64 :=
  let merged := if 32 ≤ total then lanes.merge else prime5
  avalanche (tail (merged + UInt64.ofNat total) rest)

/-! ## Whole byte strings and streams -/

def hash (bytes : Bytes) : UInt64 :=
  let (lanes, rest) := absorb 32 (fun _ => true) Lanes.stripe Lanes.start bytes
  conclude lanes rest bytes.length

/-- A digest under way: the lanes after the full stripes so far, the bytes that do not fill a
stripe yet, and the number of all bytes. -/
structure State where
  lanes : Lanes
  pending : Bytes
  total : Nat
  deriving DecidableEq, Repr

def State.start : State := ⟨Lanes.start, [], 0⟩

def State.write (s : State) (bytes : Bytes) : State :=
  let (lanes, pending) := absorb 32 (fun _ => true) Lanes.stripe s.lanes (s.pending ++ bytes)
  ⟨lanes, pending, s.total + bytes.length⟩

def State.finish (s : State) : UInt64 := conclude s.lanes s.pending s.total

end BlobCluster.Digest.Xxh64
