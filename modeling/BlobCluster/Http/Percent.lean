import BlobCluster.Bytes.Utf8

/-!
# Percent encoding

A byte may be written as a percent sign with two hexadecimal digits.  Decoding leaves a percent
sign alone that is not followed by two digits.
-/

namespace BlobCluster.Http.Percent

/-- The byte written by a percent sign and two digits. -/
def byte? (high low : UInt8) : Option UInt8 := do
  let h ← Bytes.hexValue? (Char.ofNat high.toNat)
  let l ← Bytes.hexValue? (Char.ofNat low.toNat)
  return UInt8.ofNat (16 * h + l)

/-- Reads the bytes behind a text with percent signs.  A percent sign without two digits after it
stands for itself. -/
def decode : Bytes → Bytes
  | [] => []
  | 0x25 :: high :: low :: rest =>
    match byte? high low with
    | some b => b :: decode rest
    | none => 0x25 :: decode (high :: low :: rest)
  | b :: rest => b :: decode rest
termination_by bytes => bytes.length

def encodeByte (b : UInt8) : Bytes :=
  0x25 :: (Bytes.hexPair b).map fun c => UInt8.ofNat c.toUpper.toNat

/-- Writes the bytes of a text, those that have to be with percent signs. -/
def encode (needed : UInt8 → Bool) (bytes : Bytes) : Bytes :=
  bytes.flatMap fun b => if needed b then encodeByte b else [b]

/-- A byte that is no visible ASCII character, or one of some others. -/
def isOneOf (others : List Char) (b : UInt8) : Bool :=
  b < 0x20 || 0x7F ≤ b || others.any (·.toNat == b.toNat)

/-- The text of a piece of an address. -/
def encodeText (others : List Char) (text : String) : String :=
  Bytes.lossyUtf8 (encode (isOneOf others) (Bytes.toUtf8 text))

end BlobCluster.Http.Percent
