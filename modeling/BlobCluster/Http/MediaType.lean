import BlobCluster.Bytes

/-!
# Media types

A media type names a type and a subtype, which may end in a suffix after a plus sign, and may
carry parameters.  `isJson` accepts the types of JSON documents: `application/json` and
`application/…+json`, in any case and with any parameters.
-/

namespace BlobCluster.Http.MediaType

/-- A character of a name. -/
def isToken (b : UInt8) : Bool :=
  (0x30 ≤ b && b ≤ 0x39) || (0x41 ≤ b && b ≤ 0x5A) || (0x61 ≤ b && b ≤ 0x7A)
    || "!#$%&'*+-.^_\x60|~".toList.any (·.toNat == b.toNat)

/-- A character between quotes: no control. -/
def isQuotable (b : UInt8) : Bool := 0x20 ≤ b && b != 0x7F

/-- Where the reading of parameters stands. -/
inductive Place where
  /-- Before the name of a parameter. -/
  | start
  | name
  /-- After the equals sign. -/
  | valueStart
  | value
  /-- After the opening quote, where a further quote is content. -/
  | quoteStart
  | quoted
  /-- After the closing quote. -/
  | closed

/-- The text from a place on is a list of parameters.  A quoted value is not empty and knows no
escapes; a value at the end may be missing. -/
def areParameters : Place → Bytes → Bool
  | .name, [] | .quoteStart, [] | .quoted, [] => false
  | .start, [] | .valueStart, [] | .value, [] | .closed, [] => true
  | .start, b :: rest =>
    if b == 0x20 then areParameters .start rest else isToken b && areParameters .name rest
  | .name, b :: rest =>
    if b == 0x3D then areParameters .valueStart rest else isToken b && areParameters .name rest
  | .valueStart, b :: rest =>
    if b == 0x22 then areParameters .quoteStart rest else isToken b && areParameters .value rest
  | .value, b :: rest =>
    if b == 0x3B then areParameters .start rest else isToken b && areParameters .value rest
  | .quoteStart, b :: rest => isQuotable b && areParameters .quoted rest
  | .quoted, b :: rest =>
    if b == 0x22 then areParameters .closed rest else isQuotable b && areParameters .quoted rest
  | .closed, b :: rest =>
    if b == 0x3B then areParameters .start rest else b == 0x20 && areParameters .closed rest

/-- Bytes in lower case. -/
def lower (bytes : Bytes) : Bytes :=
  bytes.map fun b => if 0x41 ≤ b && b ≤ 0x5A then b + 32 else b

/-- Subtype and suffix: the suffix follows the last plus sign, which is not the first character. -/
def splitSuffix (name : Bytes) : Bytes × Option Bytes :=
  let suffix := (name.reverse.takeWhile (· != 0x2B)).reverse
  let before := name.length - suffix.length
  if 1 < before then (name.take (before - 1), some suffix)
  else (name, none)

/-- The subtype stands for JSON documents. -/
def isJsonName (name : Bytes) : Bool :=
  let json : Bytes := [0x6A, 0x73, 0x6F, 0x6E]
  let (subtype, suffix) := splitSuffix (lower name)
  subtype == json || suffix == some json

/-- A visible ASCII character, a blank or a tab. -/
def isPlain (b : UInt8) : Bool := (0x20 ≤ b && b < 0x7F) || b == 0x09

/-- The media type is that of a JSON document. -/
def isJson (text : Bytes) : Bool :=
  let application := "application".toList.map fun c => UInt8.ofNat c.toNat
  let (type, rest) := text.span isToken
  match rest with
  | 0x2F :: rest =>
    let (name, rest) := rest.span isToken
    let tail := match rest with
      | [] => true
      | 0x3B :: parameters => !name.isEmpty && areParameters .start parameters
      | _ => false
    text.all isPlain && lower type == application && tail && isJsonName name
  | _ => false

end BlobCluster.Http.MediaType
