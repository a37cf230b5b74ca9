import BlobCluster.Json.Basic
import BlobCluster.Numeric.Binary64

/-!
# Reading JSON

`readValue` takes one value from the front of a byte string and gives the rest.  It never fails:
where the bytes stop being JSON the value is cut and nothing is left.  Strings are read byte by
byte by a small machine (`scanString`), so that a string which is only skipped may hold anything
that ends in a quote.
-/

namespace BlobCluster.Json

/-! ## Blanks and words -/

/-- The four blanks between tokens. -/
def isBlank (b : UInt8) : Bool := b == 0x20 || b == 0x0A || b == 0x0D || b == 0x09

def skipBlanks : Bytes → Bytes
  | [] => []
  | b :: rest => if isBlank b then skipBlanks rest else b :: rest

/-- Removes a word from the front. -/
def dropWord? : Bytes → Bytes → Option Bytes
  | [], bytes => some bytes
  | _ :: _, [] => none
  | w :: word, b :: bytes => if w == b then dropWord? word bytes else none

/-! ## Strings -/

/-- The UTF-8 bytes of a code point. -/
def charBytes (n : Nat) : Bytes := String.utf8EncodeChar (Char.ofNat n)

/-- What the machine expects next. -/
inductive Mode where
  | plain
  | escape
  /-- That many hexadecimal digits are owed; the number read so far. -/
  | hex (owed : Nat) (code : Nat)

/-- What the machine has read of a string. -/
structure Scan where
  /-- The bytes of the content, the latest first. -/
  content : Bytes
  /-- A leading surrogate waits for its partner. -/
  lead : Option Nat
  /-- Every escape so far is a character. -/
  sound : Bool

/-- The string before its first character. -/
def Scan.start : Scan := ⟨[], none, true⟩

/-- Something other than the partner follows a leading surrogate. -/
def Scan.settle (s : Scan) : Scan := { s with lead := none, sound := s.sound && s.lead.isNone }

/-- Takes one byte of content. -/
def Scan.push (s : Scan) (b : UInt8) : Scan :=
  let s := s.settle
  { s with content := b :: s.content }

/-- Takes the code of a numeric escape. -/
def Scan.pushCode (s : Scan) (code : Nat) : Scan :=
  match s.lead with
  | some high =>
    if 0xDC00 ≤ code && code ≤ 0xDFFF then
      let n := 0x10000 + (high - 0xD800) * 1024 + (code - 0xDC00)
      { s with content := (charBytes n).reverse ++ s.content, lead := none }
    else if 0xD800 ≤ code && code ≤ 0xDBFF then { s with lead := some code, sound := false }
    else { content := (charBytes code).reverse ++ s.content, lead := none, sound := false }
  | none =>
    if 0xD800 ≤ code && code ≤ 0xDBFF then { s with lead := some code }
    else if 0xDC00 ≤ code && code ≤ 0xDFFF then { s with sound := false }
    else { s with content := (charBytes code).reverse ++ s.content }

/-- The text read, if every piece of it is a character. -/
def Scan.finish (s : Scan) : Option String :=
  let s := s.settle
  if s.sound then Bytes.ofUtf8? s.content.reverse else none

/-- The byte that a short escape stands for. -/
def shortEscape? (b : UInt8) : Option UInt8 :=
  if b == 0x22 || b == 0x5C || b == 0x2F then some b
  else if b == 0x62 then some 0x08
  else if b == 0x66 then some 0x0C
  else if b == 0x6E then some 0x0A
  else if b == 0x72 then some 0x0D
  else if b == 0x74 then some 0x09
  else none

/-- Reads a string after its opening quote: its content and the bytes after the closing quote,
or nothing if the string does not end well. -/
def scanString : Mode → Scan → Bytes → Option (Option String × Bytes)
  | _, _, [] => none
  | .plain, s, b :: rest =>
    if b == 0x22 then some (s.finish, rest)
    else if b == 0x5C then scanString .escape s rest
    else if b < 0x20 then none
    else scanString .plain (s.push b) rest
  | .escape, s, b :: rest =>
    if b == 0x75 then scanString (.hex 4 0) s rest
    else match shortEscape? b with
      | some c => scanString .plain (s.push c) rest
      | none => none
  | .hex owed code, s, b :: rest =>
    match Bytes.hexValue? (Char.ofNat b.toNat) with
    | none => none
    | some digit =>
      let code := 16 * code + digit
      if owed ≤ 1 then scanString .plain (s.pushCode code) rest
      else scanString (.hex (owed - 1) code) s rest

/-! ## Numbers -/

def isDigit (b : UInt8) : Bool := 0x30 ≤ b && b ≤ 0x39

/-- Digits at the front and the rest. -/
def spanDigits : Bytes → List Nat × Bytes
  | [] => ([], [])
  | b :: rest =>
    if isDigit b then
      let (digits, rest) := spanDigits rest
      ((b.toNat - 48) :: digits, rest)
    else ([], b :: rest)

/-- Digits taken into a number as long as it stays below 2^64; the digits left out. -/
def gather (acc : Nat) : List Nat → Nat × List Nat
  | [] => (acc, [])
  | d :: rest => if 10 * acc + d < UInt64.size then gather (10 * acc + d) rest else (acc, d :: rest)

def digitsValue (digits : List Nat) : Nat := digits.foldl (fun acc d => 10 * acc + d) 0

/-- A number with point or exponent, or with too many digits: it must be below the range of
64-bit binary fractions. -/
def realNumber (minus : Bool) (significand : Nat) (exponent : Int) : Number :=
  if Numeric.Magnitude.scalesToFinite significand exponent then .real minus significand exponent else .huge

def readExponent? (bytes : Bytes) : Option (Int × Bytes) :=
  let (minus, bytes) := match bytes with
    | 0x2B :: rest => (false, rest)
    | 0x2D :: rest => (true, rest)
    | other => (false, other)
  match spanDigits bytes with
  | ([], _) => none
  | (digits, rest) =>
    let n := Int.ofNat (digitsValue digits)
    some (if minus then -n else n, rest)

/-- Ends a number whose digits are read: an exponent may follow. -/
def readScaled? (minus : Bool) (significand : Nat) (exponent : Int) (bytes : Bytes) :
    Option (Number × Bytes) :=
  match bytes with
  | [] => some (realNumber minus significand exponent, [])
  | b :: rest =>
    if b == 0x65 || b == 0x45 then do
      let (shift, rest) ← readExponent? rest
      return (realNumber minus significand (exponent + shift), rest)
    else some (realNumber minus significand exponent, b :: rest)

/-- Whole digits without point and exponent. -/
def wholeNumber (minus : Bool) (significand : Nat) (dropped : List Nat) : Number :=
  if !dropped.isEmpty then realNumber minus significand dropped.length
  else if !minus then .natural significand
  else if 0 < significand && significand ≤ Numeric.signedBound then .negative significand
  else .real true significand 0

/-- Reads the digits of a number after its sign. -/
def readDigits? (minus : Bool) (bytes : Bytes) : Option (Number × Bytes) :=
  match spanDigits bytes with
  | ([], _) => none
  | (0 :: _ :: _, _) => none
  | (digits, rest) =>
    let (significand, dropped) := gather 0 digits
    match rest with
    | 0x2E :: fraction =>
      match spanDigits fraction with
      | ([], _) => none
      | (places, rest) =>
        let (significand, ignored) := gather significand places
        readScaled? minus significand
          (Int.ofNat dropped.length - Int.ofNat (places.length - ignored.length)) rest
    | b :: rest' =>
      if b == 0x65 || b == 0x45 then readScaled? minus significand dropped.length (b :: rest')
      else some (wholeNumber minus significand dropped, b :: rest')
    | [] => some (wholeNumber minus significand dropped, [])

def readNumber? (bytes : Bytes) : Option (Number × Bytes) :=
  match bytes with
  | 0x2D :: rest => readDigits? true rest
  | other => readDigits? false other

/-! ## Values -/

mutual

/-- Reads a value; `fuel` bounds the number of nested or following values. -/
def readValueWith : Nat → Bytes → Json × Bytes
  | 0, _ => (.cut, [])
  | fuel + 1, bytes =>
    match skipBlanks bytes with
    | [] => (.cut, [])
    | b :: rest =>
      if b == 0x22 then
        match scanString .plain .start rest with
        | some (content, rest) => (.string content, rest)
        | none => (.cut, [])
      else if b == 0x5B then
        match skipBlanks rest with
        | 0x5D :: rest => (.array [] true, rest)
        | rest =>
          let (items, closed, rest) := readItems fuel rest
          (.array items closed, rest)
      else if b == 0x7B then
        match skipBlanks rest with
        | 0x7D :: rest => (.object [] true, rest)
        | rest =>
          let (members, closed, rest) := readMembers fuel rest
          (.object members closed, rest)
      else if b == 0x6E then
        match dropWord? [0x75, 0x6C, 0x6C] rest with
        | some rest => (.null, rest)
        | none => (.cut, [])
      else if b == 0x74 then
        match dropWord? [0x72, 0x75, 0x65] rest with
        | some rest => (.bool true, rest)
        | none => (.cut, [])
      else if b == 0x66 then
        match dropWord? [0x61, 0x6C, 0x73, 0x65] rest with
        | some rest => (.bool false, rest)
        | none => (.cut, [])
      else
        match readNumber? (b :: rest) with
        | some (n, rest) => (.number n, rest)
        | none => (.cut, [])

def readItems : Nat → Bytes → List Json × Bool × Bytes
  | 0, _ => ([], false, [])
  | fuel + 1, bytes =>
    let (item, rest) := readValueWith fuel bytes
    match skipBlanks rest with
    | 0x5D :: rest => ([item], true, rest)
    | 0x2C :: rest =>
      let (items, closed, rest) := readItems fuel rest
      (item :: items, closed, rest)
    | _ => ([item], false, [])

def readMembers : Nat → Bytes → List (Option String × Json) × Bool × Bytes
  | 0, _ => ([], false, [])
  | fuel + 1, bytes =>
    match skipBlanks bytes with
    | 0x22 :: rest =>
      match scanString .plain .start rest with
      | some (name, rest) =>
        match skipBlanks rest with
        | 0x3A :: rest =>
          let (value, rest) := readValueWith fuel rest
          match skipBlanks rest with
          | 0x7D :: rest => ([(name, value)], true, rest)
          | 0x2C :: rest =>
            let (members, closed, rest) := readMembers fuel rest
            ((name, value) :: members, closed, rest)
          | _ => ([(name, value)], false, [])
        | _ => ([(name, .cut)], false, [])
      | none => ([], false, [])
    | _ => ([], false, [])

end

/-- Reads one value from the front of a byte string.  Every nested value and every further item
takes at least one byte, so twice the length bounds the calls. -/
def readValue (bytes : Bytes) : Json × Bytes := readValueWith (2 * bytes.length + 2) bytes

/-- Reads a text that is one value, with nothing but blanks after it. -/
def readText (bytes : Bytes) : Json × Bool :=
  let (value, rest) := readValue bytes
  (value, (skipBlanks rest).isEmpty)

end BlobCluster.Json
