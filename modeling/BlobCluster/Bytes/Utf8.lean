import BlobCluster.Bytes

/-!
# UTF-8

Between texts and byte strings.  `toUtf8` is total, `ofUtf8?` accepts exactly the well-formed
byte strings, and `lossyUtf8` reads any byte string: each maximal piece that cannot be continued
to a character becomes one replacement character.
-/

namespace BlobCluster.Bytes

def toUtf8 (text : String) : Bytes := text.toUTF8.data.toList

/-- The text with these UTF-8 bytes, if they are well formed. -/
def ofUtf8? (bytes : Bytes) : Option String := String.fromUTF8? ⟨bytes.toArray⟩

/-- Number of bytes of a text. -/
def utf8Length (text : String) : Nat := text.utf8ByteSize

/-! ## Reading damaged text -/

/-- What stands in for a piece that is no character. -/
def replacement : Char := Char.ofNat 0xFFFD

/-- A byte that continues a character. -/
def isTail (b : UInt8) : Bool := 0x80 ≤ b && b ≤ 0xBF

/-- Bytes that may follow the first byte of a character of several bytes, and how many are owed
after that one; `none` for a byte that starts no such character. -/
def follow? (b : UInt8) : Option (UInt8 × UInt8 × Nat) :=
  if 0xC2 ≤ b && b ≤ 0xDF then some (0x80, 0xBF, 0)
  else if b == 0xE0 then some (0xA0, 0xBF, 1)
  else if b == 0xED then some (0x80, 0x9F, 1)
  else if 0xE1 ≤ b && b ≤ 0xEF then some (0x80, 0xBF, 1)
  else if b == 0xF0 then some (0x90, 0xBF, 2)
  else if 0xF1 ≤ b && b ≤ 0xF3 then some (0x80, 0xBF, 2)
  else if b == 0xF4 then some (0x80, 0x8F, 2)
  else none

/-- Appends six bits to a code point under construction. -/
def shiftIn (acc : Nat) (b : UInt8) : Nat := acc * 64 + b.toNat % 64

/-- Reads the owed tail bytes; stops at the first byte that is none. -/
def lossyTail (acc : Nat) : Nat → Bytes → Char × Bytes
  | 0, rest => (Char.ofNat acc, rest)
  | _ + 1, [] => (replacement, [])
  | owed + 1, b :: rest =>
    if isTail b then lossyTail (shiftIn acc b) owed rest else (replacement, b :: rest)

/-- The character, or the replacement for a broken piece, that starts with this byte. -/
def lossyHead (b : UInt8) (rest : Bytes) : Char × Bytes :=
  if b < 0x80 then (Char.ofNat b.toNat, rest)
  else match follow? b, rest with
    | none, _ => (replacement, rest)
    | some _, [] => (replacement, [])
    | some (low, high, owed), c :: rest' =>
      if low ≤ c && c ≤ high then
        lossyTail (shiftIn (b.toNat % (if owed = 0 then 32 else if owed = 1 then 16 else 8)) c)
          owed rest'
      else (replacement, rest)

theorem length_lossyTail (acc owed : Nat) (bytes : Bytes) :
    (lossyTail acc owed bytes).2.length ≤ bytes.length := by
  induction owed generalizing acc bytes with
  | zero => simp [lossyTail]
  | succ owed ih =>
    cases bytes with
    | nil => simp [lossyTail]
    | cons b rest =>
      simp only [lossyTail]
      split
      · exact Nat.le_trans (ih _ _) (by simp)
      · exact Nat.le_refl _

theorem length_lossyHead (b : UInt8) (rest : Bytes) :
    (lossyHead b rest).2.length ≤ rest.length := by
  unfold lossyHead
  split
  · exact Nat.le_refl _
  · split
    · exact Nat.le_refl _
    · exact Nat.le_refl _
    · split
      · exact Nat.le_trans (length_lossyTail _ _ _) (by simp)
      · exact Nat.le_refl _

/-- The characters of any byte string, a replacement for each broken piece. -/
def lossyChars (bytes : Bytes) : List Char :=
  match bytes with
  | [] => []
  | b :: rest => (lossyHead b rest).1 :: lossyChars (lossyHead b rest).2
termination_by bytes.length
decreasing_by
  have := length_lossyHead b rest
  simp only [List.length_cons]
  omega

/-- The text of any byte string, a replacement character for each broken piece. -/
def lossyUtf8 (bytes : Bytes) : String := String.ofList (lossyChars bytes)

end BlobCluster.Bytes
