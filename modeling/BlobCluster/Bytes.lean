/-!
# Byte strings

File contents, message payloads and bodies are lists of bytes, so that every rule about them can
be proved by recursion on the list.  This module holds the two numeric readings of a byte string
and its lowercase hexadecimal text.
-/

namespace BlobCluster

abbrev Bytes := List UInt8

namespace Bytes

/-! ## Numbers -/

/-- The number whose least significant byte comes first. -/
def toNatLE : Bytes → Nat
  | [] => 0
  | b :: rest => b.toNat + 256 * toNatLE rest

/-- The low `count` bytes of a number, least significant first. -/
def ofNatLE : Nat → Nat → Bytes
  | 0, _ => []
  | count + 1, n => UInt8.ofNat n :: ofNatLE count (n / 256)

/-- The low `count` bytes of a number, most significant first. -/
def ofNatBE (count n : Nat) : Bytes := (ofNatLE count n).reverse

theorem length_ofNatLE (count n : Nat) : (ofNatLE count n).length = count := by
  induction count generalizing n with
  | zero => rfl
  | succ count ih => simp [ofNatLE, ih]

theorem length_ofNatBE (count n : Nat) : (ofNatBE count n).length = count := by
  simp [ofNatBE, length_ofNatLE]

/-! ## Hexadecimal text -/

/-- The lowercase digit of a number below sixteen. -/
def hexDigit (n : Nat) : Char :=
  if n < 10 then Char.ofNat (48 + n) else Char.ofNat (87 + n)

/-- The two digits of a byte, high half first. -/
def hexPair (b : UInt8) : List Char := [hexDigit (b.toNat / 16), hexDigit (b.toNat % 16)]

/-- Lowercase hexadecimal text, two digits a byte. -/
def toHex (bytes : Bytes) : String := String.ofList (bytes.flatMap hexPair)

/-- The value of a hexadecimal digit of either case. -/
def hexValue? (c : Char) : Option Nat :=
  if '0' ≤ c ∧ c ≤ '9' then some (c.toNat - 48)
  else if 'a' ≤ c ∧ c ≤ 'f' then some (c.toNat - 87)
  else if 'A' ≤ c ∧ c ≤ 'F' then some (c.toNat - 55)
  else none

/-- Reads pairs of hexadecimal digits.  An odd digit at the end is an error. -/
def ofHexDigits? : List Char → Option Bytes
  | [] => some []
  | [_] => none
  | hi :: lo :: rest => do
    let h ← hexValue? hi
    let l ← hexValue? lo
    let bytes ← ofHexDigits? rest
    return UInt8.ofNat (16 * h + l) :: bytes

/-- Reads hexadecimal text of either case. -/
def ofHex? (text : String) : Option Bytes := ofHexDigits? text.toList

/-- The first `length` bytes of a pattern repeated without end; an empty pattern gives nothing. -/
def cycle (pattern : Bytes) (length : Nat) : Bytes :=
  if pattern.isEmpty then []
  else
    let period := pattern.toArray
    (List.range length).map fun i => period.getD (i % period.size) 0

end Bytes

end BlobCluster
