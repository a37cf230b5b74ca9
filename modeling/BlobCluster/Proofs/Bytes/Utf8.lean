import BlobCluster.Proofs.Bytes.Order

/-!
# UTF-8 there and back

A text is read back from its bytes.  The ASCII characters of a text are its bytes below 128, so a
text of such bytes alone is written and read byte by byte, and whether an ASCII character stands in
a text can be seen in its bytes.
-/

namespace BlobCluster.Bytes

/-! ## Texts -/

theorem ofUtf8?_toUtf8 (text : String) : ofUtf8? (toUtf8 text) = some text := by
  have valid := text.isValidUTF8
  simp [ofUtf8?, toUtf8, String.fromUTF8?, valid, String.fromUTF8]

/-- What is read from bytes is a text of these bytes. -/
theorem toUtf8_of_ofUtf8? {bytes : Bytes} {text : String} (read : ofUtf8? bytes = some text) :
    toUtf8 text = bytes := by
  unfold ofUtf8? String.fromUTF8? at read
  split at read
  · rw [← Option.some.inj read]
    rfl
  · cases read

@[simp] theorem toUtf8_append (s t : String) : toUtf8 (s ++ t) = toUtf8 s ++ toUtf8 t := by
  simp [toUtf8_eq]

@[simp] theorem toUtf8_ofList (chars : List Char) :
    toUtf8 (String.ofList chars) = chars.flatMap String.utf8EncodeChar := by
  simp [toUtf8_eq]

theorem length_toUtf8 (text : String) : (toUtf8 text).length = text.utf8ByteSize := by
  simp [toUtf8, ← String.size_toByteArray]

/-! ## ASCII -/

def asciiChar (b : UInt8) : Char := Char.ofNat b.toNat

theorem toNat_asciiChar (b : UInt8) : (asciiChar b).toNat = b.toNat := by
  have bound := b.toNat_lt
  have valid : b.toNat.isValidChar := Or.inl (by omega)
  rw [asciiChar, Char.ofNat, dif_pos valid]
  rfl

theorem utf8EncodeChar_asciiChar {b : UInt8} (ascii : b < 0x80) :
    String.utf8EncodeChar (asciiChar b) = [b] := by
  have small : b.toNat < 128 := UInt8.lt_iff_toNat_lt.1 ascii
  have value : (asciiChar b).val.toNat = b.toNat := toNat_asciiChar b
  simp only [String.utf8EncodeChar, value]
  rw [if_pos (by omega), UInt8.ofNat_toNat]

/-- Among the bytes of a character below 128 is only that of the character itself. -/
theorem eq_asciiChar_of_mem {b : UInt8} {c : Char} (ascii : b < 0x80)
    (inside : b ∈ String.utf8EncodeChar c) : c = asciiChar b := by
  have small : b.toNat < 128 := UInt8.lt_iff_toNat_lt.1 ascii
  have tails := fun n => toNat_marked 128 64 n (by decide) (by decide)
  have pairs := fun n => toNat_marked 192 32 n (by decide) (by decide)
  have triples := fun n => toNat_marked 224 16 n (by decide) (by decide)
  have fours := fun n => toNat_marked 240 8 n (by decide) (by decide)
  unfold String.utf8EncodeChar at inside
  simp only at inside
  split at inside
  · have value : b.toNat = c.toNat := by
      rw [List.mem_singleton.1 inside, UInt8.toNat_ofNat', Nat.mod_eq_of_lt]
      · rfl
      · omega
    rw [asciiChar, value, Char.ofNat_toNat]
  -- Every byte of a longer character carries a mark above 127.
  · exfalso
    repeat' split at inside
    all_goals
      simp only [List.mem_cons, List.not_mem_nil, or_false, ← UInt8.toNat_inj, tails, pairs,
        triples, fours] at inside
      omega

theorem mem_of_mem_toUtf8 {b : UInt8} {text : String} (ascii : b < 0x80)
    (inside : b ∈ toUtf8 text) : asciiChar b ∈ text.toList := by
  rw [toUtf8_eq, List.mem_flatMap] at inside
  obtain ⟨c, within, of⟩ := inside
  rw [← eq_asciiChar_of_mem ascii of]
  exact within

theorem lossyChars_of_ascii {bytes : Bytes} (ascii : ∀ b ∈ bytes, b < 0x80) :
    lossyChars bytes = bytes.map asciiChar := by
  induction bytes with
  | nil => simp [lossyChars]
  | cons b rest ih =>
    have first : b < 0x80 := ascii b List.mem_cons_self
    have read : lossyHead b rest = (asciiChar b, rest) := by
      unfold lossyHead
      rw [if_pos first, asciiChar]
    rw [lossyChars, read, ih fun b within => ascii b (List.mem_cons_of_mem _ within), List.map_cons]

/-- A text of ASCII bytes has these bytes. -/
theorem toUtf8_lossyUtf8 {bytes : Bytes} (ascii : ∀ b ∈ bytes, b < 0x80) :
    toUtf8 (lossyUtf8 bytes) = bytes := by
  rw [lossyUtf8, toUtf8_ofList, lossyChars_of_ascii ascii, List.flatMap_map]
  induction bytes with
  | nil => rfl
  | cons b rest ih =>
    rw [List.flatMap_cons, utf8EncodeChar_asciiChar (ascii b List.mem_cons_self),
      ih fun b within => ascii b (List.mem_cons_of_mem _ within), List.singleton_append]

end BlobCluster.Bytes
