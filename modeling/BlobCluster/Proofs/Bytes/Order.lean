import BlobCluster.Bytes.Utf8

/-!
# The order of texts is the order of their bytes

Tables sort their rows by comparing texts character by character.  UTF-8 was made so that this is
the same as comparing the bytes: a character that comes first has a smaller first byte or, among
characters of one length, a smaller byte where they begin to differ.  So the first row of a table
is the one whose key has the least bytes.
-/

namespace BlobCluster.Bytes

/-! ## Characters -/

/-- Numbers written in four digits to the base 64 are in the order of their digits. -/
theorem digits_lt {n m : Nat} (h : n < m) (rest : Prop) :
    n / 262144 < m / 262144 ∨ n / 262144 = m / 262144
      ∧ (n / 4096 % 64 < m / 4096 % 64 ∨ n / 4096 % 64 = m / 4096 % 64
        ∧ (n / 64 % 64 < m / 64 % 64 ∨ n / 64 % 64 = m / 64 % 64
          ∧ (n % 64 < m % 64 ∨ n % 64 = m % 64 ∧ rest))) := by
  omega

theorem toNat_marked (mark base n : Nat) (positive : 0 < base) (room : base + mark ≤ 256) :
    (UInt8.ofNat (n % base + mark)).toNat = n % base + mark := by
  have digit := Nat.mod_lt n positive
  rw [UInt8.toNat_ofNat', Nat.mod_eq_of_lt]
  omega

/-- The bytes of the smaller character come first, whatever follows either. -/
theorem utf8EncodeChar_lt {c d : Char} (h : c < d) (rest rest' : Bytes) :
    String.utf8EncodeChar c ++ rest < String.utf8EncodeChar d ++ rest' := by
  have less : c.val.toNat < d.val.toNat := UInt32.lt_iff_toNat_lt.1 (Char.lt_def.1 h)
  have range : d.val.toNat < 0x110000 := by
    rcases d.valid with low | high
    · omega
    · exact high.2
  have tails := fun n => toNat_marked 128 64 n (by decide) (by decide)
  have pairs := fun n => toNat_marked 192 32 n (by decide) (by decide)
  have triples := fun n => toNat_marked 224 16 n (by decide) (by decide)
  have fours := fun n => toNat_marked 240 8 n (by decide) (by decide)
  unfold String.utf8EncodeChar
  simp only
  -- Both characters have between one and four bytes.
  repeat' split
  all_goals simp only [List.cons_append, List.nil_append, List.cons_lt_cons_iff,
    UInt8.lt_iff_toNat_lt, ← UInt8.toNat_inj, tails, pairs, triples, fours, UInt8.toNat_ofNat',
    Nat.add_lt_add_iff_right, Nat.add_right_cancel_iff]
  all_goals try omega
  -- Two characters of four bytes are too many digits at once for `omega`.
  rw [Nat.mod_eq_of_lt (by omega : c.val.toNat / 262144 < 8),
    Nat.mod_eq_of_lt (by omega : d.val.toNat / 262144 < 8)]
  exact digits_lt less _

/-! ## Texts -/

theorem toUtf8_eq (text : String) : toUtf8 text = text.toList.flatMap String.utf8EncodeChar := by
  unfold toUtf8 String.toUTF8
  rw [← String.utf8Encode_toList, List.utf8Encode]
  simp

theorem flatMap_utf8EncodeChar_lt {s t : List Char} (h : s < t) :
    s.flatMap String.utf8EncodeChar < t.flatMap String.utf8EncodeChar := by
  induction s generalizing t with
  | nil =>
    cases t with
    | nil => cases h
    | cons d t =>
      rw [List.flatMap_nil, List.flatMap_cons]
      cases bytes : String.utf8EncodeChar d with
      | nil => exact absurd bytes String.utf8EncodeChar_ne_nil
      | cons first others => exact List.nil_lt_cons ..
  | cons c s ih =>
    cases t with
    | nil => cases h
    | cons d t =>
      rw [List.flatMap_cons, List.flatMap_cons]
      rcases List.cons_lt_cons_iff.1 h with less | ⟨rfl, less⟩
      · exact utf8EncodeChar_lt less _ _
      · exact List.append_left_lt (ih less)

/-- Texts are in the order of their bytes. -/
theorem toUtf8_lt_iff {s t : String} : toUtf8 s < toUtf8 t ↔ s < t := by
  have forward : ∀ {s t : String}, s < t → toUtf8 s < toUtf8 t := by
    intro s t less
    rw [toUtf8_eq, toUtf8_eq]
    exact flatMap_utf8EncodeChar_lt less
  constructor
  · intro less
    by_cases before : s < t
    · exact before
    · rcases Std.le_iff_lt_or_eq.1 (String.not_lt.1 before) with after | same
      · exact absurd less (List.lt_asymm (forward after))
      · rw [same] at less
        exact absurd less (List.lt_irrefl _)
  · exact forward

theorem toUtf8_injective {s t : String} (h : toUtf8 s = toUtf8 t) : s = t := by
  have notBefore : ¬ s < t := by
    rw [← toUtf8_lt_iff, h]
    exact List.lt_irrefl _
  have notAfter : ¬ t < s := by
    rw [← toUtf8_lt_iff, h]
    exact List.lt_irrefl _
  exact String.le_antisymm (String.not_lt.1 notAfter) (String.not_lt.1 notBefore)

/-- Of two texts that are compared the first has the smaller bytes. -/
theorem compare_eq_lt_iff {s t : String} : compare s t = .lt ↔ toUtf8 s < toUtf8 t := by
  rw [toUtf8_lt_iff]
  exact compareOfLessAndEq_eq_lt

end BlobCluster.Bytes
