import BlobCluster.BlobId

/-!
# What a blob id is made of

`Acceptable` says of a text, character by character, what makes it the name of a file that stays in
its folder.  `valid_iff_acceptable` says that these are the texts that are accepted as blob ids.
-/

namespace BlobCluster.BlobId

/-- A text of 1 to 255 bytes without slashes, backslashes and control characters, which is neither
the name of the folder itself nor that of the folder above. -/
structure Acceptable (id : String) : Prop where
  some_ : 1 ≤ id.utf8ByteSize
  short : id.utf8ByteSize ≤ 255
  noSlash : '/' ∉ id.toList
  noBackslash : '\\' ∉ id.toList
  noControl : ∀ c ∈ id.toList, ¬ (c.toNat ≤ 0x1F ∨ 0x7F ≤ c.toNat ∧ c.toNat ≤ 0x9F)
  noDot : id ≠ "."
  noDots : id ≠ ".."

variable {id : String}

theorem isControl_eq_false_iff {c : Char} :
    isControl c = false ↔ ¬ (c.toNat ≤ 0x1F ∨ 0x7F ≤ c.toNat ∧ c.toNat ≤ 0x9F) := by
  simp only [isControl, Bool.or_eq_false_iff, Bool.and_eq_false_iff, decide_eq_false_iff_not]
  omega

theorem any_isSeparator_eq_false_iff {chars : List Char} :
    chars.any isSeparator = false ↔ '/' ∉ chars ∧ '\\' ∉ chars := by
  simp only [List.any_eq_false, isSeparator, Bool.or_eq_true, beq_iff_eq, not_or]
  constructor
  · intro plain
    exact ⟨fun mem => (plain _ mem).1 rfl, fun mem => (plain _ mem).2 rfl⟩
  · rintro ⟨noSlash, noBackslash⟩ c mem
    exact ⟨fun same => noSlash (same ▸ mem), fun same => noBackslash (same ▸ mem)⟩

theorem valid_iff : Valid id ↔ id.isEmpty = false ∧ id.utf8ByteSize ≤ maxLength
    ∧ (id.toList.any isSeparator = false ∧ id ≠ "." ∧ id ≠ "..")
    ∧ id.toList.any isControl = false := by
  unfold Valid objection? Bytes.utf8Length
  split
  next empty => simp [empty]
  next some_ =>
    split
    next long => simp [Nat.not_le.2 long]
    next short =>
      have short := Nat.not_lt.1 short
      split
      next unfit => grind
      next fit => split <;> grind

/-- The ids that are accepted.  The check looks at one thing after another and stops at the first
objection; `Acceptable` is the conjunction of all that it looks at. -/
theorem valid_iff_acceptable : Valid id ↔ Acceptable id := by
  have some_ : id.isEmpty = false ↔ 1 ≤ id.utf8ByteSize := by
    rw [← Bool.not_eq_true, String.isEmpty_iff, ← String.utf8ByteSize_eq_zero_iff]
    omega
  have controls : id.toList.any isControl = false
      ↔ ∀ c ∈ id.toList, ¬ (c.toNat ≤ 0x1F ∨ 0x7F ≤ c.toNat ∧ c.toNat ≤ 0x9F) := by
    simp only [List.any_eq_false, Bool.not_eq_true, isControl_eq_false_iff]
  rw [valid_iff, some_, any_isSeparator_eq_false_iff, controls]
  constructor
  · rintro ⟨some_, short, ⟨⟨noSlash, noBackslash⟩, noDot, noDots⟩, noControl⟩
    exact ⟨some_, short, noSlash, noBackslash, noControl, noDot, noDots⟩
  · rintro ⟨some_, short, noSlash, noBackslash, noControl, noDot, noDots⟩
    exact ⟨some_, short, ⟨⟨noSlash, noBackslash⟩, noDot, noDots⟩, noControl⟩

end BlobCluster.BlobId
