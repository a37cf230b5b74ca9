import BlobCluster.Http.Percent
import BlobCluster.Proofs.Bytes.Utf8

/-!
# What percent encoding keeps

Writing a piece of an address percent-encodes some bytes but leaves percent signs alone, so reading
the written piece undoes the encoding and then whatever looked like an escape before.  Only a text
without escapes is read back as it was (`decode_encode`, `decode_eq_self_iff`).
-/

namespace BlobCluster.Http.Percent

/-! ## Escapes -/

def startsWithDigits : Bytes → Bool
  | high :: low :: _ => (byte? high low).isSome
  | _ => false

/-- Somewhere a percent sign is followed by two hexadecimal digits. -/
def hasEscape : Bytes → Bool
  | [] => false
  | b :: rest => (b == 0x25 && startsWithDigits rest) || hasEscape rest

def isHexDigit (b : UInt8) : Bool := (Bytes.hexValue? (Bytes.asciiChar b)).isSome

theorem byte?_isSome (high low : UInt8) :
    (byte? high low).isSome = (isHexDigit high && isHexDigit low) := by
  unfold byte? isHexDigit Bytes.asciiChar
  cases Bytes.hexValue? (Char.ofNat high.toNat)
  · rfl
  · cases Bytes.hexValue? (Char.ofNat low.toNat) <;> rfl

theorem not_isHexDigit_percent : isHexDigit 0x25 = false := by decide

/-! ## Decoding -/

@[simp] theorem decode_nil : decode [] = [] := by simp [decode]

theorem decode_cons_of_plain {b : UInt8} {rest : Bytes}
    (plain : b = 0x25 → startsWithDigits rest = false) : decode (b :: rest) = b :: decode rest := by
  by_cases percent : b = 0x25
  · subst percent
    have noDigits := plain rfl
    match rest with
    | [] => simp [decode]
    | [c] => simp [decode]
    | high :: low :: more =>
      have none : byte? high low = none := by simpa [startsWithDigits] using noDigits
      rw [decode, none]
  · rw [decode]
    rintro high low more same
    cases same
    exact absurd rfl percent

theorem decode_escape {high low b : UInt8} {rest : Bytes} (value : byte? high low = some b) :
    decode (0x25 :: high :: low :: rest) = b :: decode rest := by
  rw [decode, value]

/-- Bytes are decoded one by one, and an escape at once.  The recursion of the decoder looks three
bytes ahead; with this the cases are the two that matter, a byte for itself and an escape. -/
@[elab_as_elim]
theorem decode_induction {motive : Bytes → Prop} (bytes : Bytes) (nil : motive [])
    (plain : ∀ b rest, (b = 0x25 → startsWithDigits rest = false) → motive rest →
      motive (b :: rest))
    (escape : ∀ high low b rest, byte? high low = some b → motive rest →
      motive (0x25 :: high :: low :: rest)) : motive bytes := by
  match bytes with
  | [] => exact nil
  | b :: rest =>
    have tail := decode_induction rest nil plain escape
    by_cases opens : b = 0x25 ∧ startsWithDigits rest = true
    · obtain ⟨rfl, digits⟩ := opens
      match rest, tail, digits with
      | high :: low :: more, _, digits =>
        obtain ⟨b, value⟩ := Option.isSome_iff_exists.1 digits
        exact escape high low b more value (decode_induction more nil plain escape)
    · exact plain b rest (fun percent => by simpa [percent] using opens) tail
termination_by bytes.length

theorem hasEscape_cons_of_plain {b : UInt8} {rest : Bytes}
    (plain : b = 0x25 → startsWithDigits rest = false) :
    hasEscape (b :: rest) = hasEscape rest := by
  by_cases percent : b = 0x25
  · simp [hasEscape, plain percent]
  · simp [hasEscape, percent]

theorem hasEscape_of_not_mem {bytes : Bytes} (missing : 0x25 ∉ bytes) :
    hasEscape bytes = false := by
  induction bytes with
  | nil => rfl
  | cons b rest ih =>
    obtain ⟨differs, missing⟩ := List.ne_and_not_mem_of_not_mem_cons missing
    rw [hasEscape_cons_of_plain fun percent => absurd percent.symm differs, ih missing]

/-- Decoding makes nothing longer, and what has an escape shorter.  So a text with an escape is
never what it decodes to. -/
theorem length_decode (bytes : Bytes) : (decode bytes).length ≤ bytes.length ∧
    (hasEscape bytes = true → (decode bytes).length < bytes.length) := by
  induction bytes using decode_induction with
  | nil => simp [hasEscape]
  | plain b rest plain ih =>
    rw [decode_cons_of_plain plain, hasEscape_cons_of_plain plain]
    simpa using ih
  | escape high low b rest value ih =>
    rw [decode_escape value]
    simp only [List.length_cons]
    omega

theorem decode_eq_self_iff {bytes : Bytes} : decode bytes = bytes ↔ hasEscape bytes = false := by
  constructor
  · intro same
    rw [Bool.eq_false_iff]
    intro escapes
    have shorter := (length_decode bytes).2 escapes
    rw [same] at shorter
    exact Nat.lt_irrefl _ shorter
  · intro none
    induction bytes using decode_induction with
    | nil => exact decode_nil
    | plain b rest plain ih =>
      rw [hasEscape_cons_of_plain plain] at none
      rw [decode_cons_of_plain plain, ih none]
    | escape high low b rest value ih =>
      simp [hasEscape, startsWithDigits, value] at none

/-! ## Encoding -/

/-- The bytes that are encoded are neither percent signs nor hexadecimal digits. -/
def SparesEscapes (needed : UInt8 → Bool) : Prop :=
  ∀ b, needed b = true → b ≠ 0x25 ∧ isHexDigit b = false

variable {needed : UInt8 → Bool}

/-- The digit of a number below sixteen as it is written after a percent sign. -/
def upperDigit (n : Nat) : UInt8 := UInt8.ofNat (Bytes.hexDigit n).toUpper.toNat

theorem hexValue?_upperDigit {n : Nat} (small : n < 16) :
    Bytes.hexValue? (Char.ofNat (upperDigit n).toNat) = some n := by
  revert n
  decide

theorem encodeByte_eq (b : UInt8) :
    encodeByte b = [0x25, upperDigit (b.toNat / 16), upperDigit (b.toNat % 16)] := rfl

theorem byte?_upperDigit (b : UInt8) :
    byte? (upperDigit (b.toNat / 16)) (upperDigit (b.toNat % 16)) = some b := by
  have bound := b.toNat_lt
  have high : b.toNat / 16 < 16 := by omega
  have low : b.toNat % 16 < 16 := by omega
  have whole : 16 * (b.toNat / 16) + b.toNat % 16 = b.toNat := by omega
  simp only [byte?, hexValue?_upperDigit high, hexValue?_upperDigit low, Option.bind_eq_bind,
    Option.bind_some, whole, UInt8.ofNat_toNat]
  rfl

theorem encode_cons (b : UInt8) (rest : Bytes) : encode needed (b :: rest)
    = (if needed b then encodeByte b else [b]) ++ encode needed rest := by
  simp [encode]

/-- Encoding neither makes nor breaks the digits of an escape. -/
theorem startsWithDigits_encode (spares : SparesEscapes needed) (bytes : Bytes) :
    startsWithDigits (encode needed bytes) = startsWithDigits bytes := by
  match bytes with
  | [] => rfl
  | [b] =>
    by_cases encoded : needed b = true
    · simp [encode, encoded, encodeByte_eq, startsWithDigits, byte?_isSome, not_isHexDigit_percent]
    · simp [encode, encoded, startsWithDigits]
  | high :: low :: rest =>
    by_cases first : needed high = true
    · have noDigit := (spares high first).2
      simp [encode_cons, first, encodeByte_eq, startsWithDigits, byte?_isSome,
        not_isHexDigit_percent, noDigit]
    · by_cases second : needed low = true
      · have noDigit := (spares low second).2
        simp [encode_cons, first, second, encodeByte_eq, startsWithDigits, byte?_isSome,
          not_isHexDigit_percent, noDigit]
      · simp [encode_cons, first, second, startsWithDigits]

/-- What was encoded is decoded again, and escapes that were there before as well.  Percent signs
are not encoded, so the escapes of the text itself are decoded as well; this is what becomes of an
id that has some. -/
theorem decode_encode (spares : SparesEscapes needed) (bytes : Bytes) :
    decode (encode needed bytes) = decode bytes := by
  induction bytes using decode_induction with
  | nil => rfl
  | plain b rest plain ih =>
    rw [encode_cons, decode_cons_of_plain plain]
    by_cases encoded : needed b = true
    · rw [if_pos encoded, encodeByte_eq]
      simp only [List.cons_append, List.nil_append]
      rw [decode_escape (byte?_upperDigit b), ih]
    · rw [if_neg encoded, List.singleton_append, decode_cons_of_plain, ih]
      rwa [startsWithDigits_encode spares]
  | escape high low b rest value ih =>
    have digits : isHexDigit high = true ∧ isHexDigit low = true := by
      rw [← Bool.and_eq_true, ← byte?_isSome, value]
      rfl
    have percent : needed 0x25 = false := by
      rw [Bool.eq_false_iff]
      exact fun encoded => (spares _ encoded).1 rfl
    have first : needed high = false := by
      rw [Bool.eq_false_iff]
      exact fun encoded => by simp [(spares _ encoded).2] at digits
    have second : needed low = false := by
      rw [Bool.eq_false_iff]
      exact fun encoded => by simp [(spares _ encoded).2] at digits
    simp only [encode_cons, percent, first, second, Bool.false_eq_true, if_false,
      List.singleton_append]
    rw [decode_escape value, decode_escape value, ih]

/-- Encoding writes percent signs, hexadecimal digits, and bytes that need not be encoded. -/
theorem mem_encode {b : UInt8} {bytes : Bytes} (inside : b ∈ encode needed bytes) :
    b = 0x25 ∨ isHexDigit b = true ∨ b ∈ bytes ∧ needed b = false := by
  obtain ⟨c, within, written⟩ := List.mem_flatMap.1 inside
  by_cases encoded : needed c = true
  · rw [if_pos encoded, encodeByte_eq] at written
    have bound := c.toNat_lt
    have digit : ∀ n < 16, isHexDigit (upperDigit n) = true := by decide
    simp only [List.mem_cons, List.not_mem_nil, or_false] at written
    obtain rfl | rfl | rfl := written
    · exact Or.inl rfl
    · exact Or.inr (Or.inl (digit _ (by omega)))
    · exact Or.inr (Or.inl (digit _ (by omega)))
  · rw [if_neg encoded, List.mem_singleton] at written
    subst written
    exact Or.inr (Or.inr ⟨within, by simpa using encoded⟩)

theorem encode_eq_self {bytes : Bytes} (plain : ∀ b ∈ bytes, needed b = false) :
    encode needed bytes = bytes := by
  induction bytes with
  | nil => rfl
  | cons b rest ih =>
    rw [encode_cons, plain b List.mem_cons_self,
      ih fun c within => plain c (List.mem_cons_of_mem _ within)]
    rfl

theorem length_encode (bytes : Bytes) : (encode needed bytes).length ≤ 3 * bytes.length := by
  induction bytes with
  | nil => simp [encode]
  | cons b rest ih =>
    rw [encode_cons, List.length_append, List.length_cons]
    have first : (if needed b then encodeByte b else [b]).length ≤ 3 := by
      split <;> simp [encodeByte_eq]
    omega

/-! ## Pieces of an address -/

theorem lt_of_isHexDigit {b : UInt8} (digit : isHexDigit b = true) : b < 0x80 := by
  obtain ⟨n, value⟩ := Option.isSome_iff_exists.1 digit
  rw [UInt8.lt_iff_toNat_lt, ← Bytes.toNat_asciiChar]
  unfold Bytes.hexValue? at value
  have bounds : (Bytes.asciiChar b).toNat ≤ 'f'.toNat := by
    split at value
    next within => exact Nat.le_trans (UInt32.le_iff_toNat_le.1 within.2) (by decide)
    next =>
      split at value
      next within => exact UInt32.le_iff_toNat_le.1 within.2
      next =>
        split at value
        next within => exact Nat.le_trans (UInt32.le_iff_toNat_le.1 within.2) (by decide)
        next => cases value
  exact Nat.lt_of_le_of_lt bounds (by decide)

variable {others : List Char}

theorem ascii_encode (text : String) :
    ∀ b ∈ encode (isOneOf others) (Bytes.toUtf8 text), b < 0x80 := by
  intro b inside
  rcases mem_encode inside with rfl | digit | ⟨-, plain⟩
  · decide
  · exact lt_of_isHexDigit digit
  · simp only [isOneOf, Bool.or_eq_false_iff, decide_eq_false_iff_not, UInt8.not_le] at plain
    exact UInt8.lt_trans plain.1.2 (by decide)

theorem toUtf8_encodeText (text : String) :
    Bytes.toUtf8 (encodeText others text) = encode (isOneOf others) (Bytes.toUtf8 text) :=
  Bytes.toUtf8_lossyUtf8 (ascii_encode text)

theorem encodeText_eq_self {text : String}
    (plain : ∀ b ∈ Bytes.toUtf8 text, isOneOf others b = false) :
    encodeText others text = text := by
  apply Bytes.toUtf8_injective
  rw [toUtf8_encodeText, encode_eq_self plain]

/-- A written piece holds only those characters that the text holds and that need not be encoded,
besides percent signs and hexadecimal digits. -/
theorem not_mem_encodeText {c : Char} {text : String} (noPercent : c ≠ '%')
    (noDigit : Bytes.hexValue? c = none) (outside : c ∈ others ∨ c ∉ text.toList) :
    c ∉ (encodeText others text).toList := by
  intro inside
  rw [encodeText, Bytes.lossyUtf8, String.toList_ofList,
    Bytes.lossyChars_of_ascii (ascii_encode text)]
    at inside
  obtain ⟨b, written, rfl⟩ := List.mem_map.1 inside
  have ascii := ascii_encode text b written
  rcases mem_encode written with rfl | digit | ⟨within, plain⟩
  · exact noPercent rfl
  · simp [isHexDigit, noDigit] at digit
  · rcases outside with encoded | missing
    · have needed : isOneOf others b = true := by
        simp only [isOneOf, Bool.or_eq_true, List.any_eq_true, beq_iff_eq]
        exact Or.inr ⟨_, encoded, Bytes.toNat_asciiChar b⟩
      rw [needed] at plain
      cases plain
    · exact missing (Bytes.mem_of_mem_toUtf8 ascii within)

theorem utf8ByteSize_encodeText (text : String) :
    (encodeText others text).utf8ByteSize ≤ 3 * text.utf8ByteSize := by
  rw [← Bytes.length_toUtf8, toUtf8_encodeText, ← Bytes.length_toUtf8]
  exact length_encode _

end BlobCluster.Http.Percent
