import BlobCluster.Json.Reader
import BlobCluster.Proofs.Bytes.Utf8

/-!
# Written strings are read back

A written string escapes the quote, the backslash and the controls.  The machine that reads strings
takes from the escaped bytes of a character exactly the bytes of the character
(`scanString_escapeChar`), so it reads every written string back (`scanString_renderString`).
-/

namespace BlobCluster.Json

/-! ## Characters -/

/-- A string of whole characters, with the bytes read so far. -/
def Scan.of (content : Bytes) : Scan := ⟨content, none, true⟩

theorem Scan.push_of (content : Bytes) (b : UInt8) :
    (Scan.of content).push b = Scan.of (b :: content) := rfl

/-- Bytes that are neither marks nor controls stand for themselves.  The machine keeps its content
in reverse, so the bytes are put in front of it backwards. -/
theorem scanString_plain {bytes : Bytes} (plain : ∀ b ∈ bytes, b ≠ 0x22 ∧ b ≠ 0x5C ∧ ¬ b < 0x20)
    (content rest : Bytes) : scanString .plain (.of content) (bytes ++ rest)
      = scanString .plain (.of (bytes.reverse ++ content)) rest := by
  induction bytes generalizing content with
  | nil => rfl
  | cons b bytes ih =>
    obtain ⟨noQuote, noBackslash, noControl⟩ := plain b List.mem_cons_self
    rw [List.cons_append, scanString, if_neg (by simpa using noQuote),
      if_neg (by simpa using noBackslash), if_neg noControl, Scan.push_of,
      ih fun c within => plain c (List.mem_cons_of_mem _ within)]
    simp

theorem hexValue?_hexDigit {n : Nat} (small : n < 16) :
    Bytes.hexValue? (Char.ofNat (UInt8.ofNat (Bytes.hexDigit n).toNat).toNat) = some n := by
  revert n
  decide

theorem utf8EncodeChar_hexDigit {n : Nat} (small : n < 16) :
    String.utf8EncodeChar (Bytes.hexDigit n) = [UInt8.ofNat (Bytes.hexDigit n).toNat] := by
  revert n
  decide

/-- A digit of a code is taken into the code; the last one ends it. -/
theorem scanString_hexDigit {n : Nat} (small : n < 16) (owed code : Nat) (scan : Scan)
    (rest : Bytes) : scanString (.hex owed code) scan (UInt8.ofNat (Bytes.hexDigit n).toNat :: rest)
      = if owed ≤ 1 then scanString .plain (scan.pushCode (16 * code + n)) rest
        else scanString (.hex (owed - 1) (16 * code + n)) scan rest := by
  rw [scanString, hexValue?_hexDigit small]

theorem scanString_hexFour {c : Char} (control : c.toNat < 0x20) (content rest : Bytes) :
    scanString .plain (.of content)
        ((['\\', 'u'] ++ hexFour c.toNat).flatMap String.utf8EncodeChar ++ rest)
      = scanString .plain (.of ((String.utf8EncodeChar c).reverse ++ content)) rest := by
  have digits : hexFour c.toNat = [Bytes.hexDigit 0, Bytes.hexDigit 0,
      Bytes.hexDigit (c.toNat / 16), Bytes.hexDigit (c.toNat % 16)] := by
    unfold hexFour
    rw [show c.toNat / 4096 % 16 = 0 by omega, show c.toNat / 256 % 16 = 0 by omega,
      show c.toNat / 16 % 16 = c.toNat / 16 by omega]
  have high : c.toNat / 16 < 16 := by omega
  have low : c.toNat % 16 < 16 := by omega
  have bytes : (['\\', 'u'] ++ hexFour c.toNat).flatMap String.utf8EncodeChar
      = [0x5C, 0x75] ++ [0, 0, c.toNat / 16, c.toNat % 16].map
        fun n => UInt8.ofNat (Bytes.hexDigit n).toNat := by
    rw [digits]
    simp only [List.cons_append, List.nil_append, List.flatMap_cons, List.flatMap_nil,
      utf8EncodeChar_hexDigit high, utf8EncodeChar_hexDigit low]
    rfl
  have code : 16 * (16 * (16 * (16 * 0 + 0) + 0) + c.toNat / 16) + c.toNat % 16 = c.toNat := by
    omega
  have pushed : (Scan.of content).pushCode c.toNat
      = Scan.of ((String.utf8EncodeChar c).reverse ++ content) := by
    have noLead : ¬ (0xD800 ≤ c.toNat ∧ c.toNat ≤ 0xDBFF) := by omega
    have noTrail : ¬ (0xDC00 ≤ c.toNat ∧ c.toNat ≤ 0xDFFF) := by omega
    simp [Scan.pushCode, Scan.of, noLead, noTrail, charBytes]
  rw [bytes]
  simp only [List.map_cons, List.map_nil, List.cons_append, List.nil_append]
  rw [scanString, if_neg (by decide), if_pos (by decide), scanString, if_pos (by decide),
    scanString_hexDigit (by decide), if_neg (by decide),
    scanString_hexDigit (by decide), if_neg (by decide),
    scanString_hexDigit high, if_neg (by decide), scanString_hexDigit low, if_pos (by decide),
    code, pushed]

theorem plain_of_unescaped {c : Char} (noQuote : c ≠ '"') (noBackslash : c ≠ '\\')
    (noControl : ¬ c.toNat < 0x20) :
    ∀ b ∈ String.utf8EncodeChar c, b ≠ 0x22 ∧ b ≠ 0x5C ∧ ¬ b < 0x20 := by
  intro b within
  refine ⟨?_, ?_, ?_⟩
  · rintro rfl
    exact noQuote (Bytes.eq_asciiChar_of_mem (by decide) within)
  · rintro rfl
    exact noBackslash (Bytes.eq_asciiChar_of_mem (by decide) within)
  · intro small
    have is := Bytes.eq_asciiChar_of_mem (UInt8.lt_trans small (by decide)) within
    rw [is, Bytes.toNat_asciiChar] at noControl
    exact noControl (UInt8.lt_iff_toNat_lt.1 small)

/-- The escaped bytes of a character are read as its bytes. -/
theorem scanString_escapeChar (c : Char) (content rest : Bytes) :
    scanString .plain (.of content) ((escapeChar c).flatMap String.utf8EncodeChar ++ rest)
      = scanString .plain (.of ((String.utf8EncodeChar c).reverse ++ content)) rest := by
  by_cases short : c ∈ ['"', '\\', '\x08', '\x0c', '\n', '\r', '\t']
  · simp only [List.mem_cons, List.not_mem_nil, or_false] at short
    rcases short with rfl | rfl | rfl | rfl | rfl | rfl | rfl
    all_goals rfl
  · simp only [List.mem_cons, List.not_mem_nil, or_false, not_or] at short
    obtain ⟨quote, backslash, backspace, feed, newline, return_, tab⟩ := short
    unfold escapeChar
    rw [if_neg quote, if_neg backslash, if_neg backspace, if_neg feed, if_neg newline,
      if_neg return_, if_neg tab]
    by_cases control : c.toNat < 0x20
    · rw [if_pos control]
      exact scanString_hexFour control content rest
    · rw [if_neg control, List.flatMap_singleton]
      exact scanString_plain (plain_of_unescaped quote backslash control) content rest

/-! ## Strings -/

theorem scanString_escapeChars (chars : List Char) (content rest : Bytes) :
    scanString .plain (.of content)
        ((chars.flatMap escapeChar).flatMap String.utf8EncodeChar ++ rest)
      = scanString .plain (.of ((chars.flatMap String.utf8EncodeChar).reverse ++ content))
        rest := by
  induction chars generalizing content with
  | nil => rfl
  | cons c chars ih =>
    rw [List.flatMap_cons, List.flatMap_append, List.append_assoc, scanString_escapeChar, ih,
      List.flatMap_cons, List.reverse_append, List.append_assoc]

/-- A written string is read back, whatever follows it. -/
theorem scanString_renderString (text : String) (rest : Bytes) :
    ∃ after, Bytes.toUtf8 (renderString text) ++ rest = 0x22 :: after ∧
      scanString .plain .start after = some (some text, rest) := by
  refine ⟨(text.toList.flatMap escapeChar).flatMap String.utf8EncodeChar ++ 0x22 :: rest, ?_, ?_⟩
  · have quote : String.utf8EncodeChar '"' = [0x22] := by decide
    simp only [renderString, Bytes.toUtf8_ofList, List.flatMap_cons, List.flatMap_append,
      List.flatMap_nil, quote, List.cons_append, List.nil_append, List.append_assoc]
  · show scanString .plain (.of []) _ = _
    rw [scanString_escapeChars, List.append_nil, ← Bytes.toUtf8_eq, scanString, if_pos (by decide)]
    have whole : (Scan.of (Bytes.toUtf8 text).reverse).finish = some text := by
      show Bytes.ofUtf8? (Bytes.toUtf8 text).reverse.reverse = some text
      rw [List.reverse_reverse, Bytes.ofUtf8?_toUtf8]
    rw [whole]

end BlobCluster.Json
