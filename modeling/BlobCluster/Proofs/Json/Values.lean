import BlobCluster.Json.Decode
import BlobCluster.Proofs.Json.Strings
import Mathlib.Data.Bool.AllAny

/-!
# Written values are read back

Nodes write texts, whole numbers of 64 bits with and without sign, truth values, and lists and
records of such values.  `Reads` says that a value is read back from its text, whatever follows it,
with enough fuel; it is put together from the parts of a value as the value itself is.  `ReadBack`
says that the bytes of the text are fuel enough, so a reader that is given a whole text never runs
out of it.
-/

namespace BlobCluster.Json

/-! ## Numbers -/

/-- What may follow a value: nothing, or a comma or a closing bracket. -/
def Ends (rest : Bytes) : Prop := ∀ b ∈ rest.head?, b ∈ ([0x2C, 0x5D, 0x7D] : Bytes)

theorem utf8EncodeChar_digit {c : Char} (digit : c.isDigit = true) :
    ∃ b : UInt8, String.utf8EncodeChar c = [b] ∧ b.toNat = c.toNat ∧ isDigit b = true := by
  simp only [Char.isDigit, Bool.and_eq_true, decide_eq_true_eq] at digit
  have least : 48 ≤ c.val.toNat := UInt32.le_iff_toNat_le.1 digit.1
  have greatest : c.val.toNat ≤ 57 := UInt32.le_iff_toNat_le.1 digit.2
  have value : (UInt8.ofNat c.val.toNat).toNat = c.val.toNat := by
    rw [UInt8.toNat_ofNat', Nat.mod_eq_of_lt (by omega)]
  refine ⟨UInt8.ofNat c.val.toNat, ?_, value, ?_⟩
  · simp only [String.utf8EncodeChar]
    rw [if_pos (by omega)]
  · simp only [isDigit, Bool.and_eq_true, decide_eq_true_eq, UInt8.le_iff_toNat_le, value]
    exact ⟨least, greatest⟩

/-- The digits of a number are read up to what is no digit. -/
theorem spanDigits_append {chars : List Char} (digits : ∀ c ∈ chars, c.isDigit = true)
    {rest : Bytes} (ends : Ends rest) :
    spanDigits (chars.flatMap String.utf8EncodeChar ++ rest)
      = (chars.map fun c => c.toNat - 48, rest) := by
  induction chars with
  | nil =>
    cases rest with
    | nil => rfl
    | cons b more =>
      have closing := ends b rfl
      have noDigit : ∀ b ∈ ([0x2C, 0x5D, 0x7D] : Bytes), isDigit b = false :=
        List.all_iff_forall_prop.1 (by decide)
      simp [spanDigits, noDigit b closing]
  | cons c chars ih =>
    obtain ⟨b, byte, value, digit⟩ := utf8EncodeChar_digit (digits c List.mem_cons_self)
    rw [List.flatMap_cons, byte, List.singleton_append, List.cons_append, spanDigits, if_pos digit,
      ih fun d within => digits d (List.mem_cons_of_mem _ within), value]
    rfl

theorem gather_eq {digits : List Nat} {acc : Nat}
    (small : digits.foldl (fun acc d => 10 * acc + d) acc < UInt64.size) :
    gather acc digits = (digits.foldl (fun acc d => 10 * acc + d) acc, []) := by
  have grows : ∀ (digits : List Nat) (acc : Nat),
      acc ≤ digits.foldl (fun acc d => 10 * acc + d) acc := by
    intro digits
    induction digits with
    | nil => exact fun acc => Nat.le_refl acc
    | cons d rest ih => exact fun acc => Nat.le_trans (by omega) (ih (10 * acc + d))
  induction digits generalizing acc with
  | nil => rfl
  | cons d rest ih =>
    rw [List.foldl_cons] at small ⊢
    rw [gather, if_pos (Nat.lt_of_le_of_lt (grows rest _) small), ih small]

theorem toDigits_head {n : Nat} (positive : 0 < n) :
    ∃ c rest, Nat.toDigits 10 n = c :: rest ∧ c.toNat - 48 ≠ 0 := by
  induction n using Nat.strongRecOn with
  | ind n ih =>
    by_cases single : n < 10
    · refine ⟨n.digitChar, [], Nat.toDigits_of_lt_base single, ?_⟩
      rw [Nat.toNat_digitChar_sub_48_of_lt_ten single]
      omega
    · obtain ⟨c, rest, digits, head⟩ := ih (n / 10) (by omega) (by omega)
      refine ⟨c, rest ++ [(n % 10).digitChar], ?_, head⟩
      rw [Nat.toDigits_of_base_le (by decide) (by omega), digits, List.cons_append]

/-- Digits without a leading zero are a number, if nothing follows that belongs to it. -/
theorem readDigits?_of_span {minus : Bool} {bytes rest : Bytes} {digits : List Nat} {n : Nat}
    (span : spanDigits bytes = (digits, rest))
    (shape : digits = [0] ∨ ∃ d others, digits = d :: others ∧ d ≠ 0)
    (gathered : gather 0 digits = (n, [])) (ends : Ends rest) :
    readDigits? minus bytes = some (wholeNumber minus n [], rest) := by
  -- What may follow is neither a point nor the letter of an exponent.
  have closing : ∀ b more, rest = b :: more → b = 0x2C ∨ b = 0x5D ∨ b = 0x7D := by
    rintro b more rfl
    simpa using ends b rfl
  rw [readDigits?, span]
  rcases shape with rfl | ⟨d, others, rfl, head⟩
  · simp only [gathered]
    cases rest with
    | nil => rfl
    | cons b more =>
      rcases closing b more rfl with rfl | rfl | rfl
      all_goals rfl
  · obtain ⟨m, rfl⟩ := Nat.exists_eq_succ_of_ne_zero head
    simp only [gathered]
    cases rest with
    | nil => rfl
    | cons b more =>
      rcases closing b more rfl with rfl | rfl | rfl
      all_goals rfl

theorem readDigits?_toString (minus : Bool) {n : Nat} (small : n < UInt64.size) {rest : Bytes}
    (ends : Ends rest) :
    readDigits? minus (Bytes.toUtf8 (toString n) ++ rest)
      = some (wholeNumber minus n [], rest) := by
  have digits : ∀ c ∈ Nat.toDigits 10 n, c.isDigit = true := fun c within =>
    Nat.isDigit_of_mem_toDigits (by decide) (by decide) within
  have value : ((Nat.toDigits 10 n).map fun c => c.toNat - 48).foldl (fun acc d => 10 * acc + d) 0
      = n := by
    rw [List.foldl_map]
    exact Nat.ofDigitChars_ten_toDigits
  have span := spanDigits_append digits ends
  have gathered := gather_eq (value ▸ small)
  rw [value] at gathered
  rw [Nat.toString_eq_ofList_toDigits, Bytes.toUtf8_ofList]
  refine readDigits?_of_span span ?_ gathered ends
  by_cases zero : n = 0
  · subst zero
    exact Or.inl (by rw [Nat.toDigits_zero]; rfl)
  · obtain ⟨c, others, first, head⟩ := toDigits_head (Nat.pos_of_ne_zero zero)
    exact Or.inr ⟨_, _, by rw [first, List.map_cons], head⟩

/-- The text of a natural number begins with a digit. -/
theorem toUtf8_toString_starts (n : Nat) :
    ∃ b others, Bytes.toUtf8 (toString n) = b :: others ∧ isDigit b = true := by
  obtain ⟨c, others, first⟩ := List.exists_cons_of_ne_nil (@Nat.toDigits_ne_nil n 10)
  have digit : c.isDigit = true :=
    Nat.isDigit_of_mem_toDigits (b := 10) (n := n) (by decide) (by decide) (by simp [first])
  obtain ⟨b, byte, -, isDigit⟩ := utf8EncodeChar_digit digit
  rw [Nat.toString_eq_ofList_toDigits, Bytes.toUtf8_ofList, first, List.flatMap_cons, byte]
  exact ⟨b, _, rfl, isDigit⟩

theorem readNumber?_toString {n : Nat} (small : n < UInt64.size) {rest : Bytes} (ends : Ends rest) :
    readNumber? (Bytes.toUtf8 (toString n) ++ rest) = some (.natural n, rest) := by
  have unsigned : readNumber? (Bytes.toUtf8 (toString n) ++ rest)
      = readDigits? false (Bytes.toUtf8 (toString n) ++ rest) := by
    obtain ⟨b, others, written, digit⟩ := toUtf8_toString_starts n
    have noSign : b ≠ 0x2D := by
      rintro rfl
      exact absurd digit (by decide)
    rw [written, List.cons_append, readNumber?]
    intro more same
    exact noSign (List.cons.inj same).1
  rw [unsigned, readDigits?_toString false small ends]
  rfl

theorem readNumber?_minus {n : Nat} (some_ : 0 < n) (small : n ≤ Numeric.signedBound)
    {rest : Bytes} (ends : Ends rest) :
    readNumber? (0x2D :: (Bytes.toUtf8 (toString n) ++ rest)) = some (.negative n, rest) := by
  have range : n < UInt64.size := Nat.lt_of_le_of_lt small (by decide)
  rw [readNumber?, readDigits?_toString true range ends]
  simp [wholeNumber, some_, small]

/-! ## Values -/

/-- A value is read back from its text, with so much fuel or more.  `starts` tells the value from
the bracket that would end an empty list, and `Ends` is all that is known of what follows it. -/
structure Reads (fuel : Nat) (value : Json) : Prop where
  starts : ∃ b more, Bytes.toUtf8 value.render = b :: more ∧ isBlank b = false ∧ b ≠ 0x5D
  read : ∀ more, fuel ≤ more → ∀ rest, Ends rest →
    readValueWith more (Bytes.toUtf8 value.render ++ rest) = (value, rest)

theorem skipBlanks_cons {b : UInt8} {rest : Bytes} (noBlank : isBlank b = false) :
    skipBlanks (b :: rest) = b :: rest := by
  rw [skipBlanks, if_neg (by simp [noBlank])]

theorem reads_text (s : String) : Reads 1 (text s) := by
  constructor
  · obtain ⟨after, written, -⟩ := scanString_renderString s []
    rw [List.append_nil] at written
    exact ⟨0x22, after, written, by decide, by decide⟩
  · intro more enough rest ends
    obtain ⟨after, written, scanned⟩ := scanString_renderString s rest
    obtain ⟨fuel, rfl⟩ := Nat.exists_eq_add_of_le' enough
    have render : (text s).render = renderString s := by
      rw [text, render, renderContent]
    rw [render, written, readValueWith, skipBlanks_cons (by decide)]
    simp only [beq_self_eq_true, if_true, scanned, text]

theorem reads_nat {n : Nat} (small : n < UInt64.size) : Reads 1 (nat n) := by
  have render : (nat n).render = toString n := by
    rw [nat, render, renderNumber]
  obtain ⟨b, others, written, digit⟩ := toUtf8_toString_starts n
  have other : ∀ c ∈ ([0x20, 0x0A, 0x0D, 0x09, 0x5D, 0x22, 0x5B, 0x7B, 0x6E, 0x74, 0x66] : Bytes),
      (b == c) = false := by
    intro c among
    rw [beq_eq_false_iff_ne]
    rintro rfl
    have noDigit :
        ∀ c ∈ ([0x20, 0x0A, 0x0D, 0x09, 0x5D, 0x22, 0x5B, 0x7B, 0x6E, 0x74, 0x66] : Bytes),
          isDigit c = false :=
      List.all_iff_forall_prop.1 (by decide)
    rw [noDigit b among] at digit
    cases digit
  have noBlank : isBlank b = false := by
    simp [isBlank, other]
  constructor
  · rw [render]
    exact ⟨b, others, written, noBlank, by simpa using other 0x5D (by decide)⟩
  · intro more enough rest ends
    obtain ⟨fuel, rfl⟩ := Nat.exists_eq_add_of_le' enough
    have number := readNumber?_toString small ends
    rw [written, List.cons_append] at number
    rw [render, written, List.cons_append, readValueWith, skipBlanks_cons noBlank]
    simp [other, number, nat]

theorem reads_negative {n : Nat} (some_ : 0 < n) (small : n ≤ Numeric.signedBound) :
    Reads 1 (.number (.negative n)) := by
  have sign : Bytes.toUtf8 "-" = [0x2D] := by decide
  have written : Bytes.toUtf8 (Json.number (.negative n)).render
      = 0x2D :: Bytes.toUtf8 (toString n) := by
    rw [render, renderNumber, Bytes.toUtf8_append, sign, List.singleton_append]
  constructor
  · exact ⟨0x2D, _, written, by decide, by decide⟩
  · intro more enough rest ends
    obtain ⟨fuel, rfl⟩ := Nat.exists_eq_add_of_le' enough
    have number := readNumber?_minus some_ small ends
    rw [written, List.cons_append, readValueWith, skipBlanks_cons (by decide)]
    generalize Bytes.toUtf8 (toString n) ++ rest = bytes at number ⊢
    simp [number]

theorem reads_int {i : Int} (low : -(Numeric.signedBound : Int) ≤ i)
    (high : i < Numeric.signedBound) : Reads 1 (int i) := by
  have bound : Numeric.signedBound < UInt64.size := by decide
  unfold int
  split
  · exact reads_negative (by omega) (by omega)
  · exact reads_nat (by omega)

theorem reads_bool (b : Bool) : Reads 1 (.bool b) := by
  cases b with
  | true =>
    have written : Bytes.toUtf8 (Json.bool true).render = [0x74, 0x72, 0x75, 0x65] := by
      rw [render]
      decide
    refine ⟨⟨0x74, _, written, by decide, by decide⟩, fun more enough rest _ => ?_⟩
    obtain ⟨fuel, rfl⟩ := Nat.exists_eq_add_of_le' enough
    rw [written]
    rfl
  | false =>
    have written : Bytes.toUtf8 (Json.bool false).render = [0x66, 0x61, 0x6C, 0x73, 0x65] := by
      rw [render]
      decide
    refine ⟨⟨0x66, _, written, by decide, by decide⟩, fun more enough rest _ => ?_⟩
    obtain ⟨fuel, rfl⟩ := Nat.exists_eq_add_of_le' enough
    rw [written]
    rfl

/-! ## Lists -/

theorem readItems_render {fuel : Nat} {item : Json} {items : List Json}
    (reads : ∀ value ∈ item :: items, Reads fuel value) {more : Nat}
    (enough : fuel + items.length + 1 ≤ more) (rest : Bytes) :
    readItems more (Bytes.toUtf8 (renderItems (item :: items)) ++ 0x5D :: rest)
      = (item :: items, true, rest) := by
  have first := reads item List.mem_cons_self
  induction items generalizing item more with
  | nil =>
    obtain ⟨left, rfl⟩ := Nat.exists_eq_add_of_le' (Nat.le_trans (Nat.le_add_left 1 _) enough)
    have ends : Ends (0x5D :: rest) := by simp [Ends]
    rw [renderItems, readItems, first.read left (by simp at enough; omega) _ ends]
    simp only [skipBlanks_cons (by decide : isBlank 0x5D = false)]
  | cons next items ih =>
    obtain ⟨left, rfl⟩ := Nat.exists_eq_add_of_le' (Nat.le_trans (Nat.le_add_left 1 _) enough)
    rw [List.length_cons] at enough
    have others := ih (fun value within => reads value (List.mem_cons_of_mem _ within))
      (by omega : fuel + items.length + 1 ≤ left)
      (reads next (List.mem_cons_of_mem _ List.mem_cons_self))
    have comma : Bytes.toUtf8 "," = [0x2C] := by decide
    have ends : ∀ after, Ends (0x2C :: after) := by simp [Ends]
    rw [renderItems, Bytes.toUtf8_append, Bytes.toUtf8_append, comma, List.append_assoc,
      List.append_assoc, List.singleton_append, readItems,
      first.read left (by omega) _ (ends _)]
    simp only [skipBlanks_cons (by decide : isBlank 0x2C = false), others]

/-- The items of a list begin as the first of them does. -/
theorem renderItems_starts {fuel : Nat} {item : Json} (reads : Reads fuel item)
    (items : List Json) :
    ∃ b more, Bytes.toUtf8 (renderItems (item :: items)) = b :: more ∧ isBlank b = false
      ∧ b ≠ 0x5D := by
  obtain ⟨b, more, written, visible⟩ := reads.starts
  cases items with
  | nil => exact ⟨b, more, by rw [renderItems, written], visible⟩
  | cons next items =>
    rw [renderItems, Bytes.toUtf8_append, Bytes.toUtf8_append, written, List.cons_append,
      List.cons_append]
    exact ⟨b, _, rfl, visible⟩

theorem reads_list {fuel : Nat} {items : List Json} (reads : ∀ value ∈ items, Reads fuel value) :
    Reads (fuel + items.length + 1) (list items) := by
  have opening : Bytes.toUtf8 "[" = [0x5B] := by decide
  have closing : Bytes.toUtf8 "]" = [0x5D] := by decide
  have written : Bytes.toUtf8 (list items).render
      = 0x5B :: (Bytes.toUtf8 (renderItems items) ++ [0x5D]) := by
    rw [list, render, if_pos rfl, Bytes.toUtf8_append, Bytes.toUtf8_append, opening, closing]
    simp
  refine ⟨⟨0x5B, _, written, by decide, by decide⟩, ?_⟩
  intro more enough rest ends
  obtain ⟨left, rfl⟩ := Nat.exists_eq_add_of_le' (Nat.le_trans (Nat.le_add_left 1 _) enough)
  rw [written, List.cons_append, List.append_assoc, List.singleton_append, readValueWith,
    skipBlanks_cons (by decide)]
  simp only [(by decide : ((0x5B : UInt8) == 0x22) = false), Bool.false_eq_true, if_false,
    beq_self_eq_true, if_true]
  cases items with
  | nil =>
    rw [renderItems, (by decide : Bytes.toUtf8 "" = []), List.nil_append,
      skipBlanks_cons (by decide)]
    rfl
  | cons item items =>
    rw [List.length_cons] at enough
    have all := readItems_render reads (by omega : fuel + items.length + 1 ≤ left) rest
    obtain ⟨b, others, starts, noBlank, open_⟩ :=
      renderItems_starts (reads item List.mem_cons_self) items
    rw [starts, List.cons_append] at all ⊢
    rw [skipBlanks_cons noBlank]
    split
    · rename_i same
      exact absurd (List.cons.inj same).1 open_
    · rw [all]
      rfl

/-! ## Records -/

/-- The members of a record as they stand in its value. -/
def named (members : List (String × Json)) : List (Option String × Json) :=
  members.map fun (name, value) => (some name, value)

theorem readMembers_member {fuel left : Nat} {value : Json} (reads : Reads fuel value)
    (enough : fuel ≤ left) (name : String) {tail : Bytes} (ends : Ends tail) :
    readMembers (left + 1)
        (Bytes.toUtf8 (renderString name) ++ 0x3A :: (Bytes.toUtf8 value.render ++ tail))
      = match skipBlanks tail with
        | 0x7D :: rest => ([(some name, value)], true, rest)
        | 0x2C :: rest =>
          let (members, closed, rest) := readMembers left rest
          ((some name, value) :: members, closed, rest)
        | _ => ([(some name, value)], false, []) := by
  obtain ⟨after, written, scanned⟩ := scanString_renderString name
    (0x3A :: (Bytes.toUtf8 value.render ++ tail))
  rw [written, readMembers, skipBlanks_cons (by decide)]
  simp only [scanned, skipBlanks_cons (by decide : isBlank 0x3A = false)]
  have value' := reads.read left enough _ ends
  generalize readValueWith left (Bytes.toUtf8 value.render ++ tail) = read at value' ⊢
  subst value'
  rfl

theorem readMembers_render {fuel : Nat} {member : String × Json} {members : List (String × Json)}
    (reads : ∀ m ∈ member :: members, Reads fuel m.2) {more : Nat}
    (enough : fuel + members.length + 1 ≤ more) (rest : Bytes) :
    readMembers more (Bytes.toUtf8 (renderMembers (named (member :: members))) ++ 0x7D :: rest)
      = (named (member :: members), true, rest) := by
  have first := reads member List.mem_cons_self
  have colon : Bytes.toUtf8 ":" = [0x3A] := by decide
  have comma : Bytes.toUtf8 "," = [0x2C] := by decide
  obtain ⟨left, rfl⟩ := Nat.exists_eq_add_of_le' (Nat.le_trans (Nat.le_add_left 1 _) enough)
  induction members generalizing member left with
  | nil =>
    have ends : Ends (0x7D :: rest) := by simp [Ends]
    have read := readMembers_member first (by simp at enough; omega : fuel ≤ left) member.1 ends
    simp only [skipBlanks_cons (by decide : isBlank 0x7D = false)] at read
    simpa [named, renderMembers, renderContent, colon] using read
  | cons next members ih =>
    rw [List.length_cons] at enough
    obtain ⟨fewer, rfl⟩ := Nat.exists_eq_add_of_le' (by omega : 1 ≤ left)
    have others := ih (fun m within => reads m (List.mem_cons_of_mem _ within))
      (reads next (List.mem_cons_of_mem _ List.mem_cons_self)) fewer (by omega)
    have ends : Ends (0x2C :: (Bytes.toUtf8 (renderMembers (named (next :: members)))
        ++ 0x7D :: rest)) := by simp [Ends]
    have read := readMembers_member first (by omega : fuel ≤ fewer + 1) member.1 ends
    simp only [skipBlanks_cons (by decide : isBlank 0x2C = false), others] at read
    simpa [named, renderMembers, renderContent, colon, comma] using read

/-- The members of a record begin with the quote of a name. -/
theorem renderMembers_starts (member : String × Json) (members : List (String × Json)) :
    ∃ others, Bytes.toUtf8 (renderMembers (named (member :: members))) = 0x22 :: others := by
  obtain ⟨after, written, -⟩ := scanString_renderString member.1 []
  rw [List.append_nil] at written
  cases members with
  | nil => simp [named, renderMembers, renderContent, written]
  | cons next members => simp [named, renderMembers, renderContent, written]

theorem reads_record {fuel : Nat} {members : List (String × Json)}
    (reads : ∀ member ∈ members, Reads fuel member.2) :
    Reads (fuel + members.length + 1) (record members) := by
  have opening : Bytes.toUtf8 "\x7b" = [0x7B] := by decide
  have closing : Bytes.toUtf8 "\x7d" = [0x7D] := by decide
  have written : Bytes.toUtf8 (record members).render
      = 0x7B :: (Bytes.toUtf8 (renderMembers (named members)) ++ [0x7D]) := by
    rw [record, render, if_pos rfl, Bytes.toUtf8_append, Bytes.toUtf8_append, opening, closing]
    simp [named]
  refine ⟨⟨0x7B, _, written, by decide, by decide⟩, ?_⟩
  intro more enough rest ends
  obtain ⟨left, rfl⟩ := Nat.exists_eq_add_of_le' (Nat.le_trans (Nat.le_add_left 1 _) enough)
  rw [written, List.cons_append, List.append_assoc, List.singleton_append, readValueWith,
    skipBlanks_cons (by decide)]
  simp only [(by decide : ((0x7B : UInt8) == 0x22) = false),
    (by decide : ((0x7B : UInt8) == 0x5B) = false), Bool.false_eq_true, if_false,
    beq_self_eq_true, if_true]
  cases members with
  | nil =>
    rw [named, List.map_nil, renderMembers, (by decide : Bytes.toUtf8 "" = []), List.nil_append,
      skipBlanks_cons (by decide)]
    rfl
  | cons member members =>
    rw [List.length_cons] at enough
    have all := readMembers_render reads (by omega : fuel + members.length + 1 ≤ left) rest
    obtain ⟨others, starts⟩ := renderMembers_starts member members
    rw [starts, List.cons_append] at all ⊢
    rw [skipBlanks_cons (by decide)]
    split
    · rename_i same
      exact absurd (List.cons.inj same).1 (by decide)
    · rw [all]
      rfl

/-! ## Texts -/

theorem Reads.mono {fuel more : Nat} {value : Json} (reads : Reads fuel value)
    (le : fuel ≤ more) : Reads more value where
  starts := reads.starts
  read most enough := reads.read most (Nat.le_trans le enough)

/-- A value is read back with as much fuel as its text has bytes. -/
def ReadBack (value : Json) : Prop := Reads (Bytes.toUtf8 value.render).length value

theorem Reads.readBack {value : Json} (reads : Reads 1 value) : ReadBack value := by
  obtain ⟨b, more, written, -⟩ := reads.starts
  exact reads.mono (by rw [written]; exact Nat.succ_le_succ (Nat.zero_le _))

theorem ReadBack.positive {value : Json} (back : ReadBack value) :
    1 ≤ (Bytes.toUtf8 value.render).length := by
  obtain ⟨b, more, written, -⟩ := back.starts
  rw [written]
  exact Nat.succ_le_succ (Nat.zero_le _)

theorem renderItems_eq (items : List Json) :
    renderItems items = ",".intercalate (items.map render) := by
  induction items with
  | nil => rfl
  | cons first items ih =>
    cases items with
    | nil => rfl
    | cons second items =>
      rw [renderItems, ih]
      exact String.intercalate_cons_cons.symm

theorem renderMembers_named (members : List (String × Json)) :
    renderMembers (named members)
      = ",".intercalate (members.map fun m => renderString m.1 ++ ":" ++ m.2.render) := by
  induction members with
  | nil => rfl
  | cons first members ih =>
    cases members with
    | nil => rfl
    | cons second members =>
      rw [List.map_cons, List.map_cons, String.intercalate_cons_cons]
      exact congrArg (renderString first.1 ++ ":" ++ first.2.render ++ "," ++ ·) ih

/-- Beside each part of a list stand the others with their commas, at least two bytes for each. -/
theorem length_part {parts : List String} (some_ : ∀ part ∈ parts, 1 ≤ (Bytes.toUtf8 part).length)
    {part : String} (mem : part ∈ parts) : (Bytes.toUtf8 part).length + 2 * parts.length
      ≤ (Bytes.toUtf8 (",".intercalate parts)).length + 2 := by
  have comma : (Bytes.toUtf8 ",").length = 1 := by decide
  induction parts generalizing part with
  | nil => cases mem
  | cons first parts ih =>
    have positive := some_ first List.mem_cons_self
    cases parts with
    | nil =>
      obtain rfl := List.mem_singleton.1 mem
      rw [String.intercalate_singleton]
      exact Nat.le_refl _
    | cons second parts =>
      have others := fun part (mem : part ∈ second :: parts) =>
        ih (fun other within => some_ other (List.mem_cons_of_mem _ within)) mem
      have next := others second List.mem_cons_self
      have positive' := some_ second (by simp)
      rw [String.intercalate_cons_cons, Bytes.toUtf8_append, Bytes.toUtf8_append]
      simp only [List.length_append, comma, List.length_cons] at next others ⊢
      rcases List.mem_cons.1 mem with rfl | mem
      · omega
      · have := others part mem
        omega

theorem length_list (items : List Json) : (Bytes.toUtf8 (list items).render).length
    = (Bytes.toUtf8 (renderItems items)).length + 2 := by
  have opening : (Bytes.toUtf8 "[").length = 1 := by decide
  have closing : (Bytes.toUtf8 "]").length = 1 := by decide
  rw [list, render, if_pos rfl, Bytes.toUtf8_append, Bytes.toUtf8_append, List.length_append,
    List.length_append, opening, closing, Nat.add_comm 1]

theorem length_record (members : List (String × Json)) :
    (Bytes.toUtf8 (record members).render).length
      = (Bytes.toUtf8 (renderMembers (named members))).length + 2 := by
  have opening : (Bytes.toUtf8 "\x7b").length = 1 := by decide
  have closing : (Bytes.toUtf8 "\x7d").length = 1 := by decide
  rw [record, render, if_pos rfl, Bytes.toUtf8_append, Bytes.toUtf8_append, List.length_append,
    List.length_append, opening, closing, Nat.add_comm 1]
  rfl

theorem readBack_list {items : List Json} (back : ∀ value ∈ items, ReadBack value) :
    ReadBack (list items) := by
  cases items with
  | nil =>
    have none_ : ∀ value ∈ ([] : List Json), Reads 0 value := nofun
    exact (reads_list none_).readBack
  | cons first items =>
    have some_ : ∀ part ∈ (first :: items).map render, 1 ≤ (Bytes.toUtf8 part).length := by
      intro part mem
      obtain ⟨value, within, rfl⟩ := List.mem_map.1 mem
      exact (back value within).positive
    have beside : ∀ value ∈ first :: items, (Bytes.toUtf8 value.render).length
        + 2 * (items.length + 1) ≤ (Bytes.toUtf8 (renderItems (first :: items))).length + 2 := by
      intro value mem
      have part := length_part some_ (List.mem_map_of_mem mem)
      rwa [← renderItems_eq, List.length_map, List.length_cons] at part
    have least := beside first List.mem_cons_self
    have positive := (back first List.mem_cons_self).positive
    have each : ∀ value ∈ first :: items, Reads
        ((Bytes.toUtf8 (renderItems (first :: items))).length + 2 - 2 * (items.length + 1)) value :=
      fun value mem => (back value mem).mono (Nat.le_sub_of_add_le (beside value mem))
    refine (reads_list each).mono ?_
    rw [length_list, List.length_cons]
    omega

theorem readBack_record {members : List (String × Json)}
    (back : ∀ member ∈ members, ReadBack member.2) : ReadBack (record members) := by
  cases members with
  | nil =>
    have none_ : ∀ member ∈ ([] : List (String × Json)), Reads 0 member.2 := nofun
    exact (reads_record none_).readBack
  | cons first members =>
    have some_ : ∀ part ∈ (first :: members).map fun m => renderString m.1 ++ ":" ++ m.2.render,
        1 ≤ (Bytes.toUtf8 part).length := by
      intro part mem
      obtain ⟨m, within, rfl⟩ := List.mem_map.1 mem
      have := (back m within).positive
      rw [Bytes.toUtf8_append, List.length_append]
      omega
    have beside : ∀ m ∈ first :: members, (Bytes.toUtf8 m.2.render).length
        + 2 * (members.length + 1)
          ≤ (Bytes.toUtf8 (renderMembers (named (first :: members)))).length + 2 := by
      intro m mem
      have part := length_part some_ (List.mem_map_of_mem mem)
      rw [← renderMembers_named, List.length_map, List.length_cons, Bytes.toUtf8_append,
        List.length_append] at part
      omega
    have least := beside first List.mem_cons_self
    have positive := (back first List.mem_cons_self).positive
    have each : ∀ m ∈ first :: members, Reads
        ((Bytes.toUtf8 (renderMembers (named (first :: members)))).length + 2
          - 2 * (members.length + 1)) m.2 :=
      fun m mem => (back m mem).mono (Nat.le_sub_of_add_le (beside m mem))
    refine (reads_record each).mono ?_
    rw [length_record, List.length_cons]
    omega

theorem readBack_text (s : String) : ReadBack (text s) := (reads_text s).readBack

theorem readBack_nat (n : UInt64) : ReadBack (nat n.toNat) := (reads_nat n.toNat_lt).readBack

theorem readBack_int (i : Int64) : ReadBack (int i.toInt) :=
  (reads_int i.le_toInt i.toInt_lt).readBack

theorem readBack_bool (b : Bool) : ReadBack (.bool b) := (reads_bool b).readBack

theorem readBack_texts (items : List String) : ReadBack (texts items) := by
  refine readBack_list fun value mem => ?_
  obtain ⟨s, -, rfl⟩ := List.mem_map.1 mem
  exact readBack_text s

/-- A value that is read back with no more fuel than its text has bytes is all of its text. -/
theorem readValue_render {value : Json} (back : ReadBack value) :
    readValue (Bytes.toUtf8 value.render) = (value, []) := by
  have read := back.read (2 * (Bytes.toUtf8 value.render).length + 2) (by omega) [] (by simp [Ends])
  rwa [List.append_nil] at read

theorem decode?_render {α : Type} {reading : Reading α} {value : Json} {form : α}
    (all : readValue (Bytes.toUtf8 value.render) = (value, [])) (read : reading value = .ok form) :
    decode? reading (Bytes.toUtf8 value.render) = some form := by
  unfold decode? readText
  simp only [all, read, skipBlanks, List.isEmpty_nil, if_true]

end BlobCluster.Json
