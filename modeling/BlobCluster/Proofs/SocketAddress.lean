import BlobCluster.SocketAddress
import Mathlib.Algebra.GroupWithZero.Nat

/-!
# Socket addresses are read back

`parse?_render` says that the canonical text of every address is read as that address.  The parts of
a text are read back whatever follows them, as long as it does not go on with a digit.
-/

namespace BlobCluster.SocketAddress

/-! ## Numbers -/

/-- A text goes on with something that is no digit, or ends. -/
def NoDigit (base : Nat) (rest : List Char) : Prop := ∀ c ∈ rest.head?, digitValue? base c = none

/-- The digits that characters stand for. -/
def Stand (base : Nat) (chars : List Char) (digits : List Nat) : Prop :=
  chars.map (digitValue? base) = digits.map some

theorem digitValue?_digitChar {base d : Nat} (known : base ≤ 16) (small : d < base) :
    digitValue? base d.digitChar = some d := by
  have all : ∀ base < 17, ∀ d < base, digitValue? base d.digitChar = some d := by decide
  exact all base (by omega) d small

theorem spanDigits_append {base : Nat} {chars : List Char} {digits : List Nat}
    (stand : Stand base chars digits) {rest : List Char} (ends : NoDigit base rest) :
    spanDigits base (chars ++ rest) = (digits, rest) := by
  induction chars generalizing digits with
  | nil =>
    obtain rfl : digits = [] := List.map_eq_nil_iff.1 stand.symm
    cases rest with
    | nil => rfl
    | cons c rest => rw [List.nil_append, spanDigits, ends c rfl]
  | cons c chars ih =>
    cases digits with
    | nil => cases stand
    | cons d digits =>
      obtain ⟨first, others⟩ := List.cons.inj stand
      rw [List.cons_append, spanDigits, first, ih others]

/-- The digits of a number: they make up the number, are as few as its size tells, and do not begin
with a zero unless it is the only one. -/
theorem stand_toDigits {base : Nat} (two : 1 < base) (known : base ≤ 16) (n : Nat) :
    ∃ digits, Stand base (Nat.toDigits base n) digits
      ∧ digits.foldl (fun acc d => base * acc + d) 0 = n
      ∧ (∀ most, 0 < most → n < base ^ most → digits.length ≤ most)
      ∧ (digits = [0] ∨ ∃ d others, digits = d :: others ∧ d ≠ 0) := by
  induction n using Nat.strongRecOn with
  | ind n ih =>
    by_cases single : n < base
    · refine ⟨[n], ?_, by simp, fun most some_ _ => some_, ?_⟩
      · rw [Nat.toDigits_of_lt_base single, Stand, List.map_singleton, List.map_singleton,
          digitValue?_digitChar known single]
      · cases n with
        | zero => exact .inl rfl
        | succ n => exact .inr ⟨n + 1, [], rfl, nofun⟩
    · have less : n / base < n := Nat.div_lt_self (by omega) two
      obtain ⟨digits, stand, value, few, shape⟩ := ih (n / base) less
      have last : n % base < base := Nat.mod_lt _ (by omega)
      have positive : 0 < n / base := Nat.div_pos (by omega) (by omega)
      refine ⟨digits ++ [n % base], ?_, ?_, ?_, .inr ?_⟩
      · rw [Stand] at stand ⊢
        rw [Nat.toDigits_of_base_le two (by omega), List.map_append, List.map_append, stand,
          List.map_singleton, List.map_singleton, digitValue?_digitChar known last]
      · rw [List.foldl_append, value]
        exact Nat.div_add_mod n base
      · intro most some_ small
        obtain ⟨fewer, rfl⟩ := Nat.exists_eq_add_of_le' some_
        have above : 0 < fewer := by
          refine Nat.pos_of_ne_zero fun none_ => single ?_
          rwa [none_, Nat.pow_one] at small
        have shorter := few fewer above ((Nat.div_lt_iff_lt_mul (by omega)).2 small)
        rw [List.length_append]
        exact Nat.succ_le_succ shorter
      · rcases shape with rfl | ⟨d, others, rfl, head⟩
        · rw [List.foldl_cons, List.foldl_nil] at value
          omega
        · exact ⟨d, others ++ [n % base], rfl, head⟩

theorem readNumber?_toDigits {base bound n : Nat} {most : Option Nat} {padded : Bool}
    (two : 1 < base) (known : base ≤ 16) (few : ∀ m ∈ most, 0 < m ∧ n < base ^ m)
    (small : n < bound) {rest : List Char} (ends : NoDigit base rest) :
    readNumber? base most padded bound (Nat.toDigits base n ++ rest) = some (n, rest) := by
  obtain ⟨digits, stand, value, short, shape⟩ := stand_toDigits two known n
  have someDigits : digits.isEmpty = false := by
    rcases shape with rfl | ⟨d, others, rfl, -⟩ <;> rfl
  have notMany : most.any (fun m => decide (m < digits.length)) = false := by
    cases most with
    | none => rfl
    | some m =>
      obtain ⟨some_, fits⟩ := few m rfl
      exact decide_eq_false (Nat.not_lt.2 (short m some_ fits))
  have plain : (!padded && digits.head? == some 0 && decide (1 < digits.length)) = false := by
    rcases shape with rfl | ⟨d, others, rfl, head⟩
    · simp
    · simp [head]
  simp only [readNumber?, spanDigits_append stand ends, someDigits, notMany, plain, value, small,
    Bool.false_eq_true, if_false, if_true]

theorem toList_toString (n : Nat) : (toString n).toList = Nat.toDigits 10 n := by
  rw [Nat.toString_eq_ofList_toDigits, String.toList_ofList]

theorem readNumber?_toString {bound n : Nat} {most : Option Nat} {padded : Bool}
    (few : ∀ m ∈ most, 0 < m ∧ n < 10 ^ m) (small : n < bound) {rest : List Char}
    (ends : NoDigit 10 rest) :
    readNumber? 10 most padded bound ((toString n).toList ++ rest) = some (n, rest) := by
  rw [toList_toString]
  exact readNumber?_toDigits (by decide) (by decide) few small ends

/-- What may follow a part of an address: one of its marks. -/
theorem noDigit_cons {base : Nat} {c : Char} {rest : List Char}
    (mark : digitValue? base c = none) : NoDigit base (c :: rest) := by
  intro d first
  obtain rfl := Option.some.inj first
  exact mark

theorem noDigit_nil (base : Nat) : NoDigit base [] := nofun

/-! ## Octets and ports -/

theorem readOctet?_toString {n : Nat} (small : n < 256) {rest : List Char}
    (ends : NoDigit 10 rest) :
    readOctet? ((toString n).toList ++ rest) = some (UInt8.ofNat n, rest) := by
  have few : ∀ m ∈ some 3, 0 < m ∧ n < 10 ^ m := by
    rintro m ⟨⟩
    omega
  rw [readOctet?, readNumber?_toString few small ends]
  rfl

theorem readOctets?_renderOctets {a b c d : Nat} (small : a < 256 ∧ b < 256 ∧ c < 256 ∧ d < 256)
    {rest : List Char} (ends : NoDigit 10 rest) :
    readOctets? ((renderOctets a b c d).toList ++ rest)
      = some ((UInt8.ofNat a, UInt8.ofNat b, UInt8.ofNat c, UInt8.ofNat d), rest) := by
  obtain ⟨first, second, third, fourth⟩ := small
  have point : ∀ rest, NoDigit 10 ('.' :: rest) := fun _ => noDigit_cons (by decide)
  have parts : (renderOctets a b c d).toList ++ rest
      = (toString a).toList ++ '.' :: ((toString b).toList ++ '.' :: ((toString c).toList
        ++ '.' :: ((toString d).toList ++ rest))) := by
    simp [renderOctets]
  rw [parts, readOctets?]
  simp only [readOctet?_toString first (point _), readOctet?_toString second (point _),
    readOctet?_toString third (point _), readOctet?_toString fourth ends, drop?, if_true,
    Option.bind_eq_bind, Option.bind_some]
  rfl

theorem readPort?_toString (port : UInt16) :
    readPort? (':' :: (toString port.toNat).toList) = some (port, []) := by
  have none_ : ∀ m ∈ (none : Option Nat), 0 < m ∧ port.toNat < 10 ^ m := nofun
  have read : readNumber? 10 none true UInt16.size ((toString port.toNat).toList ++ [])
      = some (port.toNat, []) := readNumber?_toString none_ port.toNat_lt (noDigit_nil 10)
  rw [List.append_nil] at read
  simp only [readPort?, drop?, if_true, Option.bind_eq_bind, Option.bind_some, read]
  exact congrArg (fun port => some (port, [])) UInt16.ofNat_toNat

/-! ## Texts without points -/

theorem mem_of_mem_spanDigits {base : Nat} {text : List Char} {c : Char}
    (mem : c ∈ (spanDigits base text).2) : c ∈ text := by
  induction text with
  | nil => exact mem
  | cons d text ih =>
    rw [spanDigits] at mem
    split at mem
    · exact List.mem_cons_of_mem _ (ih mem)
    · exact mem

theorem eq_of_readNumber? {base bound n : Nat} {most : Option Nat} {padded : Bool}
    {text rest : List Char} (read : readNumber? base most padded bound text = some (n, rest)) :
    rest = (spanDigits base text).2 := by
  simp only [readNumber?] at read
  split at read
  · cases read
  split at read
  · cases read
  split at read
  · cases read
  split at read
  · exact (congrArg Prod.snd (Option.some.inj read)).symm
  · cases read

theorem drop?_none {c : Char} {text : List Char} (absent : c ∉ text) : drop? c text = none := by
  cases text with
  | nil => rfl
  | cons d text =>
    refine if_neg fun same => absent ?_
    rw [same]
    exact List.mem_cons_self

/-- There are no octets in a text without points. -/
theorem readOctets?_none {text : List Char} (noPoint : '.' ∉ text) : readOctets? text = none := by
  unfold readOctets? readOctet?
  cases read : readNumber? 10 (some 3) false 256 text with
  | none => rfl
  | some number =>
    have none_ : drop? '.' number.2 = none := by
      refine drop?_none fun mem => noPoint ?_
      rw [eq_of_readNumber? read] at mem
      exact mem_of_mem_spanDigits mem
    simp only [Option.bind_eq_bind, Option.bind_some, Option.pure_def, none_, Option.bind_none]

theorem noPoint_toDigits {base : Nat} (two : 1 < base) (known : base ≤ 16) (n : Nat) :
    '.' ∉ Nat.toDigits base n := by
  obtain ⟨digits, stand, -⟩ := stand_toDigits two known n
  intro mem
  have digit : digitValue? base '.' ∈ digits.map some := stand ▸ List.mem_map_of_mem mem
  obtain ⟨d, -, same⟩ := List.mem_map.1 digit
  cases same

/-! ## Groups -/

/-- Groups one after the other, each but the first after a colon. -/
def groupsText : Bool → List UInt16 → List Char
  | _, [] => []
  | first, g :: rest =>
    (if first then [] else [':']) ++ (Nat.toDigits 16 g.toNat ++ groupsText false rest)

theorem toList_renderGroups (groups : List UInt16) :
    (renderGroups groups).toList = groupsText true groups := by
  have later : ∀ (g : UInt16) (groups : List UInt16),
      (String.intercalate ":"
        ((g :: groups).map fun g => String.ofList (Nat.toDigits 16 g.toNat))).toList
        = Nat.toDigits 16 g.toNat ++ groupsText false groups := by
    intro g groups
    induction groups generalizing g with
    | nil => simp [groupsText]
    | cons next groups ih =>
      have others := ih next
      rw [List.map_cons] at others
      rw [List.map_cons, List.map_cons, String.intercalate_cons_cons, String.toList_append, others]
      simp [groupsText]
  cases groups with
  | nil => rfl
  | cons g groups => rw [renderGroups, later, groupsText, if_pos rfl, List.nil_append]

theorem noPoint_groupsText (first : Bool) (groups : List UInt16) :
    '.' ∉ groupsText first groups := by
  induction groups generalizing first with
  | nil => exact List.not_mem_nil
  | cons g groups ih =>
    intro mem
    rcases List.mem_append.1 mem with colon | mem
    · cases first <;> simp at colon
    rcases List.mem_append.1 mem with digit | mem
    · exact noPoint_toDigits (by decide) (by decide) _ digit
    · exact ih _ mem

/-- The groups of an address end here: no further one follows. -/
def NoGroup (first : Bool) (rest : List Char) : Prop :=
  (dropColonUnless? first rest).bind (readNumber? 16 (some 4) true UInt16.size) = none

theorem noOctets {first : Bool} {text : List Char} (noPoint : '.' ∉ text) :
    (dropColonUnless? first text).bind readOctets? = none := by
  cases dropped : dropColonUnless? first text with
  | none => rfl
  | some rest =>
    refine readOctets?_none fun mem => noPoint ?_
    cases first with
    | true => exact Option.some.inj dropped ▸ mem
    | false =>
      cases text with
      | nil => cases dropped
      | cons c text =>
        simp only [dropColonUnless?, drop?, Bool.false_eq_true, if_false] at dropped
        split at dropped
        · obtain rfl := Option.some.inj dropped
          exact List.mem_cons_of_mem _ mem
        · cases dropped

/-- Where no octets stand, a group is read or the groups end. -/
theorem readGroups_of_none {first : Bool} {limit : Nat} {text : List Char} (noPoint : '.' ∉ text) :
    readGroups first (limit + 1) text
      = match (dropColonUnless? first text).bind (readNumber? 16 (some 4) true UInt16.size) with
        | some (n, rest) =>
          (UInt16.ofNat n :: (readGroups false limit rest).1, (readGroups false limit rest).2)
        | none => ([], false, text) := by
  have none_ : (if limit = 0 then none else (dropColonUnless? first text).bind readOctets?)
      = none := by
    rw [noOctets noPoint, ite_self]
  cases group : (dropColonUnless? first text).bind (readNumber? 16 (some 4) true UInt16.size) with
  | none => simp only [readGroups, none_, group]
  | some read => simp only [readGroups, none_, group]

/-- Written groups are read back up to where no further one follows. -/
theorem readGroups_groupsText {first : Bool} {limit : Nat} {groups : List UInt16}
    {rest : List Char} (fits : groups.length ≤ limit) (noPoint : '.' ∉ rest)
    (ends : NoDigit 16 rest) (last : NoGroup (first && groups.isEmpty) rest) :
    readGroups first limit (groupsText first groups ++ rest) = (groups, false, rest) := by
  induction groups generalizing first limit with
  | nil =>
    rw [List.isEmpty_nil, Bool.and_true, NoGroup] at last
    cases limit with
    | zero => rfl
    | succ limit => rw [groupsText, List.nil_append, readGroups_of_none noPoint, last]
  | cons g groups ih =>
    obtain ⟨limit, rfl⟩ := Nat.exists_eq_succ_of_ne_zero (Nat.ne_zero_of_lt fits)
    rw [List.isEmpty_cons, Bool.and_false] at last
    have plain : '.' ∉ groupsText first (g :: groups) ++ rest := fun mem =>
      (List.mem_append.1 mem).elim (noPoint_groupsText _ _) noPoint
    have dropped : dropColonUnless? first (groupsText first (g :: groups) ++ rest)
        = some (Nat.toDigits 16 g.toNat ++ (groupsText false groups ++ rest)) := by
      cases first <;> simp [groupsText, dropColonUnless?, drop?]
    have ended : NoDigit 16 (groupsText false groups ++ rest) := by
      cases groups with
      | nil => exact ends
      | cons next groups => exact noDigit_cons (by decide)
    have few : ∀ m ∈ some 4, 0 < m ∧ g.toNat < 16 ^ m := by
      rintro m ⟨⟩
      exact ⟨by decide, g.toNat_lt⟩
    have others : readGroups false limit (groupsText false groups ++ rest)
        = (groups, false, rest) :=
      ih (Nat.le_of_succ_le_succ fits) last
    rw [readGroups_of_none plain, dropped, Option.bind_some,
      readNumber?_toDigits (by decide) (by decide) few g.toNat_lt ended]
    simp only [others, UInt16.ofNat_toNat]

/-! ## The run that is left out -/

theorem eq_replicate_append {groups : List UInt16} {run : Nat} (zeros : run ≤ zeroRun groups) :
    groups = List.replicate run 0 ++ groups.drop run := by
  induction run generalizing groups with
  | zero => rfl
  | succ run ih =>
    cases groups with
    | nil => exact absurd zeros (by simp [zeroRun])
    | cons g groups =>
      rw [zeroRun] at zeros
      split at zeros
      · rename_i zero
        rw [List.replicate_succ, List.drop_succ_cons, List.cons_append, zero,
          ← ih (by omega : run ≤ zeroRun groups)]
      · omega

/-- What is called the longest run are zero groups. -/
theorem longestRun_le (groups : List UInt16) :
    (longestRun groups).2 ≤ zeroRun (groups.drop (longestRun groups).1) := by
  have kept : ∀ (starts : List Nat) (best : Nat × Nat),
      best.2 ≤ zeroRun (groups.drop best.1) →
      let found := starts.foldl (fun best start =>
        let run := zeroRun (groups.drop start)
        if best.2 < run then (start, run) else best) best
      found.2 ≤ zeroRun (groups.drop found.1) := by
    intro starts
    induction starts with
    | nil => exact fun _ here => here
    | cons start starts ih =>
      intro best here
      refine ih _ ?_
      dsimp only
      split
      · exact Nat.le_refl _
      · exact here
  exact kept _ _ (Nat.zero_le _)

/-- The groups before the run, the run and the groups after it are all groups. -/
theorem eq_around_run (groups : List UInt16) :
    groups = groups.take (longestRun groups).1
      ++ (List.replicate (longestRun groups).2 0
        ++ groups.drop ((longestRun groups).1 + (longestRun groups).2)) := by
  have run := eq_replicate_append (longestRun_le groups)
  rw [List.drop_drop] at run
  rw [← run, List.take_append_drop]

/-! ## Addresses -/

/-- What may follow the groups of an address: the mark of a zone or the end of the brackets, and no
point further on. -/
structure Closes (rest : List Char) : Prop where
  mark : ∃ c others, rest = c :: others ∧ (c = ']' ∨ c = '%')
  noPoint : '.' ∉ rest

theorem joinOctets_split (g : UInt16) :
    joinOctets (UInt8.ofNat (g.toNat / 256)) (UInt8.ofNat (g.toNat % 256)) = g := by
  have small := g.toNat_lt
  rw [joinOctets, UInt8.toNat_ofNat', UInt8.toNat_ofNat', ← UInt16.toNat_inj, UInt16.toNat_ofNat']
  omega

section Closing

variable {rest : List Char} (closes : Closes rest)

include closes

theorem Closes.noDigit {base : Nat} (ten : base = 10 ∨ base = 16) : NoDigit base rest := by
  obtain ⟨c, others, rfl, rfl | rfl⟩ := closes.mark
  · rcases ten with rfl | rfl <;> exact noDigit_cons (by decide)
  · rcases ten with rfl | rfl <;> exact noDigit_cons (by decide)

theorem Closes.noGroup (first : Bool) : NoGroup first rest := by
  obtain ⟨c, others, rfl, rfl | rfl⟩ := closes.mark
  · cases first <;> rfl
  · cases first <;> rfl

theorem readGroups8?_renderGroups (groups : Vector UInt16 8) :
    readGroups8? ((renderGroups groups.toList).toList ++ rest) = some (groups, rest) := by
  have all : readGroups true 8 (groupsText true groups.toList ++ rest)
      = (groups.toList, false, rest) :=
    readGroups_groupsText (by simp) closes.noPoint (closes.noDigit (.inr rfl)) (closes.noGroup _)
  rw [toList_renderGroups, readGroups8?]
  simp only [all, Vector.toArray_toList, Vector.size_toArray, dite_true]

/-- Eight groups of which a run of zero groups is left out are read back.  The reader fills up with
as many zeros as are missing, so the length of the run need not be written. -/
theorem readGroups8?_around {groups : Vector UInt16 8} {front back : List UInt16} {run : Nat}
    (parts : groups.toList = front ++ (List.replicate run 0 ++ back)) (some_ : 0 < run) :
    readGroups8? ((renderGroups front).toList ++ ':' :: ':' :: ((renderGroups back).toList ++ rest))
      = some (groups, rest) := by
  have eight : front.length + (run + back.length) = 8 := by
    have := congrArg List.length parts
    simpa using this.symm
  have plain : '.' ∉ ':' :: ':' :: (groupsText true back ++ rest) := by
    intro mem
    simp only [List.mem_cons, List.mem_append, (by decide : '.' ≠ ':'), false_or] at mem
    exact mem.elim (noPoint_groupsText _ _) closes.noPoint
  have stops : ∀ first, NoGroup first (':' :: ':' :: (groupsText true back ++ rest)) := by
    intro first
    cases first <;> rfl
  have head : readGroups true 8
      (groupsText true front ++ ':' :: ':' :: (groupsText true back ++ rest))
      = (front, false, ':' :: ':' :: (groupsText true back ++ rest)) :=
    readGroups_groupsText (by omega) plain (noDigit_cons (by decide)) (stops _)
  have tail : readGroups true (7 - front.length) (groupsText true back ++ rest)
      = (back, false, rest) :=
    readGroups_groupsText (by omega) closes.noPoint (closes.noDigit (.inr rfl)) (closes.noGroup _)
  have all : front ++ List.replicate (8 - front.length - back.length) 0 ++ back
      = groups.toList := by
    rw [parts, List.append_assoc, show 8 - front.length - back.length = run by omega]
  have short : ¬ front.toArray.size = 8 := by
    rw [List.size_toArray]
    omega
  rw [toList_renderGroups, toList_renderGroups, readGroups8?]
  simp only [head, dif_neg short, Bool.false_eq_true, if_false, drop?, if_true,
    Option.bind_eq_bind, Option.bind_some, tail, all, Vector.toArray_toList, Vector.size_toArray,
    dite_true]

/-- An address of the mapped block is read back from its octets. -/
theorem readGroups8?_mapped {groups : Vector UInt16 8} {high low : UInt16}
    (mapped : groups.toList = [0, 0, 0, 0, 0, 0xFFFF, high, low]) :
    readGroups8? (("::ffff:" ++ renderOctets (high.toNat / 256) (high.toNat % 256)
      (low.toNat / 256) (low.toNat % 256)).toList ++ rest) = some (groups, rest) := by
  have highSmall := high.toNat_lt
  have lowSmall := low.toNat_lt
  have octets := readOctets?_renderOctets (a := high.toNat / 256) (b := high.toNat % 256)
    (c := low.toNat / 256) (d := low.toNat % 256) (by omega) (closes.noDigit (.inl rfl))
  generalize renderOctets (high.toNat / 256) (high.toNat % 256) (low.toNat / 256)
    (low.toNat % 256) = text at octets
  have characters : ("::ffff:" ++ text).toList ++ rest
      = ':' :: ':' :: 'f' :: 'f' :: 'f' :: 'f' :: ':' :: (text.toList ++ rest) := by
    simp
  have head : ∀ text, readGroups true 8 (':' :: ':' :: text) = ([], false, ':' :: ':' :: text) :=
    fun _ => rfl
  have first : ∀ text, readGroups true 7 ('f' :: 'f' :: 'f' :: 'f' :: ':' :: text)
      = (0xFFFF :: (readGroups false 6 (':' :: text)).1, (readGroups false 6 (':' :: text)).2) :=
    fun _ => rfl
  have last : readGroups false 6 (':' :: (text.toList ++ rest)) = ([high, low], true, rest) := by
    have dropped : (dropColonUnless? false (':' :: (text.toList ++ rest))).bind readOctets?
        = readOctets? (text.toList ++ rest) := rfl
    rw [readGroups]
    simp only [dropped, octets, (by decide : ¬ 5 = 0), if_false, joinOctets_split]
  have tail : readGroups true (7 - List.length ([] : List UInt16))
      ('f' :: 'f' :: 'f' :: 'f' :: ':' :: (text.toList ++ rest))
        = ([0xFFFF, high, low], true, rest) := by
    rw [List.length_nil, first, last]
  have all : [] ++ List.replicate (8 - List.length ([] : List UInt16)
      - [0xFFFF, high, low].length) 0 ++ [0xFFFF, high, low] = groups.toList := mapped.symm
  have none_ : ¬ ([] : List UInt16).toArray.size = 8 := by decide
  rw [characters, readGroups8?]
  simp only [head, dif_neg none_, Bool.false_eq_true, if_false, drop?, if_true,
    Option.bind_eq_bind, Option.bind_some, tail, all, Vector.toArray_toList, Vector.size_toArray,
    dite_true]

end Closing

theorem readGroups8?_renderAddress {rest : List Char} (closes : Closes rest)
    (groups : Vector UInt16 8) :
    readGroups8? ((renderAddress groups.toList).toList ++ rest) = some (groups, rest) := by
  unfold renderAddress
  split
  · rename_i high low mapped
    exact readGroups8?_mapped closes mapped
  · unfold renderRuns
    dsimp only
    split
    · rename_i long
      have text := readGroups8?_around closes (eq_around_run groups.toList) (by omega)
      rw [← text]
      simp
    · exact readGroups8?_renderGroups closes groups

theorem readZone?_render (zone : UInt32) (rest : List Char) :
    readZone? ((if zone = 0 then "" else "%" ++ toString zone.toNat).toList ++ ']' :: rest)
      = some (zone, ']' :: rest) := by
  have none_ : ∀ m ∈ (none : Option Nat), 0 < m ∧ zone.toNat < 10 ^ m := nofun
  have read : readNumber? 10 none true UInt32.size ((toString zone.toNat).toList ++ ']' :: rest)
      = some (zone.toNat, ']' :: rest) :=
    readNumber?_toString none_ zone.toNat_lt (noDigit_cons (by decide))
  by_cases absent : zone = 0
  · rw [if_pos absent, absent]
    rfl
  · have text : ("%" ++ toString zone.toNat).toList ++ ']' :: rest
        = '%' :: ((toString zone.toNat).toList ++ ']' :: rest) := by simp
    rw [if_neg absent, text, readZone?]
    simp only [read, Option.bind_eq_bind, Option.bind_some]
    exact congrArg (fun zone => some (zone, ']' :: rest)) UInt32.ofNat_toNat

theorem closes_zone (zone : UInt32) (port : UInt16) :
    Closes ((if zone = 0 then "" else "%" ++ toString zone.toNat).toList
      ++ ']' :: ':' :: (toString port.toNat).toList) := by
  have plain : ∀ n, '.' ∉ Nat.toDigits 10 n := noPoint_toDigits (by decide) (by decide)
  by_cases absent : zone = 0
  · rw [if_pos absent]
    exact ⟨⟨']', _, rfl, .inl rfl⟩, by simpa using plain port.toNat⟩
  · rw [if_neg absent]
    rw [String.toList_append]
    exact ⟨⟨'%', _, rfl, .inr rfl⟩, by simpa using ⟨plain zone.toNat, plain port.toNat⟩⟩

/-- Every address is read back from its canonical text.  The forms of the groups are told apart in
`readGroups8?_renderAddress`; what is left here is that neither kind of address is taken for the
other. -/
theorem parse?_render (address : SocketAddress) : parse? address.render = some address := by
  cases address with
  | v4 a b c d port =>
    have octets := readOctets?_renderOctets ⟨a.toNat_lt, b.toNat_lt, c.toNat_lt, d.toNat_lt⟩
      (noDigit_cons (by decide) : NoDigit 10 (':' :: (toString port.toNat).toList))
    have text : (render (.v4 a b c d port)).toList
        = (renderOctets a.toNat b.toNat c.toNat d.toNat).toList
          ++ ':' :: (toString port.toNat).toList := by
      simp [render]
    have read : readV4? (render (.v4 a b c d port)).toList = some (.v4 a b c d port, []) := by
      rw [text, readV4?, octets]
      simp only [Option.bind_eq_bind, Option.bind_some, readPort?_toString, UInt8.ofNat_toNat]
      rfl
    rw [parse?, read]
    rfl
  | v6 groups zone port =>
    have zoned := readZone?_render zone (':' :: (toString port.toNat).toList)
    generalize ends : (if zone = 0 then "" else "%" ++ toString zone.toNat).toList
      ++ ']' :: ':' :: (toString port.toNat).toList = rest at zoned
    have closes : Closes rest := ends ▸ closes_zone zone port
    have text : (render (.v6 groups zone port)).toList
        = '[' :: ((renderAddress groups.toList).toList ++ rest) := by
      rw [← ends]
      simp [render]
    have read : readV6? (render (.v6 groups zone port)).toList
        = some (.v6 groups zone port, []) := by
      rw [text, readV6?]
      simp only [drop?, if_true, Option.bind_eq_bind, Option.bind_some,
        readGroups8?_renderAddress closes, zoned, readPort?_toString]
      rfl
    have other : ended? (readV4? (render (.v6 groups zone port)).toList) = none := by
      rw [text]
      rfl
    rw [parse?, read, other]
    rfl

example : parse? "[0:0:0:0:0:ffff:102:304%5]:080"
    = some (.v6 #v[0, 0, 0, 0, 0, 0xFFFF, 0x102, 0x304] 5 80) := by
  decide +kernel

example : render (.v6 #v[0, 0, 0, 0, 0, 0xFFFF, 0x102, 0x304] 5 80) = "[::ffff:1.2.3.4%5]:80" := by
  decide +kernel

end BlobCluster.SocketAddress
