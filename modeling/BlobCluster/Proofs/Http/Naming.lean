import Mathlib
import BlobCluster.Proofs.BlobId
import BlobCluster.Proofs.Digest.Streaming
import BlobCluster.Proofs.Http.Address

/-!
# Which blob an address names

Blob ids stand in addresses as they are.  What the node at the other end takes for the id is the
same text only if nothing in the id has a meaning in an address: no question mark or number sign,
which end the path, no percent sign with two digits, which is decoded, and no blank at the end of
the address, which is dropped.  `named_iff_travels` says that these are all the exceptions.
-/

namespace BlobCluster

open Http

/-- Nothing in the id has a meaning of its own in an address. -/
structure BlobId.Travels (blob : String) : Prop where
  noQuery : '?' ∉ blob.toList
  noFragment : '#' ∉ blob.toList
  noEscape : Percent.hasEscape (Bytes.toUtf8 blob) = false

namespace Http

/-! ## Values of segments -/

/-- The bytes that are encoded in a path are neither percent signs nor hexadecimal digits. -/
theorem sparesEscapes_path : Percent.SparesEscapes (Percent.isOneOf Address.pathEncoded) := by
  have all : ∀ n < 256, Percent.isOneOf Address.pathEncoded (UInt8.ofNat n) = true →
      UInt8.ofNat n ≠ 0x25 ∧ Percent.isHexDigit (UInt8.ofNat n) = false := by
    decide +kernel
  intro b encoded
  have this := all b.toNat b.toNat_lt
  rw [UInt8.ofNat_toNat] at this
  exact this encoded

/-- A segment stands for the same value before and after it is written. -/
theorem segmentValue?_encodeText (text : String) :
    segmentValue? (Percent.encodeText Address.pathEncoded text) = segmentValue? text := by
  rw [segmentValue?, Percent.toUtf8_encodeText, Percent.decode_encode sparesEscapes_path]
  rfl

theorem segmentValue?_eq_self_iff {text : String} :
    segmentValue? text = some text ↔ Percent.hasEscape (Bytes.toUtf8 text) = false := by
  rw [← Percent.decode_eq_self_iff]
  constructor
  · intro read
    exact (Bytes.toUtf8_of_ofUtf8? read).symm
  · intro same
    rw [segmentValue?, same, Bytes.ofUtf8?_toUtf8]

/-! ## Dot segments -/

/-- Only a capital letter has another lower case, 32 places after it.  Escapes are compared without
regard to case, which is why capital letters come in here. -/
theorem toLower_cases (c : Char) :
    c.toLower = c ∨ 65 ≤ c.toNat ∧ c.toNat ≤ 90 ∧ c.toLower.toNat = c.toNat + 32 := by
  unfold Char.toLower
  split
  next capital =>
    have least := UInt32.le_iff_toNat_le.1 capital.1
    have greatest := UInt32.le_iff_toNat_le.1 capital.2
    refine Or.inr ⟨least, greatest, ?_⟩
    have shift : ('a'.val - 'A'.val).toNat = 32 := by decide
    have small : 'Z'.val.toNat = 90 := by decide
    show (c.val + ('a'.val - 'A'.val)).toNat = c.val.toNat + 32
    rw [UInt32.toNat_add, shift, Nat.mod_eq_of_lt (by omega)]
  next => exact Or.inl rfl

theorem eq_of_toLower_eq {c d : Char} (lower : c.toLower = d) (noLetter : d.toNat < 97) :
    c = d := by
  rcases toLower_cases c with same | ⟨least, greatest, value⟩
  · rw [← same, lower]
  · rw [lower] at value
    omega

theorem hasEscape_append {before after : Bytes} (escape : Percent.hasEscape after = true) :
    Percent.hasEscape (before ++ after) = true := by
  induction before with
  | nil => exact escape
  | cons b rest ih => simp [Percent.hasEscape, ih]

/-- A percent sign with the digits of a dot is an escape. -/
theorem hasEscape_of_dot {text : String} {before after : List Char} {a b c : Char}
    (made : text.toList = before ++ a :: b :: c :: after) (percent : a.toLower = '%')
    (two : b.toLower = '2') (letter : c.toLower = 'e') :
    Percent.hasEscape (Bytes.toUtf8 text) = true := by
  have isLetter : c = 'e' ∨ c = 'E' := by
    rcases toLower_cases c with same | ⟨least, greatest, value⟩
    · exact Or.inl (by rw [← same, letter])
    · have capital : c.toNat = 'E'.toNat := by
        have code : 'e'.toNat = 'E'.toNat + 32 := by decide
        rw [letter, code] at value
        omega
      exact Or.inr (Char.toNat_inj.1 capital)
  rw [eq_of_toLower_eq percent (by decide), eq_of_toLower_eq two (by decide)] at made
  rw [Bytes.toUtf8_eq, made, List.flatMap_append]
  apply hasEscape_append
  rcases isLetter with rfl | rfl
  · rfl
  · rfl

theorem toList_of_toLower {text : String} {chars : List Char}
    (same : text.toLower = String.ofList chars) : text.toList.map Char.toLower = chars := by
  have := congrArg String.toList same
  simpa [String.toLower] using this

theorem hasEscape_of_isDot {text : String} (noDot : text ≠ ".") (dot : Address.isDot text = true) :
    Percent.hasEscape (Bytes.toUtf8 text) = true := by
  simp only [Address.isDot, List.contains_cons, List.contains_nil, Bool.or_false, Bool.or_eq_true,
    beq_iff_eq] at dot
  rcases dot with plain | escaped
  · have chars := @toList_of_toLower text ['.'] plain
    simp only [List.map_eq_cons_iff, List.map_eq_nil_iff] at chars
    obtain ⟨a, _, made, is, rfl⟩ := chars
    rw [eq_of_toLower_eq is (by decide)] at made
    exact absurd (String.toList_inj.1 made) noDot
  · have chars := @toList_of_toLower text ['%', '2', 'e'] escaped
    simp only [List.map_eq_cons_iff, List.map_eq_nil_iff] at chars
    obtain ⟨a, _, made, percent, b, _, rfl, two, c, _, rfl, letter, rfl⟩ := chars
    exact @hasEscape_of_dot text [] [] a b c made percent two letter

theorem hasEscape_of_isDoubleDot {text : String} (noDots : text ≠ "..")
    (dots : Address.isDoubleDot text = true) : Percent.hasEscape (Bytes.toUtf8 text) = true := by
  simp only [Address.isDoubleDot, List.contains_cons, List.contains_nil, Bool.or_false,
    Bool.or_eq_true, beq_iff_eq] at dots
  rcases dots with plain | after | before | both
  · have chars := @toList_of_toLower text ['.', '.'] plain
    simp only [List.map_eq_cons_iff, List.map_eq_nil_iff] at chars
    obtain ⟨a, _, made, is, b, _, rfl, is', rfl⟩ := chars
    rw [eq_of_toLower_eq is (by decide), eq_of_toLower_eq is' (by decide)] at made
    exact absurd (String.toList_inj.1 made) noDots
  · have chars := @toList_of_toLower text ['.', '%', '2', 'e'] after
    simp only [List.map_eq_cons_iff, List.map_eq_nil_iff] at chars
    obtain ⟨d, _, made, -, a, _, rfl, percent, b, _, rfl, two, c, _, rfl, letter, rfl⟩ := chars
    exact @hasEscape_of_dot text [d] [] a b c made percent two letter
  · have chars := @toList_of_toLower text ['%', '2', 'e', '.'] before
    simp only [List.map_eq_cons_iff, List.map_eq_nil_iff] at chars
    obtain ⟨a, _, made, percent, b, _, rfl, two, c, after, rfl, letter, -⟩ := chars
    exact @hasEscape_of_dot text [] after a b c made percent two letter
  · have chars := @toList_of_toLower text ['%', '2', 'e', '%', '2', 'e'] both
    simp only [List.map_eq_cons_iff, List.map_eq_nil_iff] at chars
    obtain ⟨a, _, made, percent, b, _, rfl, two, c, after, rfl, letter, -⟩ := chars
    exact @hasEscape_of_dot text [] after a b c made percent two letter

/-- A text without escapes is no dot segment, apart from the two names of folders.  A parser takes
`%2e` for a dot, so a name may be a dot segment without being one of the two names. -/
theorem noDot_of_noEscape {text : String} (noDot : text ≠ ".") (noDots : text ≠ "..")
    (noEscape : Percent.hasEscape (Bytes.toUtf8 text) = false) :
    Address.isDot text = false ∧ Address.isDoubleDot text = false := by
  constructor
  · rw [Bool.eq_false_iff]
    intro dot
    rw [hasEscape_of_isDot noDot dot] at noEscape
    cases noEscape
  · rw [Bool.eq_false_iff]
    intro dots
    rw [hasEscape_of_isDoubleDot noDots dots] at noEscape
    cases noEscape

end Http

namespace BlobId

variable {blob : String}

/-! ## Ids in addresses -/

/-- What a valid id is made of. -/
theorem Valid.spelled (valid : Valid blob) : blob ≠ "" ∧ blob.utf8ByteSize ≤ maxLength ∧
    (∀ c ∈ blob.toList, isSeparator c = false ∧ isControl c = false) ∧
    blob ≠ "." ∧ blob ≠ ".." := by
  obtain ⟨some_, short, ⟨plain, noDot, noDots⟩, noControl⟩ := valid_iff.1 valid
  rw [List.any_eq_false] at plain noControl
  exact ⟨by simpa using some_, short,
    fun c within => ⟨by simpa using plain c within, by simpa using noControl c within⟩,
    noDot, noDots⟩

theorem Valid.isSegment (valid : Valid blob) (travels : Travels blob) :
    Address.IsSegment blob := by
  obtain ⟨-, -, chars, noDot, noDots⟩ := valid.spelled
  obtain ⟨single, double⟩ := noDot_of_noEscape noDot noDots travels.noEscape
  refine ⟨?_, single, double⟩
  intro c within
  obtain ⟨noSlash, noControl⟩ := chars c within
  have noQuery : c ≠ '?' := fun same => travels.noQuery (same ▸ within)
  have noFragment : c ≠ '#' := fun same => travels.noFragment (same ▸ within)
  simp only [isControl, Bool.or_eq_false_iff, decide_eq_false_iff_not, Nat.not_lt] at noControl
  have visible := noControl.1
  have noSlash' : Address.isSlash c = false := noSlash
  simp [Address.isPlain, visible, noSlash', noQuery, noFragment]

/-- The words of the paths are segments, written as they are. -/
theorem isSegment_word {word : String} (among : word ∈ ["blob", "worker"]) :
    Address.IsSegment word ∧ Percent.encodeText Address.pathEncoded word = word := by
  simp only [List.mem_cons, List.not_mem_nil, or_false] at among
  rcases among with rfl | rfl
  all_goals
    exact ⟨⟨List.all_iff_forall_prop.1 (by decide), by decide +kernel, by decide +kernel⟩,
      Percent.encodeText_eq_self (by decide +kernel)⟩

/-- A written id is a segment from which the id is read. -/
theorem Travels.written (valid : Valid blob) (travels : Travels blob) :
    (Percent.encodeText Address.pathEncoded blob).isEmpty = false ∧
      segmentValue? (Percent.encodeText Address.pathEncoded blob) = some blob := by
  have value : segmentValue? (Percent.encodeText Address.pathEncoded blob) = some blob := by
    rw [segmentValue?_encodeText, segmentValue?_eq_self_iff]
    exact travels.noEscape
  refine ⟨?_, value⟩
  rw [Bool.eq_false_iff]
  intro empty
  rw [String.isEmpty_iff.1 empty] at value
  exact valid.spelled.1 (Option.some.inj (value.symm.trans (by decide +kernel)))

/-- The address of a blob at a node names the blob, if nothing is dropped at its end.  Spaces inside
the id are encoded and decoded again, and only at the end of the address are they trimmed. -/
theorem Travels.reaches {base : String} {origin : Address} (node : Address.IsBase base origin)
    (valid : Valid blob) (travels : Travels blob) (last : blob.toList.getLast? ≠ some ' ') :
    ∃ address segment, Address.parse (base ++ "/blob/" ++ blob) = .ok address ∧
      address.isTarget = true ∧ Http.segments address.target = ["", "blob", segment] ∧
      segment.isEmpty = false ∧ segmentValue? segment = some blob := by
  obtain ⟨notEmpty, short, -⟩ := valid.spelled
  obtain ⟨word, written⟩ := isSegment_word (by simp : "blob" ∈ ["blob", "worker"])
  have here : ∀ s ∈ ["blob", blob], Address.IsSegment s := by
    simpa using ⟨word, valid.isSegment travels⟩
  have made : (base ++ "/blob/" ++ blob).toList
      = base.toList ++ Address.pathChars ["blob", blob] := by
    simp [Address.pathChars]
  have ending : (Address.pathChars ["blob", blob]).getLast? ≠ some ' ' := by
    have chars : blob.toList ≠ [] := by simpa using notEmpty
    have path : Address.pathChars ["blob", blob] = "/blob/".toList ++ blob.toList := by
      simp [Address.pathChars]
    rwa [path, List.getLast?_append, List.getLast?_eq_some_getLast chars, Option.some_or,
      ← List.getLast?_eq_some_getLast chars]
  have fits : Address.room ["blob", blob] ≤ 1024 := by
    have four : ("blob" : String).utf8ByteSize = 4 := by decide
    simp only [Address.room, four]
    unfold maxLength at short
    omega
  obtain ⟨address, read, target, segments⟩ := Address.leads node here (by simp) made ending fits
  rw [List.map_cons, List.map_cons, List.map_nil, written] at segments
  exact ⟨address, _, read, target, segments, travels.written valid⟩

/-- The address of a blob's worker at a node names the blob.  Here a space at the end of the id does
no harm, because something follows it. -/
theorem Travels.reaches_worker {base : String} {origin : Address}
    (node : Address.IsBase base origin) (valid : Valid blob) (travels : Travels blob) :
    ∃ address segment, Address.parse (base ++ "/blob/" ++ blob ++ "/worker") = .ok address ∧
      address.isTarget = true ∧ Http.segments address.target = ["", "blob", segment, "worker"] ∧
      segmentValue? segment = some blob := by
  obtain ⟨-, short, -⟩ := valid.spelled
  obtain ⟨word, written⟩ := isSegment_word (by simp : "blob" ∈ ["blob", "worker"])
  obtain ⟨word', written'⟩ := isSegment_word (by simp : "worker" ∈ ["blob", "worker"])
  have here : ∀ s ∈ ["blob", blob, "worker"], Address.IsSegment s := by
    simpa using ⟨word, valid.isSegment travels, word'⟩
  have made : (base ++ "/blob/" ++ blob ++ "/worker").toList
      = base.toList ++ Address.pathChars ["blob", blob, "worker"] := by
    simp [Address.pathChars]
  have ending : (Address.pathChars ["blob", blob, "worker"]).getLast? ≠ some ' ' := by
    have path : Address.pathChars ["blob", blob, "worker"]
        = ("/blob/".toList ++ blob.toList) ++ "/worker".toList := by
      simp [Address.pathChars]
    have word : "/worker".toList.getLast? = some 'r' := by decide
    rw [path, List.getLast?_append, word, Option.some_or]
    decide
  have fits : Address.room ["blob", blob, "worker"] ≤ 1024 := by
    have four : ("blob" : String).utf8ByteSize = 4 := by decide
    have six : ("worker" : String).utf8ByteSize = 6 := by decide
    simp only [Address.room, four, six]
    unfold maxLength at short
    omega
  obtain ⟨address, read, target, segments⟩ := Address.leads node here (by simp) made ending fits
  rw [List.map_cons, List.map_cons, List.map_cons, List.map_nil, written, written'] at segments
  exact ⟨address, _, read, target, segments, (travels.written valid).2⟩

/-! ## Addresses that name an id -/

/-- The id that a node takes from the segments of a request for a blob. -/
def named? : List String → Option String
  | ["", "blob", segment] => if segment.isEmpty then none else segmentValue? segment
  | _ => none

/-- A dot segment at the place of an id leaves no id. -/
theorem resolve_blob (part : String) : Address.resolve [] ["blob", part]
    = if Address.isDoubleDot part then [""] else if Address.isDot part then ["blob", ""]
      else ["blob", Percent.encodeText Address.pathEncoded part] := by
  obtain ⟨word, written⟩ := isSegment_word (by simp : "blob" ∈ ["blob", "worker"])
  have top : Address.above ["blob"] = [] := by decide
  rw [Address.resolve, word.noDoubleDot, word.noDot, written]
  simp only [Bool.false_eq_true, if_false, Address.resolve, List.isEmpty_nil, if_true, top]
  repeat' split
  all_goals rfl

/-- The segments that an id without slashes resolves to are written as they stand. -/
theorem plain_resolve_blob {part : String} (plain : '/' ∉ part.toList) :
    ∀ s ∈ Address.resolve [] ["blob", part],
      '/' ∉ s.toList ∧ '?' ∉ s.toList ∧ '#' ∉ s.toList := by
  have among : ∀ s ∈ Address.resolve [] ["blob", part],
      s ∈ ["", "blob"] ∨ s = Percent.encodeText Address.pathEncoded part := by
    rw [resolve_blob]
    repeat' split
    all_goals simp
  have words : ∀ s ∈ ["", "blob"], '/' ∉ s.toList ∧ '?' ∉ s.toList ∧ '#' ∉ s.toList := by
    decide
  intro s listed
  rcases among s listed with word | rfl
  · exact words s word
  · exact Address.plain_encodeText plain

/-- The segments that an id resolves to name the id, or none. -/
theorem named?_resolve_blob (part : String) :
    named? ("" :: Address.resolve [] ["blob", part]) = none
      ∨ named? ("" :: Address.resolve [] ["blob", part]) = segmentValue? part := by
  rw [resolve_blob]
  by_cases double : Address.isDoubleDot part = true
  · rw [if_pos double]
    exact Or.inl rfl
  · rw [if_neg double]
    by_cases single : Address.isDot part = true
    · rw [if_pos single]
      exact Or.inl rfl
    · rw [if_neg single, ← segmentValue?_encodeText part]
      by_cases empty : (Percent.encodeText Address.pathEncoded part).isEmpty = true
      · exact Or.inl (by rw [named?, if_pos empty])
      · exact Or.inr (by rw [named?, if_neg empty])

/-- The address of a blob keeps of the id what stands before its query or fragment. -/
theorem path_kept {base : String} {address : Address} (host : Address.IsHost base)
    (valid : Valid blob) (read : Address.parse (base ++ "/blob/" ++ blob) = .ok address) :
    address.path = Address.readPath
      (Address.pathChars ["blob", String.ofList (Address.kept blob.toList)]) := by
  obtain ⟨-, -, chars, -⟩ := valid.spelled
  have made : (base ++ "/blob/" ++ blob).toList
      = base.toList ++ ("/blob".toList ++ '/' :: blob.toList) := by
    simp
  have noControls : ∀ c ∈ "/blob".toList ++ '/' :: blob.toList, 0x20 ≤ c.toNat := by
    have word : ∀ c ∈ "/blob/".toList, 0x20 ≤ c.toNat :=
      List.all_iff_forall_prop.1 (by decide)
    intro c inside
    rcases List.mem_append.1 (by simpa using inside : c ∈ "/blob/".toList ++ blob.toList)
      with inWord | inBlob
    · exact word c inWord
    · have noControl := (chars c inBlob).2
      simp only [isControl, Bool.or_eq_false_iff, decide_eq_false_iff_not, Nat.not_lt] at noControl
      exact noControl.1
  obtain ⟨query, fragment, parsed, -⟩ := Address.parse_append host (by rfl) noControls made
  have kept : Address.kept ("/blob".toList ++ '/' :: blob.toList)
      = Address.pathChars ["blob", String.ofList (Address.kept blob.toList)] := by
    rw [Address.kept_append (List.all_iff_forall_prop.1 (by decide))]
    simp [Address.pathChars]
  rw [parsed, kept] at read
  cases origin : Address.parse base with
  | error e =>
    rw [origin] at read
    cases read
  | ok origin' =>
    rw [origin] at read
    rw [← Except.ok.inj read]

/-- What is kept of an id in an address names the id that it is the whole of, or none.  Nothing is
assumed of the id but that it is valid; it need not travel. -/
theorem named?_kept {base : String} {address : Address} (host : Address.IsHost base)
    (valid : Valid blob) (read : Address.parse (base ++ "/blob/" ++ blob) = .ok address) :
    named? (Http.segments address.target) = none ∨ named? (Http.segments address.target)
      = segmentValue? (String.ofList (Address.kept blob.toList)) := by
  obtain ⟨-, -, chars, -⟩ := valid.spelled
  have path := path_kept host valid read
  set part := String.ofList (Address.kept blob.toList) with isPart
  have noSlash : ∀ s ∈ ["blob", part], ∀ c ∈ s.toList, Address.isSlash c = false := by
    intro s among c inside
    rcases List.mem_cons.1 among with rfl | last
    · have word : ∀ c ∈ "blob".toList, Address.isSlash c = false :=
        List.all_iff_forall_prop.1 (by decide)
      exact word c inside
    · rw [List.mem_singleton.1 last, isPart, String.toList_ofList] at inside
      exact (chars c ((Address.kept_isPrefix _).subset inside)).1
  have plain : '/' ∉ part.toList := fun inside =>
    absurd (noSlash part (by simp) '/' inside) (by decide)
  have present : Address.resolve [] ["blob", part] ≠ [] := by
    rw [resolve_blob]
    repeat' split
    all_goals simp
  rw [Address.readPath_pathChars (by simp) noSlash present] at path
  rw [Address.segments_of_path path present (plain_resolve_blob plain)]
  exact named?_resolve_blob part

theorem travels_digest (algorithm : Digest.Algorithm) (bytes : Bytes) :
    Travels (algorithm.digest bytes) where
  noQuery inside := absurd (Digest.mem_hexDigits_of_mem_digest inside) (by decide)
  noFragment inside := absurd (Digest.mem_hexDigits_of_mem_digest inside) (by decide)
  noEscape := by
    apply Percent.hasEscape_of_not_mem
    intro inside
    have percent := Bytes.mem_of_mem_toUtf8 (by decide) inside
    exact absurd (Digest.mem_hexDigits_of_mem_digest percent) (by decide)

/-- A digest behind a host is named by what is requested there, or nothing is. -/
theorem named?_digest {base : String} {address : Address} (host : Address.IsHost base)
    (algorithm : Digest.Algorithm) (bytes : Bytes)
    (read : Address.parse (base ++ "/blob/" ++ algorithm.digest bytes) = .ok address) :
    named? (Http.segments address.target) = none
      ∨ named? (Http.segments address.target) = some (algorithm.digest bytes) := by
  have travels := travels_digest algorithm bytes
  have last : (algorithm.digest bytes).toList.getLast? ≠ some ' ' := by
    intro blank
    have inside := List.mem_of_getLast? blank
    exact absurd (Digest.mem_hexDigits_of_mem_digest inside) (by decide)
  have named := named?_kept host (Digest.valid_digest algorithm bytes) read
  rwa [Address.kept_eq_self last travels.noQuery travels.noFragment, String.ofList_toList,
    segmentValue?_eq_self_iff.2 travels.noEscape] at named

/-- The address of a blob names it only if nothing in the id has another meaning.  If the id had an
escape the segment would decode to something shorter, and if it had a query or a fragment only a
part of it would be kept. -/
theorem travels_of_named {base : String} {origin address : Address}
    (node : Address.IsBase base origin) (valid : Valid blob)
    (read : Address.parse (base ++ "/blob/" ++ blob) = .ok address)
    (named : named? (Http.segments address.target) = some blob) :
    Travels blob ∧ blob.toList.getLast? ≠ some ' ' := by
  have value : segmentValue? (String.ofList (Address.kept blob.toList)) = some blob := by
    rcases named?_kept node.isHost valid read with none | same
    · rw [none] at named
      cases named
    · rw [← same, named]
  have bytes := Bytes.toUtf8_of_ofUtf8? value
  have shorter :=
    (Percent.length_decode (Bytes.toUtf8 (String.ofList (Address.kept blob.toList)))).1
  obtain ⟨dropped, whole⟩ := Address.kept_isPrefix blob.toList
  have parts : Bytes.toUtf8 blob = Bytes.toUtf8 (String.ofList (Address.kept blob.toList))
      ++ Bytes.toUtf8 (String.ofList dropped) := by
    rw [← Bytes.toUtf8_append, ← String.ofList_append, whole, String.ofList_toList]
  -- Decoding lengthens nothing, so nothing can have been dropped.
  have nothing : dropped = [] := by
    rw [← bytes, parts, List.length_append, Bytes.length_toUtf8 (String.ofList dropped)] at shorter
    have empty : (String.ofList dropped).utf8ByteSize = 0 := by omega
    simpa using String.utf8ByteSize_eq_zero_iff.1 empty
  rw [nothing, List.append_nil] at whole
  obtain ⟨last, noQuery, noFragment⟩ := Address.plain_of_kept whole
  rw [whole, String.ofList_toList] at bytes
  exact ⟨⟨noQuery, noFragment, Percent.decode_eq_self_iff.1 bytes.symm⟩, last⟩

/-- An address of a blob names the blob exactly if nothing in the id has another meaning. -/
theorem named_iff_travels {base : String} {origin : Address} (node : Address.IsBase base origin)
    (valid : Valid blob) :
    (∃ address, Address.parse (base ++ "/blob/" ++ blob) = .ok address ∧
      named? (Http.segments address.target) = some blob) ↔
    Travels blob ∧ blob.toList.getLast? ≠ some ' ' := by
  constructor
  · rintro ⟨address, read, named⟩
    exact travels_of_named node valid read named
  · rintro ⟨travels, last⟩
    obtain ⟨address, segment, read, -, segments, present, value⟩ := travels.reaches node valid last
    refine ⟨address, read, ?_⟩
    rw [segments, named?, if_neg (by simp [present]), value]

end BlobId

end BlobCluster
