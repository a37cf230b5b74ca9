import BlobCluster.Http.Address
import BlobCluster.Http.Path
import BlobCluster.Proofs.Http.Percent
import Mathlib.Data.Bool.AllAny
import Mathlib.Data.List.TakeDrop
import Mathlib.Data.List.TakeWhile

/-!
# Where an address leads

A request for the base address of a node, followed by segments, reaches the node with these
segments, percent-encoded, if each of them can stand in a path as one segment (`leads`).  What a
segment then stands for at the node is what its text stood for before it was encoded
(`segmentValue?_encodeText`), so it is the text itself unless that has escapes in it.
-/

namespace BlobCluster.Http

namespace Address

/-! ## Bases and segments -/

/-- The scheme of an address with what separates it from the host. -/
def scheme (secure : Bool) : List Char := if secure then "https://".toList else "http://".toList

/-- A character that may stand in an authority without ending it. -/
def isInner (c : Char) : Bool := 0x20 < c.toNat && !isSlash c && c != '?' && c != '#'

/-- The base address of a node, as it is read: a scheme and an authority with nothing after it.
Requests can be sent to it, and there is room for another kilobyte in its address. -/
structure IsBase (base : String) (origin : Address) : Prop where
  read : parse base = .ok origin
  bare : ∃ secure authority, base.toList = scheme secure ++ authority ∧ authority ≠ [] ∧
    ∀ c ∈ authority, isInner c = true
  sendable : origin.isTarget = true
  roomy : origin.text.utf8ByteSize + 1024 ≤ longest

/-- A base that ends with its host and port, so that a path behind it is a path of the node. -/
def IsHost (base : String) : Prop :=
  ∃ secure authority, base.toList = scheme secure ++ authority ∧ authority ≠ [] ∧
    ∀ c ∈ authority, isInner c = true

theorem IsBase.isHost {base : String} {origin : Address} (node : IsBase base origin) :
    IsHost base := node.bare

/-- A character that may stand in a segment without ending it. -/
def isPlain (c : Char) : Bool := 0x20 ≤ c.toNat && !isSlash c && c != '?' && c != '#'

/-- A text that stands in a path as one segment and is not resolved. -/
structure IsSegment (segment : String) : Prop where
  plain : ∀ c ∈ segment.toList, isPlain c = true
  noDot : isDot segment = false
  noDoubleDot : isDoubleDot segment = false

/-! ## Reading -/

/-- A text without the blanks at its end. -/
def trimEnd (text : List Char) : List Char := (text.reverse.dropWhile (· == ' ')).reverse

theorem dropWhile_blanks {text : List Char} (noControls : ∀ c ∈ text, 0x20 ≤ c.toNat) :
    text.dropWhile (fun c => decide (c.toNat ≤ 0x20)) = text.dropWhile (· == ' ') := by
  induction text with
  | nil => rfl
  | cons c rest ih =>
    have visible := noControls c List.mem_cons_self
    have rests := ih fun d within => noControls d (List.mem_cons_of_mem _ within)
    by_cases blank : c = ' '
    · subst blank
      exact rests
    · have differs : c.toNat ≠ ' '.toNat := fun same => blank (Char.toNat_inj.1 same)
      have value : ' '.toNat = 0x20 := by decide
      rw [List.dropWhile_cons_of_neg (by simp; omega), List.dropWhile_cons_of_neg (by simpa)]

theorem dropWhile_eq_self {text : List Char} (first : text.head? ≠ some ' ') :
    text.dropWhile (· == ' ') = text := by
  cases text with
  | nil => rfl
  | cons c rest => exact List.dropWhile_cons_of_neg (by simpa using first)

/-- Of a text without controls only the blanks at its ends do not count. -/
theorem clean_eq_trimEnd {text : String} (noControls : ∀ c ∈ text.toList, 0x20 ≤ c.toNat)
    (first : text.toList.head? ≠ some ' ') : clean text = trimEnd text.toList := by
  have within : ∀ c ∈ trimEnd text.toList, 0x20 ≤ c.toNat := by
    intro c inside
    rw [trimEnd, List.mem_reverse] at inside
    exact noControls c (List.mem_reverse.1 ((List.dropWhile_sublist _).subset inside))
  have front := (dropWhile_blanks noControls).trans (dropWhile_eq_self first)
  have back := @dropWhile_blanks text.toList.reverse fun c inside =>
    noControls c (List.mem_reverse.1 inside)
  unfold clean
  simp only [front, back]
  rw [← trimEnd, List.filter_eq_self]
  intro c inside
  have least := within c inside
  simp only [Bool.not_eq_true', Bool.or_eq_false_iff, beq_eq_false_iff_ne]
  refine ⟨⟨?_, ?_⟩, ?_⟩
  all_goals
    rintro rfl
    exact absurd least (by decide)

theorem trimEnd_append {before after : List Char} {c : Char} (visible : c ≠ ' ') :
    trimEnd (before ++ c :: after) = before ++ c :: trimEnd after := by
  have turned : (before ++ c :: after).reverse = after.reverse ++ c :: before.reverse := by
    simp
  have stops : (c :: before.reverse).dropWhile (· == ' ') = c :: before.reverse :=
    dropWhile_eq_self (by simpa using visible)
  rw [trimEnd, turned, List.dropWhile_append, stops]
  by_cases blanks : (after.reverse.dropWhile (· == ' ')).isEmpty = true
  · rw [if_pos blanks, trimEnd, List.isEmpty_iff.1 blanks]
    simp
  · rw [if_neg blanks, trimEnd]
    simp

theorem trimEnd_isPrefix (text : List Char) : trimEnd text <+: text := by
  have dropped : text.reverse.dropWhile (· == ' ') <:+ text.reverse := List.dropWhile_suffix _
  rw [← List.reverse_prefix] at dropped
  simpa [trimEnd] using dropped

theorem trimEnd_eq_self {text : List Char} (last : text.getLast? ≠ some ' ') :
    trimEnd text = text := by
  rw [List.getLast?_eq_head?_reverse] at last
  rw [trimEnd, dropWhile_eq_self last, List.reverse_reverse]

/-- What of a path in an address belongs to the path: no blanks at the end, and nothing from a
question mark or a number sign on. -/
def kept (path : List Char) : List Char :=
  (trimEnd path).takeWhile fun c => c != '?' && c != '#'

theorem kept_isPrefix (path : List Char) : kept path <+: path := by
  have begins : kept path <+: trimEnd path := List.takeWhile_prefix _
  exact begins.trans (trimEnd_isPrefix path)

/-- A word and a slash at the front of a path are kept. -/
theorem kept_append {word path : List Char} (plain : ∀ c ∈ word, (c != '?' && c != '#') = true) :
    kept (word ++ '/' :: path) = word ++ '/' :: kept path := by
  rw [kept, trimEnd_append (by decide), List.takeWhile_append_of_pos plain,
    List.takeWhile_cons_of_pos (by decide), kept]

/-- Nothing is dropped only from a path without what ends it.  `kept` is what the parser leaves of a
path, and whatever it leaves out is at the end, from the first question mark or number sign on, or
the spaces there. -/
theorem plain_of_kept {path : List Char} (all : kept path = path) :
    path.getLast? ≠ some ' ' ∧ '?' ∉ path ∧ '#' ∉ path := by
  have stays : ∀ c ∈ path, (c != '?' && c != '#') = true := by
    intro c within
    rw [← all, kept] at within
    exact List.mem_takeWhile_imp (p := fun c => c != '?' && c != '#') within
  have trimmed : trimEnd path = path := by
    have begins : kept path <+: trimEnd path := List.takeWhile_prefix _
    have shorter := begins.length_le
    rw [all] at shorter
    exact (trimEnd_isPrefix path).eq_of_length_le shorter
  refine ⟨?_, fun within => absurd (stays _ within) (by decide),
    fun within => absurd (stays _ within) (by decide)⟩
  rw [← trimmed, trimEnd, List.getLast?_reverse]
  intro blank
  have := List.head?_dropWhile_not (· == ' ') path.reverse
  rw [blank] at this
  exact absurd this (by decide)

theorem kept_eq_self {path : List Char} (last : path.getLast? ≠ some ' ') (noQuery : '?' ∉ path)
    (noFragment : '#' ∉ path) : kept path = path := by
  have stays : ∀ c ∈ path, (c != '?' && c != '#') = true := by
    intro c within
    rw [Bool.and_eq_true, bne_iff_ne, bne_iff_ne]
    exact ⟨fun same => noQuery (same ▸ within), fun same => noFragment (same ▸ within)⟩
  rw [kept, trimEnd_eq_self last, List.takeWhile_eq_self_iff.2 stays]

/-- Segments that are not resolved are written one by one.  Segments of one or two dots are excluded
by `IsSegment`; these would take other segments away. -/
theorem resolve_eq_map {segments : List String} (here : ∀ s ∈ segments, IsSegment s)
    (done : List String) :
    resolve done segments = done.reverse ++ segments.map (Percent.encodeText pathEncoded) := by
  induction segments generalizing done with
  | nil => simp [resolve]
  | cons segment rest ih =>
    have this := here segment List.mem_cons_self
    rw [resolve, if_neg (by simp [this.noDoubleDot]), if_neg (by simp [this.noDot]),
      ih fun s within => here s (List.mem_cons_of_mem _ within)]
    simp

/-- A slash and a segment, for each of several segments. -/
def pathChars (segments : List String) : List Char := segments.flatMap fun s => '/' :: s.toList

theorem pathChars_eq_intercalate {segments : List String} (present : segments ≠ []) :
    pathChars segments = ['/'].intercalate ([] :: segments.map String.toList) := by
  induction segments with
  | nil => exact absurd rfl present
  | cons segment rest ih =>
    by_cases more : rest = []
    · simp [more, pathChars]
    · have others := ih more
      rw [List.intercalate_cons_of_ne_nil (by simpa using more)] at others
      rw [List.intercalate_cons_of_ne_nil (by simp), List.map_cons,
        List.intercalate_cons_of_ne_nil (by simpa using more)]
      simp only [pathChars, List.flatMap_cons] at others ⊢
      rw [others]
      simp

/-- Segments are told apart again by the slashes between them. -/
theorem splitOn_pathChars {segments : List String} (present : segments ≠ [])
    (noSlash : ∀ s ∈ segments, '/' ∉ s.toList) :
    (pathChars segments).splitOn '/' = [] :: segments.map String.toList := by
  rw [pathChars_eq_intercalate present, List.splitOn_intercalate '/' _ (List.cons_ne_nil _ _)]
  intro chars among
  rcases List.mem_cons.1 among with rfl | listed
  · exact List.not_mem_nil
  · obtain ⟨segment, within, rfl⟩ := List.mem_map.1 listed
    exact noSlash segment within

theorem not_mem_pathChars {segments : List String} {c : Char} (noSlash : c ≠ '/')
    (missing : ∀ s ∈ segments, c ∉ s.toList) : c ∉ pathChars segments := by
  intro inside
  obtain ⟨segment, within, at_⟩ := List.mem_flatMap.1 inside
  rcases List.mem_cons.1 at_ with slash | among
  · exact noSlash slash
  · exact missing segment within among

/-- The path of segments as it is written. -/
def writtenPath (segments : List String) : String :=
  String.ofList (pathChars (segments.map (Percent.encodeText pathEncoded)))

theorem IsSegment.not_mem {segment : String} (here : IsSegment segment) {c : Char}
    (special : isPlain c = false) : c ∉ segment.toList := by
  intro within
  rw [here.plain c within] at special
  cases special

/-- Segments are read from a path and resolved.  `kept` excludes the paths that resolve to nothing,
for which a single slash is written instead. -/
theorem readPath_pathChars {segments : List String} (present : segments ≠ [])
    (noSlash : ∀ s ∈ segments, ∀ c ∈ s.toList, isSlash c = false)
    (kept : resolve [] segments ≠ []) :
    readPath (pathChars segments) = String.ofList (pathChars (resolve [] segments)) := by
  have asIs : (pathChars segments).map (fun c => if c == '\\' then '/' else c)
      = pathChars segments := by
    have noBackslash : '\\' ∉ pathChars segments := by
      refine not_mem_pathChars (by decide) fun s within inside => ?_
      exact absurd (noSlash s within _ inside) (by decide)
    have same : ∀ c ∈ pathChars segments, (if c == '\\' then '/' else c) = c := by
      intro c within
      rw [if_neg]
      rw [beq_iff_eq]
      rintro rfl
      exact noBackslash within
    exact (List.map_congr_left same).trans (List.map_id' _)
  have split := splitOn_pathChars present fun s within inside =>
    absurd (noSlash s within _ inside) (by decide)
  have texts : (segments.map String.toList).map String.ofList = segments := by
    simp
  unfold readPath
  simp only [asIs, split, List.map_cons, texts]
  rw [if_pos (by rfl), List.drop_succ_cons, List.drop_zero, ← String.toList_inj,
    String.toList_ofList, pathChars_eq_intercalate kept,
    List.intercalate_cons_of_ne_nil (by simpa using kept)]
  simp [String.toList_intercalate]

theorem readPath_written {segments : List String} (here : ∀ s ∈ segments, IsSegment s)
    (present : segments ≠ []) : readPath (pathChars segments) = writtenPath segments := by
  have resolved := resolve_eq_map here []
  rw [List.reverse_nil, List.nil_append] at resolved
  rw [readPath_pathChars present, resolved, writtenPath]
  · intro s within c inside
    have plain := (here s within).plain c inside
    simp only [isPlain, Bool.and_eq_true, Bool.not_eq_true'] at plain
    exact plain.1.1.2
  · rw [resolved]
    simpa using present

theorem cutAt_eq_self {c : Char} {text : List Char} (missing : c ∉ text) :
    cutAt c text = (text, none) := by
  have others : ∀ d ∈ text, (d != c) = true := by
    intro d within
    exact bne_iff_ne.2 fun same => missing (same ▸ within)
  simp only [cutAt, List.span_eq_takeWhile_dropWhile, List.takeWhile_eq_self_iff.2 others,
    List.dropWhile_eq_nil_iff.2 others]

/-- An authority ends where it is followed by a slash or by nothing. -/
theorem span_authority {authority path : List Char} (nonempty : authority ≠ [])
    (inner : ∀ c ∈ authority, isInner c = true) (begins : path = [] ∨ path.head? = some '/') :
    ('/' :: '/' :: (authority ++ path)).dropWhile isSlash = authority ++ path ∧
    (authority ++ path).span (fun c => !(isSlash c || c == '?' || c == '#'))
      = (authority, path) := by
  have goesOn : ∀ c ∈ authority, (!(isSlash c || c == '?' || c == '#')) = true := by
    intro c within
    have inside := inner c within
    simp only [isInner, Bool.and_eq_true, Bool.not_eq_true', bne_iff_ne, ne_eq] at inside
    simp [inside]
  have stops : path.takeWhile (fun c => !(isSlash c || c == '?' || c == '#')) = []
      ∧ path.dropWhile (fun c => !(isSlash c || c == '?' || c == '#')) = path := by
    cases path with
    | nil => exact ⟨rfl, rfl⟩
    | cons c rest =>
      have slash : c = '/' := by simpa using begins
      subst slash
      exact ⟨rfl, rfl⟩
  constructor
  · cases authority with
    | nil => exact absurd rfl nonempty
    | cons c rest =>
      have inside := goesOn c List.mem_cons_self
      simp only [Bool.not_eq_true', Bool.or_eq_false_iff] at inside
      rw [List.dropWhile_cons_of_pos rfl, List.dropWhile_cons_of_pos rfl, List.cons_append,
        List.dropWhile_cons_of_neg (by simp [inside.1.1])]
  · rw [List.span_eq_takeWhile_dropWhile, List.takeWhile_append_of_pos goesOn,
      List.dropWhile_append_of_pos goesOn, stops.1, stops.2, List.append_nil]

theorem cutAt_fst (c : Char) (text : List Char) :
    (cutAt c text).1 = text.takeWhile (· != c) := by
  unfold cutAt
  rw [List.span_eq_takeWhile_dropWhile]
  split
  · rename_i same
    exact (congrArg Prod.fst same).symm
  · rename_i same
    exact (congrArg Prod.fst same).symm

/-- What follows an authority becomes the path, up to a question mark or a number sign. -/
theorem readRest_append {secure : Bool} {authority path : List Char} (nonempty : authority ≠ [])
    (inner : ∀ c ∈ authority, isInner c = true) (begins : path.head? = some '/') :
    ∃ query fragment, readRest secure ('/' :: '/' :: (authority ++ path))
        = (readRest secure ('/' :: '/' :: authority)).map (fun origin =>
          { origin with
            path := readPath (path.takeWhile fun c => c != '?' && c != '#'), query, fragment })
      ∧ ('?' ∉ path → '#' ∉ path → query = none ∧ fragment = none) := by
  obtain ⟨dropped, cut⟩ := span_authority nonempty inner (Or.inr begins)
  obtain ⟨dropped', cut'⟩ := @span_authority authority [] nonempty inner (Or.inl rfl)
  rw [List.append_nil] at dropped' cut'
  have path_eq : (cutAt '?' (cutAt '#' path).1).1
      = path.takeWhile fun c => c != '?' && c != '#' := by
    rw [cutAt_fst, cutAt_fst, List.takeWhile_takeWhile]
    simp only [Bool.decide_and, Bool.decide_coe]
  refine ⟨(cutAt '?' (cutAt '#' path).1).2.map fun q =>
      Percent.encodeText [' ', '"', '#', '<', '>', '\''] (String.ofList q),
    (cutAt '#' path).2.map fun f =>
      Percent.encodeText [' ', '"', '<', '>', '\x60'] (String.ofList f), ?_, ?_⟩
  · unfold readRest
    simp only [dropped, cut, dropped', cut', path_eq]
    by_cases empty : (splitPort (splitUser authority).2).1.isEmpty = true
    · simp only [empty]
      rfl
    · simp only [empty]
      cases Host.parse (splitPort (splitUser authority).2).1 with
      | error e => rfl
      | ok host =>
        cases port? secure (splitPort (splitUser authority).2).2 <;> rfl
  · intro noQuery noFragment
    simp only [cutAt_eq_self noFragment, cutAt_eq_self noQuery]
    exact ⟨rfl, rfl⟩

theorem parse_of_scheme {text : String} {secure : Bool} {rest : List Char}
    (made : clean text = scheme secure ++ rest) :
    parse text = readRest secure ('/' :: '/' :: rest) := by
  unfold parse
  rw [made]
  cases secure <;> rfl

section

variable {secure : Bool} {authority : List Char}

theorem visible_of_base (inner : ∀ c ∈ authority, isInner c = true) :
    ∀ c ∈ scheme secure ++ authority, 0x20 < c.toNat := by
  intro c within
  rcases List.mem_append.1 within with inScheme | inAuthority
  · have all : ∀ c ∈ scheme secure, 0x20 < c.toNat := by
      cases secure <;> exact List.all_iff_forall_prop.1 (by decide)
    exact all c inScheme
  · have inside := inner c inAuthority
    simp only [isInner, Bool.and_eq_true, decide_eq_true_eq] at inside
    exact inside.1.1.1

theorem head?_of_scheme (after : List Char) : (scheme secure ++ after).head? ≠ some ' ' := by
  cases secure <;> simp [scheme]

theorem clean_base {base : String} (made : base.toList = scheme secure ++ authority)
    (nonempty : authority ≠ []) (inner : ∀ c ∈ authority, isInner c = true) :
    clean base = scheme secure ++ authority := by
  have visible := @visible_of_base secure authority inner
  rw [clean_eq_trimEnd, made]
  · apply trimEnd_eq_self
    rw [List.getLast?_append, List.getLast?_eq_some_getLast nonempty, Option.some_or]
    intro blank
    have inside := visible _ (List.mem_append_right _ (List.getLast_mem nonempty))
    rw [Option.some.inj blank] at inside
    exact absurd inside (by decide)
  · rw [made]
    exact fun c within => Nat.le_of_lt (visible c within)
  · rw [made]
    exact head?_of_scheme _

/-- From a base with a path only the blanks at the end of the path are dropped. -/
theorem clean_append {text : String} {rest : List Char}
    (made : text.toList = scheme secure ++ authority ++ '/' :: rest)
    (inner : ∀ c ∈ authority, isInner c = true)
    (noControls : ∀ c ∈ '/' :: rest, 0x20 ≤ c.toNat) :
    clean text = scheme secure ++ (authority ++ '/' :: trimEnd rest) := by
  rw [clean_eq_trimEnd, made]
  · rw [trimEnd_append (by decide), List.append_assoc]
  · rw [made]
    intro c within
    rcases List.mem_append.1 within with before | after
    · exact Nat.le_of_lt (visible_of_base inner c before)
    · exact noControls c after
  · rw [made, List.append_assoc]
    exact head?_of_scheme _

end

/-- A host with a path is read as the host with what is kept of the path. -/
theorem parse_append {base text : String} {path : List Char} (host : IsHost base)
    (begins : path.head? = some '/') (noControls : ∀ c ∈ path, 0x20 ≤ c.toNat)
    (made : text.toList = base.toList ++ path) :
    ∃ query fragment,
      parse text = (parse base).map (fun origin =>
        { origin with path := readPath (kept path), query, fragment }) ∧
      ('?' ∉ path → '#' ∉ path → query = none ∧ fragment = none) := by
  obtain ⟨secure, authority, baseMade, nonempty, inner⟩ := host
  obtain ⟨rest, rfl⟩ : ∃ rest, path = '/' :: rest := by
    cases path with
    | nil => cases begins
    | cons c rest => exact ⟨rest, by rw [Option.some.inj begins]⟩
  have slash : trimEnd ('/' :: rest) = '/' :: trimEnd rest :=
    @trimEnd_append [] rest '/' (by decide)
  have baseClean := clean_base baseMade nonempty inner
  have textClean := clean_append (baseMade ▸ made) inner noControls
  rw [← slash] at textClean
  obtain ⟨query, fragment, read, none⟩ :=
    @readRest_append secure authority (trimEnd ('/' :: rest)) nonempty inner (by rw [slash]; rfl)
  refine ⟨query, fragment, ?_, ?_⟩
  · rw [parse_of_scheme textClean, read, ← parse_of_scheme baseClean]
    rfl
  · intro noQuery noFragment
    have within := (trimEnd_isPrefix ('/' :: rest)).subset
    exact none (fun inside => noQuery (within inside)) (fun inside => noFragment (within inside))

theorem le_of_mem_pathChars {segments : List String} (here : ∀ s ∈ segments, IsSegment s) :
    ∀ c ∈ pathChars segments, 0x20 ≤ c.toNat := by
  intro c inside
  obtain ⟨segment, within, place⟩ := List.mem_flatMap.1 inside
  rcases List.mem_cons.1 place with rfl | among
  · decide
  · have plain := (here segment within).plain c among
    simp only [isPlain, Bool.and_eq_true, decide_eq_true_eq] at plain
    exact plain.1.1.1

/-- A base address followed by segments is read as the base with the segments as its path.  The last
character is to be no space because the parser trims the text as a whole before it looks for its
parts. -/
theorem parse_segments {base text : String} {origin : Address} {segments : List String}
    (node : IsBase base origin) (here : ∀ s ∈ segments, IsSegment s) (present : segments ≠ [])
    (made : text.toList = base.toList ++ pathChars segments)
    (last : (pathChars segments).getLast? ≠ some ' ') :
    parse text = .ok
      { origin with path := writtenPath segments, query := none, fragment := none } := by
  have begins : (pathChars segments).head? = some '/' := by
    cases segments with
    | nil => exact absurd rfl present
    | cons segment rest => rfl
  have noQuery : '?' ∉ pathChars segments :=
    not_mem_pathChars (by decide) fun s within => (here s within).not_mem (by decide)
  have noFragment : '#' ∉ pathChars segments :=
    not_mem_pathChars (by decide) fun s within => (here s within).not_mem (by decide)
  obtain ⟨query, fragment, read, none⟩ :=
    parse_append node.isHost begins (le_of_mem_pathChars here) made
  obtain ⟨rfl, rfl⟩ := none noQuery noFragment
  rw [read, node.read, kept_eq_self last noQuery noFragment, readPath_written here present]
  rfl

/-! ## Requests -/

/-- The most bytes that segments take in a written path: each byte may be encoded. -/
def room : List String → Nat
  | [] => 0
  | segment :: rest => 1 + 3 * segment.utf8ByteSize + room rest

theorem writtenPath_cons (segment : String) (rest : List String) :
    writtenPath (segment :: rest)
      = "/" ++ Percent.encodeText pathEncoded segment ++ writtenPath rest := by
  rw [← String.toList_inj]
  simp [writtenPath, pathChars]

theorem utf8ByteSize_writtenPath (segments : List String) :
    (writtenPath segments).utf8ByteSize ≤ room segments := by
  induction segments with
  | nil => decide
  | cons segment rest ih =>
    have piece := @Percent.utf8ByteSize_encodeText pathEncoded segment
    have slash : ("/" : String).utf8ByteSize = 1 := by decide
    rw [writtenPath_cons, String.utf8ByteSize_append, String.utf8ByteSize_append, slash, room]
    omega

/-- What a request asks of its host begins with the path, which a question mark ends. -/
theorem target_toList (address : Address) :
    ∃ tail, address.target.toList = address.path.toList ++ tail ∧
      tail.takeWhile (fun c => c != '?' && c != '#') = [] := by
  unfold target
  cases address.query with
  | none => exact ⟨[], by simp, rfl⟩
  | some query => exact ⟨'?' :: query.toList, by simp, rfl⟩

/-- A request is for the segments of its path.  It is the way back from the path to its parts, which
the server takes at every slash. -/
theorem segments_of_path {address : Address} {written : List String}
    (path : address.path = String.ofList (pathChars written)) (present : written ≠ [])
    (plain : ∀ s ∈ written, '/' ∉ s.toList ∧ '?' ∉ s.toList ∧ '#' ∉ s.toList) :
    Http.segments address.target = "" :: written := by
  obtain ⟨tail, target, ended⟩ := target_toList address
  rw [path, String.toList_ofList] at target
  have noQuery : '?' ∉ pathChars written :=
    not_mem_pathChars (by decide) fun s within => (plain s within).2.1
  have noFragment : '#' ∉ pathChars written :=
    not_mem_pathChars (by decide) fun s within => (plain s within).2.2
  obtain ⟨rest, slash⟩ : ∃ rest, pathChars written = '/' :: rest := by
    cases written with
    | nil => exact absurd rfl present
    | cons segment rest => exact ⟨_, rfl⟩
  have whole : pathOf address.target = pathChars written := by
    have stays : ∀ c ∈ pathChars written, (c != '?' && c != '#') = true := by
      intro c within
      rw [Bool.and_eq_true, bne_iff_ne, bne_iff_ne]
      exact ⟨fun same => noQuery (same ▸ within), fun same => noFragment (same ▸ within)⟩
    have dropped : dropHost (pathChars written ++ tail) = pathChars written ++ tail := by
      rw [slash]
      rfl
    have taken : (pathChars written ++ tail).takeWhile (fun c => c != '?' && c != '#')
        = pathChars written := by
      rw [List.takeWhile_append_of_pos stays, ended, List.append_nil]
    unfold pathOf
    rw [target, dropped]
    simp only [taken]
    rw [slash]
    rfl
  unfold Http.segments
  rw [whole, splitOn_pathChars present fun s within => (plain s within).1]
  simp

/-- A written segment ends neither itself nor the path. -/
theorem plain_encodeText {segment : String} (noSlash : '/' ∉ segment.toList) :
    '/' ∉ (Percent.encodeText pathEncoded segment).toList ∧
      '?' ∉ (Percent.encodeText pathEncoded segment).toList ∧
      '#' ∉ (Percent.encodeText pathEncoded segment).toList :=
  ⟨Percent.not_mem_encodeText (by decide) (by decide) (Or.inr noSlash),
    Percent.not_mem_encodeText (by decide) (by decide) (Or.inl (by decide)),
    Percent.not_mem_encodeText (by decide) (by decide) (Or.inl (by decide))⟩

theorem isTarget_of_path {origin address : Address} {segments : List String}
    (same : address = { origin with path := writtenPath segments, query := none, fragment := none })
    (sendable : origin.isTarget = true)
    (fits : origin.text.utf8ByteSize + room segments ≤ longest) : address.isTarget = true := by
  have size := utf8ByteSize_writtenPath segments
  simp only [isTarget, Bool.and_eq_true, decide_eq_true_eq, same] at sendable ⊢
  refine ⟨?_, sendable.2⟩
  simp only [text, String.utf8ByteSize_append] at fits ⊢
  have empty : ("" : String).utf8ByteSize = 0 := by decide
  omega

/-- A request for a base address followed by segments reaches the node with these segments. -/
theorem leads {base text : String} {origin : Address} {segments : List String}
    (node : IsBase base origin) (here : ∀ s ∈ segments, IsSegment s) (present : segments ≠ [])
    (made : text.toList = base.toList ++ pathChars segments)
    (last : (pathChars segments).getLast? ≠ some ' ') (fits : room segments ≤ 1024) :
    ∃ address, parse text = .ok address ∧ address.isTarget = true ∧
      Http.segments address.target = "" :: segments.map (Percent.encodeText pathEncoded) := by
  refine ⟨_, parse_segments node here present made last,
    isTarget_of_path rfl node.sendable (by have := node.roomy; omega),
    segments_of_path rfl (by simpa using present) ?_⟩
  intro written among
  obtain ⟨segment, within, rfl⟩ := List.mem_map.1 among
  exact plain_encodeText ((here segment within).not_mem (by decide))

end Address

end BlobCluster.Http
