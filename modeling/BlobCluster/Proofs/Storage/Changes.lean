import BlobCluster.Proofs.Storage.View

/-!
# What the operations of a volume change

Each operation is described by what is seen after it.  Writing, appending and removing replace what
is seen at the one place their path leads to, renaming a file moves what is seen at one place to
another, and making folders only adds to what is seen.  All of them leave a sound volume sound.
-/

namespace BlobCluster.Volume

variable {volume after : Volume} {place path : Path}

/-! ## Places and contents -/

theorem at?_set (volume : Volume) (h : place ≠ []) (node : Node) (other : Path) :
    (volume.set place node).at? other
      = if other = place then some node else volume.at? other := by
  by_cases top : other = []
  · rw [top, if_neg fun same => h same.symm]
    rfl
  · rw [at?_of_ne_nil top, at?_of_ne_nil top]
    unfold set
    rw [Table.find?_put]
    by_cases same : other = place
    · simp [same]
    · have differs : ¬ place = other := fun eq => same eq.symm
      simp [same, differs]

theorem at?_erase (volume : Volume) (h : place ≠ []) (other : Path) :
    ({ volume with entries := volume.entries.erase place } : Volume).at? other
      = if other = place then none else volume.at? other := by
  by_cases top : other = []
  · rw [top, if_neg fun same => h same.symm]
    rfl
  · rw [at?_of_ne_nil top, at?_of_ne_nil top, Table.find?_erase]
    split <;> rfl

theorem ne_nil_of_at? {node : Node} (h : volume.at? place = some node) (noFolder : node ≠ .folder) :
    place ≠ [] := by
  rintro rfl
  cases h
  exact noFolder rfl

theorem ne_nil_of_absent (h : volume.at? place = none) : place ≠ [] := by
  rintro rfl
  cases h

theorem content_setContent {number : Nat} (bounded : number < volume.contents.size)
    (content : Array UInt8) (other : Nat) :
    (volume.setContent number content).content other
      = if other = number then content else volume.content other := by
  unfold Volume.content setContent
  by_cases same : other = number
  · simp [same, bounded]
  · have differs : ¬ number = other := fun eq => same eq.symm
    simp [same, differs]

theorem content_extendContent {number : Nat} (bounded : number < volume.contents.size)
    (bytes : Bytes) (other : Nat) :
    (volume.extendContent number bytes).content other
      = if other = number then (volume.content number).appendList bytes
        else volume.content other := by
  unfold Volume.content extendContent
  by_cases same : other = number
  · simp [same, bounded, Array.getElem_modify]
  · have differs : ¬ number = other := fun eq => same eq.symm
    simp [same, differs, Array.getElem?_modify]

/-! ## Contents -/

/-- Changing the content of a file replaces what is seen at its place and nowhere else, because no
other place has that content. -/
theorem Sound.replaced_of_content (sound : volume.Sound) {number : Nat} {content : Array UInt8}
    (there : volume.at? place = some (.file number)) (entries : after.entries = volume.entries)
    (size : after.contents.size = volume.contents.size)
    (contents : ∀ other, after.content other
      = if other = number then content else volume.content other) :
    volume.Replaced after place (some (.file content.toList)) := by
  have same : ∀ other, after.at? other = volume.at? other := by
    intro other
    cases other with
    | nil => rfl
    | cons part rest =>
      show (after.entries.find? _).map _ = (volume.entries.find? _).map _
      rw [entries]
  have notFolder : volume.seen place ≠ some .folder := by
    rw [Ne, seen_eq_folder_iff, there]
    exact nofun
  refine ⟨⟨?_, ?_, ?_⟩, ?_, notFolder, nofun⟩
  · intro other nonempty present
    rw [same] at present ⊢
    exact sound.parent nonempty present
  · intro other n file
    rw [same] at file
    rw [size]
    exact sound.bounded file
  · intro one other n file file'
    rw [same] at file file'
    exact sound.apart file file'
  · intro other
    unfold seen
    rw [same]
    split
    next here =>
      rw [here, there]
      simp [item, contents]
    next elsewhere =>
      rcases found : volume.at? other with _ | _ | n
      · rfl
      · rfl
      · have differs : n ≠ number := by
          rintro rfl
          exact elsewhere (sound.apart found there)
        simp [item, contents, differs]

/-- A volume stays sound if one place gets another node or none, but no folder comes or goes there
and a file gets a number that no place has. -/
theorem Sound.of_place (sound : volume.Sound) {node? : Option Node}
    (places : ∀ other, after.at? other = if other = place then node? else volume.at? other)
    (noFolder : volume.at? place ≠ some .folder)
    (above : node? ≠ none → volume.at? place.dropLast = some .folder)
    (fresh : ∀ number, node? = some (.file number) →
      number < after.contents.size ∧ ∀ other, volume.at? other ≠ some (.file number))
    (size : volume.contents.size ≤ after.contents.size) : after.Sound where
  parent {other} nonempty present := by
    rw [places] at present
    have folder : volume.at? other.dropLast = some .folder := by
      split at present
      next here =>
        rw [here]
        exact above present
      next => exact sound.parent nonempty present
    have differs : other.dropLast ≠ place := by
      intro here
      rw [here] at folder
      exact noFolder folder
    rw [places, if_neg differs]
    exact folder
  bounded {other n} file := by
    rw [places] at file
    split at file
    next => exact (fresh n file).1
    next => exact Nat.lt_of_lt_of_le (sound.bounded file) size
  apart {one other n} file file' := by
    rw [places] at file file'
    split at file
    next here =>
      split at file'
      next here' => rw [here, here']
      next => exact absurd file' ((fresh n file).2 other)
    next =>
      split at file'
      next => exact absurd file ((fresh n file').2 one)
      next => exact sound.apart file file'

/-- Giving a place the number of a content that no place has shows that content there, and nothing
else changes. -/
theorem Sound.replaced_of_number (sound : volume.Sound) {number : Nat}
    (bound : number < volume.contents.size)
    (free : ∀ other, volume.at? other ≠ some (.file number))
    (above : volume.at? place.dropLast = some .folder) (notFolder : volume.at? place ≠ some .folder)
    (contents : after.contents = volume.contents)
    (places : ∀ other, after.at? other
      = if other = place then some (.file number) else volume.at? other) :
    volume.Replaced after place (some (.file (volume.content number).toList)) := by
  have same : ∀ n, after.content n = volume.content n := by
    intro n
    unfold Volume.content
    rw [contents]
  have sound' : after.Sound := by
    apply sound.of_place places notFolder (fun _ => above)
    · rintro _ ⟨⟩
      rw [contents]
      exact ⟨bound, free⟩
    · exact Nat.le_of_eq (congrArg Array.size contents.symm)
  refine ⟨sound', fun other => ?_, fun folder => notFolder (seen_eq_folder_iff.1 folder), nofun⟩
  unfold seen
  rw [places]
  split
  next => simp [item, same]
  next =>
    rcases volume.at? other with _ | _ | n
    · rfl
    · rfl
    · simp [item, same]

/-- The volume with a content that nothing leads to yet. -/
def pushContent (volume : Volume) (content : Array UInt8) : Volume :=
  { volume with contents := volume.contents.push content }

theorem at?_pushContent (content : Array UInt8) (other : Path) :
    (volume.pushContent content).at? other = volume.at? other := by
  cases other <;> rfl

theorem content_pushContent (content : Array UInt8) :
    (volume.pushContent content).content volume.contents.size = content := by
  simp [pushContent, Volume.content]

/-- A content that nothing leads to is not seen. -/
theorem Sound.pushContent (sound : volume.Sound) (content : Array UInt8) :
    volume.Keeps (volume.pushContent content) fun _ => False := by
  refine ⟨⟨?_, ?_, ?_⟩, ?_, ?_⟩
  · intro other nonempty present
    rw [at?_pushContent] at present ⊢
    exact sound.parent nonempty present
  · intro other n file
    rw [at?_pushContent] at file
    have bound := sound.bounded file
    show n < (volume.contents.push content).size
    rw [Array.size_push]
    omega
  · intro one other n file file'
    rw [at?_pushContent] at file file'
    exact sound.apart file file'
  · intro other
    rw [at?_pushContent]
  · intro other _
    unfold seen
    rw [at?_pushContent]
    rcases found : volume.at? other with _ | _ | n
    · rfl
    · rfl
    · have bound := sound.bounded found
      have differs : ¬ n = volume.contents.size := by omega
      simp [item, Volume.pushContent, Volume.content, Array.getElem?_push, differs]

/-- A new file in a folder is seen at its place, and nothing else changes. -/
theorem Sound.replaced_of_new (sound : volume.Sound) (absent : volume.at? place = none)
    (above : volume.at? place.dropLast = some .folder) (content : Array UInt8) :
    volume.Replaced ((volume.pushContent content).set place (.file volume.contents.size)) place
      (some (.file content.toList)) := by
  have bound : volume.contents.size < (volume.pushContent content).contents.size := by
    show _ < (volume.contents.push content).size
    rw [Array.size_push]
    omega
  have free : ∀ other, (volume.pushContent content).at? other
      ≠ some (.file volume.contents.size) := by
    intro other file
    rw [at?_pushContent] at file
    exact absurd (sound.bounded file) (by omega)
  have shown : (volume.pushContent content).Replaced
      ((volume.pushContent content).set place (.file volume.contents.size)) place
      (some (.file ((volume.pushContent content).content volume.contents.size).toList)) := by
    refine (sound.pushContent content).sound.replaced_of_number bound free ?_ ?_ rfl
      (at?_set _ (ne_nil_of_absent absent) _)
    · rw [at?_pushContent]
      exact above
    · rw [at?_pushContent, absent]
      exact nofun
  rw [content_pushContent] at shown
  exact (sound.pushContent content).replaced shown

theorem Sound.write (sound : volume.Sound) {bytes : Bytes}
    (h : volume.write path bytes = .ok after) :
    ∃ place, volume.locate path = .ok place
      ∧ volume.Replaced after place (some (.file bytes)) := by
  unfold Volume.write at h
  split at h
  · cases h
  · rename_i place located
    refine ⟨place, located, ?_⟩
    split at h
    · cases h
    · rename_i number there
      cases h
      refine sound.replaced_of_content there rfl ?_ fun other => ?_
      · simp [setContent]
      · exact content_setContent (sound.bounded there) _ other
    · rename_i absent
      cases h
      exact sound.replaced_of_new absent (sound.folder_of_locate located) _

/-- A file can be written at any place that a path leads to, unless there is a folder. -/
theorem exists_write (located : volume.locate path = .ok place)
    (noFolder : volume.at? place ≠ some .folder) (bytes : Bytes) :
    ∃ after, volume.write path bytes = .ok after := by
  unfold Volume.write
  rw [located]
  rcases there : volume.at? place with _ | _ | number
  · simp only [there]
    exact ⟨_, rfl⟩
  · exact absurd there noFolder
  · simp only [there]
    exact ⟨_, rfl⟩

theorem Sound.append (sound : volume.Sound) {bytes : Bytes}
    (h : volume.append path bytes = .ok after) :
    ∃ place content, volume.locate path = .ok place ∧ volume.seen place = some (.file content)
      ∧ volume.Replaced after place (some (.file (content ++ bytes))) := by
  unfold Volume.append at h
  split at h
  · cases h
  · cases h
  · rename_i number found
    obtain ⟨place, located, there⟩ := find_eq_ok_iff.1 found
    cases h
    refine ⟨place, _, located, seen_eq_file_iff.2 ⟨number, there, rfl⟩, ?_⟩
    rw [← Array.toList_appendList]
    refine sound.replaced_of_content there rfl ?_ fun other => ?_
    · simp [extendContent]
    · exact content_extendContent (sound.bounded there) _ other

/-! ## Places -/

/-- A file that is taken from its place is not seen any more, and nothing else changes. -/
theorem Sound.replaced_of_erase (sound : volume.Sound) {number : Nat}
    (there : volume.at? place = some (.file number)) :
    volume.Replaced { volume with entries := volume.entries.erase place } place none := by
  have places := at?_erase volume (ne_nil_of_at? there nofun)
  have notFolder : volume.at? place ≠ some .folder := by
    rw [there]
    exact nofun
  have sound' : Sound { volume with entries := volume.entries.erase place } :=
    sound.of_place places notFolder (fun some_ => absurd rfl some_) nofun (Nat.le_refl _)
  refine ⟨sound', fun other => ?_, fun folder => notFolder (seen_eq_folder_iff.1 folder), nofun⟩
  unfold seen
  rw [places]
  split <;> rfl

/-- The number of a file that was taken from its place is at no place. -/
theorem Sound.free_of_erase (sound : volume.Sound) {number : Nat}
    (there : volume.at? place = some (.file number)) (other : Path) :
    ({ volume with entries := volume.entries.erase place } : Volume).at? other
      ≠ some (.file number) := by
  intro same
  rw [at?_erase volume (ne_nil_of_at? there nofun)] at same
  split at same
  next => cases same
  next elsewhere => exact elsewhere (sound.apart same there)

theorem Sound.remove (sound : volume.Sound) (h : volume.remove path = .ok after) :
    ∃ place, volume.locate path = .ok place ∧ volume.Replaced after place none := by
  unfold Volume.remove at h
  split at h
  · cases h
  · rename_i place located
    split at h
    · cases h
    · cases h
    · rename_i number there
      cases h
      exact ⟨place, located, sound.replaced_of_erase there⟩

/-- Rows that are all one row are put as that row. -/
theorem find?_foldl_put {moved : List Entry} {row : Entry} (only : ∀ e ∈ moved, e = row)
    (some_ : moved ≠ []) (f : Entry → Entry) (table : Table Entry.path) (other : Path) :
    (moved.foldl (fun table e => table.put (f e)) table).find? other
      = if (f row).path = other then some (f row) else table.find? other := by
  induction moved generalizing table with
  | nil => exact absurd rfl some_
  | cons first rest ih =>
    obtain rfl := only first (List.mem_cons_self ..)
    have put : (table.put (f first)).find? other
        = if (f first).path = other then some (f first) else table.find? other := by
      rw [Table.find?_put]
      simp
    rw [List.foldl_cons]
    cases rest with
    | nil => exact put
    | cons second rest =>
      rw [ih (fun e mem => only e (List.mem_cons_of_mem _ mem)) nofun, put]
      split <;> rfl

theorem find?_of_at? {node : Node} (nonempty : place ≠ []) (there : volume.at? place = some node) :
    volume.entries.find? place = some ⟨place, node⟩ := by
  rw [at?_of_ne_nil nonempty] at there
  obtain ⟨⟨path, node⟩, found, is⟩ := Option.map_eq_some_iff.1 there
  cases is
  rw [found, ← Table.find?_key found]

/-- Nothing lies below a file, so its own row is the only one that moves with it.  The program moves
all rows below the place, as it has to for a folder. -/
theorem Sound.eq_of_moves (sound : volume.Sound) {number : Nat}
    (there : volume.at? place = some (.file number)) {e : Entry} (mem : e ∈ volume.entries.rows)
    (below : place.isPrefixOf e.path = true) : e = ⟨place, .file number⟩ := by
  have under := List.isPrefixOf_iff_prefix.1 below
  have nonempty := ne_nil_of_at? there nofun
  have found : volume.entries.find? e.path = some e := Table.find?_eq_some_iff.2 ⟨mem, rfl⟩
  have present : volume.at? e.path ≠ none := by
    have nonempty' : e.path ≠ [] := by
      intro empty
      rw [empty] at under
      exact nonempty (List.prefix_nil.1 under)
    rw [at?_of_ne_nil nonempty', found]
    exact nofun
  have same := sound.eq_of_prefix there under present
  rw [same, find?_of_at? nonempty there] at found
  exact (Option.some.inj found).symm

/-- Moving a file gives its place up and its number to the other place. -/
theorem Sound.at?_move (sound : volume.Sound) {source target : Path} {number : Nat}
    (there : volume.at? source = some (.file number)) (nonempty : target ≠ []) (other : Path) :
    (volume.move source target).at? other
      = if other = target then some (.file number)
        else if other = source then none else volume.at? other := by
  have sourceNonempty := ne_nil_of_at? there nofun
  by_cases top : other = []
  · rw [top, if_neg fun same => nonempty same.symm, if_neg fun same => sourceNonempty same.symm]
    rfl
  · have found := find?_of_at? sourceNonempty there
    have listed := (Table.find?_eq_some_iff.1 found).1
    have only : ∀ e ∈ volume.entries.rows.filter fun e => source.isPrefixOf e.path,
        e = ⟨source, .file number⟩ := by
      intro e mem
      obtain ⟨mem, below⟩ := List.mem_filter.1 mem
      exact sound.eq_of_moves there mem below
    have nonemptyMoved : (volume.entries.rows.filter fun e => source.isPrefixOf e.path) ≠ [] :=
      List.ne_nil_of_mem (List.mem_filter.2 ⟨listed, by simp⟩)
    rw [at?_of_ne_nil top]
    unfold move
    rw [find?_foldl_put only nonemptyMoved fun e => ⟨target ++ e.path.drop source.length, e.node⟩]
    simp only [List.drop_length, List.append_nil]
    by_cases atTarget : other = target
    · rw [if_pos atTarget.symm, if_pos atTarget]
      rfl
    · rw [if_neg fun same => atTarget same.symm, if_neg atTarget, Table.find?_keep,
        at?_of_ne_nil top]
      rcases row : volume.entries.find? other with _ | e
      · simp
      · obtain ⟨mem, rfl⟩ := Table.find?_eq_some_iff.1 row
        by_cases atSource : e.path = source
        · have below : source.isPrefixOf source = true :=
            List.isPrefixOf_iff_prefix.2 (List.prefix_refl _)
          simp [atSource, below, Option.filter_some]
        · have stays : source.isPrefixOf e.path = false := by
            rw [Bool.eq_false_iff]
            intro below
            rw [sound.eq_of_moves there mem below] at atSource
            exact atSource rfl
          simp [atSource, atTarget, stays, Option.filter_some]

/-- Renaming a file takes it from its place and shows it at the place of the new path.  The volume
in between is not one that a program has seen.  It splits the renaming into two changes of one place
each, to which the frame lemmas apply. -/
theorem Sound.rename (sound : volume.Sound) {source target here : Path} {content : Bytes}
    (h : volume.rename source target = .ok after) (located : volume.locate source = .ok here)
    (file : volume.seen here = some (.file content)) :
    ∃ there between, volume.locate target = .ok there ∧ volume.Replaced between here none
      ∧ between.Replaced after there (some (.file content)) := by
  obtain ⟨number, found, rfl⟩ := seen_eq_file_iff.1 file
  unfold Volume.rename at h
  rw [located] at h
  cases located' : volume.locate target with
  | error e =>
    rw [located'] at h
    cases h
  | ok there =>
    rw [located'] at h
    simp only [renamePlace, found] at h
    have gone := sound.replaced_of_erase found
    refine ⟨there, _, rfl, gone, ?_⟩
    have bound := sound.bounded found
    have places := at?_erase volume (ne_nil_of_at? found nofun)
    have free := sound.free_of_erase found
    have above := (gone.keeps.folders _).2 (sound.folder_of_locate located')
    split at h
    · cases h
    split at h
    · cases h
    by_cases same : here = there
    · rw [if_pos same] at h
      cases h
      subst same
      refine gone.sound.replaced_of_number bound free above ?_ rfl fun other => ?_
      · rw [places, if_pos rfl]
        exact nofun
      · rw [places]
        split
        next is => rw [is, found]
        next => rfl
    · rw [if_neg same] at h
      have notFolder : volume.at? there ≠ some .folder := by
        intro folder
        rw [folder] at h
        cases h
      have nonempty : there ≠ [] := by
        rintro rfl
        exact notFolder rfl
      have moved : volume.move here there = after := by
        rcases what : volume.at? there with _ | _ | n
        · rw [what] at h
          exact Except.ok.inj h
        · exact absurd what notFolder
        · rw [what] at h
          exact Except.ok.inj h
      subst moved
      refine gone.sound.replaced_of_number bound free above ?_ rfl fun other => ?_
      · rw [places]
        split
        next => exact nofun
        next => exact notFolder
      · rw [sound.at?_move found nonempty, places]

/-- A file can be given any place in a folder, unless there is a folder. -/
theorem Sound.exists_renamePlace (sound : volume.Sound) {source target : Path} {number : Nat}
    (file : volume.at? source = some (.file number))
    (above : volume.at? target.dropLast = some .folder) (noFolder : volume.at? target ≠ some .folder) :
    ∃ after, volume.renamePlace source target = .ok after := by
  have notBelow : isBelow source target = false := by
    -- The folder of the target would lie below the file, or be the file.
    rw [Bool.eq_false_iff]
    intro below
    simp only [isBelow, Bool.and_eq_true, bne_iff_ne] at below
    obtain ⟨rest, rfl⟩ := List.isPrefixOf_iff_prefix.1 below.1
    have some_ : rest ≠ [] := by
      rintro rfl
      exact below.2 (List.append_nil source)
    rw [List.dropLast_append_of_ne_nil some_] at above
    have present : volume.at? (source ++ rest.dropLast) ≠ none := by
      rw [above]
      exact nofun
    have same := sound.eq_of_prefix file (List.prefix_append ..) present
    rw [same, file] at above
    cases above
  have notAbove : isBelow target source = false := by
    -- The target would be a folder, since the file lies below it.
    rw [Bool.eq_false_iff]
    intro below
    simp only [isBelow, Bool.and_eq_true, bne_iff_ne] at below
    obtain ⟨rest, rfl⟩ := List.isPrefixOf_iff_prefix.1 below.1
    have some_ : rest ≠ [] := by
      rintro rfl
      exact below.2 (List.append_nil target)
    have present : volume.at? (target ++ rest) ≠ none := by
      rw [file]
      exact nofun
    exact noFolder (sound.folder_of_append some_ present)
  unfold renamePlace
  simp only [file, notBelow, notAbove, Bool.false_eq_true, if_false]
  split
  · exact ⟨_, rfl⟩
  · rcases there : volume.at? target with _ | _ | n
    · exact ⟨_, rfl⟩
    · exact absurd there noFolder
    · exact ⟨_, rfl⟩

/-! ## Folders -/

theorem Sound.set_folder (sound : volume.Sound) (absent : volume.at? place = none)
    (above : volume.at? place.dropLast = some .folder) : (volume.set place .folder).Sound := by
  have places := at?_set volume (ne_nil_of_absent absent) .folder
  refine ⟨?_, ?_, ?_⟩
  · intro other nonempty present
    rw [places] at present ⊢
    split
    next => rfl
    next =>
      split at present
      next here =>
        rw [here]
        exact above
      next => exact sound.parent nonempty present
  · intro other n file
    rw [places] at file
    split at file
    next => cases file
    next => exact sound.bounded file
  · intro one other n file file'
    rw [places] at file file'
    split at file
    next => cases file
    next =>
      split at file'
      next => cases file'
      next => exact sound.apart file file'

/-- One part of a path leads into a folder. -/
theorem Sound.folder_of_step (sound : volume.Sound) {here : Path} {part : String}
    (h : volume.step here part = .ok place) : volume.at? place.dropLast = some .folder := by
  have above : ∀ {p : Path}, volume.at? p = some .folder →
      volume.at? p.dropLast = some .folder := by
    intro p folder
    by_cases top : p = []
    · rw [top]
      rfl
    · refine sound.parent top ?_
      rw [folder]
      exact nofun
  obtain ⟨folder, rfl⟩ := step_eq_ok h
  split
  · exact above folder
  · split
    · exact above (above folder)
    · rw [List.dropLast_concat]
      exact folder

theorem Sound.makeAlong (sound : volume.Sound) (here path : Path) :
    (volume.makeAlong here path).2.Sound := by
  induction path generalizing volume here with
  | nil => exact sound
  | cons part rest ih =>
    unfold Volume.makeAlong
    cases stepped : volume.step here part with
    | error e => exact sound
    | ok place =>
      rcases there : volume.at? place with _ | _ | n
      · simp only [there]
        exact ih (sound.set_folder there (sound.folder_of_step stepped)) place
      · simp only [there]
        exact ih sound place
      · simp only [there]
        exact sound

/-- Making folders keeps a volume sound, also if it is refused part-way. -/
theorem Sound.makeFolders (sound : volume.Sound) (path : Path) :
    (volume.makeFolders path).2.Sound := by
  unfold Volume.makeFolders
  split
  · exact sound
  · exact sound
  · have made := sound.makeAlong [] (makeable path)
    split
    next made_ =>
      rw [made_] at made
      exact made
    next made_ =>
      rw [made_] at made
      exact made
  · exact sound

/-! ## Temporary names -/

theorem Sound.drawName (sound : volume.Sound) (folder : Path) :
    volume.Keeps (volume.drawName folder).2 fun _ => False := by
  have places : ∀ other, (volume.drawName folder).2.at? other = volume.at? other := by
    intro other
    cases other <;> rfl
  refine ⟨⟨?_, ?_, ?_⟩, ?_, ?_⟩
  · intro other nonempty present
    rw [places] at present ⊢
    exact sound.parent nonempty present
  · intro other n file
    rw [places] at file
    exact sound.bounded file
  · intro one other n file file'
    rw [places] at file file'
    exact sound.apart file file'
  · intro other
    rw [places]
  · intro other _
    cases other <;> rfl

end BlobCluster.Volume
