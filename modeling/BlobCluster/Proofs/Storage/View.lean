import Mathlib.Data.List.Induction
import BlobCluster.Storage.Volume

/-!
# What is seen on a volume

A volume is seen as a map from places to what is there, a folder or the bytes of a file; the numbers
through which files share their contents are left out.  That is possible on a volume that is
`Sound`: everything lies in a folder, and no content belongs to two places.  `Replaced` says that
one place was changed and everything else is seen as before.

`View` is about looking, so this module has what paths lead to: `walk` goes through folders only,
whatever else is on the volume.
-/

namespace BlobCluster.Volume

/-! ## The map of a volume -/

/-- What is seen at a place. -/
inductive Item where
  | folder
  | file (content : Bytes)

def item (volume : Volume) : Node → Item
  | .folder => .folder
  | .file number => .file (volume.content number).toList

/-- What is seen at each place. -/
def seen (volume : Volume) (place : Path) : Option Item := (volume.at? place).map volume.item

/-- Everything lies in a folder, every file has a content, and no two files share one.  The last is
what makes a write visible at one place only. -/
structure Sound (volume : Volume) : Prop where
  parent : ∀ {place : Path}, place ≠ [] → volume.at? place ≠ none →
    volume.at? place.dropLast = some .folder
  bounded : ∀ {place : Path} {number : Nat}, volume.at? place = some (.file number) →
    number < volume.contents.size
  apart : ∀ {one other : Path} {number : Nat}, volume.at? one = some (.file number) →
    volume.at? other = some (.file number) → one = other

variable {volume after : Volume} {place here : Path}

theorem at?_of_ne_nil (h : place ≠ []) :
    volume.at? place = (volume.entries.find? place).map (·.node) := by
  cases place with
  | nil => exact absurd rfl h
  | cons part rest => rfl

theorem seen_eq_folder_iff :
    volume.seen place = some .folder ↔ volume.at? place = some .folder := by
  unfold seen
  rcases volume.at? place with _ | _ | number <;> simp [item]

theorem seen_eq_file_iff {content : Bytes} :
    volume.seen place = some (.file content)
      ↔ ∃ number, volume.at? place = some (.file number)
          ∧ (volume.content number).toList = content := by
  unfold seen
  rcases volume.at? place with _ | _ | number <;> simp [item]

theorem sound_blank : blank.Sound where
  parent {place} h there := by
    rw [at?_of_ne_nil h] at there
    exact absurd rfl there
  bounded {place number} there := by
    cases place with
    | nil => cases there
    | cons part rest => cases there
  apart {one other number} there _ := by
    cases one with
    | nil => cases there
    | cons part rest => cases there

theorem Sound.folder_of_append (sound : volume.Sound) {rest : Path} (h : rest ≠ [])
    (there : volume.at? (place ++ rest) ≠ none) : volume.at? place = some .folder := by
  induction rest using List.reverseRecOn with
  | nil => exact absurd rfl h
  | append_singleton rest part ih =>
    have above : volume.at? (place ++ rest) = some .folder := by
      have nonempty : place ++ (rest ++ [part]) ≠ [] := by simp
      have lies := sound.parent nonempty there
      rwa [← List.append_assoc, List.dropLast_concat] at lies
    by_cases empty : rest = []
    · rw [empty, List.append_nil] at above
      exact above
    · refine ih empty ?_
      rw [above]
      exact nofun

theorem Sound.eq_of_prefix (sound : volume.Sound) {number : Nat} {below : Path}
    (file : volume.at? place = some (.file number)) (under : place <+: below)
    (there : volume.at? below ≠ none) : below = place := by
  obtain ⟨rest, rfl⟩ := under
  by_cases empty : rest = []
  · rw [empty, List.append_nil]
  · have folder := sound.folder_of_append empty there
    rw [file] at folder
    cases folder

/-! ## Paths -/

theorem walk_append (path rest : Path) :
    volume.walk here (path ++ rest)
      = match volume.walk here path with
        | .error e => .error e
        | .ok place => volume.walk place rest := by
  induction path generalizing here with
  | nil => rfl
  | cons part path ih =>
    simp only [List.cons_append, walk]
    cases volume.step here part with
    | error e => rfl
    | ok place => exact ih

theorem step_eq_ok {part : String} (h : volume.step here part = .ok place) :
    volume.at? here = some .folder
      ∧ place = if part = "." then here
          else if part = ".." then here.dropLast else here ++ [part] := by
  unfold step at h
  split at h
  · cases h
  · cases h
  · rename_i folder
    refine ⟨folder, ?_⟩
    simp only [beq_iff_eq] at h
    split at h
    next dot =>
      cases h
      rw [if_pos dot]
    next noDot =>
      split at h
      next dots =>
        cases h
        rw [if_neg noDot, if_pos dots]
      next noDots =>
        split at h
        next => cases h
        next =>
          cases h
          rw [if_neg noDot, if_neg noDots]

/-- Every folder of the first volume is one of the second. -/
def FoldersStay (volume after : Volume) : Prop :=
  ∀ place, volume.at? place = some .folder → after.at? place = some .folder

theorem FoldersStay.step (stay : volume.FoldersStay after) {part : String}
    (h : volume.step here part = .ok place) : after.step here part = .ok place := by
  have folder := (step_eq_ok h).1
  unfold Volume.step at h ⊢
  rw [folder] at h
  rw [stay here folder]
  exact h

theorem FoldersStay.walk (stay : volume.FoldersStay after) {path : Path}
    (h : volume.walk here path = .ok place) : after.walk here path = .ok place := by
  induction path generalizing here with
  | nil => exact h
  | cons part rest ih =>
    simp only [Volume.walk] at h ⊢
    cases first : volume.step here part with
    | error e =>
      rw [first] at h
      cases h
    | ok next =>
      rw [first] at h
      rw [stay.step first]
      exact ih h

/-- A path that can be walked can be walked as long as the folders stay. -/
theorem FoldersStay.locate (stay : volume.FoldersStay after) {path : Path}
    (h : volume.locate path = .ok place) : after.locate path = .ok place := by
  unfold Volume.locate at h ⊢
  split at h
  · cases h
  · rename_i short
    rw [if_neg short]
    exact stay.walk h

/-- The end of a walk lies in a folder. -/
theorem Sound.folder_of_walk (sound : volume.Sound) {path : Path}
    (above : volume.at? here.dropLast = some .folder) (h : volume.walk here path = .ok place) :
    volume.at? place.dropLast = some .folder := by
  induction path generalizing here with
  | nil =>
    cases h
    exact above
  | cons part rest ih =>
    simp only [walk] at h
    cases first : volume.step here part with
    | error e =>
      rw [first] at h
      cases h
    | ok next =>
      rw [first] at h
      refine ih ?_ h
      obtain ⟨folder, rfl⟩ := step_eq_ok first
      split
      · exact above
      · split
        · by_cases top : here.dropLast = []
          · rw [top]
            rfl
          · refine sound.parent top ?_
            rw [above]
            exact nofun
        · rw [List.dropLast_concat]
          exact folder

theorem Sound.folder_of_locate (sound : volume.Sound) {path : Path}
    (h : volume.locate path = .ok place) : volume.at? place.dropLast = some .folder := by
  unfold locate at h
  split at h
  · cases h
  · have top : volume.at? ([] : Path).dropLast = some .folder := rfl
    exact sound.folder_of_walk top h

/-- A name in a folder leads to the place of that name in the folder. -/
theorem locate_name {folder : Path} {name : String} (noDot : name ≠ ".") (noDots : name ≠ "..")
    (h : volume.locate (folder ++ [name]) = .ok place) :
    ∃ top, volume.walk [] folder = .ok top ∧ place = top ++ [name] := by
  unfold locate at h
  split at h
  · cases h
  · rw [walk_append] at h
    cases walked : volume.walk [] folder with
    | error e =>
      rw [walked] at h
      cases h
    | ok top =>
      rw [walked] at h
      simp only [walk] at h
      cases last : volume.step top name with
      | error e =>
        rw [last] at h
        cases h
      | ok found =>
        rw [last] at h
        cases h
        refine ⟨top, rfl, ?_⟩
        rw [(step_eq_ok last).2, if_neg noDot, if_neg noDots]

/-- Different names in one folder lead to different places. -/
theorem name_of_locate {folder one other : Path} {name name' : String}
    (valid : name ≠ "." ∧ name ≠ "..") (valid' : name' ≠ "." ∧ name' ≠ "..")
    (h : volume.locate (folder ++ [name]) = .ok one)
    (h' : volume.locate (folder ++ [name']) = .ok other) : one = other ↔ name = name' := by
  obtain ⟨top, walked, rfl⟩ := locate_name valid.1 valid.2 h
  obtain ⟨top', walked', rfl⟩ := locate_name valid'.1 valid'.2 h'
  rw [walked] at walked'
  cases walked'
  simp

/-! ## Files at paths -/

theorem find_eq_ok_iff {path : Path} {node : Node} :
    volume.find path = .ok node
      ↔ ∃ place, volume.locate path = .ok place ∧ volume.at? place = some node := by
  unfold find
  cases volume.locate path with
  | error e => simp
  | ok place =>
    cases there : volume.at? place <;> simp [there]

theorem bytes?_eq_some_iff {path : Path} {bytes : Bytes} :
    volume.bytes? path = some bytes
      ↔ ∃ place, volume.locate path = .ok place
          ∧ volume.seen place = some (.file bytes) := by
  unfold bytes?
  constructor
  · intro h
    split at h
    · rename_i number found
      obtain ⟨place, located, there⟩ := find_eq_ok_iff.1 found
      refine ⟨place, located, seen_eq_file_iff.2 ⟨number, there, ?_⟩⟩
      cases h
      simp
    · cases h
  · rintro ⟨place, located, showing⟩
    obtain ⟨number, there, content⟩ := seen_eq_file_iff.1 showing
    have found := find_eq_ok_iff.2 ⟨place, located, there⟩
    rw [found]
    simp [content]

/-! ## Changing few places -/

/-- No folder came or went, and outside of the places that were touched everything is seen as
before.  Numbers of contents are not compared, so a file that was written anew with the same bytes
is the same. -/
structure Keeps (volume after : Volume) (touched : Path → Prop) : Prop where
  sound : after.Sound
  folders : ∀ place, after.at? place = some .folder ↔ volume.at? place = some .folder
  seen : ∀ place, ¬ touched place → after.seen place = volume.seen place

namespace Keeps

variable {touched touched' : Path → Prop}

theorem refl (sound : volume.Sound) : volume.Keeps volume touched :=
  ⟨sound, fun _ => Iff.rfl, fun _ _ => rfl⟩

theorem trans (h : volume.Keeps after touched) {last : Volume} (h' : after.Keeps last touched) :
    volume.Keeps last touched where
  sound := h'.sound
  folders place := (h'.folders place).trans (h.folders place)
  seen place untouched := (h'.seen place untouched).trans (h.seen place untouched)

theorem mono (h : volume.Keeps after touched) (more : ∀ place, touched place → touched' place) :
    volume.Keeps after touched' where
  sound := h.sound
  folders := h.folders
  seen place untouched := h.seen place fun was => untouched (more place was)

theorem stay (h : volume.Keeps after touched) : volume.FoldersStay after :=
  fun place => (h.folders place).2

theorem stay_back (h : volume.Keeps after touched) : after.FoldersStay volume :=
  fun place => (h.folders place).1

/-- A path that does not lead to a touched place leads to the same bytes as before.  The path is
resolved on the volume before; that it leads to the same place afterwards is because no folder comes
or goes. -/
theorem bytes? (h : volume.Keeps after touched) {path : Path}
    (untouched : ∀ place, volume.locate path = .ok place → ¬ touched place) :
    after.bytes? path = volume.bytes? path := by
  apply Option.ext
  intro bytes
  rw [bytes?_eq_some_iff, bytes?_eq_some_iff]
  constructor
  · rintro ⟨place, located, showing⟩
    have located' := h.stay_back.locate located
    rw [h.seen place (untouched place located')] at showing
    exact ⟨place, located', showing⟩
  · rintro ⟨place, located, showing⟩
    rw [← h.seen place (untouched place located)] at showing
    exact ⟨place, h.stay.locate located, showing⟩

end Keeps

/-- What is at one place was replaced, and neither was or is a folder there.  `none` stands for a
place that is free afterwards, so making, overwriting and removing a file have one form. -/
structure Replaced (volume after : Volume) (place : Path) (item : Option Item) : Prop where
  sound : after.Sound
  seen : ∀ other, after.seen other = if other = place then item else volume.seen other
  noFolder : volume.seen place ≠ some .folder
  noFolder' : item ≠ some .folder

namespace Replaced

variable {item : Option Item}

theorem seen_self (h : volume.Replaced after place item) : after.seen place = item := by
  rw [h.seen, if_pos rfl]

theorem keeps (h : volume.Replaced after place item) : volume.Keeps after (· = place) where
  sound := h.sound
  folders other := by
    rw [← seen_eq_folder_iff, ← seen_eq_folder_iff, h.seen]
    split
    next same =>
      rw [same]
      exact ⟨fun is => absurd is h.noFolder', fun is => absurd is h.noFolder⟩
    next => rfl
  seen other differs := by rw [h.seen, if_neg differs]

/-- Where nothing is seen, nothing has to be done to take it away. -/
theorem of_absent (sound : volume.Sound) (absent : volume.seen place = none) :
    volume.Replaced volume place none where
  sound := sound
  seen other := by
    split
    next here => rw [here, absent]
    next => rfl
  noFolder := by
    rw [absent]
    exact nofun
  noFolder' := nofun

theorem trans (h : volume.Replaced after place item) {last : Volume} {item' : Option Item}
    (h' : after.Replaced last place item') : volume.Replaced last place item' where
  sound := h'.sound
  seen other := by
    rw [h'.seen]
    split
    next => rfl
    next differs => exact h.keeps.seen other differs
  noFolder := h.noFolder
  noFolder' := h'.noFolder'

end Replaced

/-- What is replaced after at most its place was touched is replaced. -/
theorem Keeps.replaced_here (h : volume.Keeps after (· = place)) {last : Volume}
    {item : Option Item} (h' : after.Replaced last place item) :
    volume.Replaced last place item where
  sound := h'.sound
  seen other := by
    rw [h'.seen]
    split
    next => rfl
    next elsewhere => exact h.seen other elsewhere
  noFolder := by
    rw [Ne, seen_eq_folder_iff, ← h.folders, ← seen_eq_folder_iff]
    exact h'.noFolder
  noFolder' := h'.noFolder'

/-- What is replaced after nothing was touched is replaced. -/
theorem Keeps.replaced (h : volume.Keeps after fun _ => False) {last : Volume}
    {item : Option Item} (h' : after.Replaced last place item) : volume.Replaced last place item :=
  (h.mono fun _ => False.elim).replaced_here h'

end BlobCluster.Volume
