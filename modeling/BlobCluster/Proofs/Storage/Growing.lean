import BlobCluster.Proofs.Storage.Changes

/-!
# Contents that grow

A file that is open is known by the number of its content, whatever becomes of its places.  `Grows`
says that what is in a content stays at its beginning.  Only writing over a file and cutting it
short can undo that: appending adds at the end, a new file has a new number, and every other
operation changes places alone.
-/

namespace BlobCluster.Volume

variable {volume after : Volume} {path : Path} {number : Nat}

/-- What is in the content with a number stays at its beginning. -/
def Grows (volume after : Volume) (number : Nat) : Prop :=
  (volume.content number).toList <+: (after.content number).toList

theorem Grows.refl (volume : Volume) (number : Nat) : volume.Grows volume number :=
  List.prefix_refl _

theorem Grows.of_contents (same : after.contents = volume.contents) :
    volume.Grows after number := by
  have content : after.content number = volume.content number := by
    unfold Volume.content
    rw [same]
  exact ⟨[], by rw [List.append_nil, content]⟩

theorem Grows.of_outcome {outcome : Except Refusal Volume}
    (grows : ∀ after, outcome = .ok after → volume.Grows after number) :
    volume.Grows (outcome.toOption.getD volume) number := by
  cases outcome with
  | error e => exact .refl volume number
  | ok after => exact grows after rfl

theorem grows_setContent {other : Nat} {content : Array UInt8}
    (kept : other = number → (volume.content number).toList <+: content.toList) :
    volume.Grows (volume.setContent other content) number := by
  by_cases mine : number = other
  · subst mine
    by_cases bounded : number < volume.contents.size
    · unfold Grows
      rw [content_setContent bounded, if_pos rfl]
      exact kept rfl
    · refine .of_contents ?_
      simp [setContent, Array.setIfInBounds, bounded]
  · unfold Grows setContent Volume.content
    have differs : other ≠ number := fun same => mine same.symm
    simp [differs]

theorem grows_extendContent (other : Nat) (bytes : Bytes) :
    volume.Grows (volume.extendContent other bytes) number := by
  by_cases bounded : other < volume.contents.size
  · unfold Grows
    rw [content_extendContent bounded]
    split
    next mine =>
      subst mine
      exact ⟨bytes, Array.toList_appendList.symm⟩
    next => exact List.prefix_refl _
  · refine .of_contents ?_
    simp [extendContent, Array.modify, Array.modifyM, bounded]

theorem grows_pushContent (content : Array UInt8) :
    volume.Grows (volume.pushContent content) number := by
  unfold Grows pushContent Volume.content
  by_cases bounded : number < volume.contents.size
  · simp [Array.getElem?_push, bounded, Nat.ne_of_lt bounded]
  · rw [Array.getD_eq_getD_getElem?, Array.getElem?_eq_none (Nat.not_lt.1 bounded)]
    exact List.nil_prefix

theorem grows_of_write {bytes : Bytes} (elsewhere : volume.find path ≠ .ok (.file number))
    (written : volume.write path bytes = .ok after) : volume.Grows after number := by
  unfold Volume.write at written
  split at written
  · cases written
  · rename_i place located
    split at written
    · cases written
    · rename_i other there
      cases written
      refine grows_setContent fun mine => ?_
      subst mine
      exact absurd (find_eq_ok_iff.2 ⟨place, located, there⟩) elsewhere
    · cases written
      exact grows_pushContent bytes.toArray

theorem grows_of_append {bytes : Bytes} (appended : volume.append path bytes = .ok after) :
    volume.Grows after number := by
  unfold Volume.append at appended
  split at appended <;> cases appended
  exact grows_extendContent _ bytes

theorem grows_of_resize {length : Nat}
    (long : volume.find path = .ok (.file number) → (volume.content number).size ≤ length)
    (resized : volume.resize path length = .ok after) : volume.Grows after number := by
  unfold Volume.resize at resized
  split at resized <;> cases resized
  rename_i other found
  refine grows_setContent fun mine => ?_
  subst mine
  have whole : (volume.content other).take length = volume.content other :=
    Array.extract_eq_self_of_le (long found)
  rw [whole, Array.toList_append]
  exact List.prefix_append ..

/-! ## Operations that leave contents alone -/

theorem contents_makeAlong (volume : Volume) (here path : Path) :
    (volume.makeAlong here path).2.contents = volume.contents := by
  induction path generalizing volume here with
  | nil => rfl
  | cons part rest ih =>
    unfold makeAlong
    cases volume.step here part with
    | error e => rfl
    | ok place =>
      simp only
      split
      · exact ih _ place
      · rfl
      · exact ih _ place

theorem contents_makeFolders (path : Path) :
    (volume.makeFolders path).2.contents = volume.contents := by
  have along := contents_makeAlong volume [] (makeable path)
  unfold makeFolders
  split
  · rfl
  · rfl
  · split
    next made =>
      rw [made] at along
      exact along
    next made =>
      rw [made] at along
      exact along
  · rfl

theorem contents_makeFolder (made : volume.makeFolder path = .ok after) :
    after.contents = volume.contents := by
  unfold makeFolder at made
  split at made
  · cases made
  · split at made <;> cases made
    rfl

theorem contents_renamePlace {source target : Path}
    (renamed : volume.renamePlace source target = .ok after) :
    after.contents = volume.contents := by
  have moved : (volume.move source target).contents = volume.contents := rfl
  unfold renamePlace at renamed
  grind

theorem contents_rename {source target : Path} (renamed : volume.rename source target = .ok after) :
    after.contents = volume.contents := by
  unfold rename at renamed
  split at renamed
  · cases renamed
  · cases renamed
  · exact contents_renamePlace renamed

theorem contents_remove (removed : volume.remove path = .ok after) :
    after.contents = volume.contents := by
  unfold remove at removed
  split at removed
  · cases removed
  · split at removed <;> cases removed
    rfl

theorem contents_removeFolder (removed : volume.removeFolder path = .ok after) :
    after.contents = volume.contents := by
  unfold removeFolder at removed
  split at removed
  · cases removed
  · split at removed
    · cases removed
    · cases removed
    · split at removed <;> cases removed
      rfl

theorem contents_removeTree (removed : volume.removeTree path = .ok after) :
    after.contents = volume.contents := by
  unfold removeTree at removed
  split at removed
  · cases removed
  · split at removed <;> cases removed
    rfl

end BlobCluster.Volume
