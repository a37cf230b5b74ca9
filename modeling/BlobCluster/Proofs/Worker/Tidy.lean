import Mathlib.Logic.Relation
import BlobCluster.Proofs.Worker.Saving

/-!
# Roots with nothing but blobs

The folder of a worker is `Tidy` when everything directly in it is a file that is named by the
digest of its bytes.  An empty folder is, and whatever a worker is asked it stays so.  A save has
many ways to end, but on the volume they come to two: a temporary name is free, or it is free and
the file of the blob has bytes of the announced digest.  A removal takes a file away.  Neither can
leave a temporary file behind, since no digest is a temporary name.
-/

namespace BlobCluster

/-- Everything in the folder of a store is a file named by the digest of its bytes.  A temporary
file is therefore seen only within a call. -/
structure ChunkStore.Tidy (store : ChunkStore) (algorithm : Digest.Algorithm) (volume : Volume)
    (top : Path) : Prop where
  sound : volume.Sound
  located : volume.locate store.root = .ok top
  folder : volume.at? top = some .folder
  named : ∀ name item, volume.seen (top ++ [name]) = some item →
    ∃ bytes, item = .file bytes ∧ algorithm.digest bytes = name
      ∧ volume.locate (store.pathFor name) = .ok (top ++ [name])

namespace ChunkStore

variable {store : ChunkStore} {algorithm : Digest.Algorithm} {volume after : Volume} {top : Path}

namespace Tidy

/-- A folder stays tidy if nothing comes to be seen in it. -/
theorem of_keeps (tidy : store.Tidy algorithm volume top) {touched : Path → Prop}
    (keeps : volume.Keeps after touched)
    (fewer : ∀ place item, after.seen place = some item → volume.seen place = some item) :
    store.Tidy algorithm after top where
  sound := keeps.sound
  located := keeps.stay.locate tidy.located
  folder := (keeps.folders top).2 tidy.folder
  named name item shown := by
    obtain ⟨bytes, isFile, named, located⟩ := tidy.named name item (fewer _ _ shown)
    exact ⟨bytes, isFile, named, keeps.stay.locate located⟩

theorem replaced_none (tidy : store.Tidy algorithm volume top) {place : Path}
    (gone : volume.Replaced after place none) : store.Tidy algorithm after top := by
  refine tidy.of_keeps gone.keeps fun other item shown => ?_
  rw [gone.seen] at shown
  split at shown
  next => cases shown
  next => exact shown

theorem cleared (tidy : store.Tidy algorithm volume top)
    (cleared : Worker.Cleared store volume after) : store.Tidy algorithm after top := by
  rcases cleared with keeps | ⟨_, _, -, -, gone⟩
  · refine tidy.of_keeps keeps fun place item shown => ?_
    rw [keeps.seen place id] at shown
    exact shown
  · exact tidy.replaced_none gone

theorem replaced_file (tidy : store.Tidy algorithm volume top) {target : Path} {bytes : Bytes}
    (located : volume.locate (store.pathFor (algorithm.digest bytes)) = .ok target)
    (shown : volume.Replaced after target (some (.file bytes))) :
    store.Tidy algorithm after top := by
  obtain ⟨noDot, noDots⟩ := ne_dot_of_valid (Digest.valid_digest algorithm bytes)
  obtain ⟨top', walked, rfl⟩ := Volume.locate_name noDot noDots located
  have same : top' = top := by
    have root := tidy.located
    unfold Volume.locate at root
    split at root
    · cases root
    · exact Except.ok.inj (walked.symm.trans root)
  subst same
  have keeps := shown.keeps
  refine ⟨keeps.sound, keeps.stay.locate tidy.located, (keeps.folders _).2 tidy.folder, ?_⟩
  intro name item seen
  rw [shown.seen] at seen
  split at seen
  next here =>
    have isDigest : name = algorithm.digest bytes := by simpa using here
    cases seen
    rw [isDigest]
    exact ⟨bytes, rfl, rfl, keeps.stay.locate located⟩
  next elsewhere =>
    obtain ⟨bytes', isFile, named, located'⟩ := tidy.named name item seen
    exact ⟨bytes', isFile, named, keeps.stay.locate located'⟩

theorem of_empty (sound : volume.Sound) (empty : volume.list? store.root = some []) :
    ∃ top, store.Tidy algorithm volume top := by
  unfold Volume.list? at empty
  cases located : volume.locate store.root with
  | error e =>
    rw [located] at empty
    cases empty
  | ok top =>
    rw [located] at empty
    by_cases folder : volume.at? top = some .folder
    · simp only [folder, if_true, Option.some.injEq, Volume.namesIn, List.map_eq_nil_iff,
        List.filter_eq_nil_iff] at empty
      refine ⟨top, sound, located, folder, fun name item shown => ?_⟩
      obtain ⟨node, there, -⟩ := Option.map_eq_some_iff.1 shown
      have nonempty : top ++ [name] ≠ [] := by simp
      have row := Volume.find?_of_at? nonempty there
      have listed := (Table.find?_eq_some_iff.1 row).1
      exact absurd (by simp [Volume.isChild]) (empty _ listed)
    · simp [folder] at empty

/-- The names listed in a tidy folder, each with the size of its file.  Everything listed is a file,
so that the size is there is part of the statement. -/
theorem list (tidy : store.Tidy algorithm volume top) :
    ∃ names, volume.list? store.root = some names ∧ ∀ name size, (name, size) ∈ names →
      ∃ bytes, size = some bytes.length ∧ algorithm.digest bytes = name
        ∧ volume.bytes? (store.pathFor name) = some bytes := by
  refine ⟨volume.namesIn top, ?_, fun name size mem => ?_⟩
  · unfold Volume.list?
    rw [tidy.located]
    simp only [tidy.folder, if_true]
  · obtain ⟨entry, listed, same⟩ := List.mem_map.1 mem
    obtain ⟨listed, child⟩ := List.mem_filter.1 listed
    simp only [Volume.isChild, Bool.and_eq_true, Bool.not_eq_true', List.isEmpty_eq_false_iff,
      beq_iff_eq] at child
    obtain ⟨nonempty, above⟩ := child
    obtain ⟨isName, isSize⟩ := Prod.mk.inj same
    have path : entry.path = top ++ [name] := by
      rw [← above, ← isName, List.getLastD_eq_getLast?, List.getLast?_eq_some_getLast nonempty,
        Option.getD_some, List.dropLast_concat_getLast nonempty]
    have there : volume.at? (top ++ [name]) = some entry.node := by
      rw [Volume.at?_of_ne_nil (by simp), ← path, Table.find?_eq_some_iff.2 ⟨listed, rfl⟩]
      rfl
    have shown : volume.seen (top ++ [name]) = some (volume.item entry.node) := by
      rw [Volume.seen, there]
      rfl
    obtain ⟨bytes, isFile, named, located⟩ := tidy.named name _ shown
    rw [isFile] at shown
    refine ⟨bytes, ?_, named, Volume.bytes?_eq_some_iff.2 ⟨_, located, shown⟩⟩
    cases node : entry.node with
    | folder =>
      rw [node] at isFile
      cases isFile
    | file number =>
      rw [node] at isFile isSize
      cases isFile
      rw [← isSize]
      simp

end Tidy

end ChunkStore

/-! ## Calls -/

namespace Worker

variable {worker after : Worker}

def Tidy (worker : Worker) : Prop :=
  ∃ top, worker.store.Tidy worker.algorithm worker.volume top

/-- A call leaves a folder tidy if its action does. -/
theorem tidy_attempt {α : Type} (call : WorkerCall) {action : Storing α} (tidy : worker.Tidy)
    (h : Leaves action worker.volume fun _ volume =>
      ∀ top, worker.store.Tidy worker.algorithm worker.volume top →
        worker.store.Tidy worker.algorithm volume top) : (worker.attempt call action).2.Tidy := by
  obtain ⟨top, before⟩ := tidy
  rcases worker.attempt_cases call action with ⟨e, outages, answered⟩ | ⟨outages, answered⟩
  · rw [answered]
    exact ⟨top, before⟩
  · rw [answered]
    exact ⟨top, h top before⟩

theorem tidy_save (messages : Arriving SaveMessage) (tidy : worker.Tidy) :
    (worker.save messages).2.Tidy := by
  obtain ⟨_, before⟩ := tidy
  refine tidy_attempt .save ⟨_, before⟩ ((leaves_saveIn messages before.sound).mono ?_)
  rintro (e | blob) volume outcome top tidy
  · exact tidy.cleared outcome
  · obtain ⟨chunks, between, target, -, -, rfl, located, cleared, shown⟩ := outcome
    obtain ⟨touched, keeps⟩ := cleared.keeps
    exact (tidy.cleared cleared).replaced_file (keeps.stay.locate located) shown

theorem tidy_remove (blob : String) (tidy : worker.Tidy) : (worker.remove blob).2.Tidy := by
  obtain ⟨_, before⟩ := tidy
  refine tidy_attempt .remove ⟨_, before⟩ ((leaves_removeFrom blob before.sound).mono ?_)
  rintro r volume (rfl | ⟨place, -, -, gone⟩) top tidy
  · exact tidy
  · exact tidy.replaced_none gone

theorem Step.tidy (step : Step worker after) (tidy : worker.Tidy) : after.Tidy := by
  cases step with
  | save messages => exact tidy_save messages tidy
  | remove blob => exact tidy_remove blob tidy
  | read blob =>
    refine tidy_attempt .read tidy ((leaves_readFrom _ _ blob).mono ?_)
    rintro r volume rfl top same
    exact same
  | deliver stream =>
    obtain ⟨outages, worn⟩ := worker.serve_worker stream.failure stream.chunks
    unfold Worker.deliver
    rw [worn]
    exact tidy
  | health => exact tidy_attempt .health tidy fun _ => id
  | freeStorage =>
    refine tidy_attempt .freeStorage tidy (Leaves.get_bind ?_)
    cases worker.volume.find worker.store.root <;> exact fun _ => id
  | meet outages reachable => exact tidy

/-- What may happen to a worker in the course of time. -/
abbrev Served : Worker → Worker → Prop := Relation.ReflTransGen Step

/-- However often a worker is called, its folder stays tidy and it stays what it is. -/
theorem Served.tidy (served : Served worker after) (tidy : worker.Tidy) :
    after.Tidy ∧ after.store = worker.store ∧ after.algorithm = worker.algorithm := by
  induction served with
  | refl => exact ⟨tidy, rfl, rfl⟩
  | tail _ step ih =>
    obtain ⟨before, store, algorithm⟩ := ih
    obtain ⟨_, sound⟩ := before
    obtain ⟨except, kept⟩ := step.kept sound.sound
    exact ⟨step.tidy ⟨_, sound⟩, kept.store.trans store, kept.algorithm.trans algorithm⟩

end Worker

end BlobCluster
