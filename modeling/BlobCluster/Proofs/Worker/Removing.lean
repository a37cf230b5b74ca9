import BlobCluster.Proofs.Worker.Saving

/-!
# When a removal goes well

A worker removes a blob exactly if the call is not struck and it has a file of the blob.  Then that
file is gone and everything else on the volume is seen as before; otherwise the volume is left as it
was.
-/

namespace BlobCluster.Worker

variable {volume : Volume} {store : ChunkStore} {worker after : Worker} {blob : String}

/-! ## Files -/

theorem leaves_removeFrom_of_bytes? {bytes : Bytes} (sound : volume.Sound)
    (valid : BlobId.Valid blob) (there : volume.bytes? (store.pathFor blob) = some bytes) :
    Leaves (removeFrom store blob) volume fun r after => r = .ok ()
      ∧ ∃ place, volume.locate (store.pathFor blob) = .ok place
        ∧ volume.Replaced after place none := by
  have loaded := store.leaves_load_of_bytes? valid there
  have named : Leaves (store.load blob) volume _ := store.leaves_load blob
  unfold Leaves at loaded named
  rcases opened : store.load blob volume with ⟨e | file, between⟩
  · rw [opened] at loaded
    obtain ⟨-, file, place, refused, -⟩ := loaded
    cases refused
  · rw [opened] at loaded named
    obtain ⟨rfl, _, place, ⟨rfl⟩, holds⟩ := loaded
    obtain ⟨-, -, path, -⟩ := named
    have noFolder : between.seen place ≠ some .folder := by
      rw [holds.seen]
      exact nofun
    have gone := ChunkFile.leaves_remove sound holds.located noFolder
    unfold Leaves at gone ⊢
    have removed := holds.remove
    rcases removing : file.remove between with ⟨r, last⟩
    rw [removing] at gone removed
    obtain rfl : r = .ok true := removed
    rw [removeFrom, bind_of_ok opened, bind_of_ok removing]
    exact ⟨rfl, place, path ▸ holds.located, gone⟩

theorem leaves_removeFrom_of_none (absent : volume.bytes? (store.pathFor blob) = none) :
    Leaves (removeFrom store blob) volume fun r after => (∃ e, r = .error e) ∧ after = volume := by
  refine Leaves.bind ((store.leaves_load blob).mono ?_)
  rintro (e | file) after ⟨rfl, loaded⟩
  · exact ⟨⟨e, rfl⟩, rfl⟩
  · obtain ⟨-, path, place, content, holds⟩ := loaded
    have there := Volume.bytes?_eq_some_iff.2 ⟨place, path ▸ holds.located, holds.seen⟩
    rw [absent] at there
    cases there

/-! ## Calls -/

/-- A removal of the blob goes well at the worker: the call is not struck, and there is a file. -/
def removes (worker : Worker) (blob : String) : Bool :=
  (worker.outages.strike .remove).1.isNone && (worker.holds? blob).isSome

/-- What a worker is once a blob may have been removed: the same, but that its file is gone in one
case, and that nothing on the volume has changed in the other. -/
structure Purged (worker : Worker) (blob : String) (gone : Prop) (after : Worker) : Prop where
  address : after.address = worker.address
  store : after.store = worker.store
  algorithm : after.algorithm = worker.algorithm
  reachable : after.reachable = worker.reachable
  removed : gone → ∃ place, worker.volume.locate (worker.store.pathFor blob) = .ok place
    ∧ worker.volume.Replaced after.volume place none
  kept : ¬ gone → after.volume = worker.volume

theorem Purged.of_not {gone : Prop} (not : ¬ gone) : worker.Purged blob gone worker :=
  ⟨rfl, rfl, rfl, rfl, fun is => absurd is not, fun _ => rfl⟩

theorem Purged.congr {gone gone' : Prop} (h : worker.Purged blob gone after) (iff : gone ↔ gone') :
    worker.Purged blob gone' after :=
  ⟨h.address, h.store, h.algorithm, h.reachable, h.removed ∘ iff.2, fun not => h.kept (not ∘ iff.1)⟩

/-- A removal answers whether it goes well, and removes the file exactly then.  `removes` is read
off the worker before the call, so a deletion can be counted without running it. -/
theorem purged_remove (sound : worker.volume.Sound) (valid : BlobId.Valid blob) :
    (worker.remove blob).1.isOk = worker.removes blob
      ∧ worker.Purged blob (worker.removes blob = true) (worker.remove blob).2 := by
  unfold remove attempt removes
  generalize worker.outages.strike .remove = struck
  obtain ⟨_ | e, outages⟩ := struck
  · show (removeFrom worker.store blob worker.volume).1.isOk = _ ∧ worker.Purged blob _
      { worker with outages, volume := (removeFrom worker.store blob worker.volume).2 }
    cases holds : worker.holds? blob with
    | none =>
      obtain ⟨⟨e, failed⟩, same⟩ := leaves_removeFrom_of_none holds
      rw [failed, same]
      exact ⟨rfl, rfl, rfl, rfl, rfl, nofun, fun _ => rfl⟩
    | some bytes =>
      obtain ⟨answered, gone⟩ := leaves_removeFrom_of_bytes? sound valid holds
      rw [answered]
      exact ⟨rfl, rfl, rfl, rfl, rfl, fun _ => gone, fun not => absurd rfl not⟩
  · exact ⟨rfl, rfl, rfl, rfl, rfl, nofun, fun _ => rfl⟩

namespace Purged

variable {gone : Prop}

theorem sound (h : worker.Purged blob gone after) (sound : worker.volume.Sound) :
    after.volume.Sound := by
  by_cases is : gone
  · obtain ⟨place, -, replaced⟩ := h.removed is
    exact replaced.sound
  · rw [h.kept is]
    exact sound

theorem holds?_of_ne (h : worker.Purged blob gone after) (valid : BlobId.Valid blob)
    {other : String}
    (valid' : BlobId.Valid other) (apart : other ≠ blob) :
    after.holds? other = worker.holds? other := by
  unfold holds?
  rw [h.store]
  by_cases is : gone
  · obtain ⟨place, located, replaced⟩ := h.removed is
    exact replaced.keeps.bytes? fun place' located' =>
      ChunkStore.place_ne valid' valid apart located' located
  · rw [h.kept is]

theorem holds?_self (h : worker.Purged blob gone after) (is : gone) : after.holds? blob = none := by
  obtain ⟨place, located, replaced⟩ := h.removed is
  cases holds : after.holds? blob with
  | none => rfl
  | some bytes =>
    unfold holds? at holds
    obtain ⟨place', located', seen⟩ := Volume.bytes?_eq_some_iff.1 holds
    rw [h.store] at located'
    have same := Except.ok.inj ((replaced.keeps.stay.locate located).symm.trans located')
    rw [← same, replaced.seen_self] at seen
    cases seen

end Purged

end BlobCluster.Worker
