import BlobCluster.Proofs.Cluster.Uploading

/-!
# What runs keep

Every operation keeps a guard for which it is `Safe` (`Guarded.effect`), whatever fails while it is
done, and so does every run of such operations (`Guarded.after`).  A cluster that has just been
assembled is guarded, because no copy is confirmed in it.
-/

namespace BlobCluster

namespace Cluster.Guarded

variable {α : Type} {guard : Guard} {cluster : Cluster} {i : Nat} {blob : String}

/-! ## Reading and removing -/

/-- A worker may drop blobs of which it has no confirmed copy that is watched. -/
theorem leaves_atWorker_of_kept (h : cluster.Guarded guard)
    {action : StateM Worker (Except Failure α)} (except : String → Prop)
    (kept : ∀ worker : Worker, worker.volume.Sound → worker.Kept (action worker).2 except)
    (spared : ∀ blob, except blob → ∀ address, guard.watched blob address →
      ¬ cluster.Confirmed blob address) :
    Leaves (atWorker i action) cluster fun _ after => after.Guarded guard
      ∧ after.masters = cluster.masters := by
  refine leaves_atWorker (fun _ => ⟨h, rfl⟩) fun worker found => ⟨?_, rfl⟩
  refine h.setWorker found (kept worker (h.sound worker (List.mem_of_getElem? found))) ?_
  exact fun blob excepted watched confirmed => absurd confirmed (spared blob excepted _ watched)

theorem leaves_readOn (h : cluster.Guarded guard) :
    Leaves (readOn i blob) cluster fun _ after => after.Guarded guard := by
  refine Leaves.get_bind ?_
  rw [h.direct]
  refine Leaves.bind ((h.leaves_atWorker_of_kept (fun _ => False)
    (fun worker sound => worker.kept_read blob sound) (fun _ no => no.elim)).mono ?_)
  rintro (e | stream) after ⟨guarded, -⟩ <;> exact guarded

theorem leaves_pull (h : cluster.Guarded guard) (download : Download) :
    LeavesState (pull download) cluster fun _ after => after.Guarded guard := by
  unfold LeavesState pull
  cases download.source with
  | none => exact h
  | some i =>
    simp only
    cases found : cluster.workers[i]? with
    | none => exact h
    | some worker =>
      have kept : worker.Kept (worker.deliver download.stream).2 fun _ => False :=
        Worker.kept_deliver _ (h.sound worker (List.mem_of_getElem? found))
      exact h.setWorker found kept fun _ no => no.elim

theorem leaves_downloadFrom (h : cluster.Guarded guard) :
    Leaves (downloadFrom i blob) cluster fun _ after => after.Guarded guard := by
  refine Leaves.bind (h.leaves_readOn.mono ?_)
  rintro (e | opened) after guarded
  · exact guarded
  · rw [followed_ok]
    refine Leaves.lift ?_
    exact guarded.leaves_pull opened

theorem leaves_openBlob (h : cluster.Guarded guard) :
    Leaves (openBlob blob) cluster fun _ after => after.Guarded guard := by
  refine Leaves.except_bind (fun _ _ => h) fun _ _ => ?_
  refine Leaves.bind (leaves_reporting ((h.leaves_callOwner
    (.of_quiet (fun _ _ => id) (fun _ _ => id))).mono ?_))
  rintro (e | address) after called
  · exact called.guarded
  rw [followed_mapError_ok]
  refine Leaves.bind (leaves_reporting ((after.leaves_connect address).mono ?_))
  rintro (e | i) _ ⟨rfl, -⟩
  · exact called.guarded
  rw [followed_mapError_ok]
  refine Leaves.bind (leaves_reporting (called.guarded.leaves_readOn.mono ?_))
  rintro (e | stream) last guarded <;> exact guarded

theorem leaves_download (h : cluster.Guarded guard) :
    Leaves (download blob) cluster fun _ after => after.Guarded guard := by
  refine Leaves.bind (h.leaves_openBlob.mono ?_)
  rintro (e | relay) after guarded
  · exact guarded
  · rw [followed_ok]
    refine Leaves.lift ?_
    exact guarded.leaves_pull relay.download

/-- A worker may remove a blob whose copies are not watched, or not confirmed. -/
theorem leaves_removeOn (h : cluster.Guarded guard)
    (spared : ∀ address, guard.watched blob address → ¬ cluster.Confirmed blob address) :
    Leaves (removeOn i blob) cluster fun _ after => after.Guarded guard
      ∧ after.masters = cluster.masters := by
  refine Leaves.get_bind ?_
  rw [h.direct]
  exact h.leaves_atWorker_of_kept (· = blob) (fun worker sound => worker.kept_remove blob sound)
    fun b same => same ▸ spared

/-! ## Deleting -/

theorem leaves_purgeFrom (h : cluster.Guarded guard) (address : String)
    (forgotten : ∀ address, ¬ cluster.Confirmed blob address) :
    LeavesState (purgeFrom blob address) cluster fun _ after => after.Guarded guard
      ∧ after.masters = cluster.masters := by
  refine LeavesState.get_bind ?_
  cases cluster.route? address with
  | none => exact ⟨h, rfl⟩
  | some i =>
    have removed := h.leaves_removeOn (i := i) fun a _ => forgotten a
    refine LeavesState.bind (Leaves.run (removed.mono ?_))
    rintro (e | _) after kept <;> exact kept

theorem leaves_purge (h : cluster.Guarded guard) (holders : List String)
    (forgotten : ∀ address, ¬ cluster.Confirmed blob address) :
    LeavesState (purge blob holders) cluster fun _ after => after.Guarded guard := by
  induction holders generalizing cluster with
  | nil => exact h
  | cons address rest ih =>
    refine LeavesState.bind ((h.leaves_purgeFrom address forgotten).mono ?_)
    rintro purged after ⟨guarded, masters⟩
    refine LeavesState.bind (ih guarded fun a confirmed => forgotten a ?_)
    unfold Confirmed owner at confirmed ⊢
    rw [masters] at confirmed
    exact confirmed

/-- A deletion removes files only after the owner has forgotten the blob.  No copy of the blob is
confirmed when the holders are asked, so none of them is bound to keep its file. -/
theorem leaves_delete (h : cluster.Guarded guard) (free : ∀ address, ¬ guard.pinned blob address) :
    Leaves (delete blob) cluster fun _ after => after.Guarded guard := by
  refine Leaves.except_bind (fun _ _ => h) fun _ _ => ?_
  have permits : cluster.Permits guard (cluster.owner blob) (.forget blob) := by
    constructor
    · intro other address gained
      exact gained.elim
    · rintro _ address pinned rfl
      exact absurd pinned (free address)
  refine Leaves.bind (leaves_reporting ((h.leaves_callOwner permits).mono ?_))
  rintro (e | holders) after called
  · exact called.guarded
  obtain ⟨master, owner, none_⟩ := called.tells holders rfl
  have forgotten : ∀ address, ¬ after.Confirmed blob address := by
    rintro address ⟨other, found, saved⟩
    rw [called.owner, owner] at found
    cases found
    exact none_ address saved
  rw [followed_mapError_ok]
  refine Leaves.get_bind ?_
  split
  · refine Leaves.lift_bind ?_
    exact called.guarded.leaves_purge holders forgotten
  · exact called.guarded

end Cluster.Guarded

/-! ## Operations -/

/-- An operation that keeps a guard, because of what it brings and what it asks to drop.  Nothing is
asked about outages, since a call that breaks off half-way keeps the guard as well. -/
def Operation.Safe (guard : Guard) (cluster : Cluster) : Operation → Prop
  | .upload messages => ∀ size (chunks : List Bytes),
    messages = uploadMessages size (chunks.map .ok) →
      guard.good (guard.algorithm.digest chunks.flatten) chunks.flatten
  | .delete blob => ∀ address, ¬ guard.pinned blob address
  | .save i messages => cluster.GoodSave guard i messages
  | .remove _ blob => ∀ address, ¬ guard.watched blob address
  | .tell i call => cluster.Permits guard i call
  | .download _ | .read _ _ | .health _ | .freeStorage _ => True

namespace Cluster

variable {guard : Guard} {cluster : Cluster}

namespace Guarded

/-- Every operation keeps a guard for which it is safe. -/
theorem effect (h : cluster.Guarded guard) {operation : Operation}
    (safe : operation.Safe guard cluster) : (operation.effect cluster).Guarded guard := by
  have calm : ∀ blob, False → ∀ address, guard.watched blob address →
      ¬ cluster.Confirmed blob address := fun _ no => no.elim
  cases operation with
  | upload messages => exact (h.leaves_upload safe).1
  | download blob => exact h.leaves_download
  | delete blob => exact h.leaves_delete safe
  | save i messages => exact (h.leaves_saveOn safe).1
  | read i blob => exact h.leaves_downloadFrom
  | remove i blob =>
    exact (h.leaves_removeOn fun address watched => absurd watched (safe address)).1
  | health i =>
    have direct : Leaves (workerHealth i) cluster fun _ after => after.Guarded guard
        ∧ after.masters = cluster.masters := by
      refine Leaves.get_bind ?_
      rw [h.direct]
      exact h.leaves_atWorker_of_kept _ (fun _ sound => Worker.kept_health sound) calm
    exact direct.1
  | freeStorage i =>
    have direct : Leaves (workerFree i) cluster fun _ after => after.Guarded guard
        ∧ after.masters = cluster.masters := by
      refine Leaves.get_bind ?_
      rw [h.direct]
      exact h.leaves_atWorker_of_kept _ (fun _ sound => Worker.kept_freeStorage sound) calm
    exact direct.1
  | tell i call => exact (h.leaves_callMaster safe).guarded

/-- Every run keeps a guard, if what is allowed in it is safe wherever the guard is kept. -/
theorem after (h : cluster.Guarded guard) {allowed : Cluster → Operation → Prop}
    (safe : ∀ here operation, here.Guarded guard → allowed here operation →
      operation.Safe guard here)
    {run : List (Weather × Operation)} (throughout : cluster.Throughout allowed run) :
    (cluster.after run).Guarded guard := by
  induction run generalizing cluster with
  | nil => exact h
  | cons step rest ih =>
    have here := h.under step.1
    exact ih (here.effect (safe _ _ here throughout.1)) throughout.2

end Guarded

/-- In a cluster that has just been assembled nothing is confirmed, so that every copy may be
watched. -/
theorem Assembled.guarded (h : cluster.Assembled)
    (algorithm : cluster.gateway.algorithm = guard.algorithm)
    (addresses : cluster.workers.map (·.address) = guard.addresses)
    (free : ∀ blob address, ¬ guard.pinned blob address) : cluster.Guarded guard := by
  have blank : ∀ master ∈ cluster.masters, master.ledger = .empty := by
    intro master mem
    obtain ⟨address, label, rfl⟩ := h.masters master mem
    rfl
  have unsaved : ∀ master ∈ cluster.masters, ∀ blob address,
      ¬ master.ledger.Saved blob address := by
    rintro master mem blob address ⟨copy, found, -⟩
    rw [blank master mem] at found
    cases found
  constructor
  case direct => exact h.direct
  case algorithm => exact algorithm
  case addresses => exact addresses
  case housed =>
    intro master mem
    rw [blank master mem]
    exact Ledger.housed_empty
  case sound =>
    intro worker mem
    obtain ⟨volume, root, chunkSize, sound, started⟩ := h.workers worker mem
    exact Worker.sound_of_start sound started
  case scratch =>
    obtain ⟨volume, root, chunkSize, sound, started⟩ := h.gateway
    exact Gateway.sound_of_start sound started
  case backed =>
    rintro blob address - ⟨master, found, saved⟩
    exact absurd saved (unsaved master (List.mem_of_getElem? found) blob address)
  case strict =>
    intro _ i master found blob address saved
    exact absurd saved (unsaved master (List.mem_of_getElem? found) blob address)
  case pinned =>
    intro blob address pinned
    exact absurd pinned (free blob address)

end Cluster

end BlobCluster
