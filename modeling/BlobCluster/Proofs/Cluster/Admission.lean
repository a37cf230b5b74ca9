import BlobCluster.Proofs.Cluster.Fair
import BlobCluster.Proofs.Cluster.Verified
import BlobCluster.Proofs.Ledger.Admission

/-!
# Uploads fail only for lack of space

While nothing fails, a complete upload is refused for one reason: the blob is not confirmed anywhere
and fewer than three workers have room for it.  Once it is placed, every later step goes through.
Each worker that was named is reached, its store takes the bytes, they have the digest that the
gateway has found, and the owner of the blob has a copy to confirm for which the space is reserved,
also if an earlier upload has left it.
-/

namespace BlobCluster.Cluster

variable {cluster : Cluster} {algorithm : Digest.Algorithm} {buffered : Buffered} {content : Bytes}
  {place : Path} {address blob : String} {rest : List String}

/-! ## Saving the copies -/

/-- Every worker that has registered at a master is there under its address. -/
def Reaches (cluster : Cluster) : Prop :=
  ∀ master ∈ cluster.masters, ∀ row ∈ master.ledger.workers.rows,
    ∃ worker ∈ cluster.workers, worker.address = row.address

/-- The owner of a blob has its copy on an address, confirmed or not. -/
def Booked (cluster : Cluster) (blob address : String) : Prop :=
  ∃ master, cluster.masters[cluster.owner blob]? = some master
    ∧ (master.ledger.copy? blob address).isSome

/-- What holds between the saves of an upload that was placed: the scratch file is there, and the
addresses that are left lead to workers whose copies are booked. -/
structure Saving (algorithm : Digest.Algorithm) (buffered : Buffered) (place : Path)
    (content : Bytes) (addresses : List String) (cluster : Cluster) : Prop where
  fair : cluster.Fair algorithm
  calm : cluster.Calm
  holds : buffered.file.Holds cluster.gateway.volume place content
  named : buffered.blob = algorithm.digest content
  there : ∀ address ∈ addresses, ∃ worker ∈ cluster.workers, worker.address = address
  booked : ∀ address ∈ addresses, cluster.Booked buffered.blob address

namespace Saving

variable {addresses : List String}

theorem tail (h : cluster.Saving algorithm buffered place content (address :: rest)) :
    cluster.Saving algorithm buffered place content rest :=
  { h with
    there := fun other mem => h.there other (List.mem_cons_of_mem _ mem)
    booked := fun other mem => h.booked other (List.mem_cons_of_mem _ mem) }

/-- A worker may change what is on its volume. -/
theorem setWorker (h : cluster.Saving algorithm buffered place content addresses) {i : Nat}
    {worker : Worker} (found : cluster.workers[i]? = some worker) {volume : Volume}
    (ready : Worker.Ready { worker with volume }) :
    Saving algorithm buffered place content addresses
      { cluster with workers := cluster.workers.set i { worker with volume } } := by
  have mem := List.mem_of_getElem? found
  have alike := (h.fair.workers worker mem).1
  have outages := h.calm.services worker mem
  have reachable := h.calm.reachable worker mem
  refine ⟨h.fair.setWorker alike ready, h.calm.setWorker outages reachable, h.holds, h.named, ?_,
    h.booked⟩
  intro address named
  obtain ⟨other, listed, rfl⟩ := h.there address named
  obtain ⟨j, found'⟩ := List.mem_iff_getElem?.1 listed
  by_cases here : i = j
  · rw [← here, found] at found'
    cases found'
    exact ⟨_, List.mem_of_getElem? (getElem?_set_self_of_some found), rfl⟩
  · refine ⟨other, List.mem_iff_getElem?.2 ⟨j, ?_⟩, rfl⟩
    rw [getElem?_set_of_some found, if_neg here]
    exact found'

/-- The owner of the blob may be called, as long as it keeps the copies it has. -/
theorem setMaster (h : cluster.Saving algorithm buffered place content addresses)
    {master told : Master} (found : cluster.masters[cluster.owner buffered.blob]? = some master)
    (orderly : told.Orderly)
    (copies : ∀ address, (master.ledger.copy? buffered.blob address).isSome →
      (told.ledger.copy? buffered.blob address).isSome) :
    Saving algorithm buffered place content addresses
      { cluster with masters := cluster.masters.set (cluster.owner buffered.blob) told } := by
  refine ⟨h.fair.setMaster orderly, h.calm.setMaster orderly.calm, h.holds, h.named, h.there, ?_⟩
  intro address named
  obtain ⟨other, owner, copy⟩ := h.booked address named
  obtain rfl := Option.some.inj (found.symm.trans owner)
  refine ⟨told, ?_, copies address copy⟩
  rw [owner_setMaster]
  exact getElem?_set_self_of_some found

theorem leaves_confirm (h : cluster.Saving algorithm buffered place content (address :: rest)) :
    Leaves (callOwner buffered.blob (.confirm buffered.blob address)) cluster fun r after =>
      r = .ok () ∧ after.Saving algorithm buffered place content rest := by
  obtain ⟨master, owner, copy⟩ := h.booked address (List.mem_cons_self ..)
  have orderly := h.fair.masters master (List.mem_of_getElem? owner)
  obtain ⟨confirmed, copies⟩ := orderly.confirm cluster.clock copy
  unfold Leaves
  rw [callOwner_of_direct h.fair.direct owner]
  exact ⟨confirmed, (h.setMaster owner (orderly.answer _ _) fun _ => copies _ _).tail⟩

/-- A worker saves the blob, since nothing can be in the way, and has its copy confirmed.  The
worker is ready, so its save is computed; what is left is the confirmation, and the ledger may have
changed by it only as the saving of the other copies allows. -/
theorem leaves_saveAt (h : cluster.Saving algorithm buffered place content (address :: rest))
    {i : Nat} {worker : Worker} (found : cluster.workers[i]? = some worker)
    (same : worker.address = address) {chunks : List Bytes} (bytes : chunks.flatten = content) :
    Leaves (saveAt i (saveMessages buffered.blob (chunks.map .ok))) cluster fun r after =>
      r = .ok () ∧ after.Saving algorithm buffered place content rest := by
  subst same bytes
  have mem := List.mem_of_getElem? found
  obtain ⟨alike, ready⟩ := h.fair.workers worker mem
  have named : buffered.blob = worker.algorithm.digest chunks.flatten := by
    rw [alike]
    exact h.named
  obtain ⟨volume, saved⟩ := Worker.save_of_ready ready (h.calm.services worker mem) chunks
  rw [← named] at saved
  have ready' := (Worker.Step.save worker (saveMessages buffered.blob (chunks.map .ok))).ready ready
  rw [saved] at ready'
  refine Leaves.bind (leaves_atWorker (fun absent => ?_) fun other there => ?_)
  · rw [found] at absent
    cases absent
  obtain rfl := Option.some.inj (found.symm.trans there)
  simp only [saved, Except.map, followed_ok]
  refine leaves_reporting ((h.setWorker found ready').leaves_confirm.mono ?_)
  rintro _ after ⟨rfl, saving⟩
  exact ⟨rfl, saving⟩

theorem leaves_saveCopy (h : cluster.Saving algorithm buffered place content (address :: rest)) :
    Leaves (saveCopy buffered address) cluster fun r after =>
      r = .ok () ∧ after.Saving algorithm buffered place content rest := by
  obtain ⟨worker, mem, rfl⟩ := h.there address (List.mem_cons_self ..)
  obtain ⟨i, other, way, found, same⟩ := route?_of_reachable mem (h.calm.reachable worker mem)
  obtain ⟨unbroken, bytes⟩ := h.holds.stream
  refine Leaves.bind (leaves_reporting (Leaves.get_bind ?_))
  rw [way]
  refine Leaves.pure ?_
  rw [followed_mapError_ok]
  refine Leaves.get_bind (leaves_reporting (Leaves.get_bind ?_))
  rw [ChunkStream.arriving_of_failure unbroken, h.fair.direct]
  refine (h.leaves_saveAt found same bytes).mono ?_
  rintro _ after ⟨rfl, saving⟩
  exact ⟨rfl, saving⟩

theorem leaves_saveCopies (h : cluster.Saving algorithm buffered place content addresses) :
    Leaves (saveCopies buffered addresses) cluster fun r after =>
      r = .ok () ∧ after.Saving algorithm buffered place content [] := by
  induction addresses generalizing cluster with
  | nil => exact ⟨rfl, h⟩
  | cons address rest ih =>
    refine Leaves.bind (h.leaves_saveCopy.mono ?_)
    rintro _ after ⟨rfl, saving⟩
    exact ih saving

end Saving

/-! ## Uploading -/

/-- What an upload comes to while nothing fails.  It succeeds if the owner of the blob admits it,
and otherwise it is refused for lack of space and changes no ledger and no worker. -/
structure Admitted (owner : Ledger) (blob : String) (size : UInt64) (cluster : Cluster)
    (r : Except Failure String) (after : Cluster) : Prop where
  granted : owner.Admits blob size → r = .ok blob
  refused : ¬ owner.Admits blob size →
    r = .error (during ("placement of " ++ blob)
        (Selection.shortage (Text.megabytesFor size) 3 (owner.roomy size)))
      ∧ after.masters.map (·.ledger) = cluster.masters.map (·.ledger)
      ∧ after.workers = cluster.workers

namespace Fair

theorem leaves_placed (fair : cluster.Fair algorithm) (calm : cluster.Calm)
    (reaches : cluster.Reaches) (holds : buffered.file.Holds cluster.gateway.volume place content)
    (named : buffered.blob = algorithm.digest content) {size : UInt64}
    (megabytes : buffered.size = Text.megabytesFor size) {master : Master}
    (owner : cluster.masters[cluster.owner buffered.blob]? = some master) :
    Leaves (do
        let addresses ← reporting (during ("placement of " ++ buffered.blob))
          (callOwner buffered.blob (.place buffered.blob buffered.size))
        saveCopies buffered addresses
        let _ ← atGateway buffered.file.remove
        return buffered.blob) cluster
      (Admitted master.ledger buffered.blob size cluster) := by
  have valid : BlobId.Valid buffered.blob := named ▸ Digest.valid_digest _ _
  have orderly := fair.masters master (List.mem_of_getElem? owner)
  obtain ⟨journal, balanced⟩ := orderly.books
  refine Leaves.bind (leaves_reporting ?_)
  unfold Leaves
  rw [callOwner_of_direct fair.direct owner, megabytes]
  have told := orderly.answer cluster.clock (.place buffered.blob (Text.megabytesFor size))
  generalize answered : master.answer cluster.clock
    (.place buffered.blob (Text.megabytesFor size)) = outcome at told
  obtain ⟨r, after⟩ := outcome
  have placed := orderly.calm.placed answered
  by_cases admits : master.ledger.Admits buffered.blob size
  · obtain ⟨addresses, rfl, listed⟩ := placed.of_admits valid balanced admits
    have saving : Saving algorithm buffered place content addresses
        { cluster with masters := cluster.masters.set (cluster.owner buffered.blob) after } := by
      refine ⟨fair.setMaster told, calm.setMaster told.calm, holds, named, ?_, ?_⟩
      · intro address mem
        obtain ⟨-, row, listed, rfl⟩ := listed address mem
        exact reaches master (List.mem_of_getElem? owner) row listed
      · intro address mem
        refine ⟨after, ?_, (listed address mem).1⟩
        rw [owner_setMaster]
        exact getElem?_set_self_of_some owner
    show Followed _ _ ((Except.ok addresses).mapError _) _
    rw [followed_mapError_ok]
    refine Leaves.bind (saving.leaves_saveCopies.mono ?_)
    rintro _ saved ⟨rfl, done⟩
    refine Leaves.bind (leaves_atGateway ?_)
    unfold Leaves
    rw [done.holds.remove]
    exact ⟨fun _ => rfl, fun refused => absurd admits refused⟩
  · obtain ⟨rfl, same⟩ := placed.of_not_admits valid balanced admits
    exact ⟨fun admits' => absurd admits' admits, fun _ => ⟨rfl, map_set_of_same owner same, rfl⟩⟩

/-- A complete upload succeeds if the owner of the blob admits it. -/
theorem leaves_upload (fair : cluster.Fair algorithm) (calm : cluster.Calm)
    (reaches : cluster.Reaches) {size : UInt64} {chunks : List Bytes}
    (complete : chunks.flatten.length = size.toNat) {master : Master}
    (owner : cluster.masters[cluster.owner (algorithm.digest chunks.flatten)]? = some master) :
    Leaves (upload (uploadMessages size (chunks.map .ok))) cluster
      (Admitted master.ledger (algorithm.digest chunks.flatten) size cluster) := by
  obtain rfl := fair.digest
  obtain ⟨top, ready⟩ := fair.scratch
  refine Leaves.get_bind (Leaves.bind (leaves_atGateway
    ((Gateway.leaves_bufferIn_of_ready ready complete).mono ?_)))
  rintro _ volume ⟨file, rfl, replaced, holds⟩
  have buffering := fair.setGateway replaced.keeps
  have calm' : Calm { cluster with gateway := { cluster.gateway with volume } } := { calm with }
  generalize named : cluster.gateway.algorithm.digest chunks.flatten = blob at owner ⊢
  let buffered : Buffered := ⟨file, blob, Text.megabytesFor size⟩
  have holds : buffered.file.Holds volume _ chunks.flatten := holds
  rw [followed_ok]
  refine (buffering.leaves_placed calm' reaches holds named.symm rfl owner).mono ?_
  rintro r after ⟨granted, refused⟩
  exact ⟨granted, refused⟩

end Fair

/-- However a cluster of equipped nodes was used while nothing failed, an upload of as many bytes as
it declares succeeds exactly if its blob is confirmed at its owner already or three workers have
room for it.  Otherwise it is cancelled because the owner has found too few workers, and no ledger
and no worker has changed.

Nodes that are equipped digest alike, so that gateway and worker agree on what the blob is called,
and have no folders in the way of names, so that space is all a save can fail for.  `reaches` is
asked for because a worker that has registered counts as room even where the gateway cannot find it.
The run enters only through `Fair`, which clear weather keeps; under it the steps of the upload are
shown to go well one after the other, which leaves the choice of workers as the only refusal. -/
theorem upload_succeeds_iff (assembled : cluster.Assembled) (equipped : cluster.Equipped)
    {run : List (Weather × Operation)} (clear : ∀ step ∈ run, step.1.IsClear) {weather : Weather}
    (still : weather.IsClear) (reaches : ((cluster.after run).under weather).Reaches)
    {size : UInt64} {chunks : List Bytes} (complete : chunks.flatten.length = size.toNat) :
    let here := (cluster.after run).under weather
    let blob := cluster.gateway.algorithm.digest chunks.flatten
    let uploaded := upload (uploadMessages size (chunks.map .ok)) here
    ∃ owner, here.masters[here.owner blob]? = some owner
      ∧ (uploaded.1 = .ok blob ↔ owner.ledger.Admits blob size)
      ∧ (¬ owner.ledger.Admits blob size →
        uploaded.1 = .error (during ("placement of " ++ blob)
            (Selection.shortage (Text.megabytesFor size) 3 (owner.ledger.roomy size)))
          ∧ uploaded.2.masters.map (·.ledger) = here.masters.map (·.ledger)
          ∧ uploaded.2.workers = here.workers) := by
  intro here blob uploaded
  have fair : here.Fair cluster.gateway.algorithm :=
    ((assembled.fair equipped).after clear).under still
  have calm : here.Calm := by
    obtain ⟨clock, purge, rfl⟩ := still
    exact calm_under _ clock purge
  obtain ⟨owner, found, -⟩ := fair.owner blob
  obtain ⟨granted, refused⟩ : Admitted owner.ledger blob size here uploaded.1 uploaded.2 :=
    fair.leaves_upload calm reaches complete found
  refine ⟨owner, found, ⟨fun succeeded => ?_, granted⟩, refused⟩
  by_contra not_
  have failed := (refused not_).1
  rw [succeeded] at failed
  cases failed

/-! ## Three workers -/

theorem equipped_trio : trio.Equipped where
  alike worker mem := by
    obtain ⟨address, -, rfl⟩ := List.mem_map.1 mem
    rfl
  stores worker mem := by
    obtain ⟨address, listed, rfl⟩ := List.mem_map.1 mem
    have sound : (freshWorker address).volume.Sound := Volume.sound_blank.makeFolders [address]
    simp only [List.mem_cons, List.not_mem_nil, or_false] at listed
    rcases listed with rfl | rfl | rfl
    · exact ChunkStore.ready_of_empty sound (by decide +kernel) (by decide)
    · exact ChunkStore.ready_of_empty sound (by decide +kernel) (by decide)
    · exact ChunkStore.ready_of_empty sound (by decide +kernel) (by decide)
  scratch := ChunkStore.ready_of_empty (Volume.sound_blank.makeFolders ["s"]) (by decide +kernel)
    (by decide)

/-- The trio takes the three bytes once its workers have registered, and before that has nowhere to
put them. -/
theorem upload_of_registered :
    (upload parcel readyTrio).1 = .ok "743e13ee0c4ee5a5"
      ∧ (upload parcel (trio.under (.clear 0 false))).1
        = .error (during "placement of 743e13ee0c4ee5a5" (Selection.shortage 1 3 0)) := by
  have named : trio.gateway.algorithm.digest [[1, 2], [3]].flatten = "743e13ee0c4ee5a5" := by
    decide +kernel
  have clear : ∀ step ∈ registrations, step.1.IsClear := by
    intro step mem
    obtain ⟨address, -, rfl⟩ := List.mem_map.1 mem
    exact ⟨0, false, rfl⟩
  have still : (Weather.clear 0 false).IsClear := ⟨0, false, rfl⟩
  have complete : ([[1, 2], [3]] : List Bytes).flatten.length = (3 : UInt64).toNat := by decide
  have joined : readyTrio.Reaches := by
    unfold Reaches
    decide +kernel
  have alone : (trio.under (.clear 0 false)).Reaches := by
    unfold Reaches
    decide +kernel
  constructor
  · obtain ⟨owner, found, granted, -⟩ :=
      upload_succeeds_iff assembled_trio equipped_trio clear still joined complete
    rw [named] at found granted
    have is : readyTrio.masters[readyTrio.owner "743e13ee0c4ee5a5"]? = some readyMaster := by
      decide +kernel
    obtain rfl := Option.some.inj (is.symm.trans found)
    have room : 3 ≤ readyMaster.ledger.roomy 3 := by decide +kernel
    exact granted.2 (.inr room)
  · have nothing : ∀ step ∈ ([] : List (Weather × Operation)), step.1.IsClear := nofun
    obtain ⟨owner, found, -, refused⟩ :=
      upload_succeeds_iff assembled_trio equipped_trio nothing still alone complete
    rw [named] at found refused
    have is : (trio.under (.clear 0 false)).masters[(trio.under (.clear 0 false)).owner
        "743e13ee0c4ee5a5"]? = some (.start "m" "copy") := by
      decide +kernel
    obtain rfl := Option.some.inj (is.symm.trans found)
    refine (refused ?_).1
    rintro (⟨worker, copy, there, -⟩ | room)
    · cases there
    · exact absurd room (by decide +kernel)

end BlobCluster.Cluster
