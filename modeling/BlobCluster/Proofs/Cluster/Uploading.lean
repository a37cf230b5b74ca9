import BlobCluster.Cluster.Blobs
import BlobCluster.Proofs.Cluster.Calls
import BlobCluster.Proofs.Gateway.Buffering

/-!
# Uploading to a guarded cluster

The workers of a placement save one after the other.  After each the guard also watches and pins its
copy, so that the saves after it keep it.  A placement names all holders there are, and hence after
the last save every confirmed copy of the blob has the bytes of the upload, also one that had other
bytes before.
-/

namespace BlobCluster

theorem ChunkStream.arriving_of_failure {stream : ChunkStream} (h : stream.failure = none) :
    stream.arriving = stream.chunks.map .ok := by
  simp [arriving, h]

/-- The guard that also watches every copy of a blob and pins one.  The owner may send a reader to
any holder, so all of them are watched; that one is pinned keeps the blob from being lost. -/
def Guard.keep (guard : Guard) (blob address : String) : Guard :=
  { guard with
    watched := fun b a => guard.watched b a ∨ b = blob
    pinned := fun b a => guard.pinned b a ∨ b = blob ∧ a = address }

namespace Cluster

variable {guard : Guard} {cluster : Cluster} {i : Nat} {address : String} {place : Path}
  {content : Bytes}

theorem of_route? (h : cluster.route? address = some i) :
    ∃ worker, cluster.workers[i]? = some worker ∧ worker.address = address := by
  unfold route? at h
  obtain ⟨⟨worker, j⟩, last, rfl⟩ := Option.map_eq_some_iff.1 h
  obtain ⟨mem, way⟩ := List.mem_filter.1 (List.mem_of_getLast? last)
  simp only [Bool.and_eq_true, beq_iff_eq] at way
  exact ⟨worker, List.mk_mem_zipIdx_iff_getElem?.1 mem, way.2⟩

theorem leaves_connect (cluster : Cluster) (address : String) :
    Leaves (connect address) cluster fun r after => after = cluster
      ∧ ∀ i, r = .ok i → cluster.route? address = some i := by
  refine Leaves.get_bind ?_
  cases way : cluster.route? address with
  | none => exact ⟨rfl, nofun⟩
  | some i => exact ⟨rfl, fun _ same => by cases same; rfl⟩

theorem connect_of_unrouted (unrouted : cluster.route? address = none) :
    connect address cluster = (.error (noRoute address), cluster) := by
  refine (@bind_of_ok _ _ _ _ _ cluster cluster cluster rfl).trans ?_
  rw [unrouted]
  rfl

/-- A placement names a worker, and outside of it no copy is confirmed, so that the copies there may
be watched at once. -/
theorem Called.watching {blob : String} {size : UInt64} {addresses : List String} {after : Cluster}
    (called : Called guard cluster (cluster.owner blob) (.place blob size) (.ok addresses) after) :
    addresses ≠ [] ∧ after.Guarded { guard with
      watched := fun b a => guard.watched b a ∨ b = blob ∧ a ∉ addresses } := by
  obtain ⟨master, owner, -, some_, all⟩ := called.tells addresses rfl
  refine ⟨some_, { called.guarded with backed := ?_ }⟩
  rintro b a (watched | ⟨rfl, outside⟩) confirmed
  · exact called.guarded.backed b a watched confirmed
  · obtain ⟨other, found, saved⟩ := confirmed
    rw [called.owner, owner] at found
    cases found
    exact absurd (all a saved) outside

namespace Guarded

/-- A copy is saved: the guard is kept, and may watch and pin the copy as well. -/
theorem leaves_saveCopy (h : cluster.Guarded guard) {upload : Buffered} (address : String)
    (holds : upload.file.Holds cluster.gateway.volume place content)
    (good : guard.good upload.blob content) :
    Leaves (saveCopy upload address) cluster fun r after => after.gateway = cluster.gateway
      ∧ after.Guarded guard ∧ (r = .ok () → after.Guarded (guard.also upload.blob [address])) := by
  refine Leaves.bind (leaves_reporting ((cluster.leaves_connect address).mono ?_))
  rintro (e | i) _ ⟨rfl, way⟩
  · exact ⟨rfl, h, nofun⟩
  obtain ⟨worker, found, rfl⟩ := of_route? (way i rfl)
  simp only [followed_mapError_ok]
  refine Leaves.get_bind ?_
  obtain ⟨unbroken, bytes⟩ := holds.stream
  rw [ChunkStream.arriving_of_failure unbroken]
  refine leaves_reporting ((h.leaves_saveOn (i := i) ?_).mono ?_)
  · intro other chunks _ arrived
    obtain ⟨named, rfl⟩ := saveMessages_inj arrived
    rw [← named, bytes]
    exact good
  · rintro r after ⟨guarded, gateway, saved⟩
    refine ⟨gateway, guarded, fun succeeded => ?_⟩
    rcases r with e | ⟨⟩
    · cases succeeded
    obtain ⟨other, blob, chunks, found', arrived, secured⟩ := saved rfl
    obtain ⟨rfl, rfl⟩ := saveMessages_inj arrived
    rw [found] at found'
    cases found'
    rw [bytes] at secured
    refine guarded.also (fun a mem => ?_) (fun a mem => ?_)
    · rw [List.mem_singleton.1 mem]
      exact secured.confirmed
    · rw [List.mem_singleton.1 mem]
      exact secured.backed.mono fun _ same => same ▸ good

/-- Copies are saved one after the other, and each is kept by the saves after it.  The induction is
for every guard: what is secured on one address is pinned there while the rest is saved, and the
stronger guard is given up at the end. -/
theorem leaves_saveCopies (h : cluster.Guarded guard) {upload : Buffered} (addresses : List String)
    (holds : upload.file.Holds cluster.gateway.volume place content)
    (good : guard.good upload.blob content) :
    Leaves (saveCopies upload addresses) cluster fun r after => after.gateway = cluster.gateway
      ∧ after.Guarded guard ∧ (r = .ok () → after.Guarded (guard.also upload.blob addresses)) := by
  induction addresses generalizing guard cluster with
  | nil => exact ⟨rfl, h, fun _ => h.also nofun nofun⟩
  | cons address rest ih =>
    refine Leaves.bind ((h.leaves_saveCopy address holds good).mono ?_)
    rintro (e | _) between ⟨gateway, guarded, saved⟩
    · exact ⟨gateway, guarded, nofun⟩
    rw [followed_ok]
    refine (ih (saved rfl) (by rw [gateway]; exact holds) good).mono ?_
    rintro r after ⟨gateway', guarded', saved'⟩
    exact ⟨gateway'.trans gateway, guarded'.weaken (fun _ _ => .inl) (fun _ _ => .inl),
      fun succeeded => (saved' succeeded).also_cons⟩

/-- Once a blob is watched on other addresses as well as on those of a placement, it is watched
everywhere. -/
theorem keep_of_also {blob : String} {addresses : List String} (mem : address ∈ addresses)
    (h : cluster.Guarded (Guard.also { guard with
      watched := fun b a => guard.watched b a ∨ b = blob ∧ a ∉ addresses } blob addresses)) :
    cluster.Guarded (guard.keep blob address) := by
  apply h.weaken
  · rintro b a (watched | rfl)
    · exact .inl (.inl watched)
    · by_cases named : a ∈ addresses
      · exact .inr ⟨rfl, named⟩
      · exact .inl (.inr ⟨rfl, named⟩)
  · rintro b a (pinned | ⟨rfl, rfl⟩)
    · exact .inl pinned
    · exact .inr ⟨rfl, mem⟩

/-- An upload keeps a guard for which its bytes are good.  If it succeeds, all its bytes have
arrived, the answer is their digest, and from then on every copy of the blob may be watched and one
of them pinned.  The placement names everybody who may hold the blob, so after it the copies
elsewhere can be watched at once; each save then adds the one address that it has secured. -/
theorem leaves_upload (h : cluster.Guarded guard) {messages : Arriving UploadMessage}
    (good : ∀ size (chunks : List Bytes), messages = uploadMessages size (chunks.map .ok) →
      guard.good (guard.algorithm.digest chunks.flatten) chunks.flatten) :
    Leaves (upload messages) cluster fun r after => after.Guarded guard
      ∧ ∀ blob, r = .ok blob → ∃ size, ∃ chunks : List Bytes,
        messages = uploadMessages size (chunks.map .ok)
        ∧ blob = guard.algorithm.digest chunks.flatten
        ∧ ∃ address, after.Guarded (guard.keep blob address) := by
  refine Leaves.get_bind (Leaves.bind (leaves_atGateway
    ((Gateway.leaves_bufferIn messages h.scratch).mono ?_)))
  rintro (e | buffered) volume ⟨⟨_, keeps⟩, outcome⟩
  · exact ⟨h.setGateway keeps.sound, nofun⟩
  obtain ⟨size, chunks, arrived, -, named, -, place, holds⟩ := outcome
  rw [h.algorithm] at named
  have good : guard.good buffered.blob chunks.flatten := named ▸ good size chunks arrived
  rw [followed_ok]
  have buffering := h.setGateway keeps.sound
  refine Leaves.bind (leaves_reporting ((buffering.leaves_callOwner
    (.of_quiet (fun _ _ => id) (fun _ _ => id))).mono ?_))
  rintro (e | addresses) placed called
  · exact ⟨called.guarded, nofun⟩
  obtain ⟨some_, watching⟩ := called.watching
  rw [followed_mapError_ok]
  have holds' : buffered.file.Holds placed.gateway.volume place chunks.flatten := by
    rw [called.gateway]
    exact holds
  refine Leaves.bind ((watching.leaves_saveCopies addresses holds' good).mono ?_)
  rintro (e | _) saved ⟨gateway, guarded, complete⟩
  · exact ⟨guarded.weaken (fun _ _ => .inl) (fun _ _ => id), nofun⟩
  have located : saved.gateway.volume.locate buffered.file.path = .ok place := by
    rw [gateway]
    exact holds'.located
  have noFolder : saved.gateway.volume.seen place ≠ some .folder := by
    rw [gateway, holds'.seen]
    exact nofun
  rw [followed_ok]
  refine Leaves.bind (leaves_atGateway
    ((ChunkFile.leaves_remove guarded.scratch located noFolder).mono ?_))
  rintro (e | there) volume keeps
  · exact ⟨(guarded.setGateway keeps.sound).weaken (fun _ _ => .inl) (fun _ _ => id), nofun⟩
  refine ⟨(guarded.setGateway keeps.sound).weaken (fun _ _ => .inl) (fun _ _ => id), ?_⟩
  rintro _ ⟨⟩
  obtain ⟨address, mem⟩ := List.exists_mem_of_ne_nil _ some_
  have kept := ((complete rfl).setGateway keeps.sound).keep_of_also mem
  exact ⟨size, chunks, arrived, named, address, kept⟩

end Guarded

theorem upload_apply (messages : Arriving UploadMessage) (cluster : Cluster) :
    upload messages cluster = (do
      let buffered ← atGateway
        (Gateway.bufferIn cluster.gateway.scratch cluster.gateway.algorithm messages)
      let addresses ← reporting (during ("placement of " ++ buffered.blob))
        (callOwner buffered.blob (.place buffered.blob buffered.size))
      saveCopies buffered addresses
      let _ ← atGateway buffered.file.remove
      return buffered.blob : Acting String) cluster := rfl

/-- An upload that succeeds has been buffered and placed, and its copies have been saved.  After
that only the files of the gateway have changed. -/
theorem saved_of_upload {messages : Arriving UploadMessage} {blob : String} {stored : Cluster}
    (uploaded : upload messages cluster = (.ok blob, stored)) :
    ∃ buffered buffering addresses placed saved,
      atGateway (Gateway.bufferIn cluster.gateway.scratch cluster.gateway.algorithm messages)
          cluster = (.ok buffered, buffering)
        ∧ callOwner buffered.blob (.place buffered.blob buffered.size) buffering
          = (.ok addresses, placed)
        ∧ saveCopies buffered addresses placed = (.ok (), saved)
        ∧ blob = buffered.blob ∧ stored.masters = saved.masters
        ∧ stored.workers = saved.workers := by
  rw [upload_apply, bind_eq_ok_iff] at uploaded
  obtain ⟨buffered, buffering, buffers, rest⟩ := uploaded
  obtain ⟨addresses, placed, placing, rest⟩ := bind_eq_ok_iff.1 rest
  obtain ⟨⟨⟩, saved, saving, rest⟩ := bind_eq_ok_iff.1 rest
  obtain ⟨_, removed, removing, rest⟩ := bind_eq_ok_iff.1 rest
  rw [atGateway_apply] at removing
  obtain ⟨-, rfl⟩ := Prod.mk.inj removing
  cases rest
  exact ⟨buffered, buffering, addresses, placed, saved, buffers, reporting_eq_ok_iff.1 placing,
    saving, rfl, rfl, rfl⟩

/-- An upload that is buffered but not placed is over. -/
theorem upload_of_unplaced {messages : Arriving UploadMessage} {buffered : Buffered} {e : Failure}
    {buffering placed : Cluster}
    (buffers : atGateway
        (Gateway.bufferIn cluster.gateway.scratch cluster.gateway.algorithm messages) cluster
      = (.ok buffered, buffering))
    (refused : callOwner buffered.blob (.place buffered.blob buffered.size) buffering
      = (.error e, placed)) :
    upload messages cluster = (.error (during ("placement of " ++ buffered.blob) e), placed) := by
  have reported : reporting (during ("placement of " ++ buffered.blob))
      (callOwner buffered.blob (.place buffered.blob buffered.size)) buffering
        = (.error (during ("placement of " ++ buffered.blob) e), placed) := by
    unfold reporting
    rw [refused]
    rfl
  rw [upload_apply, bind_of_ok buffers, bind_of_error reported]

theorem upload_of_placed {messages : Arriving UploadMessage} {buffered : Buffered}
    {addresses : List String} {buffering placed : Cluster}
    (buffers : atGateway
        (Gateway.bufferIn cluster.gateway.scratch cluster.gateway.algorithm messages) cluster
      = (.ok buffered, buffering))
    (places : callOwner buffered.blob (.place buffered.blob buffered.size) buffering
      = (.ok addresses, placed)) :
    upload messages cluster = (do
      saveCopies buffered addresses
      let _ ← atGateway buffered.file.remove
      return buffered.blob : Acting String) placed := by
  have reported : reporting (during ("placement of " ++ buffered.blob))
      (callOwner buffered.blob (.place buffered.blob buffered.size)) buffering
        = (.ok addresses, placed) := by
    unfold reporting
    rw [places]
    rfl
  rw [upload_apply, bind_of_ok buffers, bind_of_ok reported]

end Cluster

end BlobCluster
