import BlobCluster.Proofs.Cluster.Replication
import BlobCluster.Proofs.Gateway.Rejecting

/-!
# Where an upload breaks off

An upload can fail at any message of its stream, at its placement, and at any of the addresses it is
saved on.  What it leaves depends on how far it has come: nothing at all, a scratch file, a scratch
file and what the placement has reserved, or that and the copies on the addresses before the one
that has failed.  Addresses are tried one after the other, and each save concerns one address only,
so those that come later are as the placement has left them.
-/

namespace BlobCluster.Cluster

variable {α : Type} {cluster placed here after : Cluster} {upload : Buffered} {content : Bytes}
  {place : Path} {blob address failed : String} {addresses done rest : List String} {e : Failure}

/-! ## One address -/

/-- An address cannot be connected to, or the worker there cannot be made to save the upload.  In
either case the state is the one in which the step has failed, which for a save may have changed the
worker and its owner. -/
inductive StopsAt (upload : Buffered) (address : String) (here : Cluster) :
    Failure → Cluster → Prop
  | unreached {e : Failure} {after : Cluster} (refused : connect address here = (.error e, after)) :
    StopsAt upload address here (during ("worker " ++ address) e) after
  | unsaved {i : Nat} {between after : Cluster} {e : Failure}
    (reached : connect address here = (.ok i, between))
    (refused : saveOn i (saveMessages upload.blob
      (upload.file.stream between.gateway.volume).arriving) between = (.error e, after)) :
    StopsAt upload address here (during ("save on " ++ address) e) after

theorem StopsAt.of_unrouted (unrouted : here.route? address = none) :
    StopsAt upload address here (during ("worker " ++ address) (noRoute address)) here :=
  .unreached (connect_of_unrouted unrouted)

theorem StopsAt.cancelled (h : StopsAt upload address here e after) : e.kind = .cancelled := by
  cases h <;> rfl

theorem saveCopy_eq_error_iff :
    saveCopy upload address here = (.error e, after) ↔ StopsAt upload address here e after := by
  rw [saveCopy, bind_eq_error_iff]
  constructor
  · rintro (failed | ⟨i, between, reached, failed⟩)
    · obtain ⟨e', refused, rfl⟩ := reporting_eq_error_iff.1 failed
      exact .unreached refused
    · obtain ⟨e', refused, rfl⟩ := reporting_eq_error_iff.1 failed
      exact .unsaved (reporting_eq_ok_iff.1 reached) refused
  · rintro (⟨refused⟩ | ⟨reached, refused⟩)
    · exact .inl (reporting_eq_error_iff.2 ⟨_, refused, rfl⟩)
    · exact .inr ⟨_, _, reporting_eq_ok_iff.2 reached,
        reporting_eq_error_iff.2 ⟨_, refused, rfl⟩⟩

/-! ## One address after the other -/

/-- Saving went well on some addresses and stopped at the next. -/
def StopsAfter (upload : Buffered) (placed : Cluster) (done : List String) (failed : String)
    (e : Failure) (after : Cluster) : Prop :=
  ∃ here, saveCopies upload done placed = (.ok (), here) ∧ StopsAt upload failed here e after

theorem saveCopies_eq_error_iff :
    saveCopies upload addresses placed = (.error e, after)
      ↔ ∃ done failed rest, addresses = done ++ failed :: rest
        ∧ StopsAfter upload placed done failed e after := by
  induction addresses generalizing placed with
  | nil =>
    constructor
    · intro failed
      cases failed
    · rintro ⟨done, failed, rest, split, -⟩
      cases done <;> cases split
  | cons address later ih =>
    rw [saveCopies, bind_eq_error_iff, saveCopy_eq_error_iff]
    constructor
    · rintro (stopped | ⟨_, between, saved, broken⟩)
      · exact ⟨[], address, later, rfl, placed, rfl, stopped⟩
      · obtain ⟨done, failed, rest, rfl, here, went, stopped⟩ := ih.1 broken
        exact ⟨address :: done, failed, rest, rfl, here, (bind_of_ok saved).trans went, stopped⟩
    · rintro ⟨_ | ⟨first, done⟩, failed, rest, split, here, went, stopped⟩
      · cases went
        obtain ⟨rfl, rfl⟩ := List.cons.inj split
        exact .inl stopped
      · obtain ⟨rfl, rfl⟩ := List.cons.inj split
        obtain ⟨_, between, saved, went⟩ := bind_eq_ok_iff.1 went
        exact .inr ⟨_, between, saved, ih.2 ⟨done, failed, rest, rfl, here, went, stopped⟩⟩

theorem StopsAfter.cancelled (h : StopsAfter upload placed done failed e after) :
    e.kind = .cancelled := by
  obtain ⟨_, -, stopped⟩ := h
  exact stopped.cancelled

/-- An address that fails leaves the copies before it secured, and concerns nothing else.  The
addresses are distinct, so what is tried on the failing one does not touch the copies that were
secured before. -/
theorem StopsAfter.leaves (h : StopsAfter upload placed done failed e after)
    (sturdy : placed.Sturdy) (holds : upload.file.Holds placed.gateway.volume place content)
    (named : upload.blob = placed.gateway.algorithm.digest content)
    (distinct : (done ++ [failed]).Nodup) :
    (∀ address ∈ done, after.Secured upload.blob address content)
      ∧ placed.Spares (· ∈ done ++ [failed]) after := by
  obtain ⟨here, went, stopped⟩ := h
  obtain ⟨distinct, -, apart⟩ := List.nodup_append.1 distinct
  have first := leaves_saveCopies sturdy holds named distinct
  unfold Leaves at first
  rw [went] at first
  obtain ⟨spares, sturdy, secured⟩ := first
  have kept := spares.gateway
  have last := leaves_saveCopy sturdy (kept ▸ holds) (kept ▸ named) failed
  unfold Leaves at last
  rw [saveCopy_eq_error_iff.2 stopped] at last
  obtain ⟨spares', -, -⟩ := last
  constructor
  · intro address mem
    refine spares'.secured ?_ (secured rfl address mem)
    exact apart address mem failed List.mem_cons_self
  · refine (spares.mono fun _ => List.mem_append_left _).trans (spares'.mono ?_)
    rintro _ rfl
    exact List.mem_append_right _ List.mem_cons_self

/-! ## Buffering -/

/-- An upload that is rejected fails as it should; only the scratch folder may have changed. -/
theorem leaves_upload_rejected {top : Path} {messages : Arriving UploadMessage}
    {received : Option Bytes} (ready : cluster.gateway.scratch.Ready cluster.gateway.volume top)
    (few : cluster.gateway.volume.entries.rows.length < 2 ^ 48)
    (rejected : Gateway.Rejected messages e received) :
    Leaves (Cluster.upload messages) cluster fun r after => r = .error e
      ∧ after.masters = cluster.masters ∧ after.workers = cluster.workers
      ∧ Gateway.Remains cluster.gateway.volume after.gateway.volume top received := by
  refine Leaves.get_bind (Leaves.bind (leaves_atGateway
    ((Gateway.leaves_bufferIn_rejected ready few rejected).mono ?_)))
  rintro _ volume ⟨rfl, remains⟩
  exact ⟨rfl, rfl, rfl, remains⟩

theorem buffer_of_complete {top : Path} {messages : Arriving UploadMessage} {size : UInt64}
    {bytes : Bytes} (ready : cluster.gateway.scratch.Ready cluster.gateway.volume top)
    (complete : Gateway.Complete messages size bytes) :
    let name := Volume.temporaryName
      (cluster.gateway.volume.freeSerial cluster.gateway.scratch.root)
    ∃ upload volume,
      atGateway (Gateway.bufferIn cluster.gateway.scratch cluster.gateway.algorithm messages)
          cluster
        = (.ok upload, { cluster with gateway := { cluster.gateway with volume } })
      ∧ upload.blob = cluster.gateway.algorithm.digest bytes
      ∧ cluster.gateway.volume.Replaced volume (top ++ [name]) (some (.file bytes))
      ∧ upload.file.Holds volume (top ++ [name]) bytes := by
  obtain ⟨counted, chunks, rfl, rfl⟩ := complete
  obtain ⟨file, answered, replaced, holds⟩ :=
    @Gateway.leaves_bufferIn_of_ready _ _ cluster.gateway.algorithm _ _ _ ready counted
  let upload : Buffered :=
    ⟨file, cluster.gateway.algorithm.digest chunks.flatten, Text.megabytesFor size⟩
  refine ⟨upload, _, ?_, rfl, replaced, holds⟩
  rw [atGateway_apply, answered]

/-! ## Placing -/

/-- How an upload ends once it has been placed.  The addresses are tried in their order, so whether
it succeeds is decided by the first that fails. -/
structure Spread (upload : Buffered) (content : Bytes) (placed : Cluster) (addresses : List String)
    (r : Except Failure String) (after : Cluster) : Prop where
  /-- If an address fails, the upload is cancelled.  The copies on the addresses before it are
  secured, and those that come later are others, about which nothing has changed. -/
  stopped : ∀ done failed rest e here, addresses = done ++ failed :: rest →
    StopsAfter upload placed done failed e here →
    r = .error e ∧ after = here ∧ e.kind = .cancelled
      ∧ (∀ address ∈ done, after.Secured upload.blob address content)
      ∧ placed.Spares (· ∈ done ++ [failed]) after
      ∧ ∀ address ∈ rest, address ∉ done ++ [failed]
  /-- The upload fails for no other reason. -/
  failing : ∀ e, r = .error e → ∃ done failed rest, addresses = done ++ failed :: rest
    ∧ StopsAfter upload placed done failed e after
  /-- If it succeeds, all copies are secured. -/
  stored : ∀ blob, r = .ok blob → blob = upload.blob
    ∧ ∀ address ∈ addresses, after.Secured upload.blob address content

/-- Addresses that come after one that fails are neither that nor any before. -/
theorem untried_of_nodup (distinct : (done ++ failed :: rest).Nodup) :
    (done ++ [failed]).Nodup ∧ ∀ address ∈ rest, address ∉ done ++ [failed] := by
  rw [← List.singleton_append, ← List.append_assoc] at distinct
  obtain ⟨tried, -, apart⟩ := List.nodup_append.1 distinct
  exact ⟨tried, fun address mem mem' => apart address mem' address mem rfl⟩

/-- An upload stopped where saving its copies did. -/
theorem spread_of_failed (sturdy : placed.Sturdy)
    (holds : upload.file.Holds placed.gateway.volume place content)
    (named : upload.blob = placed.gateway.algorithm.digest content) (distinct : addresses.Nodup)
    (saved : saveCopies upload addresses placed = (.error e, after)) :
    Spread upload content placed addresses (.error e) after where
  stopped done failed rest e' here split stopped := by
    obtain ⟨⟩ := saved.symm.trans
      (saveCopies_eq_error_iff.2 ⟨done, failed, rest, split, stopped⟩)
    subst split
    obtain ⟨tried, untried⟩ := untried_of_nodup distinct
    obtain ⟨secured, spares⟩ := stopped.leaves sturdy holds named tried
    exact ⟨rfl, rfl, stopped.cancelled, secured, spares, untried⟩
  failing e' same := by
    cases same
    exact saveCopies_eq_error_iff.1 saved
  stored := nofun

/-- An upload is through once its copies are saved, whatever becomes of the gateway. -/
theorem spread_of_saved (saved : saveCopies upload addresses placed = (.ok (), here))
    (secured : ∀ address ∈ addresses, here.Secured upload.blob address content)
    (masters : after.masters = here.masters) (workers : after.workers = here.workers) :
    Spread upload content placed addresses (.ok upload.blob) after where
  stopped done failed rest e there split stopped := by
    cases saved.symm.trans (saveCopies_eq_error_iff.2 ⟨done, failed, rest, split, stopped⟩)
  failing := nofun
  stored blob same := by
    cases same
    exact ⟨rfl, fun address mem => (secured address mem).of_same masters workers⟩

/-- Once all copies are saved, the scratch file is removed and nothing is left of it.  There was
nothing at its place before the upload, so taking the file away undoes what the upload has done to
the volume. -/
theorem leaves_cleanup {top : Path} {name : String} {before : Volume}
    (absent : before.seen (top ++ [name]) = none)
    (replaced : before.Replaced cluster.gateway.volume (top ++ [name]) (some (.file content)))
    (holds : upload.file.Holds cluster.gateway.volume (top ++ [name]) content) :
    Leaves (do
      let _ ← atGateway upload.file.remove
      return upload.blob) cluster fun r after => r = .ok upload.blob
        ∧ before.Keeps after.gateway.volume (fun _ => False)
        ∧ after.masters = cluster.masters ∧ after.workers = cluster.workers := by
  have noFolder : cluster.gateway.volume.seen (top ++ [name]) ≠ some .folder := by
    rw [holds.seen]
    exact nofun
  have removed := holds.remove
  refine Leaves.bind (leaves_atGateway ?_)
  have gone := ChunkFile.leaves_remove replaced.sound holds.located noFolder
  unfold Leaves at gone ⊢
  rw [removed]
  exact ⟨rfl, (replaced.trans gone).undone absent, rfl, rfl⟩

/-- An upload that has been placed.  If it fails its scratch file stays, and otherwise the scratch
folder is as it was before. -/
theorem leaves_placed {top : Path} {name : String} {before : Volume} (sturdy : placed.Sturdy)
    (absent : before.seen (top ++ [name]) = none)
    (replaced : before.Replaced placed.gateway.volume (top ++ [name]) (some (.file content)))
    (holds : upload.file.Holds placed.gateway.volume (top ++ [name]) content)
    (named : upload.blob = placed.gateway.algorithm.digest content) (distinct : addresses.Nodup) :
    Leaves (do
      saveCopies upload addresses
      let _ ← atGateway upload.file.remove
      return upload.blob) placed fun r after =>
        Spread upload content placed addresses r after
        ∧ (∀ e, r = .error e → after.gateway = placed.gateway)
        ∧ (∀ blob, r = .ok blob → before.Keeps after.gateway.volume fun _ => False) := by
  have saving := leaves_saveCopies sturdy holds named distinct
  unfold Leaves at saving ⊢
  rcases saved : saveCopies upload addresses placed with ⟨e | ⟨⟩, here⟩
  · rw [saved] at saving
    rw [bind_of_error saved]
    exact ⟨spread_of_failed sturdy holds named distinct saved, fun _ _ => saving.1.gateway, nofun⟩
  · rw [saved] at saving
    obtain ⟨spares, -, secured⟩ := saving
    have kept := spares.gateway
    obtain ⟨answered, keeps, masters, workers⟩ :=
      leaves_cleanup absent (kept ▸ replaced) (kept ▸ holds)
    rw [bind_of_ok saved, answered]
    exact ⟨spread_of_saved saved (secured rfl) masters workers, nofun, fun _ _ => keeps⟩

/-! ## Uploads -/

/-- Every upload is complete or rejected.

If it is rejected it fails as it should, and masters and workers are as they were.  The scratch
folder is as it was if the header was bad, and otherwise it has one more file, with the bytes that
came.

If it is complete it is buffered.  A placement that fails cancels it, with no worker contacted; once
it is placed, it ends as the addresses allow.  The scratch folder is as it was if the upload
succeeds, and otherwise it has one more file, with the bytes of the upload.

`few` leaves a temporary name to buffer under, and `sturdy` keeps what is sent to one address from
being saved under another name.  The proof goes along the upload: the buffer is exact on a folder
that is ready, a placement changes masters only, and the addresses are then taken one after the
other up to the first that stops it (`saveCopies_eq_error_iff`). -/
theorem upload_outcomes {top : Path} (sturdy : cluster.Sturdy)
    (ready : cluster.gateway.scratch.Ready cluster.gateway.volume top)
    (few : cluster.gateway.volume.entries.rows.length < 2 ^ 48)
    (messages : Arriving UploadMessage) :
    let scratch := cluster.gateway.volume
    let uploaded := Cluster.upload messages cluster
    ((∃ size bytes, Gateway.Complete messages size bytes)
        ∨ ∃ e received, Gateway.Rejected messages e received)
      ∧ (∀ e received, Gateway.Rejected messages e received →
        uploaded.1 = .error e
        ∧ uploaded.2.masters = cluster.masters ∧ uploaded.2.workers = cluster.workers
        ∧ Gateway.Remains scratch uploaded.2.gateway.volume top received)
      ∧ ∀ size bytes, Gateway.Complete messages size bytes →
        (∃ upload buffering,
          atGateway (Gateway.bufferIn cluster.gateway.scratch cluster.gateway.algorithm messages)
            cluster = (.ok upload, buffering)
          ∧ upload.blob = cluster.gateway.algorithm.digest bytes
          ∧ match callOwner upload.blob (.place upload.blob upload.size) buffering with
            | (.error e, placed) =>
              uploaded = (.error (during ("placement of " ++ upload.blob) e), placed)
              ∧ placed.workers = cluster.workers
            | (.ok addresses, placed) =>
              placed.workers = cluster.workers
              ∧ Spread upload bytes placed addresses uploaded.1 uploaded.2)
        ∧ (∀ e, uploaded.1 = .error e → scratch.Gains uploaded.2.gateway.volume top bytes)
        ∧ ∀ blob, uploaded.1 = .ok blob →
          scratch.Keeps uploaded.2.gateway.volume fun _ => False := by
  refine ⟨?_, fun e received rejected => leaves_upload_rejected ready few rejected, ?_⟩
  · by_cases complete : ∃ size bytes, Gateway.Complete messages size bytes
    · exact .inl complete
    · exact .inr (Gateway.rejected_of_incomplete fun size bytes h => complete ⟨size, bytes, h⟩)
  intro size bytes complete
  obtain ⟨upload, volume, buffers, named, replaced, holds⟩ := buffer_of_complete ready complete
  have absent := ready.seen_freeSerial few
  have gains := Gateway.gains_of_replaced ready few replaced
  rcases placing : callOwner upload.blob (.place upload.blob upload.size)
      { cluster with gateway := { cluster.gateway with volume } } with ⟨r, placed⟩
  obtain ⟨workers, gateway, transport⟩ := same_of_callOwner placing
  change placed.workers = cluster.workers at workers
  cases r with
  | error e =>
    have unplaced := upload_of_unplaced buffers placing
    rw [unplaced]
    refine ⟨⟨upload, _, buffers, named, ?_⟩, fun _ _ => ?_, nofun⟩
    · rw [placing]
      exact ⟨rfl, workers⟩
    · rw [gateway]
      exact gains
  | ok addresses =>
    have sturdy' : placed.Sturdy := sturdy.of_same workers transport (by rw [gateway])
    obtain ⟨spread, stays, gone⟩ := leaves_placed sturdy' absent
      (by rw [gateway]; exact replaced) (by rw [gateway]; exact holds)
      (by rw [gateway]; exact named) (placed_of_callOwner placing).1.distinct
    rw [upload_of_placed buffers placing]
    refine ⟨⟨upload, _, buffers, named, ?_⟩, fun e failed => ?_, gone⟩
    · rw [placing]
      exact ⟨workers, spread⟩
    · rw [stays e failed, gateway]
      exact gains

/-- The trio with its workers registered, but only one of them reachable. -/
def lonelyTrio : Cluster :=
  { trio with
    masters := [readyMaster]
    workers := ["a", "b", "c"].map fun address =>
      { freshWorker address with reachable := address == "a" } }

/-- If the size is told again after two bytes, these are left in the scratch folder.  All three
bytes are left there when a worker cannot be reached, and the worker before it has its copy. -/
theorem uploads_of_lonelyTrio :
    (∃ after, Cluster.upload [.ok (.info 3), .ok (.chunk [1, 2]), .ok (.info 3)] lonelyTrio
          = (.error ⟨.invalidArgument, "blob info sent more than once"⟩, after)
        ∧ after.masters = lonelyTrio.masters ∧ after.workers = lonelyTrio.workers
        ∧ lonelyTrio.gateway.volume.Gains after.gateway.volume ["s"] [1, 2])
      ∧ ∃ e after, Cluster.upload parcel lonelyTrio = (.error e, after) ∧ e.kind = .cancelled
        ∧ after.Secured "743e13ee0c4ee5a5" "a" [1, 2, 3]
        ∧ lonelyTrio.gateway.volume.Gains after.gateway.volume ["s"] [1, 2, 3] := by
  have sturdy : lonelyTrio.Sturdy := by
    refine ⟨fun worker mem => ?_, fun _ _ => .inl rfl⟩
    obtain ⟨address, -, rfl⟩ := List.mem_map.1 mem
    exact Volume.sound_blank.makeFolders [address]
  obtain ⟨top, ready⟩ : ∃ top, lonelyTrio.gateway.scratch.Ready lonelyTrio.gateway.volume top :=
    ChunkStore.ready_of_empty (Volume.sound_blank.makeFolders ["s"]) (by decide +kernel) (by decide)
  have located : lonelyTrio.gateway.volume.locate lonelyTrio.gateway.scratch.root = .ok ["s"] := by
    decide +kernel
  obtain rfl : ["s"] = top := Except.ok.inj (located.symm.trans ready.located)
  have few : lonelyTrio.gateway.volume.entries.rows.length < 2 ^ 48 := by decide +kernel
  constructor
  · obtain ⟨-, rejected, -⟩ := upload_outcomes sturdy ready few
      [.ok (.info 3), .ok (.chunk [1, 2]), .ok (.info 3)]
    obtain ⟨failed, masters, workers, gains⟩ := rejected _ _ (.repeated 3 [[1, 2]] 3 [])
    exact ⟨_, Prod.fst_eq_iff.1 failed, masters, workers, gains⟩
  · obtain ⟨-, -, complete⟩ := upload_outcomes sturdy ready few parcel
    obtain ⟨⟨upload, buffering, buffers, -, placing⟩, gains, -⟩ :=
      complete 3 [1, 2, 3] ⟨by decide, [[1, 2], [3]], rfl, rfl⟩
    have buffers' : atGateway
        (Gateway.bufferIn lonelyTrio.gateway.scratch lonelyTrio.gateway.algorithm parcel) lonelyTrio
          = (.ok bufferedParcel, _) := eq_of_toOption (by decide +kernel)
    obtain ⟨upload_eq, rfl⟩ := Prod.mk.inj (buffers'.symm.trans buffers)
    obtain rfl := Except.ok.inj upload_eq
    rw [callOwner_readyMaster (by decide +kernel) (by decide +kernel) (by decide +kernel)]
      at placing
    obtain ⟨-, spread⟩ := placing
    obtain ⟨failed, -, cancelled, secured, -⟩ := spread.stopped ["a"] "b" ["c"] _ _ rfl
      ⟨_, eq_of_toOption (by decide +kernel), .of_unrouted (by decide +kernel)⟩
    exact ⟨_, _, Prod.fst_eq_iff.1 failed, cancelled, secured "a" List.mem_cons_self,
      gains _ failed⟩

end BlobCluster.Cluster
