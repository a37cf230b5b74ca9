import BlobCluster.Proofs.Cluster.Downloading
import BlobCluster.Proofs.Cluster.Verified

/-!
# What was uploaded is downloaded

An upload that succeeds has its bytes confirmed and backed on every worker of its placement.  As
long as nobody deletes the blob, registers a holder afresh, speaks past the gateway about the blob,
or saves other bytes with the same digest, at least one copy stays confirmed and every confirmed
copy is backed by these bytes, whatever else is done and fails.  A download in clear weather then
gives them back.
-/

namespace BlobCluster

/-- An operation that does not touch a blob with this content: it does not delete the blob, makes no
statement about it to a single node, brings no other bytes with its digest, and registers only
workers that are not registered. -/
def Operation.Spares (blob : String) (content : Bytes) (cluster : Cluster) : Operation → Prop
  | .upload messages => ∀ size (chunks : List Bytes),
    messages = uploadMessages size (chunks.map .ok) →
      cluster.gateway.algorithm.digest chunks.flatten = blob → chunks.flatten = content
  | .save i messages => ∀ (worker : Worker) (chunks : List Bytes),
    cluster.workers[i]? = some worker → messages = saveMessages blob (chunks.map .ok) →
      worker.algorithm.digest chunks.flatten = blob → chunks.flatten = content
  | .delete other | .remove _ other | .tell _ (.forget other) | .tell _ (.confirm other _) =>
    other ≠ blob
  | .tell i (.register address _) => ∀ master, cluster.masters[i]? = some master →
    master.ledger.worker? address = none
  | .download _ | .read _ _ | .health _ | .freeStorage _ | .tell _ .health | .tell _ (.place _ _)
  | .tell _ (.locate _) => True

namespace Cluster

variable {cluster : Cluster} {blob : String} {content : Bytes}

def idle (cluster : Cluster) : Guard where
  watched := fun _ _ => False
  good := fun _ _ => True
  strict := False
  pinned := fun _ _ => False
  algorithm := cluster.gateway.algorithm
  addresses := cluster.workers.map (·.address)

/-- Nothing is watched, and only this content may stand for the blob. -/
def expecting (cluster : Cluster) (blob : String) (content : Bytes) : Guard :=
  { cluster.idle with good := fun other bytes => other = blob → bytes = content }

theorem Guarded.expecting {here : Cluster} (h : here.Guarded cluster.idle) (blob : String)
    (content : Bytes) : here.Guarded (cluster.expecting blob content) :=
  { h with backed := fun _ _ no => no.elim }

theorem safe_idle (here : Cluster) (operation : Operation) : operation.Safe cluster.idle here := by
  cases operation with
  | upload messages =>
    intro size chunks arrived
    trivial
  | save i messages =>
    intro worker chunks found arrived
    trivial
  | delete blob =>
    intro address pinned
    exact pinned
  | remove i blob =>
    intro address watched
    exact watched
  | tell i call =>
    constructor
    · intro blob address gained
      exact ⟨False.elim, False.elim⟩
    · intro blob address pinned
      exact pinned.elim
  | _ => trivial

/-- A call that spares a blob may be made of every master where copies of the blob are watched and
one is pinned.  A registration drops the copies of its worker; it is excluded for workers that are
registered already, and a worker that is not has no copy. -/
theorem permits_of_spares {here : Cluster} {i : Nat} {call : MasterCall} {address : String}
    (h : here.Guarded ((cluster.expecting blob content).keep blob address))
    (spares : (Operation.tell i call).Spares blob content here) :
    here.Permits ((cluster.expecting blob content).keep blob address) i call := by
  cases call with
  | confirm other worker =>
    constructor
    · rintro _ _ ⟨rfl, rfl⟩
      refine ⟨False.elim, ?_⟩
      rintro (no | rfl)
      · exact no.elim
      · exact absurd rfl spares
    · intro blob address pinned lost
      exact lost.elim
  | forget other =>
    constructor
    · intro blob address gained
      exact gained.elim
    · rintro _ _ (no | ⟨rfl, rfl⟩) rfl
      · exact no.elim
      · exact absurd rfl spares
  | register fresh available =>
    constructor
    · intro blob address gained
      exact gained.elim
    · -- A worker that is not registered has no copy that could be dropped.
      rintro _ _ - rfl master found ⟨copy, there, -⟩
      have housed := h.housed master (List.mem_of_getElem? found) _ _ copy there
      rw [spares master found] at housed
      cases housed
  | _ => exact .of_quiet (fun _ _ => id) (fun _ _ => id)

/-- What spares a blob is safe where its copies are watched and one is pinned. -/
theorem safe_of_spares {address : String} (here : Cluster) (operation : Operation)
    (h : here.Guarded ((cluster.expecting blob content).keep blob address))
    (spares : operation.Spares blob content here) :
    operation.Safe ((cluster.expecting blob content).keep blob address) here := by
  cases operation with
  | upload messages =>
    intro size chunks arrived named
    apply spares size chunks arrived
    rw [h.algorithm]
    exact named
  | save i messages =>
    intro worker chunks found arrived named
    rw [named] at arrived
    exact spares worker chunks found arrived named
  | delete other =>
    rintro a (no | ⟨rfl, -⟩)
    · exact no
    · exact spares rfl
  | remove i other =>
    rintro a (no | rfl)
    · exact no
    · exact spares rfl
  | tell i call => exact permits_of_spares h spares
  | _ => trivial

/-- From any state that an assembled cluster can come to: an upload that succeeds answers the digest
of its bytes, and after everything that spares the blob a download in clear weather gives exactly
these bytes and does not fail.

The guard changes on the way.  Before the upload nothing is watched, which any run keeps; the upload
comes back with a guard that watches every copy of the blob, takes nothing but these bytes for it
and pins one confirmed copy; and to spare the blob is just what keeps this guard until the download.
Addresses are distinct because the gateway reaches only the last of several workers with one. -/
theorem download_of_upload (assembled : cluster.Assembled)
    (distinct : (cluster.workers.map (·.address)).Nodup) (before : List (Weather × Operation))
    (weather : Weather) {size : UInt64} {chunks : List Bytes} {stored : Cluster}
    (uploaded : upload (uploadMessages size (chunks.map .ok)) ((cluster.after before).under weather)
      = (.ok blob, stored)) :
    blob = cluster.gateway.algorithm.digest chunks.flatten
      ∧ ∀ later, stored.Throughout (Operation.Spares blob chunks.flatten) later →
        ∀ clock purge, ∃ stream,
          (download blob ((stored.after later).under (.clear clock purge))).1 = .ok stream
            ∧ stream.failure = none ∧ stream.bytes = chunks.flatten := by
  have start : cluster.Guarded cluster.idle := assembled.guarded rfl rfl fun _ _ => id
  have reached : (cluster.after before).Guarded cluster.idle :=
    start.after (fun here operation _ _ => safe_idle here operation)
      (.of_forall fun _ _ _ => trivial : cluster.Throughout (fun _ _ => True) before)
  have outcome := ((reached.under weather).expecting blob chunks.flatten).leaves_upload
    fun size' chunks' (same : uploadMessages size (chunks.map .ok) = _) _ => by
      rw [(uploadMessages_inj same).2]
  unfold Leaves at outcome
  rw [uploaded] at outcome
  obtain ⟨-, answered⟩ := outcome
  obtain ⟨size', chunks', same, named, address, kept⟩ := answered blob rfl
  obtain ⟨rfl, rfl⟩ := uploadMessages_inj same
  refine ⟨named, fun later spared clock purge => ?_⟩
  have guarded := (kept.after safe_of_spares spared).under (.clear clock purge)
  refine guarded.leaves_download_of_confirmed (calm_under _ clock purge) distinct ?_
    (fun _ => .inr rfl) (fun bytes good => good rfl) (guarded.pinned blob address (.inr ⟨rfl, rfl⟩))
  rw [named]
  exact Digest.valid_digest _ _

/-- The trio gives the three bytes back after another blob was deleted and purged, a save broke off,
and the three bytes were uploaded again. -/
theorem download_of_parcel :
    ∃ stored, upload parcel readyTrio = (.ok "743e13ee0c4ee5a5", stored)
      ∧ ∀ clock purge, ∃ stream,
        (download "743e13ee0c4ee5a5" ((stored.after [(.clear 0 true, .delete "other"),
          (.clear 0 true, .save 0 [.ok (.blob "743e13ee0c4ee5a5"), .error ⟨.io, "reset"⟩]),
          (.clear 0 true, .upload parcel)]).under (.clear clock purge))).1 = .ok stream
        ∧ stream.failure = none ∧ stream.bytes = [1, 2, 3] := by
  obtain ⟨stored, uploaded⟩ := upload_parcel
  have again := (download_of_upload assembled_trio (by decide) registrations (.clear 0 false)
    uploaded).2
  refine ⟨stored, uploaded, again _ ⟨?_, ?_, ?_, trivial⟩⟩
  · show "other" ≠ "743e13ee0c4ee5a5"
    decide
  · intro worker chunks _ broken
    rw [saveMessages_ok] at broken
    cases chunks <;> cases broken
  · intro size chunks same _
    rw [← (uploadMessages_inj same).2]

end Cluster

end BlobCluster
