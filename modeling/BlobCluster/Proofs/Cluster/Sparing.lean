import BlobCluster.Proofs.Cluster.Committing
import BlobCluster.Proofs.Cluster.Remote
import BlobCluster.Proofs.Cluster.Shards
import BlobCluster.Proofs.Ledger.Booking
import BlobCluster.Proofs.Master.Hearing
import BlobCluster.Proofs.Master.Retrying

/-!
# A save concerns one address

When a worker is asked to save a blob, it is the only worker that changes, and of the ledgers only
rows about its address do, however the save ends.  If it ends well the copy is secured: the file has
the bytes that were sent and the owner of the blob has confirmed the copy.

This is true however the nodes reach each other, and it is what later saves leave of earlier ones: a
secured copy stays secured while other addresses are tried.
-/

namespace BlobCluster

open Http

/-! ## Confirmations -/

/-- The rows about these workers are the same. -/
def Ledger.KeepsRows (kept : String → Prop) (before after : Ledger) : Prop :=
  ∀ worker, kept worker → (∀ blob, after.copy? blob worker = before.copy? blob worker)
    ∧ after.worker? worker = before.worker? worker

namespace Ledger

variable {kept : String → Prop} {before between after : Ledger}

theorem KeepsRows.refl (ledger : Ledger) : ledger.KeepsRows kept ledger :=
  fun _ _ => ⟨fun _ => rfl, rfl⟩

theorem KeepsRows.trans (h : before.KeepsRows kept between) (h' : between.KeepsRows kept after) :
    before.KeepsRows kept after := by
  refine fun worker mem => ⟨fun blob => ?_, ?_⟩
  · rw [(h' worker mem).1, (h worker mem).1]
  · rw [(h' worker mem).2, (h worker mem).2]

theorem KeepsRows.mono {fewer : String → Prop} (h : before.KeepsRows kept after)
    (less : ∀ worker, fewer worker → kept worker) : before.KeepsRows fewer after :=
  fun worker mem => h worker (less worker mem)

theorem keepsRows_putCopy (ledger : Ledger) (copy : CopyRow) :
    ledger.KeepsRows (· ≠ copy.worker) (ledger.putCopy copy) := by
  refine fun other differs => ⟨fun blob => ?_, rfl⟩
  rw [copy?_putCopy, if_neg fun same => differs same.2.symm]

theorem keepsRows_putWorker (ledger : Ledger) {row : WorkerRow} {worker : String}
    (same : row.address = worker) : ledger.KeepsRows (· ≠ worker) (ledger.putWorker row) := by
  refine fun other differs => ⟨fun blob => rfl, ?_⟩
  rw [worker?_putWorker, if_neg fun here => differs (here.symm.trans same)]

end Ledger

namespace Placement

open Program

/-- Whatever queries of a confirmation fail, it keeps the rows about other workers. -/
theorem keepsRows_confirm {ledger : Ledger} {blob worker : String} :
    (confirm blob worker).Meets true (fun _ after => ledger.KeepsRows (· ≠ worker) after)
      ledger := by
  have unchanged : ledger.KeepsRows (· ≠ worker) ledger := .refl ledger
  cases found : ledger.copy? blob worker with
  | none =>
    refine .query (fun _ _ => unchanged) rfl ?_
    rw [found]
    exact unchanged
  | some copy =>
    obtain ⟨-, rfl, rfl⟩ := Ledger.copy?_eq_some_iff.1 found
    refine .of_posed ((posed_confirm found).weaken ?_) (settled_confirm.mono ?_)
    · rintro q before _ (rfl | ⟨-, -, rfl⟩)
      · exact unchanged
      · exact ledger.keepsRows_putCopy { copy with state := .saved }
    · intro r after settled
      cases settled with
      | missing => exact unchanged
      | already => exact unchanged
      | short => exact unchanged
      | spent found' pending current =>
        cases found.symm.trans found'
        have here := Ledger.address_of_worker? current
        exact (ledger.keepsRows_putCopy { copy with state := .saved }).trans
          (Ledger.keepsRows_putWorker _ here)

end Placement

namespace Master

variable {master : Master} {now : Int64} {blob worker : String}

theorem keepsRows_confirm (master : Master) (now : Int64) (blob worker : String) :
    master.ledger.KeepsRows (· ≠ worker) (master.answer now (.confirm blob worker)).2.ledger :=
  master.answer_of_meets now (.confirm blob worker) (fun _ => .refl _) Placement.keepsRows_confirm

theorem saved_of_confirm (confirmed : (master.answer now (.confirm blob worker)).1 = .ok ()) :
    (master.answer now (.confirm blob worker)).2.ledger.Saved blob worker := by
  have settled : (MasterCall.program now (.confirm blob worker)).Meets true
      (fun r after => r = .ok () → after.Saved blob worker) master.ledger := by
    refine Placement.settled_confirm.answering.mono fun r after ended succeeded => ?_
    cases ended () succeeded with
    | already found saved => exact ⟨_, found, saved⟩
    | spent found pending current locked available =>
      obtain ⟨-, rfl, rfl⟩ := Ledger.copy?_eq_some_iff.1 found
      exact (Ledger.saved_putCopy_of_saved rfl).2 (.inl ⟨rfl, rfl⟩)
  exact master.answer_of_meets now (.confirm blob worker) (fun _ => nofun) settled confirmed

end Master

namespace Cluster

variable {cluster between after : Cluster} {i : Nat} {worker later : Worker} {master told : Master}
  {blob address : String} {addresses : List String} {content : Bytes} {upload : Buffered}
  {place : Path} {tried tried' : String → Prop}

/-! ## What is spared -/

/-- Only workers with the addresses that were tried have changed, and only rows about them; the
gateway and its files have not. -/
structure Spares (tried : String → Prop) (cluster after : Cluster) : Prop where
  gateway : after.gateway = cluster.gateway
  shards : after.masters.length = cluster.masters.length
  workers : ∀ (i : Nat) (worker : Worker), cluster.workers[i]? = some worker →
    ¬ tried worker.address → after.workers[i]? = some worker
  ledgers : ∀ (i : Nat) (master : Master), cluster.masters[i]? = some master →
    ∃ told : Master, after.masters[i]? = some told ∧ master.ledger.KeepsRows (¬ tried ·) told.ledger

namespace Spares

theorem refl (cluster : Cluster) : cluster.Spares tried cluster :=
  ⟨rfl, rfl, fun _ _ found _ => found, fun _ master found => ⟨master, found, .refl _⟩⟩

theorem trans (h : cluster.Spares tried between) (h' : between.Spares tried after) :
    cluster.Spares tried after where
  gateway := h'.gateway.trans h.gateway
  shards := h'.shards.trans h.shards
  workers i worker found untried := h'.workers i worker (h.workers i worker found untried) untried
  ledgers i master found := by
    obtain ⟨told, there, kept⟩ := h.ledgers i master found
    obtain ⟨last, there', kept'⟩ := h'.ledgers i told there
    exact ⟨last, there', kept.trans kept'⟩

theorem mono (h : cluster.Spares tried after) (more : ∀ address, tried address → tried' address) :
    cluster.Spares tried' after where
  gateway := h.gateway
  shards := h.shards
  workers i worker found untried := h.workers i worker found fun was => untried (more _ was)
  ledgers i master found := by
    obtain ⟨told, there, kept⟩ := h.ledgers i master found
    exact ⟨told, there, kept.mono fun address untried was => untried (more address was)⟩

theorem setWorker (found : cluster.workers[i]? = some worker) (attempted : tried worker.address) :
    cluster.Spares tried { cluster with workers := cluster.workers.set i later } where
  gateway := rfl
  shards := rfl
  workers j other there untried := by
    rw [getElem?_set_of_some found]
    split
    next here =>
      rw [← here, found] at there
      cases there
      exact absurd attempted untried
    next => exact there
  ledgers _ master there := ⟨master, there, .refl _⟩

theorem setMaster (found : cluster.masters[i]? = some master)
    (kept : master.ledger.KeepsRows (¬ tried ·) told.ledger) :
    cluster.Spares tried { cluster with masters := cluster.masters.set i told } where
  gateway := rfl
  shards := List.length_set
  workers _ _ there _ := there
  ledgers j other there := by
    rw [getElem?_set_of_some found]
    split
    next here =>
      rw [← here, found] at there
      cases there
      exact ⟨told, rfl, kept⟩
    next => exact ⟨other, there, .refl _⟩

/-- On an address that is not tried as much is confirmed as before.  Both directions are needed: an
upload neither loses copies elsewhere nor makes any. -/
theorem confirmed_iff (h : cluster.Spares tried after) (untried : ¬ tried address) :
    after.Confirmed blob address ↔ cluster.Confirmed blob address := by
  have owner : after.owner blob = cluster.owner blob := by
    rw [Cluster.owner, Cluster.owner, h.shards]
  constructor
  · rintro ⟨told, there, copy, found, saved⟩
    rw [owner] at there
    have inside : cluster.owner blob < cluster.masters.length :=
      h.shards ▸ (List.getElem?_eq_some_iff.1 there).1
    obtain ⟨told', there', kept⟩ := h.ledgers _ _ (List.getElem?_eq_getElem inside)
    cases there.symm.trans there'
    rw [(kept address untried).1] at found
    exact ⟨_, List.getElem?_eq_getElem inside, copy, found, saved⟩
  · rintro ⟨master, there, copy, found, saved⟩
    obtain ⟨told, there', kept⟩ := h.ledgers _ master there
    rw [← owner] at there'
    rw [← (kept address untried).1] at found
    exact ⟨told, there', copy, found, saved⟩

/-- A copy on an address that is not tried stays secured. -/
theorem secured (h : cluster.Spares tried after) (untried : ¬ tried address)
    (secured : cluster.Secured blob address content) : after.Secured blob address content := by
  obtain ⟨confirmed, worker, mem, same, backs⟩ := secured
  obtain ⟨i, found⟩ := List.mem_iff_getElem?.1 mem
  exact ⟨(h.confirmed_iff untried).2 confirmed, worker,
    List.mem_of_getElem? (h.workers i worker found (same ▸ untried)), same, backs⟩

end Spares

theorem confirmed_of_same (masters : after.masters = cluster.masters) :
    after.Confirmed blob address ↔ cluster.Confirmed blob address := by
  unfold Confirmed owner
  rw [masters]

/-- Whether a copy is secured depends on masters and workers only. -/
theorem Secured.of_same (h : cluster.Secured blob address content)
    (masters : after.masters = cluster.masters) (workers : after.workers = cluster.workers) :
    after.Secured blob address content where
  confirmed := (confirmed_of_same masters).2 h.confirmed
  backed := by
    unfold Backed
    rw [workers]
    exact h.backed

/-! ## Confirming a copy -/

/-- However masters are reached, a call that is posted is made as it stands or not at all. -/
theorem relayed_heard (cluster : Cluster) {call : MasterCall} (posted : ∀ base, call.Posted base)
    (master : Master) :
    Relayed master (master.answer cluster.clock call) (cluster.heard call master) := by
  unfold heard
  cases cluster.transport with
  | direct => exact .answered
  | through link => exact (posted _).relayed link _ master

/-- A confirmation concerns its address, and if it succeeds the copy is confirmed.  It holds over
any link, up or down, and for an owner that is not there: an answer that is heard was made, and one
that is made concerns only rows of its address. -/
theorem leaves_confirm (cluster : Cluster) (blob address : String) :
    Leaves (callOwner blob (.confirm blob address)) cluster fun r after =>
      cluster.Spares (· = address) after ∧ after.workers = cluster.workers
        ∧ after.transport = cluster.transport ∧ (r = .ok () → after.Confirmed blob address) := by
  unfold Leaves
  cases found : cluster.masters[cluster.owner blob]? with
  | none =>
    rw [callOwner_of_none found]
    exact ⟨.refl cluster, rfl, rfl, nofun⟩
  | some master =>
    have kept := master.keepsRows_confirm cluster.clock blob address
    have relayed := cluster.relayed_heard (MasterCall.posted_confirm blob address) master
    rw [callOwner_of_some found]
    revert relayed
    generalize cluster.heard (.confirm blob address) master = heard
    intro relayed
    cases relayed with
    | unmade e => exact ⟨.setMaster found (.refl _), rfl, rfl, nofun⟩
    | failed e => exact ⟨.setMaster found kept, rfl, rfl, nofun⟩
    | answered =>
      refine ⟨.setMaster found kept, rfl, rfl, fun confirmed => ?_⟩
      refine ⟨_, ?_, Master.saved_of_confirm confirmed⟩
      rw [owner_setMaster]
      exact getElem?_set_self_of_some found

/-! ## Saving at a worker -/

/-- What a cluster has that was put together from nodes.  The volumes of its workers are sound, and
what is put to a worker over a link as a blob arrives there under the name of that blob.  Since
blobs are named by digests, which mean nothing else in an address, it is enough for the latter that
the address of the worker ends with its host and port.  Behind an address with a path or a fragment
of its own the blob would get another name; then it is enough that the worker digests like the
gateway, for it refuses bytes that have another digest than they are named by. -/
structure Sturdy (cluster : Cluster) : Prop where
  sound : ∀ worker ∈ cluster.workers, worker.volume.Sound
  straight : ∀ worker ∈ cluster.workers, cluster.transport = .direct
    ∨ Address.IsHost (baseOf worker.address) ∨ worker.algorithm = cluster.gateway.algorithm

namespace Sturdy

theorem setWorker (sturdy : cluster.Sturdy) (found : cluster.workers[i]? = some worker)
    (sound : later.volume.Sound) (address : later.address = worker.address)
    (algorithm : later.algorithm = worker.algorithm) :
    Sturdy { cluster with workers := cluster.workers.set i later } where
  sound other mem := by
    rcases List.mem_or_eq_of_mem_set mem with mem | rfl
    · exact sturdy.sound other mem
    · exact sound
  straight other mem := by
    rcases List.mem_or_eq_of_mem_set mem with mem | rfl
    · exact sturdy.straight other mem
    · rw [address, algorithm]
      exact sturdy.straight worker (List.mem_of_getElem? found)

theorem of_same (sturdy : cluster.Sturdy) (workers : after.workers = cluster.workers)
    (transport : after.transport = cluster.transport)
    (algorithm : after.gateway.algorithm = cluster.gateway.algorithm) : after.Sturdy where
  sound := workers ▸ sturdy.sound
  straight := by
    rw [workers, transport, algorithm]
    exact sturdy.straight

end Sturdy

/-- A worker that is asked to save a blob is the only one concerned, and if it succeeds its copy is
secured. -/
theorem leaves_saveAt (sturdy : cluster.Sturdy) (found : cluster.workers[i]? = some worker)
    (blob : String) (chunks : List Bytes) :
    Leaves (saveAt i (saveMessages blob (chunks.map .ok))) cluster fun r after =>
      cluster.Spares (· = worker.address) after ∧ after.Sturdy
        ∧ (r = .ok () → worker.algorithm.digest chunks.flatten = blob
          ∧ after.Secured blob worker.address chunks.flatten) := by
  have outcome := worker.saveOutcome_save (saveMessages blob (chunks.map .ok))
    (sturdy.sound worker (List.mem_of_getElem? found))
  rcases saved : worker.save (saveMessages blob (chunks.map .ok)) with ⟨e | stored, later⟩
  · rw [saved] at outcome
    unfold Leaves
    rw [saveAt_of_refused found saved]
    exact ⟨.setWorker found rfl,
      sturdy.setWorker found outcome.sound outcome.address outcome.algorithm, nofun⟩
  · rw [saved] at outcome
    obtain ⟨chunks', arrived, digest, there, kept⟩ := outcome
    obtain ⟨rfl, rfl⟩ := saveMessages_inj arrived
    unfold Leaves
    rw [saveAt_of_stored found saved, kept.address]
    obtain ⟨spares, workers, transport, confirmed⟩ :=
      leaves_confirm { cluster with workers := cluster.workers.set i later } blob worker.address
    have sturdy' := sturdy.setWorker found kept.sound kept.address kept.algorithm
    have changed : cluster.Spares (· = worker.address)
        { cluster with workers := cluster.workers.set i later } := .setWorker found rfl
    refine ⟨changed.trans spares,
      sturdy'.of_same workers transport (congrArg Gateway.algorithm spares.gateway),
      fun succeeded => ⟨digest, confirmed (ok_of_mapError succeeded), later, ?_, kept.address, _,
        there, ?_, rfl⟩⟩
    · show later ∈ Cluster.workers (callOwner _ _ _).2
      rw [workers]
      exact List.mem_of_getElem? (getElem?_set_self_of_some found)
    · rw [kept.algorithm]
      exact digest

/-! ## Saving from afar -/

/-- The name in the path of a blob is what its segment stands for. -/
theorem named?_of_endpoint {path : List String} {segment : String}
    (reached : StorageEndpoint.of? path = some (.blob segment)) :
    BlobId.named? path = segmentValue? segment := by
  unfold StorageEndpoint.of? at reached
  split at reached
  · cases reached
  · cases reached
  · split at reached
    next => cases reached
    next present =>
      cases reached
      rw [BlobId.named?, if_neg present]
  · cases reached

/-- What is put to a worker it refuses, or it saves the pieces under the name in the path.  Nothing
is assumed of the name, so this covers the ids that do not survive the way: the worker then saves
under another name than the sender had in mind. -/
theorem respondAt_put {request : Request} (put : request.method = "PUT") (i : Nat)
    (cluster : Cluster) :
    (∃ response, Status.isSuccess response.status = false
        ∧ respondAt i request cluster = (response, cluster))
      ∨ ∃ blob, BlobId.named? (segments request.target) = some blob
        ∧ respondAt i request cluster
          = responding (saveAt i (saveMessages blob (bodyChunks request))) (fun () => .bare 201)
            cluster := by
  have noHead : (request.method == "HEAD") = false := by
    rw [put]
    decide
  have noGet : isGet request = false := by
    rw [isGet, put]
    decide
  unfold respondAt
  cases reached : StorageEndpoint.of? (segments request.target) with
  | none => exact .inl ⟨notFound, rfl, rfl⟩
  | some endpoint =>
    simp only [forMethod, noHead]
    show (∃ response, _ ∧ serveStorage i request endpoint cluster = _)
      ∨ ∃ blob, _ ∧ serveStorage i request endpoint cluster = _
    cases endpoint with
    | health =>
      rw [serveStorage, noGet]
      exact .inl ⟨wrongMethod, rfl, rfl⟩
    | freeStorage =>
      rw [serveStorage, noGet]
      exact .inl ⟨wrongMethod, rfl, rfl⟩
    | blob segment =>
      rw [serveStorage, noGet, put, if_neg Bool.false_ne_true, if_pos (by decide), withSegment,
        named?_of_endpoint reached]
      cases segmentValue? segment with
      | none => exact .inl ⟨badSegment, rfl, rfl⟩
      | some blob => exact .inr ⟨blob, rfl, rfl⟩

/-- The chunks of a save are the pieces of the body that is sent, and arrive as chunks again. -/
theorem pieces_of_chunks (chunks : List Bytes) :
    Worker.pieces (chunks.map fun chunk => .ok (.chunk chunk)) = chunks.map .ok := by
  induction chunks with
  | nil => rfl
  | cons chunk rest ih => exact congrArg (Except.ok chunk :: ·) ih

/-- However workers are reached, a save under a digest is made as it stands or not at all.  Only
behind an address that does not end with its host and port it may be made under another name. -/
theorem relayed_saveOn (found : cluster.workers[i]? = some worker) (algorithm : Digest.Algorithm)
    (content : Bytes) (chunks : List Bytes) :
    ∃ name, (cluster.transport = .direct ∨ Address.IsHost (baseOf worker.address) →
        name = algorithm.digest content)
      ∧ Relayed cluster (saveAt i (saveMessages name (chunks.map .ok)) cluster)
        (saveOn i (saveMessages (algorithm.digest content) (chunks.map .ok)) cluster) := by
  cases transport : cluster.transport with
  | direct =>
    refine ⟨_, fun _ => rfl, ?_⟩
    rw [saveOn_of_direct transport]
    exact .answered
  | through link =>
    let draft : Draft := ⟨"PUT",
      Worker.blobAddress (baseOf worker.address) (algorithm.digest content), [], chunks.map .ok⟩
    have drafted : Worker.saveDraft (baseOf worker.address)
        (saveMessages (algorithm.digest content) (chunks.map .ok)) = .ok draft := by
      rw [saveMessages_ok, Worker.saveDraft, pieces_of_chunks]
    rw [saveOn_of_link transport found drafted]
    rcases send_cases link draft (respondAt i) cluster with ⟨e, unsent⟩ | ⟨address, read, sent⟩
    · rw [unsent]
      exact ⟨_, fun _ => rfl, .unmade e⟩
    have whole : arrivesWhole draft.body = true := by
      show (chunks.map Except.ok).all _ = true
      simp
    rw [whole, if_pos rfl] at sent
    rw [sent]
    rcases @respondAt_put (draft.request address) rfl i cluster with
      ⟨response, refused, answered⟩ | ⟨name, named, made⟩
    · obtain ⟨e, failed⟩ := check_of_not_success refused
      rw [answered]
      simp only [failed]
      exact ⟨_, fun _ => rfl, .unmade e⟩
    · have arrived : bodyChunks (draft.request address) = chunks.map .ok := by
        show (chunks.map Except.ok).map _ = _
        rw [List.map_map]
        rfl
      rw [arrived] at made
      rw [made]
      refine ⟨name, ?_, relayed_check_bare (by decide) cluster
        (saveAt i (saveMessages name (chunks.map .ok)) cluster)⟩
      rintro (direct | host)
      · cases direct
      · rcases BlobId.named?_digest host algorithm content read with none_ | same
        · exact absurd (none_.symm.trans named) nofun
        · exact Option.some.inj (named.symm.trans same)

/-- A worker that is called to save a blob is the only one concerned, and if the call succeeds its
copy is secured.  Over a link the worker may read another name than was sent.  It saves under that
name only what digests to it, so one of the ways in which a cluster is straight makes it the same
name. -/
theorem leaves_saveOn (sturdy : cluster.Sturdy) (found : cluster.workers[i]? = some worker)
    {chunks : List Bytes} (named : blob = cluster.gateway.algorithm.digest chunks.flatten) :
    Leaves (saveOn i (saveMessages blob (chunks.map .ok))) cluster fun r after =>
      cluster.Spares (· = worker.address) after ∧ after.Sturdy
        ∧ (r = .ok () → after.Secured blob worker.address chunks.flatten) := by
  subst named
  obtain ⟨name, same, relayed⟩ :=
    relayed_saveOn found cluster.gateway.algorithm chunks.flatten chunks
  obtain ⟨spares, sturdy', secured⟩ := leaves_saveAt sturdy found name chunks
  unfold Leaves
  revert relayed spares sturdy' secured
  generalize saveOn i (saveMessages _ (chunks.map .ok)) cluster = heard
  generalize saveAt i (saveMessages name (chunks.map .ok)) cluster = made
  intro relayed spares sturdy' secured
  cases relayed with
  | unmade e => exact ⟨.refl cluster, sturdy, nofun⟩
  | failed e => exact ⟨spares, sturdy', nofun⟩
  | answered =>
    refine ⟨spares, sturdy', fun succeeded => ?_⟩
    obtain ⟨digest, secured⟩ := secured succeeded
    have equal : name = cluster.gateway.algorithm.digest chunks.flatten := by
      rcases sturdy.straight worker (List.mem_of_getElem? found) with direct | host | alike
      · exact same (.inl direct)
      · exact same (.inr host)
      · rw [← digest, alike]
    exact equal ▸ secured

/-! ## Saving at addresses -/

/-- An upload that is saved on an address concerns no other, and if it succeeds the copy is
secured. -/
theorem leaves_saveCopy (sturdy : cluster.Sturdy)
    (holds : upload.file.Holds cluster.gateway.volume place content)
    (named : upload.blob = cluster.gateway.algorithm.digest content) (address : String) :
    Leaves (saveCopy upload address) cluster fun r after =>
      cluster.Spares (· = address) after ∧ after.Sturdy
        ∧ (r = .ok () → after.Secured upload.blob address content) := by
  refine Leaves.bind (leaves_reporting ((cluster.leaves_connect address).mono ?_))
  rintro (e | i) _ ⟨rfl, way⟩
  · exact ⟨.refl _, sturdy, nofun⟩
  obtain ⟨worker, found, rfl⟩ := of_route? (way i rfl)
  simp only [followed_mapError_ok]
  obtain ⟨unbroken, bytes⟩ := holds.stream
  refine Leaves.get_bind (leaves_reporting ?_)
  rw [ChunkStream.arriving_of_failure unbroken]
  refine (leaves_saveOn sturdy found (bytes.symm ▸ named)).mono ?_
  rintro r after ⟨spares, sturdy', secured⟩
  exact ⟨spares, sturdy', fun succeeded => bytes ▸ secured (ok_of_mapError succeeded)⟩

theorem leaves_saveCopies (sturdy : cluster.Sturdy)
    (holds : upload.file.Holds cluster.gateway.volume place content)
    (named : upload.blob = cluster.gateway.algorithm.digest content) (distinct : addresses.Nodup) :
    Leaves (saveCopies upload addresses) cluster fun r after =>
      cluster.Spares (· ∈ addresses) after ∧ after.Sturdy
        ∧ (r = .ok () → ∀ address ∈ addresses, after.Secured upload.blob address content) := by
  induction addresses generalizing cluster with
  | nil => exact ⟨.refl _, sturdy, fun _ _ mem => nomatch mem⟩
  | cons address rest ih =>
    obtain ⟨new, distinct⟩ := List.nodup_cons.1 distinct
    refine Leaves.bind ((leaves_saveCopy sturdy holds named address).mono ?_)
    rintro (e | _) between ⟨spares, sturdy, secured⟩
    · exact ⟨spares.mono fun _ same => same ▸ List.mem_cons_self, sturdy, nofun⟩
    have kept := spares.gateway
    rw [followed_ok]
    refine (ih sturdy (kept ▸ holds) (kept ▸ named) distinct).mono ?_
    rintro r after ⟨spares', sturdy', secured'⟩
    refine ⟨(spares.mono fun _ same => same ▸ List.mem_cons_self).trans
      (spares'.mono fun _ => List.mem_cons_of_mem _), sturdy', fun succeeded other mem => ?_⟩
    rcases List.mem_cons.1 mem with rfl | mem
    · exact spares'.secured new (secured rfl)
    · exact secured' succeeded other mem

end Cluster

end BlobCluster
