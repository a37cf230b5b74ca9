import BlobCluster.Proofs.Action
import BlobCluster.Proofs.Cluster.Guard
import BlobCluster.Cluster.Storage

/-!
# Calls in a guarded cluster

What is kept when nodes call each other directly.  A call of a master keeps a guard that permits it,
and a successful answer is true of the ledger it leaves.  A save at a worker keeps a guard for which
its bytes are good; if it succeeds, the copy is confirmed and backed by exactly these bytes.
-/

namespace BlobCluster.Cluster

variable {α : Type} {guard : Guard} {cluster : Cluster} {i : Nat} {blob : String}

/-! ## Nodes -/

theorem atMaster_of_some {master : Master} (found : cluster.masters[i]? = some master)
    (action : StateM Master (Except Failure α)) :
    atMaster i action cluster = ((action master).1,
      { cluster with masters := cluster.masters.set i (action master).2 }) := by
  unfold atMaster
  simp only [found]
  rfl

theorem atWorker_of_some {worker : Worker} (found : cluster.workers[i]? = some worker)
    (action : StateM Worker (Except Failure α)) :
    atWorker i action cluster = ((action worker).1,
      { cluster with workers := cluster.workers.set i (action worker).2 }) := by
  unfold atWorker
  simp only [found]
  rfl

theorem leaves_atMaster {action : StateM Master (Except Failure α)}
    {post : Except Failure α → Cluster → Prop}
    (absent : cluster.masters[i]? = none → post (.error noNode) cluster)
    (there : ∀ master, cluster.masters[i]? = some master →
      post (action master).1 { cluster with masters := cluster.masters.set i (action master).2 }) :
    Leaves (atMaster i action) cluster post := by
  unfold Leaves atMaster
  cases found : cluster.masters[i]? with
  | none => exact absent found
  | some master => exact there master found

theorem leaves_atWorker {action : StateM Worker (Except Failure α)}
    {post : Except Failure α → Cluster → Prop}
    (absent : cluster.workers[i]? = none → post (.error noNode) cluster)
    (there : ∀ worker, cluster.workers[i]? = some worker →
      post (action worker).1 { cluster with workers := cluster.workers.set i (action worker).2 }) :
    Leaves (atWorker i action) cluster post := by
  unfold Leaves atWorker
  cases found : cluster.workers[i]? with
  | none => exact absent found
  | some worker => exact there worker found

theorem leaves_atGateway {action : Storing α} {post : Except Failure α → Cluster → Prop}
    (h : Leaves action cluster.gateway.volume fun r volume =>
      post r { cluster with gateway := { cluster.gateway with volume } }) :
    Leaves (atGateway action) cluster post := h

theorem atGateway_apply (action : Storing α) (cluster : Cluster) :
    atGateway action cluster = ((action cluster.gateway.volume).1,
      { cluster with gateway :=
        { cluster.gateway with volume := (action cluster.gateway.volume).2 } }) := rfl

theorem leaves_reporting {action : Acting α} {report : Failure → Failure}
    {post : Except Failure α → Cluster → Prop}
    (h : Leaves action cluster fun r after => post (r.mapError report) after) :
    Leaves (reporting report action) cluster post := h

theorem reporting_eq_ok_iff {report : Failure → Failure} {action : Acting α} {a : α}
    {after : Cluster} :
    reporting report action cluster = (.ok a, after) ↔ action cluster = (.ok a, after) := by
  unfold reporting
  rcases action cluster with ⟨e | b, t⟩
  · constructor <;> rintro ⟨⟩
  · exact Iff.rfl

theorem reporting_eq_error_iff {report : Failure → Failure} {action : Acting α} {e : Failure}
    {after : Cluster} :
    reporting report action cluster = (.error e, after)
      ↔ ∃ e', action cluster = (.error e', after) ∧ e = report e' := by
  unfold reporting
  rcases action cluster with ⟨e' | b, t⟩
  · constructor
    · rintro ⟨⟩
      exact ⟨e', rfl, rfl⟩
    · rintro ⟨_, ⟨⟩, rfl⟩
      rfl
  · constructor
    · rintro ⟨⟩
    · rintro ⟨_, ⟨⟩, -⟩

/-! ## Masters -/

theorem callOwner_of_direct (direct : cluster.transport = .direct) {master : Master}
    (found : cluster.masters[cluster.owner blob]? = some master) (call : MasterCall) :
    callOwner blob call cluster = ((master.answer cluster.clock call).1,
      { cluster with
        masters :=
          cluster.masters.set (cluster.owner blob) (master.answer cluster.clock call).2 }) := by
  show callMaster (cluster.owner blob) call cluster = _
  unfold callMaster
  rw [direct]
  unfold atMaster
  simp only [found, direct]

/-- What a call of a master leaves of a guarded cluster.  The answer may be a failure: the guard is
kept all the same, and `tells` is only about answers that went well. -/
structure Called (guard : Guard) (cluster : Cluster) (i : Nat) (call : MasterCall)
    (r : Except Failure call.Answer) (after : Cluster) : Prop where
  guarded : after.Guarded guard
  workers : after.workers = cluster.workers
  gateway : after.gateway = cluster.gateway
  owner : ∀ blob, after.owner blob = cluster.owner blob
  tells : ∀ answer, r = .ok answer → ∃ master, after.masters[i]? = some master
    ∧ call.Says answer master.ledger

namespace Guarded

theorem leaves_callMaster (h : cluster.Guarded guard) {call : MasterCall}
    (permits : cluster.Permits guard i call) :
    Leaves (callMaster i call) cluster (Called guard cluster i call) := by
  unfold Leaves callMaster
  rw [h.direct]
  refine leaves_atMaster (fun _ => ⟨h, rfl, rfl, fun _ => rfl, nofun⟩) fun master found => ?_
  obtain ⟨follows, told⟩ :=
    Master.follows_answer (h.housed master (List.mem_of_getElem? found)) cluster.clock call
  exact ⟨h.setMaster found follows permits, rfl, rfl, fun blob => owner_setMaster _,
    fun answer same => ⟨_, getElem?_set_self_of_some found, told answer same⟩⟩

theorem leaves_callOwner (h : cluster.Guarded guard) {call : MasterCall}
    (permits : cluster.Permits guard (cluster.owner blob) call) :
    Leaves (callOwner blob call) cluster (Called guard cluster (cluster.owner blob) call) :=
  Leaves.get_bind (h.leaves_callMaster permits)

end Guarded

/-! ## Saving -/

/-- If the messages are a complete save, its bytes may stand for the blob.  Messages that are no
complete save are refused by the worker, so nothing has to be asked of them. -/
def GoodSave (guard : Guard) (cluster : Cluster) (i : Nat) (messages : Arriving SaveMessage) :
    Prop :=
  ∀ (worker : Worker) (chunks : List Bytes), cluster.workers[i]? = some worker →
    messages = saveMessages (worker.algorithm.digest chunks.flatten) (chunks.map .ok) →
    guard.good (worker.algorithm.digest chunks.flatten) chunks.flatten

/-- The bytes that a successful save has brought: the owner has confirmed the copy, and the worker
has exactly these bytes. -/
structure Secured (cluster : Cluster) (blob address : String) (content : Bytes) : Prop where
  confirmed : cluster.Confirmed blob address
  backed : cluster.Backed (fun _ bytes => bytes = content) blob address

theorem Backed.mono {good good' : String → Bytes → Prop} {address : String}
    (h : cluster.Backed good blob address) (more : ∀ bytes, good blob bytes → good' blob bytes) :
    cluster.Backed good' blob address := by
  obtain ⟨worker, mem, same, bytes, holds, digest, fine⟩ := h
  exact ⟨worker, mem, same, bytes, holds, digest, more bytes fine⟩

namespace Guarded

/-- A worker saves and has its copy confirmed.  The bytes are on the volume before the owner hears
of the copy, so the confirmation is made where the worker backs the blob, and is permitted whether
the copy is watched or not. -/
theorem leaves_saveAt (h : cluster.Guarded guard) {messages : Arriving SaveMessage}
    (good : cluster.GoodSave guard i messages) :
    Leaves (saveAt i messages) cluster fun r after => after.Guarded guard
      ∧ after.gateway = cluster.gateway
      ∧ (r = .ok () → ∃ worker blob, ∃ chunks : List Bytes, cluster.workers[i]? = some worker
        ∧ messages = saveMessages blob (chunks.map .ok)
        ∧ after.Secured blob worker.address chunks.flatten) := by
  refine Leaves.bind (leaves_atWorker (fun _ => ⟨h, rfl, nofun⟩) fun worker found => ?_)
  have outcome := worker.saveOutcome_save messages (h.sound worker (List.mem_of_getElem? found))
  revert outcome
  generalize worker.save messages = saved
  obtain ⟨e | blob, after⟩ := saved
  · intro kept
    exact ⟨h.setWorker found kept fun _ no => no.elim, rfl, nofun⟩
  · rintro ⟨chunks, arrived, digest, there, kept⟩
    have digest' : after.algorithm.digest chunks.flatten = blob := by
      rw [kept.algorithm]
      exact digest
    have fine : guard.good blob chunks.flatten := by
      subst digest
      exact good worker chunks found arrived
    have backs : after.Backs guard.good blob := ⟨_, there, digest', fine⟩
    have guarded := h.setWorker found kept fun b same _ _ => same ▸ backs
    have mem : after ∈ cluster.workers.set i after :=
      List.mem_iff_getElem?.2 ⟨i, getElem?_set_self_of_some found⟩
    simp only [Except.map, followed_ok]
    refine leaves_reporting ((guarded.leaves_callOwner (.of_confirm fun _ => ?_)).mono ?_)
    · exact ⟨after, mem, rfl, backs⟩
    · intro r last called
      refine ⟨called.guarded, called.gateway, fun confirmed => ?_⟩
      obtain ⟨master, owner, saved⟩ := called.tells () (ok_of_mapError confirmed)
      refine ⟨worker, blob, chunks, found, arrived, ⟨master, ?_, ?_⟩, ?_⟩
      · rw [called.owner]
        exact owner
      · rw [← kept.address]
        exact saved
      · refine ⟨after, ?_, kept.address, _, there, digest', rfl⟩
        rw [called.workers]
        exact mem

theorem leaves_saveOn (h : cluster.Guarded guard) {messages : Arriving SaveMessage}
    (good : cluster.GoodSave guard i messages) :
    Leaves (saveOn i messages) cluster fun r after => after.Guarded guard
      ∧ after.gateway = cluster.gateway
      ∧ (r = .ok () → ∃ worker blob, ∃ chunks : List Bytes, cluster.workers[i]? = some worker
        ∧ messages = saveMessages blob (chunks.map .ok)
        ∧ after.Secured blob worker.address chunks.flatten) := by
  refine Leaves.get_bind ?_
  rw [h.direct]
  exact h.leaves_saveAt good

end Guarded

end BlobCluster.Cluster
