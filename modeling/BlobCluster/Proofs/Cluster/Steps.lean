import BlobCluster.Proofs.Cluster.Calls
import BlobCluster.Proofs.Cluster.Operations
import BlobCluster.Proofs.Gateway.Buffering
import BlobCluster.Proofs.Worker.Tidy

/-!
# Operations are made of steps

Whatever is asked of a cluster, and however its nodes reach each other, it comes down to steps of
single nodes: the owner of a blob is called about it, a worker is called, the gateway does something
with its scratch files.  A relation between clusters is `Stepwise` if every such step is in it and
steps can be put together.  Actions are made of actions, so every operation is then in the relation
(`Stepwise.effect`), with no word about the order in which it calls the nodes.  A call that is made
of a master from outside may go to any of them, so `Stepwise.effect` asks for it separately.
-/

namespace BlobCluster

/-- The blob that a call of a master is about. -/
def MasterCall.blob? : MasterCall → Option String
  | .place blob _ | .locate blob | .confirm blob _ | .forget blob => some blob
  | .health | .register _ _ => none

namespace Cluster

open Http

variable {α β : Type} {R : Cluster → Cluster → Prop}

/-- The action touches only files, and makes or removes no folder. -/
def OnFiles (action : Storing α) : Prop :=
  ∀ volume, volume.Sound → Leaves action volume fun _ after =>
    ∃ touched, volume.Keeps after touched

theorem onFiles_bufferIn (scratch : ChunkStore) (algorithm : Digest.Algorithm)
    (messages : Arriving UploadMessage) :
    OnFiles (Gateway.bufferIn scratch algorithm messages) :=
  fun _ sound => (Gateway.leaves_bufferIn messages sound).mono fun _ _ outcome => outcome.1

theorem onFiles_remove (file : ChunkFile) : OnFiles file.remove :=
  fun _ sound => file.keeps_remove sound

/-- Every step of a node is in the relation, and so is what steps come to.  A cluster does nothing
that is not made of such steps, so a relation of this kind holds from one end of a run to the other
(`Stepwise.after`); what a master is told from outside is left to whoever uses it, because some
results allow only certain calls. -/
structure Stepwise (R : Cluster → Cluster → Prop) : Prop where
  refl : ∀ cluster, R cluster cluster
  trans : ∀ {cluster between after}, R cluster between → R between after → R cluster after
  called : ∀ {blob : String} {call : MasterCall}, call.blob? = some blob →
    ∀ cluster, Leaves (callOwner blob call) cluster fun _ after => R cluster after
  served : ∀ {cluster : Cluster} {i : Nat} {worker later : Worker},
    cluster.workers[i]? = some worker → worker.Served later →
      R cluster { cluster with workers := cluster.workers.set i later }
  stored : ∀ {α : Type} {action : Storing α}, OnFiles action →
    ∀ cluster, Leaves (atGateway action) cluster fun _ after => R cluster after

/-- Whatever the action does is in the relation. -/
def Conforms (R : Cluster → Cluster → Prop) (action : Acting α) : Prop :=
  ∀ cluster, Leaves action cluster fun _ after => R cluster after

/-- The same for an action that cannot fail. -/
def ConformsState (R : Cluster → Cluster → Prop) (action : StateM Cluster α) : Prop :=
  ∀ cluster, LeavesState action cluster fun _ after => R cluster after

namespace Conforms

theorem get_bind {f : Cluster → Acting β} (next : ∀ cluster, Conforms R (f cluster)) :
    Conforms R (get >>= f) :=
  fun cluster => Leaves.get_bind (next cluster cluster)

theorem lift {action : StateM Cluster α} (h : ConformsState R action) :
    Conforms R (liftM action : Acting α) :=
  fun cluster => Leaves.lift (h cluster)

theorem reporting {action : Acting α} (report : Failure → Failure) (h : Conforms R action) :
    Conforms R (reporting report action) :=
  fun cluster => leaves_reporting (h cluster)

/-- Looking at the outcome of an action does nothing more. -/
theorem run {action : Acting α} (h : Conforms R action) : ConformsState R action.run := h

end Conforms

theorem ConformsState.get_bind {f : Cluster → StateM Cluster β}
    (next : ∀ cluster, ConformsState R (f cluster)) : ConformsState R (get >>= f) :=
  fun cluster => LeavesState.get_bind (next cluster cluster)

namespace Stepwise

variable (steps : Stepwise R)

include steps

/-! ## Actions -/

theorem pure (a : α) : Conforms R (Pure.pure a) := steps.refl

theorem throw (e : Failure) : Conforms R (throw e : Acting α) := steps.refl

theorem pureState (a : α) : ConformsState R (Pure.pure a) := steps.refl

theorem bind {action : Acting α} {f : α → Acting β} (h : Conforms R action)
    (next : ∀ a, Conforms R (f a)) : Conforms R (action >>= f) := by
  intro cluster
  refine Leaves.bind ((h cluster).mono ?_)
  rintro (e | a) between before
  · exact before
  · exact (next a between).mono fun _ _ => steps.trans before

theorem bindState {action : StateM Cluster α} {f : α → StateM Cluster β}
    (h : ConformsState R action) (next : ∀ a, ConformsState R (f a)) :
    ConformsState R (action >>= f) :=
  fun cluster => LeavesState.bind ((h cluster).mono fun a between before =>
    (next a between).mono fun _ _ => steps.trans before)

theorem lift_bind {action : StateM Cluster α} {f : α → Acting β} (h : ConformsState R action)
    (next : ∀ a, Conforms R (f a)) :
    Conforms R ((liftM action : Acting α) >>= f) :=
  fun cluster => Leaves.lift_bind ((h cluster).mono fun a between before =>
    (next a between).mono fun _ _ => steps.trans before)

theorem except_bind {outcome : Except Failure α} {f : α → Acting β}
    (next : ∀ a, Conforms R (f a)) : Conforms R ((liftM outcome : Acting α) >>= f) :=
  fun cluster => Leaves.except_bind (fun _ _ => steps.refl cluster) fun a _ => next a cluster

theorem atWorker (i : Nat) {action : StateM Worker (Except Failure α)}
    (h : ∀ worker : Worker, worker.Served (action worker).2) :
    Conforms R (Cluster.atWorker i action) :=
  fun cluster => leaves_atWorker (fun _ => steps.refl cluster) fun worker found =>
    steps.served found (h worker)

/-! ## Calls -/

/-- The owner of a blob is called about it. -/
theorem conforms_callOwner {blob : String} {call : MasterCall} (about : call.blob? = some blob) :
    Conforms R (callOwner blob call) :=
  steps.called about

theorem conforms_saveAt (i : Nat) (messages : Arriving SaveMessage) :
    Conforms R (saveAt i messages) := by
  refine steps.bind (steps.atWorker i fun worker => .single (.save worker messages)) ?_
  rintro ⟨blob, address⟩
  exact (steps.conforms_callOwner rfl).reporting _

theorem conforms_readAt (i : Nat) (blob : String) : Conforms R (readAt i blob) :=
  steps.bind (steps.atWorker i fun worker => .single (.read worker blob)) fun _ => steps.pure _

theorem conforms_removeAt (i : Nat) (blob : String) : Conforms R (removeAt i blob) :=
  steps.atWorker i fun worker => .single (.remove worker blob)

theorem conforms_pull (download : Download) : ConformsState R (pull download) := by
  intro cluster
  unfold LeavesState pull
  cases download.source with
  | none => exact steps.refl cluster
  | some i =>
    cases found : cluster.workers[i]? with
    | none =>
      simp only [found]
      exact steps.refl cluster
    | some worker =>
      simp only [found]
      exact steps.served found (.single (.deliver worker download.stream))

/-! ## Requests -/

theorem conforms_responding {action : Acting α} (h : Conforms R action) (respond : α → Response) :
    ConformsState R (responding action respond) :=
  steps.bindState h.run fun _ => steps.pureState _

theorem conforms_streaming (request : Request) {open_ : Acting Download} (h : Conforms R open_) :
    ConformsState R (streaming request open_) := by
  refine steps.bindState h.run fun outcome => ?_
  cases outcome with
  | error e => exact steps.pureState _
  | ok download =>
    show ConformsState R (if request.method == "HEAD" then _ else _)
    split
    · exact steps.pureState _
    · exact steps.bindState (steps.conforms_pull download) fun _ => steps.pureState _

theorem conforms_withSegment (segment : String) {next : String → StateM Cluster Response}
    (h : ∀ value, ConformsState R (next value)) : ConformsState R (withSegment segment next) := by
  unfold withSegment
  cases segmentValue? segment with
  | some value => exact h value
  | none => exact steps.pureState _

theorem conforms_serveStorage (i : Nat) (request : Request) (endpoint : StorageEndpoint) :
    ConformsState R (serveStorage i request endpoint) := by
  cases endpoint with
  | health =>
    show ConformsState R (if isGet request then responding _ _ else Pure.pure wrongMethod)
    split
    · exact steps.conforms_responding (steps.atWorker i fun worker => .single (.health worker)) _
    · exact steps.pureState _
  | freeStorage =>
    show ConformsState R (if isGet request then responding _ _ else Pure.pure wrongMethod)
    split
    · exact steps.conforms_responding
        (steps.atWorker i fun worker => .single (.freeStorage worker)) _
    · exact steps.pureState _
  | blob segment =>
    show ConformsState R (if isGet request then withSegment segment _ else
      if request.method == "PUT" then withSegment segment _ else
      if request.method == "DELETE" then withSegment segment _ else Pure.pure wrongMethod)
    split
    · exact steps.conforms_withSegment segment fun blob =>
        steps.conforms_streaming request (steps.conforms_readAt i blob)
    split
    · exact steps.conforms_withSegment segment fun blob =>
        steps.conforms_responding (steps.conforms_saveAt i _) _
    split
    · exact steps.conforms_withSegment segment fun blob =>
        steps.conforms_responding (steps.conforms_removeAt i blob) _
    · exact steps.pureState _

theorem conforms_respondAt (i : Nat) (request : Request) :
    ConformsState R (respondAt i request) := by
  unfold respondAt
  cases StorageEndpoint.of? (segments request.target) with
  | none => exact steps.pureState _
  | some endpoint =>
    exact steps.bindState (steps.conforms_serveStorage i request endpoint) fun _ =>
      steps.pureState _

/-- Sending a request does what serving it does. -/
theorem conforms_send (link : Link) (draft : Draft) {serve : Request → StateM Cluster Response}
    (h : ∀ request, ConformsState R (serve request)) : ConformsState R (send link draft serve) := by
  unfold send
  cases Address.parse draft.address with
  | error e => exact steps.pureState _
  | ok address =>
    show ConformsState R (if !address.isTarget then _ else _)
    split
    · exact steps.pureState _
    · cases link with
      | down => exact steps.pureState _
      | up => exact steps.bindState (h _) fun _ => steps.pureState _

theorem conforms_sendTo (i : Nat) (link : Link) (draft : String → Except Failure Draft) :
    Conforms R (sendTo i link draft) :=
  steps.bind (steps.atWorker i fun _ => .refl) fun _ => steps.except_bind fun sent =>
    steps.conforms_send link sent (steps.conforms_respondAt i)

/-! ## Operations -/

theorem conforms_workerHealth (i : Nat) : Conforms R (workerHealth i) := by
  refine .get_bind fun cluster => ?_
  cases cluster.transport with
  | direct => exact steps.atWorker i fun worker => .single (.health worker)
  | through link => exact steps.bind (steps.conforms_sendTo i link _) fun _ => steps.pure _

theorem conforms_workerFree (i : Nat) : Conforms R (workerFree i) := by
  refine .get_bind fun cluster => ?_
  cases cluster.transport with
  | direct => exact steps.atWorker i fun worker => .single (.freeStorage worker)
  | through link =>
    exact steps.bind (steps.conforms_sendTo i link _) fun _ => steps.except_bind fun _ =>
      steps.pure _

theorem conforms_saveOn (i : Nat) (messages : Arriving SaveMessage) :
    Conforms R (saveOn i messages) := by
  refine .get_bind fun cluster => ?_
  cases cluster.transport with
  | direct => exact steps.conforms_saveAt i messages
  | through link => exact steps.bind (steps.conforms_sendTo i link _) fun _ => steps.pure _

theorem conforms_readOn (i : Nat) (blob : String) : Conforms R (readOn i blob) := by
  refine .get_bind fun cluster => ?_
  cases cluster.transport with
  | direct => exact steps.conforms_readAt i blob
  | through link => exact steps.bind (steps.conforms_sendTo i link _) fun _ => steps.pure _

theorem conforms_removeOn (i : Nat) (blob : String) : Conforms R (removeOn i blob) := by
  refine .get_bind fun cluster => ?_
  cases cluster.transport with
  | direct => exact steps.conforms_removeAt i blob
  | through link => exact steps.bind (steps.conforms_sendTo i link _) fun _ => steps.pure _

theorem conforms_connect (address : String) : Conforms R (connect address) := by
  refine .get_bind fun cluster => ?_
  cases cluster.route? address with
  | none => exact steps.throw _
  | some i => exact steps.pure _

theorem conforms_saveCopies (upload : Buffered) (addresses : List String) :
    Conforms R (saveCopies upload addresses) := by
  induction addresses with
  | nil => exact steps.pure _
  | cons address rest ih =>
    refine steps.bind ?_ fun _ => ih
    exact steps.bind ((steps.conforms_connect address).reporting _) fun i => .get_bind fun _ =>
      (steps.conforms_saveOn i _).reporting _

theorem conforms_upload (messages : Arriving UploadMessage) : Conforms R (upload messages) :=
  .get_bind fun _ => steps.bind (steps.stored (onFiles_bufferIn _ _ messages)) fun buffered =>
    steps.bind ((steps.conforms_callOwner rfl).reporting _) fun addresses =>
      steps.bind (steps.conforms_saveCopies buffered addresses) fun _ =>
        steps.bind (steps.stored (onFiles_remove _)) fun _ => steps.pure _

theorem conforms_openBlob (blob : String) : Conforms R (openBlob blob) :=
  steps.except_bind fun _ =>
    steps.bind ((steps.conforms_callOwner rfl).reporting _) fun address =>
    steps.bind ((steps.conforms_connect address).reporting _) fun i =>
      steps.bind ((steps.conforms_readOn i blob).reporting _) fun _ => steps.pure _

theorem conforms_download (blob : String) : Conforms R (download blob) := by
  refine steps.bind (steps.conforms_openBlob blob) fun relay => ?_
  exact .lift (steps.bindState (steps.conforms_pull relay.download) fun _ => steps.pureState _)

theorem conforms_downloadFrom (i : Nat) (blob : String) : Conforms R (downloadFrom i blob) :=
  steps.bind (steps.conforms_readOn i blob) fun opened => .lift (steps.conforms_pull opened)

theorem conforms_purge (blob : String) (addresses : List String) :
    ConformsState R (purge blob addresses) := by
  induction addresses with
  | nil => exact steps.pureState _
  | cons address rest ih =>
    refine steps.bindState (.get_bind fun cluster => ?_) fun _ =>
      steps.bindState ih fun _ => steps.pureState _
    cases cluster.route? address with
    | none => exact steps.pureState _
    | some i =>
      refine steps.bindState (steps.conforms_removeOn i blob).run fun outcome => ?_
      cases outcome <;> exact steps.pureState _

theorem conforms_delete (blob : String) : Conforms R (delete blob) := by
  refine steps.except_bind fun _ =>
    steps.bind ((steps.conforms_callOwner rfl).reporting _) fun holders =>
      .get_bind fun cluster => ?_
  show Conforms R (if cluster.gateway.purge then liftM (purge blob holders) >>= _ else _)
  split
  · exact steps.lift_bind (steps.conforms_purge blob holders) fun _ => steps.pure _
  · exact steps.bind (steps.pure 0) fun _ => steps.pure _

/-- Whatever is asked of a cluster, what it does is in the relation, if a call of a master is. -/
theorem effect (operation : Operation) (cluster : Cluster)
    (told : ∀ i call, operation = .tell i call →
      Leaves (callMaster i call) cluster fun _ after => R cluster after) :
    R cluster (operation.effect cluster) := by
  cases operation with
  | upload messages => exact steps.conforms_upload messages cluster
  | download blob => exact steps.conforms_download blob cluster
  | delete blob => exact steps.conforms_delete blob cluster
  | save worker messages => exact steps.conforms_saveOn worker messages cluster
  | read worker blob => exact steps.conforms_downloadFrom worker blob cluster
  | remove worker blob => exact steps.conforms_removeOn worker blob cluster
  | health worker => exact steps.conforms_workerHealth worker cluster
  | freeStorage worker => exact steps.conforms_workerFree worker cluster
  | tell master call => exact told master call rfl

/-- A whole run is in the relation, if the weather and all calls of masters are. -/
theorem after (met : ∀ cluster weather, R cluster (cluster.under weather))
    (told : ∀ i call cluster, Leaves (callMaster i call) cluster fun _ after => R cluster after)
    (cluster : Cluster) (run : List (Weather × Operation)) : R cluster (cluster.after run) := by
  induction run generalizing cluster with
  | nil => exact steps.refl cluster
  | cons step rest ih =>
    have done := steps.effect step.2 (cluster.under step.1) fun i call _ => told i call _
    exact steps.trans (steps.trans (met cluster step.1) done) (ih _)

end Stepwise

end Cluster

end BlobCluster
