import BlobCluster.Proofs.Cluster.Guard
import BlobCluster.Proofs.Cluster.Steps
import BlobCluster.Proofs.Cluster.Verified
import BlobCluster.Proofs.Http.Link
import BlobCluster.Proofs.Master.Additions

/-!
# Masters own their blobs

A cluster is `Sharded` if every copy is in the ledger of the master that owns its blob.  Masters get
copies only by placements, and the nodes of a cluster call the owner about a blob and no other
master.  So every step of a node leaves a sharded cluster sharded, whatever fails and however the
nodes reach each other, and so does every run in which blobs are placed from outside at their owners
only.  When a worker has a copy confirmed, it calls the one master that can have placed it.
-/

namespace BlobCluster

namespace Sharding

variable {count : Nat}

/-- The owner of a blob is its shard, and there is one for every text.  The count is bounded because
the digest is reduced modulo a word of 64 bits. -/
theorem shardOf?_eq_ownerIndex (blob : String) (positive : 0 < count) (small : count < 2 ^ 64) :
    (shardOf? blob (UInt64.ofNat count)).map UInt64.toNat = some (ownerIndex blob count) := by
  have size : (UInt64.ofNat count).toNat = count := UInt64.toNat_ofNat_of_lt' small
  have divides : UInt64.ofNat count ≠ 0 := by
    intro zero
    rw [zero] at size
    have empty : 0 = count := size
    omega
  have more : max count 1 = count := by omega
  rw [shardOf?, if_neg divides, Option.map_some, UInt64.toNat_mod, size, ownerIndex, more]

end Sharding

/-- A placement from outside is made at the owner of the blob. -/
def Operation.Routed (masters : Nat) : Operation → Prop
  | .tell i (.place blob _) => i = Sharding.ownerIndex blob masters
  | _ => True

namespace Cluster

open Http

variable {cluster between after : Cluster} {i : Nat} {blob : String}

/-- Every copy is in the ledger of the master that owns its blob. -/
def Sharded (cluster : Cluster) : Prop :=
  ∀ i master, cluster.masters[i]? = some master →
    ∀ blob worker, (master.ledger.copy? blob worker).isSome → i = cluster.owner blob

/-- There are as many masters as before, and they still own their blobs. -/
def KeepsShards (cluster after : Cluster) : Prop :=
  after.masters.length = cluster.masters.length ∧ (cluster.Sharded → after.Sharded)

namespace KeepsShards

theorem refl (cluster : Cluster) : cluster.KeepsShards cluster := ⟨rfl, id⟩

theorem trans (h : cluster.KeepsShards between) (h' : between.KeepsShards after) :
    cluster.KeepsShards after :=
  ⟨h'.1.trans h.1, h'.2 ∘ h.2⟩

theorem of_same (same : after.masters = cluster.masters) : cluster.KeepsShards after := by
  unfold KeepsShards Sharded owner
  rw [same]
  exact ⟨rfl, id⟩

/-- One master has added copies of blobs that it owns. -/
theorem setMaster {master later : Master} {added : String → Prop}
    (found : cluster.masters[i]? = some master) (adds : master.ledger.AddsOnly added later.ledger)
    (owned : ∀ blob, added blob → i = cluster.owner blob) :
    cluster.KeepsShards { cluster with masters := cluster.masters.set i later } := by
  refine ⟨List.length_set, fun sharded j other there blob worker copied => ?_⟩
  rw [owner_setMaster]
  rw [getElem?_set_of_some found] at there
  split at there
  next here =>
    cases there
    rcases adds blob worker copied with before | new
    · exact here ▸ sharded i master found blob worker before
    · exact here ▸ owned blob new
  next => exact sharded j other there blob worker copied

theorem under (cluster : Cluster) (weather : Weather) :
    cluster.KeepsShards (cluster.under weather) := by
  refine ⟨List.length_mapIdx, fun sharded i master there blob worker copied => ?_⟩
  rw [getElem?_masters_under] at there
  obtain ⟨master, found, rfl⟩ := Option.map_eq_some_iff.1 there
  rw [owner_under]
  exact sharded i master found blob worker copied

end KeepsShards

/-! ## Calls of masters -/

/-- How a master of the cluster answers a call. -/
def heard (cluster : Cluster) (call : MasterCall) (master : Master) :
    Except Failure call.Answer × Master :=
  match cluster.transport with
  | .direct => master.answer cluster.clock call
  | .through link => call.through link (baseOf master.address) cluster.clock master

theorem callMaster_eq_atMaster (i : Nat) (call : MasterCall) (cluster : Cluster) :
    callMaster i call cluster = atMaster i (cluster.heard call) cluster := by
  unfold callMaster heard
  cases cluster.transport <;> rfl

theorem addsOnly_heard (cluster : Cluster) (call : MasterCall) (master : Master) :
    master.ledger.AddsOnly call.Places (cluster.heard call master).2.ledger := by
  unfold heard
  cases cluster.transport with
  | direct => exact master.addsOnly_answer _ call
  | through link => exact call.addsOnly_through link _ _ master

/-- Any call may be made of a master, but a placement only if it owns the blob. -/
theorem leaves_callMaster_of_routed {call : MasterCall}
    (routed : ∀ blob, call.Places blob → i = cluster.owner blob) :
    Leaves (callMaster i call) cluster fun _ after => cluster.KeepsShards after := by
  have called : Leaves (atMaster i (cluster.heard call)) cluster fun _ after =>
      cluster.KeepsShards after :=
    leaves_atMaster (fun _ => .refl cluster) fun master found =>
      .setMaster found (cluster.addsOnly_heard call master) routed
  unfold Leaves at called ⊢
  rw [callMaster_eq_atMaster]
  exact called

/-- Every step of a node leaves the masters what they own. -/
theorem stepwise_keepsShards : Stepwise KeepsShards where
  refl := .refl
  trans := .trans
  called := by
    intro blob call about cluster
    refine Leaves.get_bind (leaves_callMaster_of_routed ?_)
    rintro _ ⟨size, rfl⟩
    rw [← Option.some.inj about]
    rfl
  served _ _ := .of_same rfl
  stored _ _ := .of_same rfl

/-- However a cluster is used, its masters own their blobs.  The number of masters does not change,
so what is routed for the first cluster is routed for all that come after it. -/
theorem keepsShards_after (cluster : Cluster) {run : List (Weather × Operation)}
    (routed : ∀ step ∈ run, step.2.Routed cluster.masters.length) :
    cluster.KeepsShards (cluster.after run) := by
  induction run generalizing cluster with
  | nil => exact .refl cluster
  | cons step rest ih =>
    have met := KeepsShards.under cluster step.1
    have done : (cluster.under step.1).KeepsShards (step.2.effect (cluster.under step.1)) := by
      refine stepwise_keepsShards.effect step.2 _ fun i call told => ?_
      refine leaves_callMaster_of_routed ?_
      rintro blob ⟨size, rfl⟩
      have here := routed step List.mem_cons_self
      rw [told] at here
      rw [owner_under]
      exact here
    have both := met.trans done
    exact both.trans (ih _ fun other mem =>
      both.1.symm ▸ routed other (List.mem_cons_of_mem _ mem))

/-- A call of a master adds and removes none. -/
theorem shards_callMaster (i : Nat) (call : MasterCall) (cluster : Cluster) :
    Leaves (callMaster i call) cluster fun _ after =>
      after.masters.length = cluster.masters.length := by
  have called : Leaves (atMaster i (cluster.heard call)) cluster fun _ after =>
      after.masters.length = cluster.masters.length :=
    leaves_atMaster (fun _ => rfl) fun _ _ => List.length_set
  unfold Leaves at called ⊢
  rw [callMaster_eq_atMaster]
  exact called

theorem stepwise_shards :
    Stepwise fun cluster after => after.masters.length = cluster.masters.length where
  refl _ := rfl
  trans first second := second.trans first
  called _ cluster := shards_callMaster _ _ cluster
  served _ _ := rfl
  stored _ _ := rfl

/-- However a cluster is used, there are as many masters as before. -/
theorem shards_after (cluster : Cluster) (run : List (Weather × Operation)) :
    (cluster.after run).masters.length = cluster.masters.length :=
  stepwise_shards.after (fun _ _ => List.length_mapIdx) shards_callMaster cluster run

/-! ## Notifications -/

theorem callOwner_of_some {master : Master}
    (found : cluster.masters[cluster.owner blob]? = some master) (call : MasterCall) :
    callOwner blob call cluster = ((cluster.heard call master).1,
      { cluster with
        masters := cluster.masters.set (cluster.owner blob) (cluster.heard call master).2 }) := by
  show callMaster (cluster.owner blob) call cluster = _
  rw [callMaster_eq_atMaster, atMaster_of_some found]

theorem callOwner_of_none (absent : cluster.masters[cluster.owner blob]? = none)
    (call : MasterCall) : callOwner blob call cluster = (.error noNode, cluster) := by
  show callMaster (cluster.owner blob) call cluster = _
  rw [callMaster_eq_atMaster]
  unfold atMaster
  simp only [absent]

theorem saveAt_of_saved {messages : Arriving SaveMessage} {worker later : Worker}
    {master : Master} (found : cluster.workers[i]? = some worker)
    (saved : worker.save messages = (.ok blob, later))
    (there : cluster.masters[cluster.owner blob]? = some master) :
    saveAt i messages cluster
      = ((cluster.heard (.confirm blob later.address) master).1.mapError
          (during ("notify master about " ++ blob)),
        { cluster with
          workers := cluster.workers.set i later
          masters := cluster.masters.set (cluster.owner blob)
            (cluster.heard (.confirm blob later.address) master).2 }) := by
  let after := { cluster with workers := cluster.workers.set i later }
  have called := @callOwner_of_some after blob master there (.confirm blob later.address)
  unfold saveAt
  refine (@bind_of_ok _ _ _ _ _ cluster after (blob, later.address) ?_).trans ?_
  · rw [atWorker_of_some found]
    simp only [saved]
    rfl
  · show ((callOwner blob (.confirm blob later.address) after).1.mapError _,
      (callOwner blob (.confirm blob later.address) after).2) = _
    rw [called]
    rfl

/-! ## Runs -/

/-- A cluster of masters that have just been started is sharded: they have no copies. -/
theorem sharded_of_started
    (started : ∀ master ∈ cluster.masters, ∃ address label, master = .start address label) :
    cluster.Sharded := by
  intro i master found blob worker copied
  obtain ⟨address, label, rfl⟩ := started master (List.mem_of_getElem? found)
  cases copied

/-- Masters own their blobs.  However a cluster of masters that have just been started is used, it
keeps its masters, and a master has a copy only of blobs that it owns.  Every text has an owner
among the masters.  In whatever state, a worker that has saved a blob has its copy confirmed by the
owner of the blob and calls no other master.

Only placements add copies, and a cluster places a blob at its owner.  What is told to a master from
outside is not checked there, so `routed` asks it of placements.  The rest is a relation between two
states that holds of every step of a node and hence of a run (`stepwise_keepsShards`). -/
theorem blobs_owned {run : List (Weather × Operation)}
    (started : ∀ master ∈ cluster.masters, ∃ address label, master = .start address label)
    (staffed : cluster.masters ≠ [])
    (routed : ∀ step ∈ run, step.2.Routed cluster.masters.length) :
    let shards := cluster.masters.length
    (cluster.after run).masters.length = shards ∧
    (∀ i master, (cluster.after run).masters[i]? = some master →
      ∀ row ∈ master.ledger.copies.rows, i = Sharding.ownerIndex row.blob shards) ∧
    (∀ blob, Sharding.ownerIndex blob shards < shards ∧
      (shards < 2 ^ 64 → (Sharding.shardOf? blob (UInt64.ofNat shards)).map UInt64.toNat
        = some (Sharding.ownerIndex blob shards))) ∧
    ∀ (here : Cluster) i worker later messages blob, here.masters.length = shards →
      here.workers[i]? = some worker → worker.save messages = (.ok blob, later) →
      ∃ master, here.masters[Sharding.ownerIndex blob shards]? = some master ∧
        saveAt i messages here
          = ((here.heard (.confirm blob later.address) master).1.mapError
              (during ("notify master about " ++ blob)),
            { here with
              workers := here.workers.set i later
              masters := here.masters.set (Sharding.ownerIndex blob shards)
                (here.heard (.confirm blob later.address) master).2 }) := by
  intro shards
  have positive : 0 < shards := List.length_pos_iff.2 staffed
  obtain ⟨same, sharded⟩ := keepsShards_after cluster routed
  have reached := sharded (sharded_of_started started)
  refine ⟨same, ?_, fun blob => ⟨Sharding.ownerIndex_lt blob positive,
    Sharding.shardOf?_eq_ownerIndex blob positive⟩, ?_⟩
  · intro i master found row listed
    have copied : (master.ledger.copy? row.blob row.worker).isSome := by
      rw [Ledger.copy?_of_mem listed]
      rfl
    rw [reached i master found row.blob row.worker copied, owner, same]
  · intro here i worker later messages blob many found saved
    have owner : here.owner blob = Sharding.ownerIndex blob shards := by
      rw [Cluster.owner, many]
    have inside : here.owner blob < here.masters.length := by
      rw [owner, many]
      exact Sharding.ownerIndex_lt blob positive
    rw [← owner]
    have there := List.getElem?_eq_getElem inside
    exact ⟨_, there, saveAt_of_saved found saved there⟩

/-- The trio with two masters. -/
def twoShards : Cluster := { trio with masters := [.start "l" "copy", .start "m" "copy"] }

/-- The gateway reaches no worker. -/
def cutOff : Weather := { Weather.clear 0 false with reachable := fun _ => false }

/-- The workers register with both masters. -/
def registeredTwice : List (Weather × Operation) :=
  ["a", "b", "c"].flatMap fun address =>
    [(.clear 0 false, .tell 0 (.register address 10)),
      (.clear 0 false, .tell 1 (.register address 10))]

/-- The two masters before an upload, in the weather it meets. -/
def joinedShards : Cluster := (twoShards.after registeredTwice).under cutOff

/-- The two masters with the three bytes buffered. -/
def bufferedShards : Except Failure Buffered × Cluster :=
  atGateway (Gateway.bufferIn joinedShards.gateway.scratch joinedShards.gateway.algorithm parcel)
    joinedShards

theorem owner_bufferedShards : bufferedShards.2.owner bufferedParcel.blob = 1 := by
  have two : bufferedShards.2.masters.length = 2 := by decide +kernel
  have second : Sharding.ownerIndex "743e13ee0c4ee5a5" 2 = 1 := by cbv
  unfold owner
  rw [two]
  exact second

/-- The two masters after that: the upload is placed at the second. -/
def strandedShards : Cluster :=
  { bufferedShards.2 with masters := [⟨"l", readyMaster.desk, []⟩, placedMaster.2] }

/-- No worker is reached, so the upload breaks off when it is placed. -/
theorem upload_joinedShards : ∃ e, upload parcel joinedShards = (.error e, strandedShards) := by
  have buffers : bufferedShards = (.ok bufferedParcel, _) := eq_of_toOption (by decide +kernel)
  have masters : bufferedShards.2.masters = [⟨"l", readyMaster.desk, []⟩, readyMaster] := by
    decide +kernel
  have direct : bufferedShards.2.transport = .direct := by decide +kernel
  have clock : bufferedShards.2.clock = 0 := by decide +kernel
  have placing : callOwner bufferedParcel.blob (.place bufferedParcel.blob bufferedParcel.size)
      bufferedShards.2 = (.ok ["a", "b", "c"], strandedShards) := by
    have placed := callOwner_readyMaster direct clock
      (by rw [owner_bufferedShards, masters]; rfl)
    rw [owner_bufferedShards, masters] at placed
    exact placed
  have unrouted : strandedShards.route? "a" = none := by decide +kernel
  have unreached := connect_of_unrouted unrouted
  have first : saveCopies bufferedParcel ["a", "b", "c"] strandedShards = (.error _, _) :=
    bind_of_error (bind_of_error (reporting_eq_error_iff.2 ⟨_, unreached, rfl⟩))
  rw [upload_of_placed buffers placing]
  exact ⟨_, bind_of_error first⟩

/-- The second master owns the three bytes.  An upload of them that reaches no worker is booked
there and not at the first master, and a worker that then saves them tells the second master. -/
theorem owned_by_two :
    twoShards.after (registeredTwice ++ [(cutOff, .upload parcel)]) = strandedShards ∧
    (strandedShards.masters.map fun master => master.ledger.copies.rows.map (·.blob))
        = [[], List.replicate 3 "743e13ee0c4ee5a5"] ∧
    (∀ i master, strandedShards.masters[i]? = some master →
      ∀ row ∈ master.ledger.copies.rows, i = Sharding.ownerIndex row.blob 2) ∧
    ∃ saved, saveAt 0 (saveMessages "743e13ee0c4ee5a5" ([[1, 2], [3]].map .ok)) strandedShards
        = (.ok (), saved) ∧
      saved.masters = [⟨"l", readyMaster.desk, []⟩,
        (placedMaster.2.answer 0 (.confirm "743e13ee0c4ee5a5" "a")).2] := by
  have ends : twoShards.after (registeredTwice ++ [(cutOff, .upload parcel)]) = strandedShards := by
    obtain ⟨e, uploaded⟩ := upload_joinedShards
    rw [after_append]
    show (upload parcel joinedShards).2 = _
    rw [uploaded]
  have started : ∀ master ∈ twoShards.masters, ∃ address label, master = .start address label := by
    intro master mem
    simp only [twoShards, List.mem_cons, List.not_mem_nil, or_false] at mem
    rcases mem with rfl | rfl
    · exact ⟨_, _, rfl⟩
    · exact ⟨_, _, rfl⟩
  have routed : ∀ step ∈ registeredTwice ++ [(cutOff, .upload parcel)],
      step.2.Routed twoShards.masters.length := by
    simp [registeredTwice, Operation.Routed]
  obtain ⟨-, owned, -, saves⟩ := blobs_owned started (by simp [twoShards]) routed
  refine ⟨ends, by decide +kernel, ends ▸ owned, ?_⟩
  have stores : strandedShards.workers[0]?.map (fun worker =>
      let kept := worker.save (saveMessages "743e13ee0c4ee5a5" ([[1, 2], [3]].map .ok))
      (kept.1.toOption, kept.2.address)) = some (some "743e13ee0c4ee5a5", "a") := by
    decide +kernel
  obtain ⟨worker, there, kept⟩ := Option.map_eq_some_iff.1 stores
  obtain ⟨took, address⟩ := Prod.mk.inj kept
  obtain ⟨master, found, saved⟩ := saves strandedShards 0 worker _ _ _ (by decide +kernel) there
    (eq_of_toOption took)
  have second : Sharding.ownerIndex "743e13ee0c4ee5a5" twoShards.masters.length = 1 := by cbv
  have direct : strandedShards.transport = .direct := by decide +kernel
  have clock : strandedShards.clock = 0 := by decide +kernel
  have confirms : placedMaster.2.answer 0 (.confirm "743e13ee0c4ee5a5" "a") = (.ok (), _) :=
    eq_of_toOption (by decide +kernel)
  rw [second] at found saved
  obtain rfl : placedMaster.2 = master := Option.some.inj found
  rw [address, heard, direct, clock] at saved
  refine ⟨_, saved.trans (Prod.ext ?_ rfl), rfl⟩
  rw [confirms]
  rfl

end Cluster

end BlobCluster
