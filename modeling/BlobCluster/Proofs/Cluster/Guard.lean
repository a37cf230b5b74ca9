import BlobCluster.Proofs.Cluster.Operations
import BlobCluster.Proofs.Ledger.Holders
import BlobCluster.Proofs.Worker.Saving

/-!
# What is kept of a cluster

The ledgers of the masters and the files of the workers change at different times, so what they have
to do with each other is kept by every step of a node, not only by whole operations.  A `Guard` says
which copies are watched, and a cluster is `Guarded` when every watched copy that is confirmed by
the owner of its blob is backed by a file.

The steps are: a master answers a call (`Guarded.setMaster`), a worker does something on its files
(`Guarded.setWorker`), the gateway does something on its own (`Guarded.setGateway`), the weather
changes (`Guarded.under`).
-/

namespace BlobCluster

/-- What is watched in a cluster.  What is kept of a cluster over arbitrary operations depends on
what one wants to know of it in the end, so the invariant has parameters: for one blob on one
address they say less than for all of them. -/
structure Guard where
  /-- The copies of blobs on addresses that have to be backed as soon as they are confirmed. -/
  watched : String → String → Prop
  /-- The bytes that may stand for a blob. -/
  good : String → Bytes → Prop
  /-- Only the owner of a blob confirms it. -/
  strict : Prop
  /-- The copies that stay confirmed. -/
  pinned : String → String → Prop
  /-- How the gateway digests. -/
  algorithm : Digest.Algorithm
  /-- The addresses of the workers. -/
  addresses : List String

/-- The worker has good bytes with the digest that the blob is named by. -/
def Worker.Backs (good : String → Bytes → Prop) (worker : Worker) (blob : String) : Prop :=
  ∃ bytes, worker.holds? blob = some bytes ∧ worker.algorithm.digest bytes = blob ∧ good blob bytes

theorem Worker.Kept.backs {worker after : Worker} {except : String → Prop}
    {good : String → Bytes → Prop} {blob : String} (kept : worker.Kept after except)
    (spared : ¬ except blob) (backs : worker.Backs good blob) : after.Backs good blob := by
  obtain ⟨bytes, holds, same, fine⟩ := backs
  refine ⟨bytes, ?_, ?_, fine⟩
  · have lasting : ChunkStore.Lasting blob := same ▸ ChunkStore.lasting_digest _ _
    rw [kept.blobs blob lasting spared]
    exact holds
  · rw [kept.algorithm]
    exact same

namespace Cluster

/-- The index of the master that owns a blob. -/
def owner (cluster : Cluster) (blob : String) : Nat :=
  Sharding.ownerIndex blob cluster.masters.length

/-- The owner of a blob has confirmed its copy on an address. -/
def Confirmed (cluster : Cluster) (blob address : String) : Prop :=
  ∃ master, cluster.masters[cluster.owner blob]? = some master ∧ master.ledger.Saved blob address

/-- A worker with this address backs the blob. -/
def Backed (good : String → Bytes → Prop) (cluster : Cluster) (blob address : String) : Prop :=
  ∃ worker ∈ cluster.workers, worker.address = address ∧ worker.Backs good blob

/-- What holds of a cluster between all steps.  The guard is a parameter because several results
share the induction over a run and differ only in what they watch: which copies have to be backed,
which bytes may back them, and which copies have to stay. -/
structure Guarded (guard : Guard) (cluster : Cluster) : Prop where
  direct : cluster.transport = .direct
  algorithm : cluster.gateway.algorithm = guard.algorithm
  addresses : cluster.workers.map (·.address) = guard.addresses
  housed : ∀ master ∈ cluster.masters, master.ledger.Housed
  sound : ∀ worker ∈ cluster.workers, worker.volume.Sound
  scratch : cluster.gateway.volume.Sound
  backed : ∀ blob address, guard.watched blob address → cluster.Confirmed blob address →
    cluster.Backed guard.good blob address
  strict : guard.strict → ∀ i master, cluster.masters[i]? = some master →
    ∀ blob address, master.ledger.Saved blob address → i = cluster.owner blob
  pinned : ∀ blob address, guard.pinned blob address → cluster.Confirmed blob address

/-- A call may be made of a master: what it confirms is owned by that master and backed, and what it
drops is not pinned. -/
structure Permits (guard : Guard) (cluster : Cluster) (i : Nat) (call : MasterCall) : Prop where
  gains : ∀ blob address, call.Gains blob address →
    (guard.strict → i = cluster.owner blob)
      ∧ (guard.watched blob address → cluster.Backed guard.good blob address)
  loses : ∀ blob address, guard.pinned blob address → call.Loses blob address →
    ∀ master, cluster.masters[i]? = some master → ¬ master.ledger.Saved blob address

variable {guard : Guard} {cluster : Cluster} {i : Nat} {blob address : String}

theorem exists_owner (staffed : cluster.masters ≠ []) (blob : String) :
    ∃ master, cluster.masters[cluster.owner blob]? = some master :=
  have inside := Sharding.ownerIndex_lt blob (List.length_pos_iff.2 staffed)
  ⟨_, List.getElem?_eq_getElem inside⟩

theorem confirmed_iff_of_owner {master : Master}
    (found : cluster.masters[cluster.owner blob]? = some master) :
    cluster.Confirmed blob address ↔ master.ledger.Saved blob address := by
  constructor
  · rintro ⟨other, there, saved⟩
    cases found.symm.trans there
    exact saved
  · exact fun saved => ⟨master, found, saved⟩

/-- A call that neither confirms nor drops may be made of every master. -/
theorem Permits.of_quiet {call : MasterCall} (gains : ∀ blob address, ¬ call.Gains blob address)
    (loses : ∀ blob address, ¬ call.Loses blob address) : cluster.Permits guard i call := by
  constructor
  · intro blob address gained
    exact absurd gained (gains blob address)
  · intro blob address _ lost
    exact absurd lost (loses blob address)

@[simp] theorem owner_setMaster (after : Master) :
    owner { cluster with masters := cluster.masters.set i after } blob = cluster.owner blob := by
  unfold owner
  rw [List.length_set]

/-- A copy that is backed may be confirmed by the owner of its blob. -/
theorem Permits.of_confirm
    (backed : guard.watched blob address → cluster.Backed guard.good blob address) :
    cluster.Permits guard (cluster.owner blob) (.confirm blob address) where
  gains := by
    rintro _ _ ⟨rfl, rfl⟩
    exact ⟨fun _ => rfl, backed⟩
  loses := fun _ _ _ lost => lost.elim

theorem getElem?_set_of_some {α : Type} {xs : List α} {x y : α} (found : xs[i]? = some x)
    (j : Nat) : (xs.set i y)[j]? = if i = j then some y else xs[j]? := by
  rw [List.getElem?_set, if_pos (List.getElem?_eq_some_iff.1 found).1]

theorem getElem?_set_self_of_some {α : Type} {xs : List α} {x y : α} (found : xs[i]? = some x) :
    (xs.set i y)[i]? = some y := by
  rw [getElem?_set_of_some found, if_pos rfl]

/-- What is read off a list stays if it can be read off the new element as well. -/
theorem map_set_of_same {α β : Type} {xs : List α} {x y : α} {f : α → β} (found : xs[i]? = some x)
    (same : f y = f x) : (xs.set i y).map f = xs.map f := by
  apply List.ext_getElem?
  intro j
  rw [List.getElem?_map, List.getElem?_map, getElem?_set_of_some found]
  split
  next here =>
    rw [← here, found]
    exact congrArg some same
  next => rfl

namespace Guarded

/-! ## Steps -/

/-- A permitted call of a master may confirm and drop what it follows.  A copy that is confirmed now
was so before or was gained by the call, and a copy that is pinned was not lost by it; the
permission says of either what the guard asks for. -/
theorem setMaster (h : cluster.Guarded guard) {master after : Master} {call : MasterCall}
    (found : cluster.masters[i]? = some master)
    (follows : master.ledger.Follows call after.ledger) (permits : cluster.Permits guard i call) :
    Guarded guard { cluster with masters := cluster.masters.set i after } where
  direct := h.direct
  algorithm := h.algorithm
  addresses := h.addresses
  sound := h.sound
  scratch := h.scratch
  housed other mem := by
    rcases List.mem_or_eq_of_mem_set mem with mem | rfl
    · exact h.housed other mem
    · exact follows.housed
  backed blob address watched confirmed := by
    obtain ⟨other, there, saved⟩ := confirmed
    rw [owner_setMaster, getElem?_set_of_some found] at there
    split at there
    next here =>
      cases there
      rcases follows.gained blob address saved with before | gained
      · rw [here] at found
        exact h.backed blob address watched ⟨master, found, before⟩
      · exact (permits.gains blob address gained).2 watched
    next => exact h.backed blob address watched ⟨other, there, saved⟩
  strict strict j other there blob address saved := by
    rw [owner_setMaster]
    rw [getElem?_set_of_some found] at there
    split at there
    next here =>
      cases there
      rw [← here]
      rcases follows.gained blob address saved with before | gained
      · exact h.strict strict i master found blob address before
      · exact (permits.gains blob address gained).1 strict
    next => exact h.strict strict j other there blob address saved
  pinned blob address pinned := by
    obtain ⟨other, there, saved⟩ := h.pinned blob address pinned
    by_cases here : i = cluster.owner blob
    · rw [← here, found] at there
      cases there
      have still : after.ledger.Saved blob address := by
        rcases follows.lost blob address saved with still | lost
        · exact still
        · exact absurd saved (permits.loses blob address pinned lost master found)
      refine ⟨after, ?_, still⟩
      rw [owner_setMaster, ← here]
      exact getElem?_set_self_of_some found
    · refine ⟨other, ?_, saved⟩
      rw [owner_setMaster, getElem?_set_of_some found, if_neg here]
      exact there

/-- A worker may change the blobs that are excepted, as long as it then backs those it has to.  The
files of other blobs stay by `kept`.  For the excepted blobs the duty is only where the copy is
watched and confirmed, which is what a purge escapes after the owner has forgotten. -/
theorem setWorker (h : cluster.Guarded guard) {worker after : Worker} {except : String → Prop}
    (found : cluster.workers[i]? = some worker) (kept : worker.Kept after except)
    (backs : ∀ blob, except blob → guard.watched blob worker.address →
      cluster.Confirmed blob worker.address → after.Backs guard.good blob) :
    Guarded guard { cluster with workers := cluster.workers.set i after } := by
  have at_ := getElem?_set_of_some (y := after) found
  refine { h with addresses := ?_, sound := ?_, backed := ?_ }
  · rw [← h.addresses]
    exact map_set_of_same found kept.address
  · intro other mem
    rcases List.mem_or_eq_of_mem_set mem with mem | rfl
    · exact h.sound other mem
    · exact kept.sound
  · intro blob address watched confirmed
    obtain ⟨other, mem, rfl, backing⟩ := h.backed blob address watched confirmed
    obtain ⟨j, there⟩ := List.mem_iff_getElem?.1 mem
    by_cases here : i = j
    · rw [← here, found] at there
      cases there
      refine ⟨after, List.mem_iff_getElem?.2 ⟨i, ?_⟩, kept.address, ?_⟩
      · exact getElem?_set_self_of_some found
      · by_cases excepted : except blob
        · exact backs blob excepted watched confirmed
        · exact kept.backs excepted backing
    · refine ⟨other, List.mem_iff_getElem?.2 ⟨j, ?_⟩, rfl, backing⟩
      rw [at_, if_neg here]
      exact there

/-- The files of the gateway are watched by nobody. -/
theorem setGateway (h : cluster.Guarded guard) {volume : Volume} (sound : volume.Sound) :
    Guarded guard { cluster with gateway := { cluster.gateway with volume } } :=
  ⟨h.direct, h.algorithm, h.addresses, h.housed, h.sound, sound, h.backed, h.strict, h.pinned⟩

end Guarded

/-! ## Weather -/

@[simp] theorem owner_under (weather : Weather) :
    (cluster.under weather).owner blob = cluster.owner blob := by
  unfold owner under
  rw [List.length_mapIdx]

theorem getElem?_masters_under (weather : Weather) :
    (cluster.under weather).masters[i]? = cluster.masters[i]?.map (struckMaster weather i) :=
  List.getElem?_mapIdx

theorem getElem?_workers_under (weather : Weather) :
    (cluster.under weather).workers[i]? = cluster.workers[i]?.map (struckWorker weather i) :=
  List.getElem?_mapIdx

theorem confirmed_under (weather : Weather) :
    (cluster.under weather).Confirmed blob address ↔ cluster.Confirmed blob address := by
  unfold Confirmed
  rw [owner_under, getElem?_masters_under]
  constructor
  · rintro ⟨_, there, saved⟩
    obtain ⟨master, found, rfl⟩ := Option.map_eq_some_iff.1 there
    exact ⟨master, found, saved⟩
  · rintro ⟨master, found, saved⟩
    exact ⟨_, Option.map_eq_some_iff.2 ⟨master, found, rfl⟩, saved⟩

theorem Backed.under {good : String → Bytes → Prop} (h : cluster.Backed good blob address)
    (weather : Weather) : (cluster.under weather).Backed good blob address := by
  obtain ⟨worker, mem, same, backs⟩ := h
  obtain ⟨i, found⟩ := List.mem_iff_getElem?.1 mem
  refine ⟨struckWorker weather i worker, List.mem_iff_getElem?.2 ⟨i, ?_⟩, same, backs⟩
  rw [getElem?_workers_under, found]
  rfl

namespace Guarded

/-- The weather changes nothing that is kept. -/
theorem under (h : cluster.Guarded guard) (weather : Weather) :
    (cluster.under weather).Guarded guard where
  direct := h.direct
  algorithm := h.algorithm
  addresses := by
    rw [← h.addresses]
    apply List.ext_getElem?
    intro i
    rw [List.getElem?_map, List.getElem?_map, getElem?_workers_under, Option.map_map]
    rfl
  housed master mem := by
    obtain ⟨i, there⟩ := List.mem_iff_getElem?.1 mem
    rw [getElem?_masters_under] at there
    obtain ⟨master, found, rfl⟩ := Option.map_eq_some_iff.1 there
    exact h.housed master (List.mem_of_getElem? found)
  sound worker mem := by
    obtain ⟨i, there⟩ := List.mem_iff_getElem?.1 mem
    rw [getElem?_workers_under] at there
    obtain ⟨worker, found, rfl⟩ := Option.map_eq_some_iff.1 there
    exact h.sound worker (List.mem_of_getElem? found)
  scratch := h.scratch
  backed blob address watched confirmed :=
    (h.backed blob address watched ((confirmed_under weather).1 confirmed)).under weather
  strict strict i master there blob address saved := by
    rw [getElem?_masters_under] at there
    obtain ⟨master, found, rfl⟩ := Option.map_eq_some_iff.1 there
    rw [owner_under]
    exact h.strict strict i master found blob address saved
  pinned blob address pinned := (confirmed_under weather).2 (h.pinned blob address pinned)

end Guarded

end Cluster

/-! ## Watching more -/

namespace Guard

variable {guard : Guard} {blob : String}

/-- The guard that also watches and pins copies of a blob. -/
def also (guard : Guard) (blob : String) (addresses : List String) : Guard :=
  { guard with
    watched := fun b address => guard.watched b address ∨ b = blob ∧ address ∈ addresses
    pinned := fun b address => guard.pinned b address ∨ b = blob ∧ address ∈ addresses }

end Guard

namespace Cluster.Guarded

variable {guard : Guard} {cluster : Cluster} {blob : String}

theorem weaken (h : cluster.Guarded guard) {watched pinned : String → String → Prop}
    (fewer : ∀ blob address, watched blob address → guard.watched blob address)
    (fewer' : ∀ blob address, pinned blob address → guard.pinned blob address) :
    cluster.Guarded { guard with watched, pinned } :=
  { h with
    backed := fun blob address is => h.backed blob address (fewer blob address is)
    pinned := fun blob address is => h.pinned blob address (fewer' blob address is) }

theorem also (h : cluster.Guarded guard) {addresses : List String}
    (confirmed : ∀ address ∈ addresses, cluster.Confirmed blob address)
    (backed : ∀ address ∈ addresses, cluster.Backed guard.good blob address) :
    cluster.Guarded (guard.also blob addresses) :=
  { h with
    backed := by
      rintro b address (watched | ⟨rfl, mem⟩) there
      · exact h.backed b address watched there
      · exact backed address mem
    pinned := by
      rintro b address (pinned | ⟨rfl, mem⟩)
      · exact h.pinned b address pinned
      · exact confirmed address mem }

theorem also_cons {address : String} {rest : List String}
    (h : cluster.Guarded ((guard.also blob [address]).also blob rest)) :
    cluster.Guarded (guard.also blob (address :: rest)) := by
  have either : ∀ {before : Prop} {b a : String}, before ∨ b = blob ∧ a ∈ address :: rest →
      (before ∨ b = blob ∧ a ∈ [address]) ∨ b = blob ∧ a ∈ rest := by
    rintro before b a (is | ⟨same, mem⟩)
    · exact .inl (.inl is)
    · rcases List.mem_cons.1 mem with rfl | later
      · exact .inl (.inr ⟨same, List.mem_singleton_self _⟩)
      · exact .inr ⟨same, later⟩
  exact h.weaken (fun _ _ => either) (fun _ _ => either)

end Cluster.Guarded

end BlobCluster
