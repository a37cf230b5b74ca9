import BlobCluster.Proofs.Cluster.Keeping

/-!
# Downloading when nothing fails

In clear weather a blob with a confirmed copy is downloaded to its last byte.  The owner names a
holder, the gateway reaches the worker of that address, and since copies of the blob are watched
this worker has bytes that may stand for it.
-/

namespace BlobCluster.Cluster

variable {guard : Guard} {cluster : Cluster} {i : Nat} {blob address : String} {worker : Worker}
  {content : Bytes}

/-! ## Clear weather -/

/-- No outages are planned, and the gateway reaches every worker.  Every worker is to be reachable,
since the owner of a blob may name any of its holders. -/
structure Calm (cluster : Cluster) : Prop where
  masters : ∀ master ∈ cluster.masters, master.Calm
  services : ∀ worker ∈ cluster.workers, worker.outages = []
  reachable : ∀ worker ∈ cluster.workers, worker.reachable = true

theorem calm_under (cluster : Cluster) (clock : Int64) (purge : Bool) :
    (cluster.under (.clear clock purge)).Calm where
  masters master mem := by
    obtain ⟨i, there⟩ := List.mem_iff_getElem?.1 mem
    rw [getElem?_masters_under] at there
    obtain ⟨_, -, rfl⟩ := Option.map_eq_some_iff.1 there
    exact ⟨rfl, rfl⟩
  services worker mem := by
    obtain ⟨i, there⟩ := List.mem_iff_getElem?.1 mem
    rw [getElem?_workers_under] at there
    obtain ⟨_, -, rfl⟩ := Option.map_eq_some_iff.1 there
    rfl
  reachable worker mem := by
    obtain ⟨i, there⟩ := List.mem_iff_getElem?.1 mem
    rw [getElem?_workers_under] at there
    obtain ⟨_, -, rfl⟩ := Option.map_eq_some_iff.1 there
    rfl

theorem Calm.setMaster (calm : cluster.Calm) {master : Master} (h : master.Calm) :
    Calm { cluster with masters := cluster.masters.set i master } where
  masters other mem := by
    rcases List.mem_or_eq_of_mem_set mem with mem | rfl
    · exact calm.masters other mem
    · exact h
  services := calm.services
  reachable := calm.reachable

theorem Calm.setWorker (calm : cluster.Calm) (outages : worker.outages = [])
    (reachable : worker.reachable = true) :
    Calm { cluster with workers := cluster.workers.set i worker } where
  masters := calm.masters
  services other mem := by
    rcases List.mem_or_eq_of_mem_set mem with mem | rfl
    · exact calm.services other mem
    · exact outages
  reachable other mem := by
    rcases List.mem_or_eq_of_mem_set mem with mem | rfl
    · exact calm.reachable other mem
    · exact reachable

/-- The address of a worker that is reached leads to a worker of that address.  It need not be the
same worker: of several with one address the last that is reached is taken. -/
theorem route?_of_reachable (mem : worker ∈ cluster.workers)
    (reachable : worker.reachable = true) :
    ∃ i other, cluster.route? worker.address = some i ∧ cluster.workers[i]? = some other
      ∧ other.address = worker.address := by
  obtain ⟨i, found⟩ := List.mem_iff_getElem?.1 mem
  have reached : cluster.route? worker.address ≠ none := by
    unfold route?
    rw [Ne, Option.map_eq_none_iff, List.getLast?_eq_none_iff]
    apply List.ne_nil_of_mem
    exact List.mem_filter.2 ⟨List.mk_mem_zipIdx_iff_getElem?.2 found, by simp [reachable]⟩
  obtain ⟨j, way⟩ := Option.ne_none_iff_exists'.1 reached
  obtain ⟨other, there, same⟩ := of_route? way
  exact ⟨j, other, way, there, same⟩

/-- If no two workers have the same address, a worker that is reached is reached under its own. -/
theorem route?_of_distinct (distinct : (cluster.workers.map (·.address)).Nodup)
    (found : cluster.workers[i]? = some worker) (reachable : worker.reachable = true) :
    cluster.route? worker.address = some i := by
  obtain ⟨j, other, way, there, same⟩ := route?_of_reachable (List.mem_of_getElem? found) reachable
  rw [way]
  refine congrArg some ((List.getElem?_inj ?_ distinct).1 ?_)
  · rw [List.length_map]
    exact (List.getElem?_eq_some_iff.1 there).1
  · rw [List.getElem?_map, List.getElem?_map, there, found]
    exact congrArg some same

theorem pull_of_calm (found : cluster.workers[i]? = some worker) (calm : worker.outages = [])
    (stream : ChunkStream) : (pull ⟨stream, some i⟩ cluster).1 = stream := by
  unfold pull
  simp only [found]
  rw [Worker.deliver_of_calm calm]

theorem leaves_readOn_of_holds? (direct : cluster.transport = .direct)
    (found : cluster.workers[i]? = some worker) (calm : worker.outages = [])
    (valid : BlobId.Valid blob) (holds : worker.holds? blob = some content) :
    Leaves (readOn i blob) cluster fun r after => ∃ stream, r = .ok ⟨stream, some i⟩
      ∧ after.workers[i]? = some worker ∧ stream.failure = none ∧ stream.bytes = content := by
  refine Leaves.get_bind ?_
  rw [direct]
  obtain ⟨stream, opened, unbroken, all⟩ := worker.read_of_holds? calm valid holds
  refine Leaves.bind (leaves_atWorker (fun absent => ?_) fun other there => ?_)
  · rw [found] at absent
    cases absent
  · rw [found] at there
    cases there
    simp only [opened, followed_ok]
    exact ⟨stream, rfl, getElem?_set_self_of_some found, unbroken, all⟩

/-! ## A download -/

namespace Guarded

/-- The owner of a blob with a confirmed copy names a holder. -/
theorem leaves_locate (h : cluster.Guarded guard) (calm : cluster.Calm)
    (confirmed : cluster.Confirmed blob address) :
    Leaves (callOwner blob (.locate blob)) cluster fun r after =>
      after.transport = .direct ∧ after.workers = cluster.workers
        ∧ ∃ holder, r = .ok holder ∧ cluster.Confirmed blob holder := by
  obtain ⟨master, found, saved⟩ := confirmed
  have mem := List.mem_of_getElem? found
  unfold Leaves
  rw [callOwner_of_direct h.direct found]
  obtain ⟨holder, located, saved⟩ := (calm.masters master mem).answer_of_meets cluster.clock
    (.locate blob) (Placement.meets_locate_of_saved (h.housed master mem) saved)
  exact ⟨h.direct, rfl, holder, located, master, found, saved⟩

/-- A blob that is watched and confirmed somewhere is downloaded to its last byte.  The owner may
name any holder, so the blob must be watched on every address, and `only` turns whatever is found
there into the content. -/
theorem leaves_download_of_confirmed (h : cluster.Guarded guard) (calm : cluster.Calm)
    (distinct : guard.addresses.Nodup) (valid : BlobId.Valid blob)
    (watched : ∀ address, guard.watched blob address)
    (only : ∀ bytes, guard.good blob bytes → bytes = content)
    (confirmed : cluster.Confirmed blob address) :
    Leaves (download blob) cluster fun r _ =>
      ∃ stream, r = .ok stream ∧ stream.failure = none ∧ stream.bytes = content := by
  refine Leaves.bind ?_
  unfold openBlob
  refine Leaves.validate_bind valid ?_
  refine Leaves.bind (leaves_reporting ((h.leaves_locate calm confirmed).mono ?_))
  rintro _ located ⟨direct, workers, holder, rfl, saved⟩
  rw [followed_mapError_ok]
  -- The holder is the address of a worker that backs the blob, so the way leads to it.
  obtain ⟨worker, mem, rfl, bytes, holds, -, good⟩ := h.backed blob holder (watched holder) saved
  obtain rfl := only bytes good
  have outages := calm.services worker mem
  have reachable := calm.reachable worker mem
  rw [← h.addresses, ← workers] at distinct
  rw [← workers] at mem
  obtain ⟨i, found⟩ := List.mem_iff_getElem?.1 mem
  refine Leaves.bind (leaves_reporting (Leaves.get_bind ?_))
  rw [route?_of_distinct distinct found reachable]
  refine Leaves.pure ?_
  rw [followed_mapError_ok]
  have reading := leaves_readOn_of_holds? direct found outages valid holds
  refine Leaves.bind (leaves_reporting (reading.mono ?_))
  rintro _ opened ⟨stream, rfl, there, unbroken, all⟩
  rw [followed_mapError_ok]
  refine Leaves.pure ?_
  rw [followed_ok]
  refine Leaves.lift (LeavesState.bind ?_)
  unfold LeavesState
  rw [pull_of_calm there outages]
  refine ⟨_, rfl, ?_, all⟩
  show stream.failure.map _ = none
  rw [unbroken]
  rfl

end Guarded

end BlobCluster.Cluster
