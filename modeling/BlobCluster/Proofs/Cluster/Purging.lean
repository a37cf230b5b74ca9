import BlobCluster.Proofs.Cluster.Replication
import BlobCluster.Proofs.Worker.Removing

/-!
# Purging

The holders of a blob have different addresses, so each worker is tried for one of them at most, and
what comes of one holder makes no difference to the others.  The files that are gone after a purge,
and their number, can therefore be told from the cluster before the first holder is tried.
-/

namespace BlobCluster.Cluster

variable {cluster between after : Cluster} {blob address : String} {i : Nat} {worker : Worker}
  {holders : List String}

/-! ## Ways to workers -/

/-- Which worker is reached is told from what the workers are called and which can be reached. -/
theorem route?_of_same
    (same : after.workers.map (fun worker => (worker.reachable, worker.address))
      = cluster.workers.map fun worker => (worker.reachable, worker.address)) (address : String) :
    after.route? address = cluster.route? address := by
  have told : ∀ c : Cluster, c.route? address
      = ((((c.workers.map fun worker => (worker.reachable, worker.address)).zipIdx.filter
          fun face => face.1.1 && face.1.2 == address).getLast?).map (·.2)) := by
    intro c
    unfold route?
    rw [List.zipIdx_map, List.filter_map, List.getLast?_map, Option.map_map]
    rfl
  rw [told after, told cluster, same]

theorem route?_inj {other : String} (way : cluster.route? address = some i)
    (way' : cluster.route? other = some i) : address = other := by
  obtain ⟨worker, found, named⟩ := of_route? way
  obtain ⟨worker', found', named'⟩ := of_route? way'
  obtain rfl := Option.some.inj (found.symm.trans found')
  exact named.symm.trans named'

/-! ## Purging -/

/-- The file of a holder can be removed: the worker is reached, has the file, and does not fail. -/
def purges (cluster : Cluster) (blob address : String) : Bool :=
  ((cluster.route? address).bind (cluster.workers[·]?)).any (·.removes blob)

theorem purges_of_route? (way : cluster.route? address = some i)
    (found : cluster.workers[i]? = some worker) :
    cluster.purges blob address = worker.removes blob := by
  rw [purges, way, Option.bind_some, found, Option.any_some]

/-- The worker is reached under the address of a holder, and its file can be removed. -/
def Loses (cluster : Cluster) (blob : String) (holders : List String) (i : Nat) : Prop :=
  ∃ address ∈ holders, cluster.route? address = some i ∧ cluster.purges blob address = true

theorem loses_mono {others : List String} (more : holders ⊆ others)
    (loses : cluster.Loses blob holders i) : cluster.Loses blob others i := by
  obtain ⟨address, mem, way, purged⟩ := loses
  exact ⟨address, more mem, way, purged⟩

/-- What a cluster is once holders have been purged of a blob: the workers whose file could be
removed are without it, and everything else is as it was.  Holders are given by address and workers
by index, because only of several workers with one address the last one is reached. -/
structure PurgedOf (cluster : Cluster) (blob : String) (holders : List String) (after : Cluster) :
    Prop where
  clock : after.clock = cluster.clock
  transport : after.transport = cluster.transport
  masters : after.masters = cluster.masters
  gateway : after.gateway = cluster.gateway
  length : after.workers.length = cluster.workers.length
  workers : ∀ (i : Nat) (worker : Worker), cluster.workers[i]? = some worker →
    ∃ later, after.workers[i]? = some later
      ∧ worker.Purged blob (cluster.Loses blob holders i) later
  others : ∀ i : Nat, (∀ address ∈ holders, cluster.route? address ≠ some i) →
    after.workers[i]? = cluster.workers[i]?

namespace PurgedOf

theorem none (cluster : Cluster) (blob : String) : cluster.PurgedOf blob [] cluster where
  clock := rfl
  transport := rfl
  masters := rfl
  gateway := rfl
  length := rfl
  workers _ worker found := ⟨worker, found, .of_not nofun⟩
  others _ _ := rfl

theorem route? (h : cluster.PurgedOf blob holders after) (address : String) :
    after.route? address = cluster.route? address := by
  refine route?_of_same (List.ext_getElem? fun i => ?_) address
  rw [List.getElem?_map, List.getElem?_map]
  cases found : cluster.workers[i]? with
  | none =>
    have beyond := List.getElem?_eq_none_iff.1 found
    rw [List.getElem?_eq_none_iff.2 (h.length ▸ beyond)]
  | some worker =>
    obtain ⟨later, there, purged⟩ := h.workers i worker found
    rw [there, Option.map_some, Option.map_some, purged.reachable, purged.address]

theorem sound (h : cluster.PurgedOf blob holders after)
    (sound : ∀ worker ∈ cluster.workers, worker.volume.Sound) :
    ∀ worker ∈ after.workers, worker.volume.Sound := by
  intro later mem
  obtain ⟨i, there⟩ := List.mem_iff_getElem?.1 mem
  have inside := (List.getElem?_eq_some_iff.1 there).1
  rw [h.length] at inside
  have found := List.getElem?_eq_getElem inside
  obtain ⟨later', there', purged⟩ := h.workers i _ found
  obtain rfl := Option.some.inj (there.symm.trans there')
  exact purged.sound (sound _ (List.mem_of_getElem? found))

/-- What comes of one holder makes no difference to another.  Which worker is reached is read off
what a purge keeps, and no other address leads to the worker of this one. -/
theorem purges_eq (h : cluster.PurgedOf blob [address] after) {other : String}
    (apart : other ≠ address) : after.purges blob other = cluster.purges blob other := by
  rw [purges, purges, h.route?]
  cases way : cluster.route? other with
  | none => rfl
  | some i =>
    have elsewhere : ∀ a ∈ [address], cluster.route? a ≠ some i := by
      intro a mem here
      exact apart ((route?_inj way here).trans (List.mem_singleton.1 mem))
    rw [Option.bind_some, Option.bind_some, h.others i elsewhere]

theorem loses_iff (h : cluster.PurgedOf blob [address] after) (new : address ∉ holders) :
    after.Loses blob holders i ↔ cluster.Loses blob holders i := by
  have same : ∀ other ∈ holders, after.purges blob other = cluster.purges blob other :=
    fun other mem => h.purges_eq fun is => new (is ▸ mem)
  constructor
  · rintro ⟨other, mem, way, purged⟩
    exact ⟨other, mem, h.route? other ▸ way, same other mem ▸ purged⟩
  · rintro ⟨other, mem, way, purged⟩
    exact ⟨other, mem, (h.route? other).trans way, (same other mem).trans purged⟩

theorem cons (h : cluster.PurgedOf blob [address] between)
    (h' : between.PurgedOf blob holders after) (new : address ∉ holders) :
    cluster.PurgedOf blob (address :: holders) after where
  clock := h'.clock.trans h.clock
  transport := h'.transport.trans h.transport
  masters := h'.masters.trans h.masters
  gateway := h'.gateway.trans h.gateway
  length := h'.length.trans h.length
  workers i worker found := by
    obtain ⟨middle, found', first⟩ := h.workers i worker found
    obtain ⟨last, found'', second⟩ := h'.workers i middle found'
    refine ⟨last, found'', ?_⟩
    by_cases way : cluster.route? address = some i
    · -- The worker is the first holder, and no other holder is found there.
      have alone : ∀ other ∈ holders, cluster.route? other ≠ some i :=
        fun other mem way' => new (route?_inj way way' ▸ mem)
      have same := h'.others i fun other mem => h.route? other ▸ alone other mem
      obtain rfl := Option.some.inj (found''.symm.trans (same.trans found'))
      refine first.congr ⟨loses_mono (List.cons_subset_cons _ (List.nil_subset _)), ?_⟩
      rintro ⟨other, mem, way', purged⟩
      obtain rfl := route?_inj way' way
      exact ⟨other, List.mem_singleton_self _, way', purged⟩
    · -- The first holder is elsewhere.
      have same := h.others i fun other mem => List.mem_singleton.1 mem ▸ way
      obtain rfl := Option.some.inj (found'.symm.trans (same.trans found))
      refine second.congr ((h.loses_iff new).trans ⟨loses_mono (List.subset_cons_self ..), ?_⟩)
      rintro ⟨other, mem, way', purged⟩
      rcases List.mem_cons.1 mem with rfl | mem
      · exact absurd way' way
      · exact ⟨other, mem, way', purged⟩
  others i elsewhere := by
    rw [h'.others i, h.others i]
    · intro a mem
      obtain rfl := List.mem_singleton.1 mem
      exact elsewhere a List.mem_cons_self
    · intro a mem
      rw [h.route?]
      exact elsewhere a (List.mem_cons_of_mem _ mem)

end PurgedOf

/-- Of one holder only the worker that is reached can lose its file. -/
theorem loses_singleton_iff (way : cluster.route? address = some i) {j : Nat} :
    cluster.Loses blob [address] j ↔ i = j ∧ cluster.purges blob address = true := by
  constructor
  · rintro ⟨other, mem, way', purged⟩
    obtain rfl := List.mem_singleton.1 mem
    exact ⟨Option.some.inj (way.symm.trans way'), purged⟩
  · rintro ⟨rfl, purged⟩
    exact ⟨address, List.mem_singleton_self _, way, purged⟩

/-- The worker that is reached removes its file if it can. -/
theorem purgedOf_removeOn (direct : cluster.transport = .direct)
    (sound : ∀ worker ∈ cluster.workers, worker.volume.Sound) (valid : BlobId.Valid blob)
    (way : cluster.route? address = some i) :
    Leaves (removeOn i blob) cluster fun r after =>
      r.isOk = cluster.purges blob address ∧ cluster.PurgedOf blob [address] after := by
  obtain ⟨worker, found, -⟩ := of_route? way
  obtain ⟨told, purged⟩ := worker.purged_remove (sound _ (List.mem_of_getElem? found)) valid
  have purges : cluster.purges blob address = _ := purges_of_route? way found
  refine Leaves.get_bind ?_
  rw [direct]
  show Leaves (atWorker i fun worker => worker.remove blob) _ _
  unfold Leaves
  rw [atWorker_of_some found, purges]
  refine ⟨told, ⟨rfl, rfl, rfl, rfl, List.length_set, fun j other there => ?_, fun j apart => ?_⟩⟩
  · show ∃ later, (cluster.workers.set i _)[j]? = some later ∧ _
    rw [getElem?_set_of_some found]
    by_cases here : i = j
    · subst here
      obtain rfl := Option.some.inj (found.symm.trans there)
      refine ⟨_, if_pos rfl, purged.congr ?_⟩
      rw [loses_singleton_iff way, purges, and_iff_right rfl]
    · refine ⟨other, (if_neg here).trans there, .of_not fun lost => ?_⟩
      exact here ((loses_singleton_iff way).1 lost).1
  · have here : i ≠ j := by
      rintro rfl
      exact apart address (List.mem_singleton_self _) way
    show (cluster.workers.set i _)[j]? = _
    rw [getElem?_set_of_some found, if_neg here]

theorem purgedOf_purgeFrom (direct : cluster.transport = .direct)
    (sound : ∀ worker ∈ cluster.workers, worker.volume.Sound) (valid : BlobId.Valid blob)
    (address : String) :
    LeavesState (purgeFrom blob address) cluster fun purged after =>
      purged = cluster.purges blob address ∧ cluster.PurgedOf blob [address] after := by
  refine LeavesState.get_bind ?_
  cases way : cluster.route? address with
  | none =>
    have nowhere : ∀ i, ¬ cluster.Loses blob [address] i := by
      rintro i ⟨other, mem, way', -⟩
      rw [List.mem_singleton.1 mem, way] at way'
      cases way'
    constructor
    · rw [purges, way]
      rfl
    · exact { PurgedOf.none cluster blob with
        workers := fun i worker found => ⟨worker, found, .of_not (nowhere i)⟩
        others := fun _ _ => rfl }
  | some i =>
    refine LeavesState.bind (Leaves.run ((purgedOf_removeOn direct sound valid way).mono ?_))
    rintro (e | _) after ⟨told, purged⟩
    · exact ⟨told, purged⟩
    · exact ⟨told, purged⟩

/-- Holders of different addresses are purged as if each were the only one.  The induction is on the
list, for every state: the rest is purged from where the first holder has left the cluster, and
there it is counted as before. -/
theorem purgedOf_purge (direct : cluster.transport = .direct)
    (sound : ∀ worker ∈ cluster.workers, worker.volume.Sound) (valid : BlobId.Valid blob)
    (distinct : holders.Nodup) :
    LeavesState (purge blob holders) cluster fun purged after =>
      purged = holders.countP (cluster.purges blob) ∧ cluster.PurgedOf blob holders after := by
  induction holders generalizing cluster with
  | nil => exact ⟨rfl, .none cluster blob⟩
  | cons address rest ih =>
    obtain ⟨new, distinct⟩ := List.nodup_cons.1 distinct
    refine LeavesState.bind ((purgedOf_purgeFrom direct sound valid address).mono ?_)
    rintro purged between ⟨rfl, first⟩
    refine LeavesState.bind ((ih (first.transport.trans direct) (first.sound sound)
      distinct).mono ?_)
    rintro others after ⟨rfl, second⟩
    refine ⟨?_, first.cons second new⟩
    have same : rest.countP (between.purges blob) = rest.countP (cluster.purges blob) := by
      refine List.countP_congr fun other mem => ?_
      rw [first.purges_eq fun is => new (is ▸ mem)]
    show (if cluster.purges blob address = true then _ else _) = _
    rw [same, List.countP_cons]
    split <;> rfl

end BlobCluster.Cluster
