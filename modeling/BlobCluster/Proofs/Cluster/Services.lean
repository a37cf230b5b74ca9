import BlobCluster.Proofs.Cluster.Steps

/-!
# Workers are only called

Whatever is done in a cluster, and however its nodes reach each other, nothing happens to a worker
but calls.  Masters and the gateway leave the workers alone, so this is true of every step of a node
and hence of every operation.  A property that the calls of a worker keep is therefore kept by every
run of a cluster, with no word about masters, gateways or links.
-/

namespace BlobCluster.Cluster

variable {cluster between after : Cluster}

/-- Nothing has happened to the workers but calls. -/
def Serves (cluster after : Cluster) : Prop :=
  ∀ (i : Nat) (worker : Worker), cluster.workers[i]? = some worker →
    ∃ later, after.workers[i]? = some later ∧ worker.Served later

theorem Serves.refl (cluster : Cluster) : cluster.Serves cluster :=
  fun _ worker found => ⟨worker, found, .refl⟩

theorem Serves.of_same (same : after.workers = cluster.workers) : cluster.Serves after := by
  intro i worker found
  rw [← same] at found
  exact ⟨worker, found, .refl⟩

theorem Serves.trans (h : cluster.Serves between) (h' : between.Serves after) :
    cluster.Serves after := by
  intro i worker found
  obtain ⟨later, found', served⟩ := h i worker found
  obtain ⟨last, found'', served'⟩ := h' i later found'
  exact ⟨last, found'', served.trans served'⟩

/-- One worker was called. -/
theorem Serves.set {i : Nat} {worker later : Worker} (found : cluster.workers[i]? = some worker)
    (served : worker.Served later) :
    cluster.Serves { cluster with workers := cluster.workers.set i later } := by
  intro j other found'
  by_cases here : i = j
  · subst here
    obtain rfl : worker = other := Option.some.inj (found.symm.trans found')
    have inside := (List.getElem?_eq_some_iff.1 found).1
    exact ⟨later, by simp [inside], served⟩
  · refine ⟨other, ?_, .refl⟩
    show (cluster.workers.set i later)[j]? = some other
    rw [List.getElem?_set_ne here]
    exact found'

theorem serves_under (cluster : Cluster) (weather : Weather) :
    cluster.Serves (cluster.under weather) := by
  intro i worker found
  refine ⟨struckWorker weather i worker, ?_, .single (.meet worker _ _)⟩
  show (cluster.workers.mapIdx (struckWorker weather))[i]? = _
  rw [List.getElem?_mapIdx, found]
  rfl

theorem serves_callMaster (i : Nat) (call : MasterCall) (cluster : Cluster) :
    Leaves (callMaster i call) cluster fun _ after => cluster.Serves after := by
  have alone : ∀ action : StateM Master (Except Failure call.Answer),
      Leaves (atMaster i action) cluster fun _ after => cluster.Serves after :=
    fun action => leaves_atMaster (fun _ => .refl cluster) fun _ _ => .of_same rfl
  unfold Leaves callMaster
  cases cluster.transport with
  | direct => exact alone _
  | through link => exact alone _

theorem stepwise_serves : Stepwise Serves where
  refl := Serves.refl
  trans := Serves.trans
  called _ cluster := serves_callMaster _ _ cluster
  served := Serves.set
  stored _ _ := Serves.of_same rfl

/-- Whatever is done to a cluster, its workers are only called. -/
theorem serves_after (cluster : Cluster) (run : List (Weather × Operation)) :
    cluster.Serves (cluster.after run) :=
  stepwise_serves.after serves_under serves_callMaster cluster run

end BlobCluster.Cluster
