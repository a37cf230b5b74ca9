import BlobCluster.Proofs.Cluster.Downloading
import BlobCluster.Proofs.Cluster.Steps
import BlobCluster.Proofs.Master.Books
import BlobCluster.Proofs.Worker.Ready

/-!
# Clusters in fair weather

As long as nothing fails, the nodes of a cluster stay in working order: the masters keep exact
books, and the stores of workers and gateway are ready.  Every step of a node leaves a `Fair`
cluster fair, hence every run in clear weather does, and it is fair to begin with if it has just
been assembled from nodes that are `Equipped`.
-/

namespace BlobCluster

/-- Nothing fails in this weather. -/
def Weather.IsClear (weather : Weather) : Prop := ∃ clock purge, weather = .clear clock purge

namespace Cluster

variable {cluster : Cluster} {algorithm : Digest.Algorithm}

/-- The nodes digest alike, and nothing is in the way of files in their stores.  A cluster may be
put together from nodes that digest differently, but then its uploads cannot be saved, so what is
said of clusters in which nothing fails begins here. -/
structure Equipped (cluster : Cluster) : Prop where
  alike : ∀ worker ∈ cluster.workers, worker.algorithm = cluster.gateway.algorithm
  stores : ∀ worker ∈ cluster.workers, worker.Ready
  scratch : cluster.gateway.Ready

/-- What holds of a cluster between all steps while nothing fails. -/
structure Fair (algorithm : Digest.Algorithm) (cluster : Cluster) : Prop where
  direct : cluster.transport = .direct
  staffed : cluster.masters ≠ []
  masters : ∀ master ∈ cluster.masters, master.Orderly
  workers : ∀ worker ∈ cluster.workers, worker.algorithm = algorithm ∧ worker.Ready
  digest : cluster.gateway.algorithm = algorithm
  scratch : cluster.gateway.Ready

namespace Fair

theorem owner (fair : cluster.Fair algorithm) (blob : String) :
    ∃ master, cluster.masters[cluster.owner blob]? = some master ∧ master.Orderly := by
  obtain ⟨master, found⟩ := exists_owner fair.staffed blob
  exact ⟨master, found, fair.masters master (List.mem_of_getElem? found)⟩

/-! ## Steps -/

theorem setMaster (fair : cluster.Fair algorithm) {i : Nat} {master : Master}
    (orderly : master.Orderly) :
    Fair algorithm { cluster with masters := cluster.masters.set i master } :=
  { fair with
    staffed := by
      intro none_
      rw [List.set_eq_nil_iff] at none_
      exact fair.staffed none_
    masters := by
      intro other mem
      rcases List.mem_or_eq_of_mem_set mem with mem | rfl
      · exact fair.masters other mem
      · exact orderly }

theorem setWorker (fair : cluster.Fair algorithm) {i : Nat} {worker : Worker}
    (alike : worker.algorithm = algorithm) (ready : worker.Ready) :
    Fair algorithm { cluster with workers := cluster.workers.set i worker } :=
  { fair with
    workers := by
      intro other mem
      rcases List.mem_or_eq_of_mem_set mem with mem | rfl
      · exact fair.workers other mem
      · exact ⟨alike, ready⟩ }

theorem setGateway (fair : cluster.Fair algorithm) {volume : Volume} {touched : Path → Prop}
    (keeps : cluster.gateway.volume.Keeps volume touched) :
    Fair algorithm { cluster with gateway := { cluster.gateway with volume } } := by
  obtain ⟨top, ready⟩ := fair.scratch
  exact { fair with scratch := ⟨top, ready.keeps keeps⟩ }

theorem leaves_callMaster (fair : cluster.Fair algorithm) (i : Nat) (call : MasterCall) :
    Leaves (callMaster i call) cluster fun _ after => after.Fair algorithm := by
  have called : Leaves (atMaster i fun master => master.answer cluster.clock call) cluster
      fun _ after => after.Fair algorithm :=
    leaves_atMaster (fun _ => fair) fun master found =>
      fair.setMaster ((fair.masters master (List.mem_of_getElem? found)).answer _ call)
  unfold Leaves callMaster at *
  rw [fair.direct]
  exact called

end Fair

/-- Every step of a node leaves a fair cluster fair. -/
theorem stepwise_fair (algorithm : Digest.Algorithm) :
    Stepwise fun cluster after => cluster.Fair algorithm → after.Fair algorithm where
  refl _ := id
  trans h h' := h' ∘ h
  called _ _ fair := fair.leaves_callMaster _ _
  served := by
    intro cluster i worker later found served fair
    obtain ⟨alike, ready⟩ := fair.workers worker (List.mem_of_getElem? found)
    obtain ⟨ready', -, same⟩ := served.ready ready
    exact fair.setWorker (same.trans alike) ready'
  stored := by
    intro α action onFiles cluster fair
    obtain ⟨top, ready⟩ := fair.scratch
    obtain ⟨touched, keeps⟩ := onFiles _ ready.sound
    exact fair.setGateway keeps

namespace Fair

/-! ## Runs -/

/-- Clear weather changes nothing that matters. -/
theorem under (fair : cluster.Fair algorithm) {weather : Weather} (clear : weather.IsClear) :
    (cluster.under weather).Fair algorithm where
  direct := fair.direct
  staffed := by
    intro none_
    exact fair.staffed (List.mapIdx_eq_nil_iff.1 none_)
  masters master mem := by
    obtain ⟨clock, purge, rfl⟩ := clear
    obtain ⟨i, there⟩ := List.mem_iff_getElem?.1 mem
    rw [getElem?_masters_under] at there
    obtain ⟨master, found, rfl⟩ := Option.map_eq_some_iff.1 there
    exact ⟨⟨rfl, rfl⟩, (fair.masters master (List.mem_of_getElem? found)).books⟩
  workers worker mem := by
    obtain ⟨i, there⟩ := List.mem_iff_getElem?.1 mem
    rw [getElem?_workers_under] at there
    obtain ⟨worker, found, rfl⟩ := Option.map_eq_some_iff.1 there
    exact fair.workers worker (List.mem_of_getElem? found)
  digest := fair.digest
  scratch := fair.scratch

/-- However a cluster is used while nothing fails, it stays fair. -/
theorem after (fair : cluster.Fair algorithm) {run : List (Weather × Operation)}
    (clear : ∀ step ∈ run, step.1.IsClear) : (cluster.after run).Fair algorithm := by
  induction run generalizing cluster with
  | nil => exact fair
  | cons step rest ih =>
    have here := fair.under (clear step (List.mem_cons_self ..))
    have done := (stepwise_fair algorithm).effect step.2 _
      (fun i call _ fair => fair.leaves_callMaster i call) here
    exact ih done fun other mem => clear other (List.mem_cons_of_mem _ mem)

end Fair

/-- A cluster that has just been assembled from nodes that are equipped is fair. -/
theorem Assembled.fair (assembled : cluster.Assembled) (equipped : cluster.Equipped) :
    cluster.Fair cluster.gateway.algorithm where
  direct := assembled.direct
  staffed := assembled.staffed
  masters master mem := by
    obtain ⟨address, label, rfl⟩ := assembled.masters master mem
    exact Master.orderly_start address label
  workers worker mem := ⟨equipped.alike worker mem, equipped.stores worker mem⟩
  digest := rfl
  scratch := equipped.scratch

end Cluster

end BlobCluster
