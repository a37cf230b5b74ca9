import Mathlib
import BlobCluster.Proofs.Cluster.Keeping

/-!
# Confirmed copies stand for files

A ledger and the files it speaks of change at different nodes, and no transaction joins them.  What
keeps them together is an order of steps: a worker has verified a file before its copy is confirmed,
and an owner has forgotten a blob before its files are removed.  So wherever an operation breaks
off, every confirmed copy stands for a file with the digest that the blob is named by.
-/

namespace BlobCluster

/-- Nothing behind the back of the gateway: no worker is told to remove a blob, and no master that a
blob was saved. -/
def Operation.Ordinary : Operation → Prop
  | .remove _ _ | .tell _ (.confirm _ _) => False
  | _ => True

namespace Cluster

variable {cluster : Cluster}

/-- Every copy of a cluster is watched.  Nothing is pinned, so every call may drop copies; and any
bytes with the digest are good. -/
def everywhere (cluster : Cluster) : Guard where
  watched := fun _ _ => True
  good := fun _ _ => True
  strict := True
  pinned := fun _ _ => False
  algorithm := cluster.gateway.algorithm
  addresses := cluster.workers.map (·.address)

theorem safe_of_ordinary {operation : Operation} (here : Cluster) (h : operation.Ordinary) :
    operation.Safe cluster.everywhere here := by
  cases operation with
  | upload messages =>
    intro size chunks arrived
    trivial
  | save i messages =>
    intro worker chunks found arrived
    trivial
  | delete blob =>
    intro address pinned
    exact pinned
  | remove i blob => exact h.elim
  | tell i call =>
    constructor
    · intro blob address gained
      cases call with
      | confirm blob' address' => exact h.elim
      | _ => exact gained.elim
    · intro blob address pinned
      exact pinned.elim
  | _ => trivial

/-- Whatever is done to a cluster in the ordinary way and whatever fails meanwhile, each confirmed
copy of each master stands for a file of a worker with the address of the copy: the file is named by
the blob, and its content has that digest.

The guard watches every copy.  An upload or a save keeps it because only bytes with the digest that
the blob is named by are stored before the copy is confirmed, and a deletion because the files go
after the rows.  To be backed is a fact about copies that the owner of a blob has confirmed, so the
guard is strict too: no other master has confirmed the blob. -/
theorem file_of_saved (assembled : cluster.Assembled) {run : List (Weather × Operation)}
    (ordinary : ∀ step ∈ run, step.2.Ordinary) :
    ∀ master ∈ (cluster.after run).masters, ∀ row ∈ master.ledger.copies.rows, row.state = .saved →
      ∃ worker ∈ (cluster.after run).workers, worker.address = row.worker
        ∧ ∃ bytes, worker.volume.bytes? (worker.store.pathFor row.blob) = some bytes
          ∧ worker.algorithm.digest bytes = row.blob := by
  have start : cluster.Guarded cluster.everywhere := assembled.guarded rfl rfl fun _ _ => id
  have guarded : (cluster.after run).Guarded cluster.everywhere :=
    start.after (fun here operation _ allowed => safe_of_ordinary here allowed)
      (.of_forall fun step mem _ => ordinary step mem)
  intro master mem row listed state
  obtain ⟨i, found⟩ := List.mem_iff_getElem?.1 mem
  have saved : master.ledger.Saved row.blob row.worker := ⟨row, Ledger.copy?_of_mem listed, state⟩
  have owner := guarded.strict trivial i master found row.blob row.worker saved
  rw [owner] at found
  obtain ⟨worker, mem, same, bytes, holds, digest, -⟩ :=
    guarded.backed row.blob row.worker trivial ⟨master, found, saved⟩
  exact ⟨worker, mem, same, bytes, holds, digest⟩

/-! ## Three workers -/

/-- A worker that has just been started, with its blobs in a folder named like its address. -/
def freshWorker (address : String) : Worker where
  address := address
  volume := (Volume.blank.makeFolders [address]).2
  store := ⟨[address], address, 4, by decide⟩
  algorithm := .xxh64
  capacity := 0
  reachable := true
  outages := []

/-- One master and three workers that have just been started. -/
def trio : Cluster where
  clock := 0
  transport := .direct
  masters := [.start "m" "copy"]
  workers := ["a", "b", "c"].map freshWorker
  gateway := {
    volume := (Volume.blank.makeFolders ["s"]).2
    scratch := ⟨["s"], "s", 4, by decide⟩
    algorithm := .xxh64
    purge := false }

theorem assembled_trio : trio.Assembled where
  direct := rfl
  masters master mem := by
    rw [List.mem_singleton.1 mem]
    exact ⟨_, _, rfl⟩
  workers worker mem := by
    obtain ⟨address, listed, rfl⟩ := List.mem_map.1 mem
    refine ⟨.blank, address, 4, Volume.sound_blank, ?_⟩
    simp only [List.mem_cons, List.not_mem_nil, or_false] at listed
    rcases listed with rfl | rfl | rfl <;> cbv
  gateway := ⟨.blank, "s", 4, Volume.sound_blank, by cbv⟩

def registrations : List (Weather × Operation) :=
  ["a", "b", "c"].map fun address => (.clear 0 false, .tell 0 (.register address 10))

/-- The trio with its workers registered, in clear weather. -/
def readyTrio : Cluster := (trio.after registrations).under (.clear 0 false)

/-- Three bytes in two chunks. -/
def parcel : Arriving UploadMessage := uploadMessages 3 ([[1, 2], [3]].map .ok)

def trioRows : List WorkerRow := ["a", "b", "c"].map fun address => .fresh address 10 0

/-- The master of the trio once the workers have registered. -/
def readyMaster : Master :=
  ⟨"m", ⟨⟨.empty, trioRows.foldl Table.put .empty⟩, .fresh "copy", []⟩, []⟩

/-- The master of the trio has reserved space for the three bytes. -/
def placedMaster : Except Failure (List String) × Master :=
  readyMaster.run ((Placement.reserveAll "743e13ee0c4ee5a5" 1 trioRows).bind fun _ =>
    .done ["a", "b", "c"])

theorem answer_readyMaster :
    readyMaster.answer 0 (.place "743e13ee0c4ee5a5" 1) = placedMaster := by
  have chosen : Selection.roomiest readyMaster.ledger.workers.rows 1 3 = .ok trioRows := by cbv
  have run := Placement.run_place (by decide +kernel : BlobId.Valid "743e13ee0c4ee5a5")
    (by decide +kernel) chosen (.fresh "copy")
  show readyMaster.run (Placement.place "743e13ee0c4ee5a5" 1) = _
  unfold Master.run
  rw [show readyMaster.desk = ⟨readyMaster.ledger, .fresh "copy", []⟩ from rfl, run]
  rfl

theorem eq_of_toOption {α σ : Type} {outcome : Except Failure α × σ} {a : α}
    (h : outcome.1.toOption = some a) : outcome = (.ok a, outcome.2) := by
  obtain ⟨e | b, s⟩ := outcome
  · cases h
  · cases h
    rfl

/-- The three bytes in the scratch file of the trio. -/
def bufferedParcel : Buffered where
  file := ⟨["s", Volume.temporaryName 0], "s/" ++ Volume.temporaryName 0, 3, 4, by decide⟩
  blob := "743e13ee0c4ee5a5"
  size := 1

def bufferedTrio : Except Failure Buffered × Cluster :=
  atGateway (Gateway.bufferIn readyTrio.gateway.scratch readyTrio.gateway.algorithm parcel)
    readyTrio

def placedTrio : Cluster :=
  { bufferedTrio.2 with
    masters := bufferedTrio.2.masters.set
      (bufferedTrio.2.owner bufferedParcel.blob) placedMaster.2 }

/-- Whichever cluster it owns the three bytes in, the master reserves space on all three workers. -/
theorem callOwner_readyMaster {cluster : Cluster} (direct : cluster.transport = .direct)
    (clock : cluster.clock = 0)
    (found : cluster.masters[cluster.owner bufferedParcel.blob]? = some readyMaster) :
    callOwner bufferedParcel.blob (.place bufferedParcel.blob bufferedParcel.size) cluster
      = (.ok ["a", "b", "c"], { cluster with
          masters := cluster.masters.set (cluster.owner bufferedParcel.blob) placedMaster.2 }) := by
  have places : placedMaster = (.ok ["a", "b", "c"], _) := eq_of_toOption (by decide +kernel)
  have answers : readyMaster.answer 0 (.place bufferedParcel.blob bufferedParcel.size)
      = (.ok ["a", "b", "c"], placedMaster.2) := answer_readyMaster.trans places
  rw [callOwner_of_direct direct found, clock, answers]

/-- What the trio does with the three bytes once they are placed. -/
theorem place_parcel : upload parcel readyTrio = (do
      saveCopies bufferedParcel ["a", "b", "c"]
      let _ ← atGateway bufferedParcel.file.remove
      return bufferedParcel.blob : Acting String) placedTrio := by
  have buffers : bufferedTrio = (.ok bufferedParcel, _) := eq_of_toOption (by decide +kernel)
  have found : bufferedTrio.2.masters[bufferedTrio.2.owner bufferedParcel.blob]?
      = some readyMaster := by decide +kernel
  have direct : bufferedTrio.2.transport = .direct := by decide +kernel
  have clock : bufferedTrio.2.clock = 0 := by decide +kernel
  exact upload_of_placed buffers (callOwner_readyMaster direct clock found)

theorem upload_parcel : ∃ stored, upload parcel readyTrio = (.ok "743e13ee0c4ee5a5", stored) := by
  rw [place_parcel]
  exact ⟨_, eq_of_toOption (by decide +kernel)⟩

/-- The three bytes are on a worker with a confirmed copy. -/
theorem file_of_parcel :
    ∃ master ∈ (trio.after (registrations ++ [(.clear 0 false, .upload parcel)])).masters,
      ∃ row ∈ master.ledger.copies.rows, row.blob = "743e13ee0c4ee5a5" ∧ row.state = .saved
        ∧ ∃ worker ∈ (trio.after (registrations ++ [(.clear 0 false, .upload parcel)])).workers,
          worker.address = row.worker
            ∧ ∃ bytes, worker.volume.bytes? (worker.store.pathFor row.blob) = some bytes
              ∧ worker.algorithm.digest bytes = row.blob := by
  have ordinary : ∀ step ∈ registrations ++ [(Weather.clear 0 false, Operation.upload parcel)],
      step.2.Ordinary := by
    simp [registrations, Operation.Ordinary]
  have start : trio.Guarded trio.everywhere := assembled_trio.guarded rfl rfl fun _ _ => id
  have ready : readyTrio.Guarded trio.everywhere :=
    (start.after (fun here operation _ allowed => safe_of_ordinary here allowed)
      (.of_forall fun step mem _ => ordinary step (List.mem_append_left _ mem))).under _
  -- The upload pins a copy, and the master of that copy has its row.
  have outcome := ready.leaves_upload (fun _ _ (_ : parcel = _) => trivial)
  obtain ⟨stored, uploaded⟩ := upload_parcel
  unfold Leaves at outcome
  rw [uploaded] at outcome
  obtain ⟨-, -, -, -, address, kept⟩ := outcome.2 _ rfl
  obtain ⟨master, found, row, listed, state⟩ := kept.pinned _ address (.inr ⟨rfl, rfl⟩)
  have mem := List.mem_of_getElem? found
  have files := file_of_saved assembled_trio ordinary
  have ends : trio.after (registrations ++ [(.clear 0 false, .upload parcel)]) = stored := by
    rw [after_append]
    show (upload parcel readyTrio).2 = stored
    rw [uploaded]
  rw [ends] at files ⊢
  obtain ⟨listed, named, -⟩ := Ledger.copy?_eq_some_iff.1 listed
  exact ⟨master, mem, row, listed, named, state, files master mem row listed state⟩

end Cluster

end BlobCluster
