import BlobCluster.Proofs.Cluster.Shards
import BlobCluster.Proofs.Worker.Committing

/-!
# When a save reaches a master

A worker that has saved a blob tells the master that owns it, once, and the file stays whatever
becomes of that call.  A save that is refused is over before any master is called: it ends in the
same way whichever masters there are, and leaves all of them as they were.
-/

namespace BlobCluster.Cluster

variable {cluster : Cluster} {worker : Worker} {i : Nat}

/-- A call of a master changes nothing but the masters. -/
theorem callOwner_snd (blob : String) (call : MasterCall) (cluster : Cluster) :
    (callOwner blob call cluster).2
      = { cluster with masters := (callOwner blob call cluster).2.masters } := by
  show (callMaster (cluster.owner blob) call cluster).2
    = { cluster with masters := (callMaster (cluster.owner blob) call cluster).2.masters }
  rw [callMaster_eq_atMaster]
  unfold atMaster
  cases cluster.masters[cluster.owner blob]? <;> rfl

theorem workers_callOwner (blob : String) (call : MasterCall) (cluster : Cluster) :
    (callOwner blob call cluster).2.workers = cluster.workers := by
  rw [callOwner_snd]

theorem same_of_callOwner {blob : String} {call : MasterCall} {r : Except Failure call.Answer}
    {after : Cluster} (called : callOwner blob call cluster = (r, after)) :
    after.workers = cluster.workers ∧ after.gateway = cluster.gateway
      ∧ after.transport = cluster.transport := by
  have rest := callOwner_snd blob call cluster
  rw [called] at rest
  change after = { cluster with masters := after.masters } at rest
  rw [rest]
  exact ⟨rfl, rfl, rfl⟩

/-- A save whose call gets through does on the volume what saving does. -/
theorem save_of_unstruck (reached : (worker.outages.strike .save).1 = none)
    (messages : Arriving SaveMessage) :
    worker.save messages
      = ((Worker.saveIn worker.store worker.algorithm messages worker.volume).1, { worker with
          volume := (Worker.saveIn worker.store worker.algorithm messages worker.volume).2
          outages := (worker.outages.strike .save).2 }) := by
  have struck : worker.outages.strike .save = (none, (worker.outages.strike .save).2) :=
    Prod.ext reached rfl
  unfold Worker.save Worker.attempt
  rw [struck]
  rfl

/-- A worker that could not save calls nobody. -/
theorem saveAt_of_refused (there : cluster.workers[i]? = some worker)
    {messages : Arriving SaveMessage} {e : Failure} {after : Worker}
    (saved : worker.save messages = (.error e, after)) :
    saveAt i messages cluster
      = (.error e, { cluster with workers := cluster.workers.set i after }) := by
  refine bind_of_error ?_
  rw [atWorker_of_some there]
  simp only [saved]
  rfl

theorem saveAt_of_stored (there : cluster.workers[i]? = some worker)
    {messages : Arriving SaveMessage} {blob : String} {after : Worker}
    (saved : worker.save messages = (.ok blob, after)) :
    saveAt i messages cluster = reporting (during ("notify master about " ++ blob))
      (callOwner blob (.confirm blob after.address))
      { cluster with workers := cluster.workers.set i after } := by
  refine (@bind_of_ok _ _ _ _ _ cluster { cluster with workers := cluster.workers.set i after }
    (blob, after.address) ?_).trans rfl
  rw [atWorker_of_some there]
  simp only [saved]
  rfl

/-- A worker whose store is ready, and which is reached, saves all or nothing.  If the save is
complete, the file of the blob has exactly the bytes that came and nothing else is changed, and in
any cluster the worker then makes one call: it tells the owner of the blob, which is left with what
it has heard, and the file stays if that call fails.  Otherwise nothing is changed at all, and in
any cluster the save fails in the way that is called for, with no master called.

A folder with fewer entries than there are temporary names has one of them free, which is what the
save needs to write anything before it knows the digest. -/
theorem save_all_or_nothing {top : Path} (ready : worker.store.Ready worker.volume top)
    (few : worker.volume.entries.rows.length < 2 ^ 48)
    (reached : (worker.outages.strike .save).1 = none) (messages : Arriving SaveMessage) :
    ∃ volume, let after := { worker with volume, outages := (worker.outages.strike .save).2 }
      (∀ blob bytes, Worker.Complete worker.algorithm messages blob bytes →
        worker.volume.Replaced volume (top ++ [blob]) (some (.file bytes))
        ∧ ∀ (cluster : Cluster) (i : Nat), cluster.workers[i]? = some worker →
          let stored := { cluster with workers := cluster.workers.set i after }
          let called := callOwner blob (.confirm blob worker.address) stored
          saveAt i messages cluster
              = (called.1.mapError (during ("notify master about " ++ blob)), called.2)
            ∧ called.2.workers = stored.workers
            ∧ (cluster.masters[cluster.owner blob]? = none → called = (.error noNode, stored))
            ∧ ∀ master, cluster.masters[cluster.owner blob]? = some master →
              let heard := cluster.heard (.confirm blob worker.address) master
              called = (heard.1, { stored with
                masters := cluster.masters.set (cluster.owner blob) heard.2 }))
      ∧ ((∀ blob bytes, ¬ Worker.Complete worker.algorithm messages blob bytes) →
        worker.volume.Keeps volume (fun _ => False)
        ∧ ∃ e, Worker.Refused worker.algorithm messages e
          ∧ ∀ (cluster : Cluster) (i : Nat), cluster.workers[i]? = some worker →
            saveAt i messages cluster
              = (.error e, { cluster with workers := cluster.workers.set i after })) := by
  have saved := save_of_unstruck reached messages
  refine ⟨(Worker.saveIn worker.store worker.algorithm messages worker.volume).2,
    fun blob bytes complete => ?_, fun incomplete => ?_⟩
  · obtain ⟨answered, replaced⟩ := Worker.leaves_saveIn_complete ready few complete
    rw [answered] at saved
    refine ⟨replaced, fun cluster i there => ⟨saveAt_of_stored there saved,
      workers_callOwner _ _ _, fun absent => ?_, fun master found => ?_⟩⟩
    · exact @callOwner_of_none { cluster with workers := cluster.workers.set i _ } blob absent _
    · exact @callOwner_of_some { cluster with workers := cluster.workers.set i _ } blob master
        found _
  · obtain ⟨e, refused⟩ := Worker.refused_of_incomplete incomplete
    obtain ⟨answered, keeps⟩ := Worker.leaves_saveIn_refused ready few refused
    rw [answered] at saved
    exact ⟨keeps, e, refused, fun cluster i there => saveAt_of_refused there saved⟩

/-- The trio once its master has placed the three bytes. -/
def bookedTrio : Cluster := { trio with masters := [placedMaster.2] }

/-- Three bytes are saved under their digest.  Where they have been placed, the copy is then saved
in the ledger and its unit of space is spent; where they have not, the file stays all the same and
the master is left as it was.  One byte is refused under that name. -/
theorem saves_of_fresh_worker :
    (∃ volume, (freshWorker "a").volume.Replaced volume ["a", "743e13ee0c4ee5a5"]
          (some (.file [1, 2, 3]))
        ∧ (let saved := saveAt 0 (saveMessages "743e13ee0c4ee5a5" ([[1, 2], [3]].map .ok)) bookedTrio
          saved.1 = .ok () ∧ saved.2.workers = trio.workers.set 0 { freshWorker "a" with volume }
            ∧ ∃ owner, saved.2.masters = [owner]
              ∧ owner.ledger.copy? "743e13ee0c4ee5a5" "a"
                = some ⟨"copy-0", "743e13ee0c4ee5a5", "a", .saved, 1⟩
              ∧ owner.ledger.worker? "a" = some ⟨"a", 9, 0, 0⟩)
        ∧ let saved := saveAt 0 (saveMessages "743e13ee0c4ee5a5" ([[1, 2], [3]].map .ok)) trio
          saved.1.toOption = none
            ∧ saved.2.workers = trio.workers.set 0 { freshWorker "a" with volume }
            ∧ saved.2.masters = trio.masters)
      ∧ ∃ volume e, (freshWorker "a").volume.Keeps volume (fun _ => False)
        ∧ saveAt 0 (saveMessages "743e13ee0c4ee5a5" ([[1]].map .ok)) trio
          = (.error e, { trio with workers := trio.workers.set 0 { freshWorker "a" with volume } })
          := by
  have sound : (freshWorker "a").volume.Sound := Volume.sound_blank.makeFolders ["a"]
  obtain ⟨top, ready⟩ : ∃ top, (freshWorker "a").store.Ready (freshWorker "a").volume top :=
    ChunkStore.ready_of_empty sound (by decide +kernel) (by decide)
  have located : (freshWorker "a").volume.locate (freshWorker "a").store.root = .ok ["a"] := by
    decide +kernel
  obtain rfl : ["a"] = top := Except.ok.inj (located.symm.trans ready.located)
  have few : (freshWorker "a").volume.entries.rows.length < 2 ^ 48 := by decide +kernel
  constructor
  · obtain ⟨volume, committed, -⟩ := save_all_or_nothing ready few rfl
      (saveMessages "743e13ee0c4ee5a5" ([[1, 2], [3]].map .ok))
    have complete : Worker.Complete .xxh64 (saveMessages "743e13ee0c4ee5a5"
        ([[1, 2], [3]].map .ok)) "743e13ee0c4ee5a5" [1, 2, 3] :=
      ⟨by decide +kernel, by decide +kernel, _, rfl, rfl⟩
    obtain ⟨replaced, calls⟩ := committed _ _ complete
    refine ⟨volume, replaced, ?_, ?_⟩
    · have found : bookedTrio.masters[bookedTrio.owner "743e13ee0c4ee5a5"]?
          = some placedMaster.2 := by decide +kernel
      have confirms : (bookedTrio.heard (.confirm "743e13ee0c4ee5a5" "a") placedMaster.2).1
          = .ok () := by decide +kernel
      have only : bookedTrio.masters.set (bookedTrio.owner "743e13ee0c4ee5a5")
          (bookedTrio.heard (.confirm "743e13ee0c4ee5a5" "a") placedMaster.2).2
            = [(bookedTrio.heard (.confirm "743e13ee0c4ee5a5" "a") placedMaster.2).2] := by
        decide +kernel
      obtain ⟨saved, kept, -, heard⟩ := calls bookedTrio 0 rfl
      rw [heard _ found] at saved kept
      rw [saved]
      refine ⟨?_, kept, _, only, by decide +kernel, by decide +kernel⟩
      exact congrArg (Except.mapError (during ("notify master about " ++ "743e13ee0c4ee5a5")))
        confirms
    · have found : trio.masters[trio.owner "743e13ee0c4ee5a5"]? = some (.start "m" "copy") := by
        decide +kernel
      have same : trio.masters.set (trio.owner "743e13ee0c4ee5a5")
          (trio.heard (.confirm "743e13ee0c4ee5a5" "a") (.start "m" "copy")).2 = trio.masters := by
        decide +kernel
      obtain ⟨saved, kept, -, heard⟩ := calls trio 0 rfl
      rw [heard _ found] at saved kept
      rw [saved]
      exact ⟨rfl, kept, same⟩
  · obtain ⟨volume, -, left⟩ := save_all_or_nothing ready few rfl
      (saveMessages "743e13ee0c4ee5a5" ([[1]].map .ok))
    obtain ⟨keeps, e, -, refused⟩ := left fun blob bytes ⟨_, named, chunks, same, joined⟩ => by
      obtain ⟨rfl, rfl⟩ := saveMessages_inj same
      revert named
      rw [← joined]
      decide +kernel
    exact ⟨volume, e, keeps, refused trio 0 rfl⟩

end BlobCluster.Cluster
