import BlobCluster.Proofs.Cluster.Purging
import BlobCluster.Proofs.Cluster.Shards

/-!
# Deleting

A deletion makes the owner of a blob forget all copies of it, and then purges those that had one if
it is to.  The owner forgets all copies or none, and what it says decides whether the deletion ends
well; workers that are not reached or fail do not matter.  Rows and files of other blobs stay as
they are in any case.
-/

namespace BlobCluster.Cluster

variable {cluster between after : Cluster} {blob : String} {i : Nat} {holders : List String}
  {master later : Master} {guard : Guard}

/-! ## Forgetting -/

def withOwner (cluster : Cluster) (blob : String) (later : Master) : Cluster :=
  { cluster with masters := cluster.masters.set (cluster.owner blob) later }

/-- The owner of a blob forgets it and names all workers that had a row of it, or it fails and
forgets nothing.  There is no third case, because the rows of a blob are dropped by a single
query. -/
theorem leaves_callOwner_forget (direct : cluster.transport = .direct)
    (found : cluster.masters[cluster.owner blob]? = some master) :
    Leaves (callOwner blob (.forget blob)) cluster fun r after => ∃ later,
      after = cluster.withOwner blob later
        ∧ ((∃ e, r = .error e) ∧ ¬ master.Calm ∧ later.ledger = master.ledger
          ∨ r = .ok ((master.ledger.copiesOf blob).map (·.worker))
            ∧ later.ledger = master.ledger.dropBlob blob) := by
  unfold Leaves
  rw [callOwner_of_direct direct found]
  refine ⟨_, rfl, ?_⟩
  by_cases calm : master.Calm
  · exact .inr (calm.answer_of_meets cluster.clock (.forget blob) Placement.meets_forget)
  · have faulty := master.answer_of_meets cluster.clock (.forget blob)
      (fun e => .inl ⟨⟨e, rfl⟩, rfl⟩) Placement.meets_forget_faulty
    exact faulty.imp_left fun ⟨failed, kept⟩ => ⟨failed, calm, kept⟩

/-! ## Deleting -/

/-- The holders that a deletion tries to purge. -/
def tries (cluster : Cluster) (holders : List String) : List String :=
  if cluster.gateway.purge then holders else []

/-- Nobody loses a file unless deletions purge. -/
theorem loses_tries_iff :
    cluster.Loses blob (cluster.tries holders) i
      ↔ cluster.gateway.purge = true ∧ cluster.Loses blob holders i := by
  by_cases on : cluster.gateway.purge
  · rw [tries, if_pos on, and_iff_right on]
  · rw [tries, if_neg on]
    constructor
    · rintro ⟨address, mem, -⟩
      cases mem
    · exact fun ⟨is, _⟩ => absurd is on

/-- How a deletion may end.  Either its owner has failed and nothing was dropped, or the rows are
gone and the holders were tried as the gateway is set; failures of holders show in the report
only. -/
inductive Deleted (cluster : Cluster) (blob : String) (master : Master) :
    Except Failure Wire.DeleteReport → Cluster → Prop
  | failed {e : Failure} {later : Master} (calm : ¬ master.Calm)
    (kept : later.ledger = master.ledger) :
    Deleted cluster blob master (.error e) (cluster.withOwner blob later)
  | done {holders : List String} {later : Master} {after : Cluster}
    (named : holders = (master.ledger.copiesOf blob).map (·.worker))
    (dropped : later.ledger = master.ledger.dropBlob blob)
    (purged : (cluster.withOwner blob later).PurgedOf blob (cluster.tries holders) after) :
    Deleted cluster blob master
      (.ok ⟨.ofNat holders.length, .ofNat ((cluster.tries holders).countP (cluster.purges blob))⟩)
      after

/-- A deletion ends well if its owner has no outages, whatever comes of the holders.  If the owner
fails nothing was forgotten and no holder is asked.  If it does not, the holders are those it had
rows of, which are distinct, and they are purged only if the gateway is set to do so. -/
theorem deleted_delete (direct : cluster.transport = .direct)
    (sound : ∀ worker ∈ cluster.workers, worker.volume.Sound) (valid : BlobId.Valid blob)
    (found : cluster.masters[cluster.owner blob]? = some master) :
    Leaves (delete blob) cluster (cluster.Deleted blob master) := by
  refine Leaves.validate_bind valid ?_
  refine Leaves.bind (leaves_reporting ((leaves_callOwner_forget direct found).mono ?_))
  rintro _ _ ⟨later, rfl, ⟨⟨e, rfl⟩, calm, kept⟩ | ⟨rfl, dropped⟩⟩
  · exact .failed calm kept
  rw [followed_mapError_ok]
  obtain ⟨holders, named⟩ : ∃ holders, holders = (master.ledger.copiesOf blob).map (·.worker) :=
    ⟨_, rfl⟩
  have distinct : holders.Nodup := named ▸ master.ledger.nodup_workers blob
  rw [← named]
  refine Leaves.get_bind ?_
  split
  next on =>
    have tries : cluster.tries holders = holders := if_pos on
    have direct' : (cluster.withOwner blob later).transport = .direct := direct
    refine Leaves.lift_bind ((purgedOf_purge direct' sound valid distinct).mono ?_)
    rintro _ after ⟨rfl, purged⟩
    have done := Deleted.done named dropped (tries.symm ▸ purged)
    rw [tries] at done
    exact done
  next off =>
    have tries : cluster.tries holders = [] := if_neg off
    have nobody := PurgedOf.none (cluster.withOwner blob later) blob
    have done := Deleted.done named dropped (tries.symm ▸ nobody)
    rw [tries] at done
    exact done

/-- A cluster is as it was, but for the rows and the files of one blob.  Other rows are compared by
key and other files by what is seen, since clocks, outages and temporary files may differ. -/
structure SameBut (cluster : Cluster) (blob : String) (after : Cluster) : Prop where
  gateway : after.gateway = cluster.gateway
  shards : after.masters.length = cluster.masters.length
  staff : after.workers.length = cluster.workers.length
  rows : ∀ (j : Nat) (master : Master), cluster.masters[j]? = some master →
    ∃ later, after.masters[j]? = some later ∧ later.ledger.workers = master.ledger.workers
      ∧ (∀ other worker, other ≠ blob →
          later.ledger.copy? other worker = master.ledger.copy? other worker)
      ∧ (j ≠ cluster.owner blob → later.ledger = master.ledger)
  files : ∀ (i : Nat) (worker : Worker), cluster.workers[i]? = some worker →
    ∃ later, after.workers[i]? = some later
      ∧ ∀ other, BlobId.Valid other → other ≠ blob → later.holds? other = worker.holds? other

theorem SameBut.trans (h : cluster.SameBut blob between) (h' : between.SameBut blob after) :
    cluster.SameBut blob after where
  gateway := h'.gateway.trans h.gateway
  shards := h'.shards.trans h.shards
  staff := h'.staff.trans h.staff
  rows j master found := by
    have owner : between.owner blob = cluster.owner blob :=
      congrArg (Sharding.ownerIndex blob) h.shards
    obtain ⟨middle, found', capacity, copies, whole⟩ := h.rows j master found
    obtain ⟨later, found'', capacity', copies', whole'⟩ := h'.rows j middle found'
    refine ⟨later, found'', capacity'.trans capacity, fun other worker apart => ?_,
      fun elsewhere => ?_⟩
    · exact (copies' other worker apart).trans (copies other worker apart)
    · exact (whole' (owner ▸ elsewhere)).trans (whole elsewhere)
  files i worker found := by
    obtain ⟨middle, found', files⟩ := h.files i worker found
    obtain ⟨later, found'', files'⟩ := h'.files i middle found'
    refine ⟨later, found'', fun other valid apart => ?_⟩
    exact (files' other valid apart).trans (files other valid apart)

/-- The owner of a blob has changed only rows of the blob. -/
theorem sameBut_withOwner (found : cluster.masters[cluster.owner blob]? = some master)
    (capacity : later.ledger.workers = master.ledger.workers)
    (copies : ∀ other worker, other ≠ blob →
      later.ledger.copy? other worker = master.ledger.copy? other worker) :
    cluster.SameBut blob (cluster.withOwner blob later) where
  gateway := rfl
  shards := List.length_set
  staff := rfl
  rows j there found' := by
    show ∃ last, (cluster.masters.set _ later)[j]? = some last ∧ _
    rw [getElem?_set_of_some found]
    by_cases here : cluster.owner blob = j
    · obtain rfl : master = there := Option.some.inj (found.symm.trans (here ▸ found'))
      exact ⟨later, if_pos here, capacity, copies, fun elsewhere => absurd here.symm elsewhere⟩
    · exact ⟨there, (if_neg here).trans found', rfl, fun _ _ _ => rfl, fun _ => rfl⟩
  files i worker found := ⟨worker, found, fun _ _ _ => rfl⟩

theorem PurgedOf.sameBut (h : cluster.PurgedOf blob holders after) (valid : BlobId.Valid blob) :
    cluster.SameBut blob after where
  gateway := h.gateway
  shards := congrArg List.length h.masters
  staff := h.length
  rows j master found := ⟨master, h.masters ▸ found, rfl, fun _ _ _ => rfl, fun _ => rfl⟩
  files i worker found := by
    obtain ⟨later, found', purged⟩ := h.workers i worker found
    exact ⟨later, found', fun other valid' apart => purged.holds?_of_ne valid valid' apart⟩

/-- However a deletion ends, everything but its blob is as before. -/
theorem Deleted.sameBut {report : Except Failure Wire.DeleteReport}
    (h : cluster.Deleted blob master report after) (valid : BlobId.Valid blob)
    (found : cluster.masters[cluster.owner blob]? = some master) : cluster.SameBut blob after := by
  cases h with
  | failed calm kept =>
    refine sameBut_withOwner found (congrArg Ledger.workers kept) fun other worker _ => ?_
    rw [kept]
  | done named dropped purged =>
    refine (sameBut_withOwner found ?_ fun other worker apart => ?_).trans (purged.sameBut valid)
    · rw [dropped]
      rfl
    · rw [dropped, Ledger.copy?_dropBlob, if_neg apart]

/-! ## Once a blob is gone -/

/-- A blob that its owner has no confirmed copy of is not found. -/
theorem download_of_unsaved (direct : cluster.transport = .direct) (valid : BlobId.Valid blob)
    (found : cluster.masters[cluster.owner blob]? = some master) (calm : master.Calm)
    (housed : master.ledger.Housed) (unsaved : ∀ worker, ¬ master.ledger.Saved blob worker) :
    Leaves (download blob) cluster fun r _ => r = .error (Placement.noSavedCopy blob) := by
  refine Leaves.bind ?_
  unfold openBlob
  refine Leaves.validate_bind valid (Leaves.bind (leaves_reporting ?_))
  unfold Leaves
  rw [callOwner_of_direct direct found]
  have finds := calm.answer_of_meets cluster.clock (.locate blob)
    (Placement.finds_locate housed blob)
  rcases answered : (master.answer cluster.clock (.locate blob)).1 with e | worker
  · rw [answered] at finds
    obtain ⟨rfl, -⟩ := finds
    rfl
  · rw [answered] at finds
    exact absurd finds.1 (unsaved worker)

/-- Without outages of the owner a deletion ends well.  All holders are counted, the owner has no
row left, and exactly the holders whose file can be removed lose it. -/
theorem Deleted.of_calm {report : Except Failure Wire.DeleteReport}
    (h : cluster.Deleted blob master report after) (calm : master.Calm)
    (found : cluster.masters[cluster.owner blob]? = some master) :
    let holders := (master.ledger.copiesOf blob).map (·.worker)
    report = .ok ⟨.ofNat holders.length,
        .ofNat (if cluster.gateway.purge then holders.countP (cluster.purges blob) else 0)⟩
      ∧ (∃ later, after.masters[cluster.owner blob]? = some later
        ∧ later.ledger.copiesOf blob = [])
      ∧ ∀ (i : Nat) (worker : Worker), cluster.workers[i]? = some worker →
        ∃ last, after.workers[i]? = some last
          ∧ worker.Purged blob (cluster.gateway.purge = true ∧ cluster.Loses blob holders i)
              last := by
  intro holders
  cases h with
  | failed struck _ => exact absurd calm struck
  | @done _ later _ named dropped purged =>
    obtain rfl : _ = holders := named
    refine ⟨?_, ⟨later, ?_, ?_⟩, fun i worker there => ?_⟩
    · by_cases on : cluster.gateway.purge
      · rw [tries, if_pos on, if_pos on]
      · rw [tries, if_neg on, if_neg on]
        rfl
    · rw [purged.masters]
      exact getElem?_set_self_of_some found
    · rw [dropped]
      exact Ledger.copiesOf_dropBlob master.ledger blob
    · obtain ⟨last, there', gone⟩ := purged.workers i worker there
      exact ⟨last, there', gone.congr loses_tries_iff⟩

/-- A blob that its owner has no row of is deleted from nobody. -/
theorem Deleted.of_nil {report : Except Failure Wire.DeleteReport}
    (h : cluster.Deleted blob master report after) (calm : master.Calm)
    (none_ : master.ledger.copiesOf blob = []) : report = .ok ⟨0, 0⟩ := by
  cases h with
  | failed struck _ => exact absurd calm struck
  | done named _ _ =>
    rw [none_, List.map_nil] at named
    subst named
    have tries : cluster.tries [] = [] := ite_self _
    rw [tries]
    rfl

/-! ## Reachable clusters -/

/-- A master is calm in a weather that plans no outages for it. -/
theorem calm_of_under {weather : Weather}
    (found : (cluster.under weather).masters[i]? = some master)
    (answers : weather.calls i = []) (records : weather.queries i = []) : master.Calm := by
  rw [getElem?_masters_under] at found
  obtain ⟨before, -, rfl⟩ := Option.map_eq_some_iff.1 found
  exact ⟨answers, records⟩

/-- A blob without rows is not found, and is deleted from nobody.  The guard is used for what it
says of the structure of the cluster, and not for what it watches; the weather must leave the owner
without outages, since its answer is what is stated. -/
theorem Guarded.gone (h : cluster.Guarded guard) (valid : BlobId.Valid blob)
    (found : cluster.masters[cluster.owner blob]? = some master)
    (none_ : master.ledger.copiesOf blob = []) {weather : Weather}
    (answers : weather.calls (cluster.owner blob) = [])
    (records : weather.queries (cluster.owner blob) = []) :
    (download blob (cluster.under weather)).1 = .error (Placement.noSavedCopy blob)
      ∧ (delete blob (cluster.under weather)).1 = .ok ⟨0, 0⟩ := by
  have here := h.under weather
  have found' : (cluster.under weather).masters[(cluster.under weather).owner blob]?
      = some (struckMaster weather (cluster.owner blob) master) := by
    rw [owner_under, getElem?_masters_under, found]
    rfl
  have calm : (struckMaster weather (cluster.owner blob) master).Calm := ⟨answers, records⟩
  constructor
  · refine download_of_unsaved here.direct valid found' calm
      (here.housed _ (List.mem_of_getElem? found')) ?_
    refine Ledger.savedCopiesOf_eq_nil_iff.1 ?_
    show List.filter _ (master.ledger.copiesOf blob) = []
    rw [none_]
    rfl
  · have outcome := deleted_delete here.direct here.sound valid found'
    exact outcome.of_nil calm none_

/-- A deletion in any cluster that has been used in any way.  Nothing but rows and files of the blob
changes, however it ends.  If no call and no query of the owner fails, it ends well: it counts all
rows of the blob, the owner has none of them left, and in purging the workers lose exactly the files
of those holders that are reached, have one and do not fail to remove it, which are counted too.  As
long as nothing fails at the owner the blob is then not found, and nothing is left to delete.

A guard that watches nothing is kept by every run, so all that the run contributes is that calls are
direct and volumes sound.  `valid` is asked for because a master refuses to drop a text that is no
id.  The ends a deletion may come to are those of `Deleted`: the frame holds of each of them, and
the counts are read off the one that an owner without outages leaves. -/
theorem delete_from_holders (assembled : cluster.Assembled) (run : List (Weather × Operation))
    (weather : Weather) (valid : BlobId.Valid blob) :
    let here := (cluster.after run).under weather
    let after := (delete blob here).2
    here.SameBut blob after ∧
    (weather.calls (here.owner blob) = [] → weather.queries (here.owner blob) = [] →
      ∃ master, here.masters[here.owner blob]? = some master ∧
        let holders := (master.ledger.copiesOf blob).map (·.worker)
        (delete blob here).1 = .ok ⟨.ofNat holders.length,
          .ofNat (if weather.purge then holders.countP (here.purges blob) else 0)⟩ ∧
        (∃ later, after.masters[here.owner blob]? = some later ∧
          later.ledger.copiesOf blob = []) ∧
        (∀ (i : Nat) (worker : Worker), here.workers[i]? = some worker →
          ∃ last, after.workers[i]? = some last ∧
            worker.Purged blob (weather.purge = true ∧ here.Loses blob holders i) last ∧
            (weather.purge = true ∧ here.Loses blob holders i → last.holds? blob = none)) ∧
        ∀ next : Weather, next.calls (here.owner blob) = [] → next.queries (here.owner blob) = [] →
          (download blob (after.under next)).1 = .error (Placement.noSavedCopy blob) ∧
          (delete blob (after.under next)).1 = .ok ⟨0, 0⟩) := by
  intro here after
  have guarded : here.Guarded (cluster.unwatched fun _ _ => True) :=
    (guarded_unwatched assembled _ run).under weather
  have guarded' : after.Guarded (cluster.unwatched fun _ _ => True) :=
    guarded.leaves_delete fun _ => id
  have staffed : here.masters ≠ [] := by
    have many : here.masters.length = cluster.masters.length :=
      List.length_mapIdx.trans (cluster.shards_after run)
    rw [← List.length_pos_iff, many, List.length_pos_iff]
    exact assembled.staffed
  obtain ⟨master, found⟩ := exists_owner staffed blob
  have outcome : here.Deleted blob master (delete blob here).1 after :=
    deleted_delete guarded.direct guarded.sound valid found
  have same : here.SameBut blob after := outcome.sameBut valid found
  refine ⟨same, fun answers records => ⟨master, found, ?_⟩⟩
  have calm : master.Calm := calm_of_under found answers records
  obtain ⟨reported, ⟨later, found', none_⟩, purged⟩ := outcome.of_calm calm found
  refine ⟨reported, ⟨later, found', none_⟩, fun i worker there => ?_,
    fun next answers' records' => ?_⟩
  · obtain ⟨last, there', lost⟩ := purged i worker there
    exact ⟨last, there', lost, lost.holds?_self⟩
  · have owner : after.owner blob = here.owner blob :=
      congrArg (Sharding.ownerIndex blob) same.shards
    rw [← owner] at found' answers' records'
    exact guarded'.gone valid found' none_ answers' records'

/-- Two workers save the three bytes. -/
def twoSaves : List (Weather × Operation) :=
  [0, 2].map fun i =>
    (.clear 0 false, .save i (saveMessages "743e13ee0c4ee5a5" ([[1, 2], [3]].map .ok)))

/-- The workers of the trio register, space for the three bytes is reserved on all of them, and two
save them. -/
def twiceSaved : List (Weather × Operation) :=
  registrations ++ (.clear 0 false, .tell 0 (.place "743e13ee0c4ee5a5" 1)) :: twoSaves

def twiceSavedTrio : Cluster :=
  ({ readyTrio with masters := [placedMaster.2] } : Cluster).after twoSaves

theorem after_twiceSaved : trio.after twiceSaved = twiceSavedTrio := by
  have found : readyTrio.masters[0]? = some readyMaster := by decide +kernel
  have placed : (callMaster 0 (.place "743e13ee0c4ee5a5" 1) readyTrio).2
      = { readyTrio with masters := [placedMaster.2] } := by
    rw [callMaster_eq_atMaster, atMaster_of_some found]
    show Cluster.mk _ _ (readyTrio.masters.set 0 (readyMaster.answer 0 _).2) _ _ = _
    rw [answer_readyMaster]
    rfl
  have step : ∀ (here : Cluster) rest,
      here.after ((.clear 0 false, .tell 0 (.place "743e13ee0c4ee5a5" 1)) :: rest)
        = (callMaster 0 (.place "743e13ee0c4ee5a5" 1) (here.under (.clear 0 false))).2.after rest :=
    fun _ _ => rfl
  rw [twiceSaved, after_append, step, ← readyTrio, placed, twiceSavedTrio]

/-- Deletions purge; one worker is not reached, and one fails to remove. -/
def halfReached : Weather :=
  { Weather.clear 0 true with
    services := fun i => if i = 2 then [⟨.remove, ⟨.io, "read-only"⟩, 0, 1⟩] else []
    reachable := fun i => i != 1 }

/-- What becomes of the trio when the three bytes are deleted then. -/
def purgedTrio : Except Failure Wire.DeleteReport × Cluster :=
  delete "743e13ee0c4ee5a5" (twiceSavedTrio.under halfReached)

/-- Three holders are counted and one of them loses its file; then the three bytes are gone. -/
theorem delete_of_halfReached : purgedTrio.1 = .ok ⟨3, 1⟩ ∧
    (∃ last, purgedTrio.2.workers[0]? = some last ∧ last.holds? "743e13ee0c4ee5a5" = none) ∧
    (download "743e13ee0c4ee5a5" (purgedTrio.2.under (.clear 0 false))).1
      = .error (Placement.noSavedCopy "743e13ee0c4ee5a5") ∧
    (delete "743e13ee0c4ee5a5" (purgedTrio.2.under (.clear 0 false))).1 = .ok ⟨0, 0⟩ := by
  let here := twiceSavedTrio.under halfReached
  have valid : BlobId.Valid "743e13ee0c4ee5a5" := by decide +kernel
  have listed : (here.masters[here.owner "743e13ee0c4ee5a5"]?.map fun master =>
      (master.ledger.copiesOf "743e13ee0c4ee5a5").map (·.worker)) = some ["a", "b", "c"] := by
    decide +kernel
  have counted : ["a", "b", "c"].countP (here.purges "743e13ee0c4ee5a5") = 1 := by decide +kernel
  have reached : here.route? "a" = some 0 ∧ here.purges "743e13ee0c4ee5a5" "a" = true := by
    decide +kernel
  have some_ : 0 < here.workers.length := by decide +kernel
  have deleted := (delete_from_holders assembled_trio twiceSaved halfReached valid).2
  rw [after_twiceSaved, ← purgedTrio] at deleted
  obtain ⟨master, found, reported, -, purged, gone⟩ := deleted rfl rfl
  change here.masters[here.owner "743e13ee0c4ee5a5"]? = some master at found
  rw [found, Option.map_some] at listed
  rw [Option.some.inj listed] at reported purged
  refine ⟨?_, ?_, gone (.clear 0 false) rfl rfl⟩
  · rw [reported]
    show _ = Except.ok (Wire.DeleteReport.mk 3 (.ofNat 1))
    rw [← counted]
    rfl
  · obtain ⟨last, there, -, lost⟩ := purged 0 _ (List.getElem?_eq_getElem some_)
    exact ⟨last, there, lost ⟨rfl, "a", List.mem_cons_self, reached⟩⟩

end BlobCluster.Cluster
