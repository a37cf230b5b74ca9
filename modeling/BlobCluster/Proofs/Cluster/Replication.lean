import BlobCluster.Proofs.Cluster.Sparing
import BlobCluster.Proofs.Ledger.Finding

/-!
# How many copies an upload leaves

A blob that has no confirmed copy is placed on three workers, and an upload that succeeds has saved
it on all of them.  A blob that has one is not placed again: its holders are named, as few as they
may be, and the upload saves it on these.  So three copies are there after an upload of something
new, also if an earlier upload of it has reserved space and broken off before its first copy was
confirmed; after any other upload there are as many as before.

Between two uploads a blob can lose a holder, because a worker that registers again is taken to have
lost its files, and an upload that breaks off leaves the copies it has confirmed.  Uploading the
blob once more does not make up for either.
-/

namespace BlobCluster

/-! ## Whom a placement names -/

/-- The workers that a placement of a blob may name, if these are known to hold it: all of them, or
three if there are none. -/
structure Placement.Chooses (holder : String → Prop) (addresses : List String) : Prop where
  distinct : addresses.Nodup
  fresh : (∀ worker, ¬ holder worker) → addresses.length = 3
  held : (∃ worker, holder worker) → ∀ worker, worker ∈ addresses ↔ holder worker

theorem Placement.Chooses.congr {holder holder' : String → Prop} {addresses : List String}
    (h : Chooses holder addresses) (same : ∀ worker, holder' worker ↔ holder worker) :
    Chooses holder' addresses := by
  obtain rfl : holder' = holder := funext fun worker => propext (same worker)
  exact h

namespace Ledger

variable {ledger : Ledger} {blob : String}

theorem nodup_holders (ledger : Ledger) (blob : String) :
    ((ledger.savedCopiesOf blob).map (·.worker)).Nodup :=
  (nodup_workers ledger blob).sublist (List.filter_sublist.map _)

theorem mem_holders {worker : String} :
    worker ∈ (ledger.savedCopiesOf blob).map (·.worker) ↔ ledger.Saved blob worker :=
  List.mem_map.trans saved_iff.symm

end Ledger

namespace Placement.Placed

variable {blob : String} {size : UInt64} {before after : Ledger} {addresses : List String}

/-- Every way in which a placement ends well chooses the workers it names. -/
theorem chooses (h : Placed blob size before (.ok addresses) after) :
    Chooses (before.Saved blob) addresses := by
  cases h with
  | held valid some_ =>
    refine ⟨before.nodup_holders blob, fun none_ => ?_, fun _ _ => Ledger.mem_holders⟩
    exact absurd (Ledger.savedCopiesOf_eq_nil_iff.2 none_) some_
  | booked valid none_ chosen booking =>
    refine ⟨?_, fun _ => ?_, fun ⟨worker, saved⟩ => ?_⟩
    · exact Selection.nodup_roomiest chosen before.workers.nodup_keys
    · rw [List.length_map, Selection.length_roomiest chosen]
      rfl
    · exact absurd saved (Ledger.savedCopiesOf_eq_nil_iff.1 none_ worker)

/-- Whoever holds the blob after it has been placed is named: nobody becomes a holder by that. -/
theorem named (h : Placed blob size before (.ok addresses) after) {worker : String}
    (saved : after.Saved blob worker) : worker ∈ addresses := by
  cases h with
  | held => exact Ledger.mem_holders.2 saved
  | booked valid none_ chosen bookings =>
    have distinct := Selection.nodup_roomiest chosen before.workers.nodup_keys
    have unsaved := Ledger.savedCopiesOf_eq_nil_iff.1 none_ worker
    exact absurd saved ((bookings.booking distinct).not_saved unsaved)

end Placement.Placed

/-- Whatever outages are planned, a placement that is answered names workers that may be chosen, and
nobody else holds the blob. -/
theorem Master.placed_of_answer {master : Master} {now : Int64} {blob : String} {size : UInt64}
    {addresses : List String}
    (answered : (master.answer now (.place blob size)).1 = .ok addresses) :
    Placement.Chooses (master.ledger.Saved blob) addresses
      ∧ ∀ worker, (master.answer now (.place blob size)).2.ledger.Saved blob worker →
        worker ∈ addresses := by
  have placed : (MasterCall.program now (.place blob size)).Meets true (fun r after =>
      ∀ addresses, r = .ok addresses → Placement.Chooses (master.ledger.Saved blob) addresses
        ∧ ∀ worker, after.Saved blob worker → worker ∈ addresses) master.ledger :=
    Placement.placed_place.answering.mono fun _ _ ended addresses same =>
      ⟨(ended addresses same).chooses, fun _ => (ended addresses same).named⟩
  exact master.answer_of_meets now (.place blob size) (fun _ => nofun) placed addresses answered

/-- An upload, a deletion or a registration. -/
def Operation.Changing : Operation → Prop
  | .upload _ | .delete _ | .tell _ (.register _ _) => True
  | _ => False

namespace Cluster

variable {cluster : Cluster}

/-! ## Copies of an upload -/

def unwatched (cluster : Cluster) (good : String → Bytes → Prop) : Guard where
  watched := fun _ _ => False
  good := good
  strict := False
  pinned := fun _ _ => False
  algorithm := cluster.gateway.algorithm
  addresses := cluster.workers.map (·.address)

theorem guarded_unwatched (assembled : cluster.Assembled) (good : String → Bytes → Prop)
    (run : List (Weather × Operation)) : (cluster.after run).Guarded (cluster.unwatched good) := by
  have safe : ∀ (here : Cluster) (operation : Operation),
      operation.Safe (cluster.unwatched fun _ _ => True) here := by
    intro here operation
    cases operation with
    | upload messages => exact fun _ _ _ => trivial
    | delete blob => exact fun _ => id
    | save i messages => exact fun _ _ _ _ => trivial
    | remove i blob => exact fun _ => id
    | tell i call => exact ⟨fun _ _ _ => ⟨False.elim, False.elim⟩, fun _ _ pinned => pinned.elim⟩
    | _ => trivial
  have start : cluster.Guarded (cluster.unwatched fun _ _ => True) :=
    assembled.guarded rfl rfl fun _ _ => id
  have throughout : cluster.Throughout (fun _ _ => True) run := .of_forall fun _ _ _ => trivial
  have guarded := start.after (fun here operation _ _ => safe here operation) throughout
  exact { guarded with backed := fun _ _ no => no.elim }

/-- However masters are reached, a placement that is answered names workers that may be chosen, and
outside of these no copy is confirmed then. -/
theorem placed_of_callOwner {blob : String} {size : UInt64} {addresses : List String}
    {placed : Cluster}
    (answered : callOwner blob (.place blob size) cluster = (.ok addresses, placed)) :
    Placement.Chooses (cluster.Confirmed blob) addresses
      ∧ ∀ address, placed.Confirmed blob address → address ∈ addresses := by
  cases found : cluster.masters[cluster.owner blob]? with
  | none =>
    rw [callOwner_of_none found] at answered
    cases answered
  | some master =>
    have relayed := cluster.relayed_heard (MasterCall.posted_place blob size) master
    rw [callOwner_of_some found] at answered
    revert relayed answered
    generalize cluster.heard (.place blob size) master = heard
    intro answered relayed
    cases relayed with
    | unmade e => cases answered
    | failed e => cases answered
    | answered =>
      obtain ⟨same, rfl⟩ := Prod.mk.inj answered
      obtain ⟨chooses, named⟩ := Master.placed_of_answer same
      refine ⟨chooses.congr fun _ => confirmed_iff_of_owner found, fun address confirmed => ?_⟩
      refine named address ((confirmed_iff_of_owner ?_).1 confirmed)
      rw [owner_setMaster]
      exact getElem?_set_self_of_some found

/-- Whatever has been done to a cluster and whatever fails meanwhile, a successful upload has all
its bytes saved and confirmed on every worker that the owner of the blob has named, and nowhere else
is a copy of the blob confirmed then.  These are three workers if the blob had no confirmed copy,
and otherwise those that had one.

That nothing is confirmed elsewhere is a frame: the placement names every holder there is and
confirms nothing, and each save after that leaves alone what is not about its own address. -/
theorem copies_of_upload (assembled : cluster.Assembled) (run : List (Weather × Operation))
    (weather : Weather) {messages : Arriving UploadMessage} {blob : String} {stored : Cluster}
    (uploaded : upload messages ((cluster.after run).under weather) = (.ok blob, stored)) :
    ∃ size, ∃ chunks : List Bytes, messages = uploadMessages size (chunks.map .ok)
      ∧ ∃ addresses : List String, addresses.Nodup
        ∧ (∀ address ∈ addresses, stored.Secured blob address chunks.flatten)
        ∧ (∀ address, stored.Confirmed blob address → address ∈ addresses)
        ∧ ((∀ address, ¬ (cluster.after run).Confirmed blob address) → addresses.length = 3)
        ∧ ((∃ address, (cluster.after run).Confirmed blob address) →
          ∀ address, address ∈ addresses ↔ (cluster.after run).Confirmed blob address) := by
  have guarded := (guarded_unwatched assembled (fun _ _ => True) run).under weather
  obtain ⟨buffered, buffering, addresses, placed, saved, buffers, placing, saving, rfl, masters,
    workers⟩ := saved_of_upload uploaded
  rw [atGateway_apply] at buffers
  obtain ⟨answered, rfl⟩ := Prod.mk.inj buffers
  have buffer := @Gateway.leaves_bufferIn ((cluster.after run).under weather).gateway.volume
    ((cluster.after run).under weather).gateway.scratch
    ((cluster.after run).under weather).gateway.algorithm messages guarded.scratch
  unfold Leaves at buffer
  rw [answered] at buffer
  obtain ⟨-, size, chunks, arrived, -, named, -, place, holds⟩ := buffer
  obtain ⟨chooses, outside⟩ := placed_of_callOwner placing
  obtain ⟨sameWorkers, gateway, transport⟩ := same_of_callOwner placing
  have sturdy : placed.Sturdy := by
    refine ⟨fun worker mem => ?_, fun _ _ => .inl (transport.trans guarded.direct)⟩
    rw [sameWorkers] at mem
    exact guarded.sound worker mem
  have saves := leaves_saveCopies sturdy (by rw [gateway]; exact holds)
    (by rw [gateway]; exact named) chooses.distinct
  unfold Leaves at saves
  rw [saving] at saves
  obtain ⟨spares, -, secured⟩ := saves
  have before : Placement.Chooses ((cluster.after run).Confirmed buffered.blob) addresses :=
    chooses.congr fun _ => (confirmed_under weather).symm
  refine ⟨size, chunks, arrived, addresses, chooses.distinct, fun address mem => ?_,
    fun address confirmed => ?_, before.fresh, before.held⟩
  · exact (secured rfl address mem).of_same masters workers
  · by_contra untried
    have inPlace := (spares.confirmed_iff untried).1 ((confirmed_of_same masters).1 confirmed)
    exact untried (outside address inPlace)

/-! ## A holder that registers again -/

/-- The trio takes the three bytes, and then one of its workers registers again. -/
def returned : List (Weather × Operation) :=
  registrations ++ [(.clear 0 false, .upload parcel), (.clear 0 false, .tell 0 (.register "b" 10))]

def returnedTrio : Cluster :=
  let stored := ((do
    saveCopies bufferedParcel ["a", "b", "c"]
    let _ ← atGateway bufferedParcel.file.remove
    return bufferedParcel.blob : Acting String) placedTrio).2
  (callMaster 0 (.register "b" 10) (stored.under (.clear 0 false))).2

theorem after_returned : trio.after returned = returnedTrio := by
  have steps : ∀ here : Cluster,
      here.after [(.clear 0 false, .upload parcel), (.clear 0 false, .tell 0 (.register "b" 10))]
        = (callMaster 0 (.register "b" 10)
            ((upload parcel (here.under (.clear 0 false))).2.under (.clear 0 false))).2 :=
    fun _ => rfl
  rw [returned, after_append, steps, ← readyTrio, place_parcel, returnedTrio]

/-- What the trio then does with the three bytes. -/
def repeatedTrio : Except Failure String × Cluster :=
  upload parcel (returnedTrio.under (.clear 0 false))

/-- It takes them again, and two workers have a confirmed copy. -/
theorem repeat_parcel : repeatedTrio.1.toOption = some "743e13ee0c4ee5a5"
    ∧ ∀ master ∈ repeatedTrio.2.masters,
      (master.ledger.savedCopiesOf "743e13ee0c4ee5a5").map (·.worker) = ["a", "c"] := by
  decide +kernel

/-- The trio saves three bytes that are new to it on all its workers, and after one of them has
registered again on the other two; in either case nowhere else. -/
theorem copies_of_parcel :
    (∃ stored, upload parcel readyTrio = (.ok "743e13ee0c4ee5a5", stored)
      ∧ ∃ addresses : List String, addresses.Nodup ∧ addresses.length = 3
        ∧ (∀ address ∈ addresses, stored.Secured "743e13ee0c4ee5a5" address [1, 2, 3])
        ∧ ∀ address, stored.Confirmed "743e13ee0c4ee5a5" address → address ∈ addresses)
      ∧ ∃ stored, upload parcel ((trio.after returned).under (.clear 0 false))
          = (.ok "743e13ee0c4ee5a5", stored)
        ∧ (∀ address ∈ ["a", "c"], stored.Secured "743e13ee0c4ee5a5" address [1, 2, 3])
        ∧ ∀ address, stored.Confirmed "743e13ee0c4ee5a5" address → address ∈ ["a", "c"] := by
  have whole : ∀ {size} {chunks : List Bytes}, parcel = uploadMessages size (chunks.map .ok) →
      chunks.flatten = [1, 2, 3] := by
    intro size chunks arrived
    rw [← (uploadMessages_inj arrived).2]
    rfl
  constructor
  · obtain ⟨stored, uploaded⟩ := upload_parcel
    obtain ⟨size, chunks, arrived, addresses, distinct, secured, only, fresh, -⟩ :=
      copies_of_upload assembled_trio registrations (.clear 0 false) uploaded
    have found : (trio.after registrations).masters[(trio.after registrations).owner
        "743e13ee0c4ee5a5"]? = some readyMaster := by decide +kernel
    have none_ : ∀ address,
        ¬ (trio.after registrations).Confirmed "743e13ee0c4ee5a5" address := by
      intro address confirmed
      have saved := (confirmed_iff_of_owner found).1 confirmed
      exact Ledger.savedCopiesOf_eq_nil_iff.1 rfl address saved
    rw [whole arrived] at secured
    exact ⟨stored, uploaded, addresses, distinct, fresh none_, secured, only⟩
  · have uploaded : upload parcel ((trio.after returned).under (.clear 0 false))
        = (.ok "743e13ee0c4ee5a5", repeatedTrio.2) := by
      rw [after_returned]
      exact eq_of_toOption repeat_parcel.1
    obtain ⟨size, chunks, arrived, addresses, -, secured, only, -, held⟩ :=
      copies_of_upload assembled_trio returned (.clear 0 false) uploaded
    obtain ⟨master, found⟩ := (trio.after returned).exists_owner
      (by rw [after_returned]; decide +kernel) "743e13ee0c4ee5a5"
    have holders : (master.ledger.savedCopiesOf "743e13ee0c4ee5a5").map (·.worker)
        = ["a", "c"] := by
      have all : ∀ master ∈ returnedTrio.masters,
          (master.ledger.savedCopiesOf "743e13ee0c4ee5a5").map (·.worker) = ["a", "c"] := by
        decide +kernel
      exact all master (after_returned ▸ List.mem_of_getElem? found)
    have two : ∀ address, (trio.after returned).Confirmed "743e13ee0c4ee5a5" address
        ↔ address ∈ ["a", "c"] := by
      intro address
      rw [confirmed_iff_of_owner found, ← Ledger.mem_holders, holders]
    have named := held ⟨"a", (two "a").2 (by decide)⟩
    rw [whole arrived] at secured
    refine ⟨_, uploaded, fun address mem => ?_, fun address confirmed => ?_⟩
    · exact secured address ((named address).2 ((two address).2 mem))
    · exact (two address).1 ((named address).1 (only address confirmed))

/-- A cluster need not have three copies of what has been uploaded to it, even if nothing has ever
failed: an upload of something that has lost a holder leaves it to the others. -/
theorem not_three_copies : ¬ ∀ (cluster : Cluster) (run : List (Weather × Operation))
    (size : UInt64) (chunks : List Bytes) (blob : String) (stored : Cluster),
    cluster.Assembled → (∀ step ∈ run, step.2.Changing) →
    upload (uploadMessages size (chunks.map .ok)) ((cluster.after run).under (.clear 0 false))
      = (.ok blob, stored) →
    ∃ addresses : List String, addresses.Nodup ∧ 3 ≤ addresses.length
      ∧ ∀ address ∈ addresses, stored.Secured blob address chunks.flatten := by
  intro three
  obtain ⟨taken, holders⟩ := repeat_parcel
  have changing : ∀ step ∈ returned, step.2.Changing := by
    simp [returned, registrations, Operation.Changing]
  have uploaded : upload parcel ((trio.after returned).under (.clear 0 false))
      = (.ok "743e13ee0c4ee5a5", repeatedTrio.2) := by
    rw [after_returned]
    exact eq_of_toOption taken
  obtain ⟨addresses, distinct, many, secured⟩ :=
    three trio returned 3 [[1, 2], [3]] _ _ assembled_trio changing uploaded
  have held : addresses ⊆ ["a", "c"] := by
    intro address mem
    obtain ⟨master, found, saved⟩ := (secured address mem).confirmed
    rw [← holders master (List.mem_of_getElem? found)]
    exact Ledger.mem_holders.2 saved
  have few : addresses.length ≤ 2 := (List.subperm_of_subset distinct held).length_le
  omega

end Cluster

end BlobCluster
