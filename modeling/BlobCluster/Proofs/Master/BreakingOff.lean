import BlobCluster.Proofs.Ledger.Breaking
import BlobCluster.Proofs.Master.Placing

/-!
# Placements that break off

A placement poses up to eleven queries, and any of them may be the one that fails.  Before the loop
over the chosen workers nothing is written.  In the loop the workers are enrolled one after the
other, and each of them in two writes: first its copy, then its row with the space locked.  So a
placement that breaks off leaves some of the chosen workers enrolled, the next one untouched or with
a copy for which no space is locked, and everything else as it was (`placement_broken_off`).

The invariant is `Ledger.BreaksOff`.  It relates a query to the ledger on which it is posed, follows
the loop from its first worker on, and holds for every gate.  `Ledger.Remains` says the same row by
row.
-/

namespace BlobCluster

open Program

namespace Ledger

variable {before now : Ledger} {blob : String} {size : UInt64} {row : WorkerRow}
  {rows : List WorkerRow} {id : String} {q : Query}

/-- What a placement on some workers leaves if this query is struck: some workers are enrolled, and
the next one is as it was, or has a new copy while its row is about to be updated. -/
inductive BreaksOff (blob : String) (size : UInt64) (rows : List WorkerRow) (before : Ledger) :
    Query → Ledger → Prop
  | untouched {done : List WorkerRow} {row : WorkerRow} {rest : List WorkerRow}
    {ids : List String} {q : Query} {now : Ledger} (split : rows = done ++ row :: rest)
    (enrolled : Enrolled blob size done ids before now)
    (next : q = .copyOn blob row.address
      ∨ before.copy? blob row.address = none
        ∧ ∃ id, q = .addCopy ⟨id, blob, row.address, .duringCreation, size⟩) :
    BreaksOff blob size rows before q now
  | unlocked {done : List WorkerRow} {row : WorkerRow} {rest : List WorkerRow}
    {ids : List String} {id : String} {between : Ledger} (split : rows = done ++ row :: rest)
    (enrolled : Enrolled blob size done ids before between)
    (absent : before.copy? blob row.address = none) :
    BreaksOff blob size rows before (.updateWorker { row with locked := row.locked + size })
      (between.putCopy ⟨id, blob, row.address, .duringCreation, size⟩)

/-- A worker that was passed over counts as enrolled. -/
theorem BreaksOff.known (found : (before.copy? blob row.address).isSome)
    (h : BreaksOff blob size rows before q now) :
    BreaksOff blob size (row :: rows) before q now := by
  cases h with
  | untouched split enrolled next =>
    subst split
    exact .untouched (List.cons_append ..).symm (enrolled.known found) next
  | unlocked split enrolled absent =>
    subst split
    exact .unlocked (List.cons_append ..).symm (enrolled.known found) absent

/-- A worker that was booked is enrolled before the others.  The workers are distinct, so booking
the first has not given any of the others a copy. -/
theorem BreaksOff.cons (absent : before.copy? blob row.address = none)
    (fits : Selection.fits size row = true) (new : row.address ∉ rows.map (·.address))
    (h : BreaksOff blob size rows (before.book id blob size row) q now) :
    BreaksOff blob size (row :: rows) before q now := by
  have elsewhere : ∀ other ∈ rows, (before.book id blob size row).copy? blob other.address
      = before.copy? blob other.address := fun other mem =>
    ((Booking.book id absent).untouched fun same =>
      new (List.mem_map.2 ⟨other, mem, same⟩)).1
  have later : ∀ {done rest : List WorkerRow}, rows = done ++ rest →
      row.address ∉ done.map (·.address) := by
    rintro done rest rfl mem
    rw [List.map_append] at new
    exact new (List.mem_append_left _ mem)
  cases h with
  | untouched split enrolled next =>
    subst split
    rw [elsewhere _ (by simp)] at next
    exact .untouched (List.cons_append ..).symm (enrolled.cons absent fits (later rfl)) next
  | unlocked split enrolled absent' =>
    subst split
    rw [elsewhere _ (by simp)] at absent'
    exact .unlocked (List.cons_append ..).symm (enrolled.cons absent fits (later rfl)) absent'

/-! ## Row by row -/

/-- A worker is done with: it had a copy of the blob, and nothing has changed, or it has got a new
copy, and exactly its size more is locked. -/
def Processed (blob : String) (size : UInt64) (row : WorkerRow) (before now : Ledger) : Prop :=
  (before.copy? blob row.address).isSome
      ∧ now.copy? blob row.address = before.copy? blob row.address
      ∧ now.worker? row.address = before.worker? row.address
    ∨ before.copy? blob row.address = none
      ∧ (∃ id, now.copy? blob row.address = some ⟨id, blob, row.address, .duringCreation, size⟩)
      ∧ ∃ locked : UInt64, locked.toNat = row.locked.toNat + size.toNat
        ∧ now.worker? row.address = some { row with locked }

/-- Everything that is left of a placement which has done with some workers and breaks off at a
query about the next one.  The query is given with its row, so it is known which write is missing;
the workers after the next one have not been turned to. -/
structure Remains (blob : String) (size : UInt64) (done : List WorkerRow) (row : WorkerRow)
    (q : Query) (before now : Ledger) : Prop where
  processed : ∀ earlier ∈ done, Processed blob size earlier before now
  /-- The next one is as it was, or has just got a new copy. -/
  next : (q = .copyOn blob row.address
        ∨ ∃ id, q = .addCopy ⟨id, blob, row.address, .duringCreation, size⟩)
      ∧ now.copy? blob row.address = before.copy? blob row.address
    ∨ q = .updateWorker { row with locked := row.locked + size }
      ∧ before.copy? blob row.address = none
      ∧ ∃ id, now.copy? blob row.address = some ⟨id, blob, row.address, .duringCreation, size⟩
  workers : ∀ worker, worker ∉ done.map (·.address) → now.worker? worker = before.worker? worker
  copies : ∀ other worker, ¬ (other = blob ∧ worker ∈ (done ++ [row]).map (·.address)) →
    now.copy? other worker = before.copy? other worker

theorem Enrolled.processed {ids : List String} (h : Enrolled blob size rows ids before now)
    (mem : row ∈ rows) : Processed blob size row before now := by
  cases found : before.copy? blob row.address with
  | none =>
    have new : row ∈ before.newcomers blob rows := List.mem_filter.2 ⟨mem, by simp [found]⟩
    obtain ⟨n, lt, rfl⟩ := List.getElem_of_mem new
    have lt' : n < ids.length := h.length ▸ lt
    have entry : ((before.newcomers blob rows)[n], ids[n])
        ∈ (before.newcomers blob rows).zip ids := by
      refine List.mem_iff_getElem.2 ⟨n, ?_, List.getElem_zip⟩
      rw [List.length_zip]
      exact lt_min lt lt'
    obtain ⟨copy, locked, exact_, current⟩ := h.written _ entry
    exact .inr ⟨found, ⟨_, copy⟩, locked, exact_, current⟩
  | some copy =>
    have old : row.address ∉ (before.newcomers blob rows).map (·.address) := by
      intro new
      obtain ⟨other, new, same⟩ := List.mem_map.1 new
      obtain ⟨-, absent⟩ := List.mem_filter.1 new
      rw [same, found] at absent
      cases absent
    exact .inl ⟨by simp [found], h.copies _ _ fun both => old both.2, h.workers _ old⟩

theorem Enrolled.elsewhere {ids : List String} {worker : String}
    (h : Enrolled blob size rows ids before now) (away : worker ∉ rows.map (·.address)) :
    now.copy? blob worker = before.copy? blob worker
      ∧ now.worker? worker = before.worker? worker := by
  have old : worker ∉ (before.newcomers blob rows).map (·.address) := fun mem =>
    away ((List.filter_sublist.map _).subset mem)
  exact ⟨h.copies _ _ fun both => old both.2, h.workers _ old⟩

/-- A copy for one worker makes no difference to the others. -/
theorem Processed.putCopy (h : Processed blob size row before now) {copy : CopyRow}
    (differs : copy.worker ≠ row.address) : Processed blob size row before (now.putCopy copy) := by
  have same : (now.putCopy copy).copy? blob row.address = now.copy? blob row.address := by
    rw [copy?_putCopy, if_neg fun both => differs both.2]
  unfold Processed
  rw [same, worker?_putCopy]
  exact h

theorem BreaksOff.remains (h : BreaksOff blob size rows before q now)
    (distinct : (rows.map (·.address)).Nodup) :
    ∃ done row rest, rows = done ++ row :: rest ∧ Remains blob size done row q before now := by
  have apart : ∀ {done : List WorkerRow} {row : WorkerRow} {rest : List WorkerRow},
      rows = done ++ row :: rest → row.address ∉ done.map (·.address) := by
    rintro done row rest rfl mem
    rw [List.map_append, List.map_cons] at distinct
    exact (List.nodup_append.1 distinct).2.2 _ mem _ (List.mem_cons_self ..) rfl
  -- Copies of the blob on these workers are all that can have changed.
  have outside : ∀ {done : List WorkerRow} {row : WorkerRow} {other worker : String},
      ¬ (other = blob ∧ worker ∈ (done ++ [row]).map (·.address)) →
      ¬ (other = blob ∧ worker ∈ (before.newcomers blob done).map (·.address)) := by
    rintro done row other worker away ⟨rfl, mem⟩
    refine away ⟨rfl, ?_⟩
    rw [List.map_append]
    exact List.mem_append_left _ ((List.filter_sublist.map _).subset mem)
  cases h with
  | @untouched done row rest ids _ _ split enrolled next =>
    refine ⟨done, row, rest, split, fun _ mem => enrolled.processed mem, .inl ⟨?_, ?_⟩,
      fun _ away => (enrolled.elsewhere away).2, fun _ _ away => enrolled.copies _ _ (outside away)⟩
    · exact next.imp_right fun both => both.2
    · exact (enrolled.elsewhere (apart split)).1
  | @unlocked done row rest ids id between split enrolled absent =>
    have differs : ∀ earlier ∈ done, row.address ≠ earlier.address := fun earlier mem same =>
      apart split (List.mem_map.2 ⟨earlier, mem, same.symm⟩)
    refine ⟨done, row, rest, split,
      fun earlier mem => (enrolled.processed mem).putCopy (differs earlier mem),
      .inr ⟨rfl, absent, id, ?_⟩, fun _ away => (enrolled.elsewhere away).2,
      fun other worker away => ?_⟩
    · rw [copy?_putCopy, if_pos ⟨rfl, rfl⟩]
    · rw [copy?_putCopy, if_neg]
      · exact enrolled.copies _ _ (outside away)
      · rintro ⟨rfl, rfl⟩
        exact away ⟨rfl, by simp⟩

end Ledger

namespace Placement

variable {ledger : Ledger} {blob : String} {size : UInt64} {rows : List WorkerRow}

theorem poses_reserve (blob : String) {row : WorkerRow} (rest : List WorkerRow)
    (current : ledger.worker? row.address = some row) (fits : Selection.fits size row = true) :
    (reserve blob size row).Poses (Ledger.BreaksOff blob size (row :: rest) ledger)
      (fun _ after => Ledger.Bookings blob size [row] ledger after) ledger := by
  refine .query (.untouched rfl .nil (.inl rfl)) rfl ?_
  cases found : ledger.copy? blob row.address with
  | some copy =>
    refine .known current ?_ .nil
    rw [found]
    rfl
  | none =>
    intro id
    refine .query (.untouched rfl .nil (.inr ⟨found, id, rfl⟩)) rfl ?_
    show ((Program.sum row.locked size).bind _).Poses _ _ _
    rw [sum_eq_done (row.locked_add_lt fits)]
    refine .last (.unlocked rfl .nil found) (Query.perform_updateWorker ?_)
      (.book id current found .nil)
    show (ledger.worker? row.address).isSome
    rw [current]
    rfl

theorem poses_reserveAll (blob : String)
    (current : ∀ row ∈ rows, ledger.worker? row.address = some row)
    (fits : ∀ row ∈ rows, Selection.fits size row = true)
    (distinct : (rows.map (·.address)).Nodup) :
    (reserveAll blob size rows).Poses (Ledger.BreaksOff blob size rows ledger)
      (fun _ _ => True) ledger := by
  induction rows generalizing ledger with
  | nil => trivial
  | cons row rest ih =>
    obtain ⟨new, distinct⟩ := List.nodup_cons.1 distinct
    have here := current row (List.mem_cons_self ..)
    have fit := fits row (List.mem_cons_self ..)
    refine Poses.bind ((poses_reserve blob rest here fit).mono (fun _ _ posed => posed) ?_)
    intro _ between booked
    have still := (booked.booking (List.nodup_singleton _)).still_current
      (fun other mem => current other (List.mem_cons_of_mem _ mem)) new
    have later := ih still (fun other mem => fits other (List.mem_cons_of_mem _ mem)) distinct
    refine later.mono (fun q now posed => ?_) fun _ _ _ => trivial
    cases booked with
    | known _ found done =>
      cases done
      exact posed.known found
    | book id _ absent done =>
      cases done
      exact posed.cons absent fit new

/-- What a placement leaves if this query is struck.  Until the workers are chosen it is nothing. -/
inductive BreaksOff (blob : String) (size : UInt64) (before : Ledger) : Query → Ledger → Prop
  | looking : BreaksOff blob size before (.savedCopies blob) before
  | choosing : BreaksOff blob size before (.roomiest size replication) before
  | booking {rows : List WorkerRow} {q : Query} {now : Ledger}
    (chosen : Selection.roomiest before.workers.rows size replication = .ok rows)
    (reached : Ledger.BreaksOff blob size rows before q now) : BreaksOff blob size before q now

theorem BreaksOff.remains {before now : Ledger} {q : Query} (h : BreaksOff blob size before q now) :
    (q = .savedCopies blob ∨ q = .roomiest size replication) ∧ now = before
      ∨ ∃ done row rest,
        Selection.roomiest before.workers.rows size replication = .ok (done ++ row :: rest)
        ∧ Ledger.Remains blob size done row q before now := by
  cases h with
  | looking => exact .inl ⟨.inl rfl, rfl⟩
  | choosing => exact .inl ⟨.inr rfl, rfl⟩
  | booking chosen reached =>
    obtain ⟨done, row, rest, rfl, remains⟩ :=
      reached.remains (Selection.nodup_roomiest chosen before.workers.nodup_keys)
    exact .inr ⟨done, row, rest, chosen, remains⟩

theorem poses_place :
    (place blob size).Poses (BreaksOff blob size ledger) (fun _ _ => True) ledger := by
  unfold place
  cases BlobId.validate blob with
  | error e => trivial
  | ok accepted =>
    refine .query .looking rfl ?_
    show (if (ledger.savedCopiesOf blob).isEmpty then _ else _ : Program (List String)).Poses _ _ _
    split
    next =>
      cases chosen : Selection.roomiest ledger.workers.rows size replication with
      | error e => exact .refused .choosing (by rw [Query.perform, chosen]; rfl)
      | ok rows =>
        refine .query .choosing (by rw [Query.perform, chosen]; rfl) (Poses.bind ?_)
        have posed := poses_reserveAll blob (Ledger.worker?_of_roomiest chosen)
          (fun row mem => (Selection.of_mem_roomiest chosen mem).2)
          (Selection.nodup_roomiest chosen ledger.workers.nodup_keys)
        exact posed.mono (fun q now reached => .booking chosen reached) fun _ _ _ => trivial
    next => trivial

end Placement

namespace Master

open Placement (replication)

/-- What a placement leaves behind if one of its queries is struck, on any tables, whichever query
it is.  It answers the failure that the query met.  If it was still looking for holders or for
space, nothing is changed.  Otherwise some of the workers it has chosen are enrolled and one may
have got a copy with no space locked for it, and nothing else is changed.  If no query is struck it
is an ordinary placement. -/
theorem placement_broken_off (master : Master) (now : Int64) (blob : String) (size : UInt64)
    (plan : Outages Query.Kind) :
    let before := master.ledger
    let trial : Trial := ⟨now, .place blob size, [], plan⟩
    let left := trial.answer master
    match (Placement.place blob size).struck? Outages.strike (trial.arm master).desk with
    | none =>
      let whole := (Trial.undisturbed now (.place blob size)).answer master
      left.1 = whole.1 ∧ left.2.ledger = whole.2.ledger
    | some (q, e) => left.1 = .error e
      ∧ ((q = .savedCopies blob ∨ q = .roomiest size replication) ∧ left.2.ledger = before
        ∨ ∃ done row rest,
          Selection.roomiest before.workers.rows size replication = .ok (done ++ row :: rest)
          ∧ Ledger.Remains blob size done row q before left.2.ledger) := by
  intro before trial left
  have calm := Trial.calm_undisturbed now (.place blob size) master
  have ran : left.1 = ((Placement.place blob size).run Outages.strike (trial.arm master).desk).1
      ∧ left.2.ledger
        = ((Placement.place blob size).run Outages.strike (trial.arm master).desk).2.ledger :=
    ⟨rfl, rfl⟩
  split
  next unstruck =>
    obtain ⟨answered, ledger, -⟩ := run_of_unstruck calm.isOpen unstruck
    exact ⟨ran.1.trans answered, ran.2.trans ledger⟩
  next q e struck =>
    have posed : (Placement.place blob size).Poses _ _ (trial.arm master).desk.ledger :=
      Placement.poses_place
    obtain ⟨answered, reached⟩ := run_of_struck posed struck
    rw [← ran.1] at answered
    rw [← ran.2] at reached
    exact ⟨answered, reached.remains⟩

/-- If the row of the second of three workers cannot be updated, the first is enrolled, the second
has a copy for which nothing is locked, and the third is as it was. -/
theorem second_row_not_updated :
    let trial : Trial := ⟨1, .place "x" 4, [], down .updateWorker 1⟩
    let left := trial.answer joined
    let struck : Query := .updateWorker ⟨"b", 10, 4, 0⟩
    left.2.ledger.copies.rows = [⟨"row-0", "x", "a", .duringCreation, 4⟩,
        ⟨"row-1", "x", "b", .duringCreation, 4⟩]
      ∧ left.2.ledger.workers.rows = [⟨"a", 10, 4, 0⟩, ⟨"b", 10, 0, 0⟩, ⟨"c", 10, 0, 0⟩]
      ∧ left.1 = .error ⟨.repository, "down"⟩
      ∧ ∃ done row rest,
        Selection.roomiest joined.ledger.workers.rows 4 replication = .ok (done ++ row :: rest)
        ∧ Ledger.Remains "x" 4 done row struck joined.ledger left.2.ledger := by
  have met : (Placement.place "x" 4).struck? Outages.strike
      ((⟨1, .place "x" 4, [], down .updateWorker 1⟩ : Trial).arm joined).desk
      = some (.updateWorker ⟨"b", 10, 4, 0⟩, ⟨.repository, "down"⟩) := by cbv
  have broken := placement_broken_off joined 1 "x" 4 (down .updateWorker 1)
  simp only [met] at broken
  obtain ⟨answered, looking | booking⟩ := broken
  · obtain ⟨other | other, -⟩ := looking <;> cases other
  · exact ⟨by cbv, by cbv, answered, booking⟩

end Master

end BlobCluster
