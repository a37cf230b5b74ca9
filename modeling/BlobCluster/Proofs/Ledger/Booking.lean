import BlobCluster.Proofs.Ledger.Holders
import BlobCluster.Proofs.Ledger.Lookup
import BlobCluster.Proofs.Ledger.Outcome
import BlobCluster.Proofs.Ledger.Selection

/-!
# What calls write

The exact effect of each call on any ledger whatever, whether or not its books balance, as long as
all queries get through.  A placement is refused, or answers the holders of a blob that is saved, or
books space on the workers it has chosen, one after the other.  `Booking` says for each of them, for
every other worker and for every other blob what is there afterwards.  A confirmation finds nothing
to do or moves the size of its copy from what is locked to what is spent.  A registration starts a
worker anew, and a deletion drops the copies of its blob.

Booking cannot leave the range of the numbers, even on a row that has more locked than available:
such a row has no free space, so only a copy of size zero fits on it.
-/

namespace BlobCluster

open Program

/-- A copy that fits can be locked, whatever the row. -/
theorem WorkerRow.locked_add_lt {row : WorkerRow} {size : UInt64}
    (fits : Selection.fits size row = true) : row.locked.toNat + size.toNat < UInt64.size := by
  by_cases covered : row.locked ≤ row.available
  · have room := row.locked_add_le covered fits
    exact Nat.lt_of_le_of_lt room row.available.toNat_lt
  · have le : size ≤ row.free := by simpa [Selection.fits] using fits
    have none_ : row.free = 0 := if_neg covered
    rw [none_] at le
    have zero : size.toNat ≤ 0 := UInt64.le_iff_toNat_le.1 le
    have range := row.locked.toNat_lt
    show _ < 2 ^ 64
    omega

/-! ## Booking -/

namespace Ledger

variable {before between after : Ledger} {blob worker : String} {size : UInt64} {row : WorkerRow}
  {rows : List WorkerRow}

/-- The ledger after space is reserved for a new copy. -/
def book (ledger : Ledger) (id blob : String) (size : UInt64) (row : WorkerRow) : Ledger :=
  (ledger.putCopy ⟨id, blob, row.address, .duringCreation, size⟩).putWorker
    { row with locked := row.locked + size }

/-- How a worker stands after a booking: it has the copy it had, or a new one for which exactly its
size was locked. -/
def BookedOn (blob : String) (size : UInt64) (row : WorkerRow) (before after : Ledger) : Prop :=
  ((before.copy? blob row.address).isSome
      ∧ after.copy? blob row.address = before.copy? blob row.address
      ∧ after.worker? row.address = some row)
    ∨ before.copy? blob row.address = none
      ∧ (∃ id, after.copy? blob row.address
          = some ⟨id, blob, row.address, .duringCreation, size⟩)
      ∧ after.worker? row.address = some { row with locked := row.locked + size }

/-- What booking a blob on some workers leaves. -/
structure Booking (blob : String) (size : UInt64) (rows : List WorkerRow) (before after : Ledger) :
    Prop where
  booked : ∀ row ∈ rows, BookedOn blob size row before after
  elsewhere : ∀ worker, worker ∉ rows.map (·.address) →
    after.copy? blob worker = before.copy? blob worker
      ∧ after.worker? worker = before.worker? worker
  others : ∀ other worker, other ≠ blob → after.copy? other worker = before.copy? other worker

theorem Booking.nil : Booking blob size [] before before where
  booked _ mem := nomatch mem
  elsewhere _ _ := ⟨rfl, rfl⟩
  others _ _ _ := rfl

theorem Booking.known (current : before.worker? row.address = some row)
    (found : (before.copy? blob row.address).isSome) : Booking blob size [row] before before where
  booked other mem := by
    obtain rfl := List.mem_singleton.1 mem
    exact .inl ⟨found, rfl, current⟩
  elsewhere _ _ := ⟨rfl, rfl⟩
  others _ _ _ := rfl

theorem Booking.book (id : String) (absent : before.copy? blob row.address = none) :
    Booking blob size [row] before (before.book id blob size row) where
  booked other mem := by
    obtain rfl := List.mem_singleton.1 mem
    refine .inr ⟨absent, ⟨id, ?_⟩, ?_⟩
    · rw [Ledger.book, copy?_putWorker, copy?_putCopy, if_pos ⟨rfl, rfl⟩]
    · rw [Ledger.book, worker?_putWorker, if_pos rfl]
  elsewhere worker notHere := by
    have differs : row.address ≠ worker := fun same =>
      notHere (List.mem_singleton.2 same.symm)
    constructor
    · rw [Ledger.book, copy?_putWorker, copy?_putCopy, if_neg fun both => differs both.2]
    · rw [Ledger.book, worker?_putWorker, if_neg differs, worker?_putCopy]
  others other worker differs := by
    rw [Ledger.book, copy?_putWorker, copy?_putCopy, if_neg fun both => differs both.1.symm]

theorem Booking.untouched (h : Booking blob size [row] before after) {worker : String}
    (differs : worker ≠ row.address) :
    after.copy? blob worker = before.copy? blob worker
      ∧ after.worker? worker = before.worker? worker := by
  apply h.elsewhere
  rw [List.map_singleton, List.mem_singleton]
  exact differs

theorem Booking.cons (first : Booking blob size [row] before between)
    (rest : Booking blob size rows between after) (new : row.address ∉ rows.map (·.address)) :
    Booking blob size (row :: rows) before after where
  booked other mem := by
    obtain ⟨sameCopy, sameRow⟩ := rest.elsewhere _ new
    rcases List.mem_cons.1 mem with rfl | later
    · have here := first.booked other (List.mem_singleton_self _)
      rw [BookedOn, sameCopy, sameRow]
      exact here
    · have differs : other.address ≠ row.address := fun same =>
        new (List.mem_map.2 ⟨other, later, same⟩)
      have there := rest.booked other later
      rw [BookedOn, (first.untouched differs).1] at there
      exact there
  elsewhere worker notHere := by
    rw [List.map_cons, List.mem_cons, not_or] at notHere
    obtain ⟨notFirst, notLater⟩ := notHere
    have before_ := first.untouched notFirst
    have after_ := rest.elsewhere worker notLater
    exact ⟨after_.1.trans before_.1, after_.2.trans before_.2⟩
  others other worker differs :=
    (rest.others other worker differs).trans (first.others other worker differs)

/-- The other workers have the rows they had. -/
theorem Booking.still_current (h : Booking blob size [row] before after)
    (current : ∀ other ∈ rows, before.worker? other.address = some other)
    (new : row.address ∉ rows.map (·.address)) :
    ∀ other ∈ rows, after.worker? other.address = some other := by
  intro other mem
  have elsewhere : other.address ≠ row.address := fun same =>
    new (List.mem_map.2 ⟨other, mem, same⟩)
  rw [(h.untouched elsewhere).2]
  exact current other mem

/-- Reservations on workers one after the other, each on the row that its worker has: a worker with
a copy of the blob is passed over, on any other a new copy is booked.  The loop of a placement has
this form; `Booking` is the same seen from its end, and follows if the workers are distinct. -/
inductive Bookings (blob : String) (size : UInt64) : List WorkerRow → Ledger → Ledger → Prop
  | nil {ledger : Ledger} : Bookings blob size [] ledger ledger
  | known {row : WorkerRow} {rows : List WorkerRow} {before after : Ledger}
    (current : before.worker? row.address = some row)
    (found : (before.copy? blob row.address).isSome)
    (later : Bookings blob size rows before after) :
    Bookings blob size (row :: rows) before after
  | book {row : WorkerRow} {rows : List WorkerRow} {before after : Ledger} (id : String)
    (current : before.worker? row.address = some row)
    (absent : before.copy? blob row.address = none)
    (later : Bookings blob size rows (before.book id blob size row) after) :
    Bookings blob size (row :: rows) before after

theorem Bookings.cons (first : Bookings blob size [row] before between)
    (rest : Bookings blob size rows between after) :
    Bookings blob size (row :: rows) before after := by
  cases first with
  | known current found done =>
    cases done
    exact .known current found rest
  | book id current absent done =>
    cases done
    exact .book id current absent rest

theorem Bookings.booking (h : Bookings blob size rows before after)
    (distinct : (rows.map (·.address)).Nodup) : Booking blob size rows before after := by
  induction h with
  | nil => exact .nil
  | known current found later ih =>
    obtain ⟨new, distinct⟩ := List.nodup_cons.1 distinct
    exact (Booking.known current found).cons (ih distinct) new
  | book id current absent later ih =>
    obtain ⟨new, distinct⟩ := List.nodup_cons.1 distinct
    exact (Booking.book id absent).cons (ih distinct) new

/-! ## What bookings leave alone -/

/-- On workers that all have a copy of the blob nothing is booked. -/
theorem Bookings.eq_of_known (h : Bookings blob size rows before after)
    (known : ∀ row ∈ rows, (before.copy? blob row.address).isSome) : after = before := by
  induction h with
  | nil => rfl
  | known current found later ih => exact ih fun row mem => known row (List.mem_cons_of_mem _ mem)
  | book id current absent later ih =>
    have found := known _ (List.mem_cons_self ..)
    rw [absent] at found
    cases found

/-- A worker that has a copy of the blob keeps it, and nothing more is locked for it. -/
theorem Booking.kept (h : Booking blob size rows before after)
    (current : ∀ row ∈ rows, before.worker? row.address = some row)
    (found : (before.copy? blob worker).isSome) :
    after.copy? blob worker = before.copy? blob worker
      ∧ after.worker? worker = before.worker? worker := by
  by_cases chosen : worker ∈ rows.map (·.address)
  · obtain ⟨row, mem, rfl⟩ := List.mem_map.1 chosen
    rcases h.booked row mem with ⟨-, same, sameRow⟩ | ⟨absent, -⟩
    · exact ⟨same, sameRow.trans (current row mem).symm⟩
    · rw [absent] at found
      cases found
  · exact h.elsewhere worker chosen

theorem Booking.not_saved (h : Booking blob size rows before after)
    (none_ : ¬ before.Saved blob worker) : ¬ after.Saved blob worker := by
  rintro ⟨copy, found, saved⟩
  by_cases chosen : worker ∈ rows.map (·.address)
  · obtain ⟨row, mem, rfl⟩ := List.mem_map.1 chosen
    rcases h.booked row mem with ⟨-, same, -⟩ | ⟨-, ⟨id, new⟩, -⟩
    · exact none_ ⟨copy, same ▸ found, saved⟩
    · rw [new] at found
      cases found
      cases saved
  · exact none_ ⟨copy, (h.elsewhere worker chosen).1 ▸ found, saved⟩

/-- Whoever is booked has a pending copy afterwards, if it had no confirmed one. -/
theorem Booking.pending (h : Booking blob size rows before after) (mem : row ∈ rows)
    (new : ¬ before.Saved blob row.address) :
    ∃ copy, after.copy? blob row.address = some copy ∧ copy.state = .duringCreation := by
  rcases h.booked row mem with ⟨found, same, -⟩ | ⟨-, ⟨id, booked⟩, -⟩
  · obtain ⟨copy, there⟩ := Option.isSome_iff_exists.1 found
    refine ⟨copy, same.trans there, ?_⟩
    cases state : copy.state with
    | duringCreation => rfl
    | saved => exact absurd ⟨copy, there, state⟩ new
  · exact ⟨_, booked, rfl⟩

/-- The choice is made among the rows of the ledger, and each is the row its worker has. -/
theorem worker?_of_roomiest {ledger : Ledger} {size : UInt64} {count : Nat}
    {rows : List WorkerRow}
    (chosen : Selection.roomiest ledger.workers.rows size count = .ok rows) :
    ∀ row ∈ rows, ledger.worker? row.address = some row :=
  fun _ mem => worker?_of_mem (Selection.of_mem_roomiest chosen mem).1

end Ledger

/-! ## Placing -/

namespace Placement

variable {ledger : Ledger} {blob worker : String} {size : UInt64}

theorem bookings_reserve (blob : String) {row : WorkerRow}
    (current : ledger.worker? row.address = some row) (fits : Selection.fits size row = true) :
    (reserve blob size row).Meets false (fun r after => r = .ok ()
      ∧ Ledger.Bookings blob size [row] ledger after) ledger := by
  refine .query nofun rfl ?_
  cases found : ledger.copy? blob row.address with
  | some copy =>
    refine ⟨rfl, .known current ?_ .nil⟩
    rw [found]
    rfl
  | none =>
    intro id
    refine .query nofun rfl ?_
    show ((Program.sum row.locked size).bind _).Meets _ _ _
    rw [sum_eq_done (row.locked_add_lt fits)]
    refine .last nofun (Query.perform_updateWorker ?_) ⟨rfl, .book id current found .nil⟩
    show (ledger.worker? row.address).isSome
    rw [current]
    rfl

/-- Every reservation starts from the row its worker still has, because the workers are distinct.
That is what keeps the loop from writing back a row that an earlier turn has changed. -/
theorem bookings_reserveAll (blob : String) {rows : List WorkerRow}
    (current : ∀ row ∈ rows, ledger.worker? row.address = some row)
    (fits : ∀ row ∈ rows, Selection.fits size row = true)
    (distinct : (rows.map (·.address)).Nodup) :
    (reserveAll blob size rows).Meets false (fun r after => r = .ok ()
      ∧ Ledger.Bookings blob size rows ledger after) ledger := by
  induction rows generalizing ledger with
  | nil => exact ⟨rfl, .nil⟩
  | cons row rest ih =>
    obtain ⟨new, distinct⟩ := List.nodup_cons.1 distinct
    have first := bookings_reserve blob (current row (List.mem_cons_self ..))
      (fits row (List.mem_cons_self ..))
    refine Meets.bind (first.mono ?_)
    rintro _ between ⟨rfl, booked⟩
    have booking := booked.booking (List.pairwise_singleton _ _)
    have still :=
      booking.still_current (fun other mem => current other (List.mem_cons_of_mem _ mem)) new
    have later := ih still (fun other mem => fits other (List.mem_cons_of_mem _ mem)) distinct
    refine later.mono ?_
    rintro r after ⟨answered, bookedLater⟩
    exact ⟨answered, booked.cons bookedLater⟩

/-- How a placement ends when all its queries get through.  The conditions exclude each other, so
they can be used in either direction: what is known before decides the case, and what is answered
tells what was known. -/
inductive Placed (blob : String) (size : UInt64) (before : Ledger) :
    Except Failure (List String) → Ledger → Prop
  | invalid {e : Failure} (rejected : BlobId.validate blob = .error e) :
    Placed blob size before (.error e) before
  | held (valid : BlobId.Valid blob) (some_ : before.savedCopiesOf blob ≠ []) :
    Placed blob size before (.ok ((before.savedCopiesOf blob).map (·.worker))) before
  | short {e : Failure} (valid : BlobId.Valid blob) (none_ : before.savedCopiesOf blob = [])
    (few : Selection.roomiest before.workers.rows size replication = .error e) :
    Placed blob size before (.error e) before
  | booked {rows : List WorkerRow} {after : Ledger} (valid : BlobId.Valid blob)
    (none_ : before.savedCopiesOf blob = [])
    (chosen : Selection.roomiest before.workers.rows size replication = .ok rows)
    (bookings : Ledger.Bookings blob size rows before after) :
    Placed blob size before (.ok (rows.map (·.address))) after

theorem placed_place :
    (place blob size).Meets false (Placed blob size ledger) ledger := by
  refine .ofExcept (fun e rejected => .invalid rejected) fun _ accepted => ?_
  have valid : BlobId.Valid blob := BlobId.validate_eq_ok_iff.1 accepted
  refine .query nofun rfl ?_
  show (if (ledger.savedCopiesOf blob).isEmpty then _ else _ : Program (List String)).Meets _ _ _
  split
  next isEmpty =>
    have none_ := List.isEmpty_iff.1 isEmpty
    cases chosen : Selection.roomiest ledger.workers.rows size replication with
    | error e =>
      exact .refused nofun (by rw [Query.perform, chosen]; rfl) (.short valid none_ chosen)
    | ok rows =>
      refine .query nofun (by rw [Query.perform, chosen]; rfl) (Meets.bind ?_)
      have listed : ∀ row ∈ rows, row ∈ ledger.workers.rows ∧ Selection.fits size row = true :=
        fun row mem => Selection.of_mem_roomiest chosen mem
      have distinct := Selection.nodup_roomiest chosen ledger.workers.nodup_keys
      have booked := bookings_reserveAll blob
        (fun row mem => Ledger.worker?_of_mem (listed row mem).1)
        (fun row mem => (listed row mem).2) distinct
      refine booked.mono ?_
      rintro _ after ⟨rfl, bookings⟩
      exact .booked valid none_ chosen bookings
  next some_ =>
    refine .held valid fun none_ => some_ ?_
    rw [none_]
    rfl

/-- A placement that succeeds on a blob nobody has confirmed has booked the roomiest workers. -/
theorem Placed.booked_of_ok {before after : Ledger} {named : List String}
    (h : Placed blob size before (.ok named) after)
    (new : before.savedCopiesOf blob = []) :
    BlobId.Valid blob ∧ ∃ rows,
      Selection.roomiest before.workers.rows size replication = .ok rows
        ∧ Ledger.Bookings blob size rows before after ∧ rows.map (·.address) = named := by
  cases h with
  | held _ some_ => exact absurd new some_
  | booked valid _ chosen bookings => exact ⟨valid, _, chosen, bookings, rfl⟩

/-- The placement of a valid blob that nobody has confirmed goes by the choice of workers. -/
theorem Placed.of_new {before after : Ledger} {r : Except Failure (List String)}
    (h : Placed blob size before r after)
    (valid : BlobId.Valid blob) (new : before.savedCopiesOf blob = []) :
    (∃ e, Selection.roomiest before.workers.rows size replication = .error e
        ∧ r = .error e ∧ after = before)
      ∨ ∃ rows, Selection.roomiest before.workers.rows size replication = .ok rows
        ∧ r = .ok (rows.map (·.address)) ∧ Ledger.Bookings blob size rows before after := by
  cases h with
  | invalid rejected =>
    rw [BlobId.validate_eq_ok_iff.2 valid] at rejected
    cases rejected
  | held _ some_ => exact absurd new some_
  | short _ _ few => exact .inl ⟨_, few, rfl, rfl⟩
  | booked _ _ chosen bookings => exact .inr ⟨_, chosen, rfl, bookings⟩

/-! ## Confirming -/

/-- How a confirmation ends when all its queries get through: there is nothing to confirm, or too
little space is locked or available, or the size of a pending copy is spent. -/
inductive Settled (blob worker : String) (before : Ledger) : Except Failure Unit → Ledger → Prop
  | missing (absent : before.copy? blob worker = none) :
    Settled blob worker before (.error (noCopy blob worker)) before
  | already {copy : CopyRow} (found : before.copy? blob worker = some copy)
    (saved : copy.state = .saved) : Settled blob worker before (.ok ()) before
  | short {copy : CopyRow} {e : Failure} (found : before.copy? blob worker = some copy)
    (pending : copy.state = .duringCreation)
    (little : ∀ row, before.worker? worker = some row →
      ¬ (copy.size ≤ row.locked ∧ copy.size ≤ row.available)) :
    Settled blob worker before (.error e) before
  | spent {copy : CopyRow} {row : WorkerRow} (found : before.copy? blob worker = some copy)
    (pending : copy.state = .duringCreation) (current : before.worker? worker = some row)
    (locked : copy.size ≤ row.locked) (available : copy.size ≤ row.available) :
    Settled blob worker before (.ok ())
      ((before.putCopy { copy with state := .saved }).putWorker
        { row with locked := row.locked - copy.size, available := row.available - copy.size })

theorem settled_confirm :
    (confirm blob worker).Meets false (Settled blob worker ledger) ledger := by
  refine .query nofun rfl ?_
  cases found : ledger.copy? blob worker with
  | none => exact .missing found
  | some copy =>
    show (if copy.state = .saved then _ else _ : Program Unit).Meets _ _ _
    cases pending : copy.state with
    | saved => exact .already found pending
    | duringCreation =>
      cases current : ledger.worker? worker with
      | none =>
        refine .refused nofun (e := Ledger.unknownWorker worker) ?_ (.short found pending ?_)
        · show (ledger.worker worker).map _ = _
          rw [Ledger.worker, current]
          rfl
        · rw [current]
          exact nofun
      | some row =>
        have uncovered : ¬ (copy.size ≤ row.locked ∧ copy.size ≤ row.available) →
            ∀ other, ledger.worker? worker = some other →
              ¬ (copy.size ≤ other.locked ∧ copy.size ≤ other.available) := by
          intro little other same
          rw [current] at same
          cases same
          exact little
        refine .query nofun (Query.perform_worker current) ?_
        show ((spend row.locked copy.size _).bind _).Meets _ _ _
        by_cases locked : copy.size ≤ row.locked
        · rw [spend, if_pos locked]
          show ((spend row.available copy.size _).bind _).Meets _ _ _
          by_cases available : copy.size ≤ row.available
          · rw [spend, if_pos available]
            refine .query nofun rfl (.last nofun (Query.perform_updateWorker ?_)
              (.spent found pending current locked available))
            show (ledger.worker? row.address).isSome
            rw [Ledger.address_of_worker? current, current]
            rfl
          · rw [spend, if_neg available]
            exact .short found pending (uncovered fun both => available both.2)
        · rw [spend, if_neg locked]
          exact .short found pending (uncovered fun both => locked both.1)

section

variable {before after : Ledger} {r : Except Failure Unit} {copy : CopyRow} {other : String}

theorem Settled.isSome (h : Settled blob worker before r after) {address : String}
    (there : (before.copy? other address).isSome) : (after.copy? other address).isSome := by
  cases h with
  | missing => exact there
  | already => exact there
  | short => exact there
  | spent =>
    rw [Ledger.copy?_putWorker, Ledger.copy?_putCopy]
    split
    · rfl
    · exact there

theorem Settled.of_saved (h : Settled blob worker before r after)
    (found : before.copy? blob worker = some copy) (saved : copy.state = .saved) :
    r = .ok () ∧ after = before := by
  cases h with
  | missing absent =>
    rw [found] at absent
    cases absent
  | already => exact ⟨rfl, rfl⟩
  | short found' pending =>
    cases found.symm.trans found'
    cases saved.symm.trans pending
  | spent found' pending =>
    cases found.symm.trans found'
    cases saved.symm.trans pending

theorem Settled.of_pending (h : Settled blob worker before r after)
    (found : before.copy? blob worker = some copy) (pending : copy.state = .duringCreation)
    {row : WorkerRow} (current : before.worker? worker = some row)
    (enough : copy.size ≤ row.locked ∧ copy.size ≤ row.available) :
    r = .ok () ∧ after = (before.putCopy { copy with state := .saved }).putWorker
      { row with locked := row.locked - copy.size, available := row.available - copy.size } := by
  cases h with
  | missing absent =>
    rw [found] at absent
    cases absent
  | already found' saved =>
    cases found.symm.trans found'
    cases pending.symm.trans saved
  | short found' _ little =>
    cases found.symm.trans found'
    exact absurd enough (little row current)
  | spent found' _ current' =>
    cases found.symm.trans found'
    cases current.symm.trans current'
    exact ⟨rfl, rfl⟩

/-- A confirmation leaves the copies on other workers. -/
theorem Settled.elsewhere (h : Settled blob other before r after) (differs : other ≠ worker) :
    after.copy? blob worker = before.copy? blob worker := by
  cases h with
  | missing => rfl
  | already => rfl
  | short => rfl
  | spent found =>
    rw [Ledger.copy?_putWorker, Ledger.copy?_putCopy, if_neg]
    rintro ⟨-, rfl⟩
    exact differs (Ledger.worker_of_copy? found).symm

end

/-! ## Looking up, registering and forgetting -/

theorem unchanged_locate :
    (locate blob).Meets false (fun _ after => after = ledger) ledger := by
  refine .query nofun rfl ?_
  cases saved : ledger.savedCopiesOf blob with
  | nil => exact rfl
  | cons copy rest =>
    cases found : ledger.worker? copy.worker with
    | none =>
      refine .refused nofun (e := Ledger.unknownWorker copy.worker) ?_ rfl
      show (ledger.worker copy.worker).map _ = _
      rw [Ledger.worker, found]
      rfl
    | some row => exact .query nofun (Query.perform_worker found) rfl

theorem meets_register (address : String) (available : UInt64) (now : Int64) :
    (register address available now).Meets false (fun r after =>
      if address.isEmpty then r = .error noAddress ∧ after = ledger
      else r = .ok () ∧ after = ((ledger.dropCopiesOn address).dropWorker address).putWorker
        (.fresh address available now)) ledger := by
  unfold register
  split
  next => exact ⟨rfl, rfl⟩
  next =>
    refine .query nofun rfl (.query nofun rfl (.last nofun (Query.perform_addWorker ?_) ⟨rfl, rfl⟩))
    show ((ledger.dropCopiesOn address).dropWorker address).worker? address = none
    rw [Ledger.worker?_dropWorker, if_pos rfl]

theorem meets_forget :
    (forget blob).Meets false (fun r after => r = .ok ((ledger.copiesOf blob).map (·.worker))
      ∧ after = ledger.dropBlob blob) ledger :=
  .query nofun rfl (.query nofun rfl ⟨rfl, rfl⟩)

/-- Whatever queries fail, a blob is forgotten altogether or not at all. -/
theorem meets_forget_faulty :
    (forget blob).Meets true (fun r after => (∃ e, r = .error e) ∧ after = ledger
      ∨ r = .ok ((ledger.copiesOf blob).map (·.worker)) ∧ after = ledger.dropBlob blob) ledger := by
  refine .query (fun _ e => .inl ⟨⟨e, rfl⟩, rfl⟩) rfl ?_
  exact .query (fun _ e => .inl ⟨⟨e, rfl⟩, rfl⟩) rfl (.inr ⟨rfl, rfl⟩)

end Placement

end BlobCluster
