import BlobCluster.Proofs.Master.Repetition

/-!
# Placements in lockstep

Two placements run so that both have chosen their workers before either books them; then the second
runs to its end, and then the first.  The second is a placement like any other.  The first works on
the rows that it has read before, so where it books it writes over what the second has locked, but
its look for a copy of its blob is at the ledger as the second has left it.

`booking_reserveAll_of_absent` says what booking on such rows leaves: it does not matter that they
are old, as long as the workers are there and have no copy of the blob.  The main result puts this
together with the ordinary placement (`lockstep_placements`).  Two blobs are both placed, and a
worker that both have chosen has locked only the size of the first.  One blob is placed as if it was
placed once.  A placement that finds too few workers leaves the other one as it is alone.
-/

namespace BlobCluster

open Program

/-! ## Going on after a query -/

namespace Program

variable {α σ : Type}

theorem run_runPast (gate : Gate σ) (kind : Query.Kind) (program : Program α) (desk : Desk σ) :
    (program.runPast gate kind desk).1.run gate (program.runPast gate kind desk).2
      = program.run gate desk := by
  induction program generalizing desk with
  | done a => rfl
  | fail e => rfl
  | overflow => rfl
  | mint next ih => exact ih _ _
  | ask q next ih =>
    rw [runPast, run]
    obtain ⟨e | answer, posed⟩ := pose gate desk q
    · rfl
    · by_cases here : q.kind = kind
      · simp only [if_pos here]
      · simp only [if_neg here]
        exact ih _ _

/-- Without outages a query of another kind is performed, and the program goes on past it. -/
theorem runPast_query {q : Query} {a : q.Answer} {ledger after : Ledger} {mint : Mint}
    {kind : Query.Kind} (performed : q.perform ledger = .ok (a, after)) (other : q.kind ≠ kind)
    (f : q.Answer → Program α) :
    ((query q).bind f).runPast Outages.strike kind ⟨ledger, mint, []⟩
      = (f a).runPast Outages.strike kind ⟨after, mint, []⟩ := by
  show runPast _ _ (.ask q f) _ = _
  rw [runPast]
  unfold pose
  rw [Outages.strike_nil]
  simp only [performed, if_neg other]

end Program

theorem Ledger.Booking.fresh {blob : String} {size : UInt64} {rows : List WorkerRow}
    {before after : Ledger} (h : Booking blob size rows before after) {row : WorkerRow}
    (mem : row ∈ rows) (absent : before.copy? blob row.address = none) :
    (∃ id, after.copy? blob row.address = some ⟨id, blob, row.address, .duringCreation, size⟩)
      ∧ after.worker? row.address = some { row with locked := row.locked + size } := by
  rcases h.booked row mem with ⟨found, -⟩ | ⟨-, new, current⟩
  · rw [absent] at found
    cases found
  · exact ⟨new, current⟩

theorem Ledger.Booking.isSome_worker {blob : String} {size : UInt64} {rows : List WorkerRow}
    {before after : Ledger} (h : Booking blob size rows before after) {worker : String}
    (there : (before.worker? worker).isSome) : (after.worker? worker).isSome := by
  by_cases booked : worker ∈ rows.map (·.address)
  · obtain ⟨row, mem, rfl⟩ := List.mem_map.1 booked
    rcases h.booked row mem with ⟨-, -, current⟩ | ⟨-, -, current⟩
    · simp [current]
    · simp [current]
  · rw [(h.elsewhere worker booked).2]
    exact there

theorem Ledger.savedCopiesOf_of_absent {ledger : Ledger} {blob : String}
    (absent : ∀ worker, ledger.copy? blob worker = none) : ledger.savedCopiesOf blob = [] := by
  refine savedCopiesOf_eq_nil_iff.2 ?_
  rintro worker ⟨copy, found, -⟩
  cases (absent worker).symm.trans found

namespace Placement

variable {ledger : Ledger} {blob : String} {size : UInt64} {row : WorkerRow}
  {rows : List WorkerRow}

/-- What a placement still does once its workers are chosen.  A choice that has failed ends the
placement there. -/
def proceed (blob : String) (size : UInt64) :
    Except Failure (List WorkerRow) → Program (List String)
  | .error e => .fail e
  | .ok rows => (reserveAll blob size rows).bind fun _ => .done (rows.map (·.address))

/-- Without outages the placement of a blob that nobody has confirmed chooses by the ledger and
leaves it alone until then. -/
theorem runPast_place (valid : BlobId.Valid blob) (new : ledger.savedCopiesOf blob = [])
    (mint : Mint) :
    (place blob size).runPast Outages.strike .roomiest ⟨ledger, mint, []⟩
      = (proceed blob size (Selection.roomiest ledger.workers.rows size replication),
        ⟨ledger, mint, []⟩) := by
  show ((Program.ofExcept (BlobId.validate blob)).bind _).runPast _ _ _ = _
  rw [BlobId.validate_eq_ok_iff.2 valid]
  have other : (Query.savedCopies blob).kind ≠ .roomiest := nofun
  refine (Program.runPast_query rfl other _).trans ?_
  rw [new]
  show runPast _ _ (.ask (.roomiest size replication) _) _ = _
  rw [runPast]
  unfold pose
  rw [Outages.strike_nil]
  cases chosen : Selection.roomiest ledger.workers.rows size replication with
  | error e => simp only [Query.perform, chosen, Except.map, proceed]
  | ok rows => simp only [Query.perform, chosen, Except.map, Query.kind, if_true, proceed]; rfl

/-! ## Booking on rows that were read before -/

/-- A worker without a copy of the blob is booked by the row at hand, whichever row it has. -/
theorem booking_reserve_of_absent (absent : ledger.copy? blob row.address = none)
    (there : (ledger.worker? row.address).isSome) (fits : Selection.fits size row = true) :
    (reserve blob size row).Meets false (fun r after => r = .ok ()
      ∧ Ledger.Booking blob size [row] ledger after) ledger := by
  refine .query nofun rfl ?_
  rw [absent]
  intro id
  refine .query nofun rfl ?_
  show ((Program.sum row.locked size).bind _).Meets _ _ _
  rw [sum_eq_done (row.locked_add_lt fits)]
  exact .last nofun (Query.perform_updateWorker (by simpa using there)) ⟨rfl, .book id absent⟩

theorem booking_reserveAll_of_absent
    (absent : ∀ row ∈ rows, ledger.copy? blob row.address = none)
    (there : ∀ row ∈ rows, (ledger.worker? row.address).isSome)
    (fits : ∀ row ∈ rows, Selection.fits size row = true)
    (distinct : (rows.map (·.address)).Nodup) :
    (reserveAll blob size rows).Meets false (fun r after => r = .ok ()
      ∧ Ledger.Booking blob size rows ledger after) ledger := by
  induction rows generalizing ledger with
  | nil => exact ⟨rfl, .nil⟩
  | cons row rest ih =>
    obtain ⟨new, distinct⟩ := List.nodup_cons.1 distinct
    have first := booking_reserve_of_absent (absent row (List.mem_cons_self ..))
      (there row (List.mem_cons_self ..)) (fits row (List.mem_cons_self ..))
    refine Meets.bind (first.mono ?_)
    rintro _ between ⟨rfl, booked⟩
    have untouched : ∀ other ∈ rest, between.copy? blob other.address = none
        ∧ (between.worker? other.address).isSome := by
      intro other mem
      have elsewhere : other.address ≠ row.address := fun same =>
        new (List.mem_map.2 ⟨other, mem, same⟩)
      have same := booked.untouched elsewhere
      rw [same.1, same.2]
      exact ⟨absent other (List.mem_cons_of_mem _ mem), there other (List.mem_cons_of_mem _ mem)⟩
    have later := ih (fun other mem => (untouched other mem).1)
      (fun other mem => (untouched other mem).2)
      (fun other mem => fits other (List.mem_cons_of_mem _ mem)) distinct
    refine later.mono ?_
    rintro r after ⟨answered, bookedLater⟩
    exact ⟨answered, booked.cons bookedLater new⟩

theorem unchanged_reserveAll_of_known
    (known : ∀ row ∈ rows, (ledger.copy? blob row.address).isSome) :
    (reserveAll blob size rows).Meets false (fun r after => r = .ok () ∧ after = ledger)
      ledger := by
  induction rows with
  | nil => exact ⟨rfl, rfl⟩
  | cons row rest ih =>
    obtain ⟨copy, found⟩ := Option.isSome_iff_exists.1 (known row (List.mem_cons_self ..))
    have first : (reserve blob size row).Meets false (fun r after => r = .ok () ∧ after = ledger)
        ledger := by
      refine .query nofun rfl ?_
      rw [found]
      exact ⟨rfl, rfl⟩
    refine Meets.bind (first.mono ?_)
    rintro _ _ ⟨rfl, rfl⟩
    exact ih fun other mem => known other (List.mem_cons_of_mem _ mem)

end Placement

/-! ## Two placements -/

namespace Master

open Placement Selection

variable {master : Master} {blob blob' : String} {size size' : UInt64}

/-- A placement goes on with a choice that was made before. -/
def goOn (master : Master) (blob : String) (size : UInt64)
    (choice : Except Failure (List WorkerRow)) : Except Failure (List String) × Master :=
  master.run (proceed blob size choice)

theorem Calm.answer_eq_run (calm : master.Calm) (now : Int64) (call : MasterCall) :
    master.answer now call = master.run (call.program now) := by
  obtain ⟨address, desk, outages⟩ := master
  obtain rfl : outages = [] := calm.calls
  rfl

/-- Up to its choice a placement leaves a master without outages as it is. -/
theorem Calm.runPast_place (calm : master.Calm) (valid : BlobId.Valid blob)
    (new : master.ledger.savedCopiesOf blob = []) :
    (place blob size).runPast Outages.strike .roomiest master.desk
      = (proceed blob size (roomiest master.ledger.workers.rows size replication),
        master.desk) := by
  have desk : master.desk = ⟨master.ledger, master.desk.mint, []⟩ := by
    rw [← calm.queries]
    rfl
  rw [desk]
  exact Placement.runPast_place valid new _

/-- Without outages the placement of a blob that nobody has confirmed goes on with the choice that
it makes by the ledger. -/
theorem Calm.answer_place_eq (calm : master.Calm) (now : Int64) (valid : BlobId.Valid blob)
    (new : master.ledger.savedCopiesOf blob = []) :
    master.answer now (.place blob size)
      = master.goOn blob size (roomiest master.ledger.workers.rows size replication) := by
  have whole := run_runPast Outages.strike .roomiest (place blob size) master.desk
  rw [calm.runPast_place valid new] at whole
  rw [calm.answer_eq_run]
  show master.run (place blob size) = _
  unfold goOn run
  rw [← whole]

/-- In lockstep the second placement is an ordinary one, and the first goes on after it with the
choice it has made before.  Choosing only reads, so it makes no difference to the second placement
that the first has chosen already. -/
theorem Calm.lockstep_eq (calm : master.Calm) (now : Int64) (valid : BlobId.Valid blob)
    (valid' : BlobId.Valid blob') (new : master.ledger.savedCopiesOf blob = [])
    (new' : master.ledger.savedCopiesOf blob' = []) :
    master.lockstep (place blob size) (place blob' size')
      = let second := master.answer now (.place blob' size')
        let first := second.2.goOn blob size
          (roomiest master.ledger.workers.rows size replication)
        ((first.1, second.1), first.2) := by
  rw [calm.answer_place_eq now valid' new']
  unfold lockstep
  rw [calm.runPast_place valid new]
  simp only [calm.runPast_place valid' new']
  rfl

/-- A placement that goes on where nobody has a copy of its blob books all its workers. -/
theorem Calm.goOn_of_absent (calm : master.Calm) {chosen : List WorkerRow}
    (absent : ∀ row ∈ chosen, master.ledger.copy? blob row.address = none)
    (there : ∀ row ∈ chosen, (master.ledger.worker? row.address).isSome)
    (fits : ∀ row ∈ chosen, Selection.fits size row = true)
    (distinct : (chosen.map (·.address)).Nodup) :
    (master.goOn blob size (.ok chosen)).1 = .ok (chosen.map (·.address))
      ∧ Ledger.Booking blob size chosen master.ledger
        (master.goOn blob size (.ok chosen)).2.ledger := by
  have meets : (proceed blob size (.ok chosen)).Meets false (fun r after =>
      r = .ok (chosen.map (·.address)) ∧ Ledger.Booking blob size chosen master.ledger after)
      master.ledger := by
    refine Meets.bind ((booking_reserveAll_of_absent absent there fits distinct).mono ?_)
    rintro _ after ⟨rfl, booked⟩
    exact ⟨rfl, booked⟩
  exact meets_run (.inr calm.isOpen) meets

/-- A placement that goes on where all its workers have a copy of its blob changes nothing. -/
theorem Calm.goOn_of_known (calm : master.Calm) (size : UInt64) {chosen : List WorkerRow}
    (known : ∀ row ∈ chosen, (master.ledger.copy? blob row.address).isSome) :
    (master.goOn blob size (.ok chosen)).1 = .ok (chosen.map (·.address))
      ∧ (master.goOn blob size (.ok chosen)).2.ledger = master.ledger := by
  have meets : (proceed blob size (.ok chosen)).Meets false (fun r after =>
      r = .ok (chosen.map (·.address)) ∧ after = master.ledger) master.ledger := by
    refine Meets.bind ((unchanged_reserveAll_of_known known).mono ?_)
    rintro _ _ ⟨rfl, rfl⟩
    exact ⟨rfl, rfl⟩
  exact meets_run (.inr calm.isOpen) meets

/-- How two placements of different blobs end that have chosen before either has booked: the first
has the last word on the rows of its workers. -/
structure Overwritten (blob : String) (size : UInt64) (chosen : List WorkerRow) (blob' : String)
    (size' : UInt64) (chosen' : List WorkerRow) (before after : Ledger) : Prop where
  /-- The workers of the first have a pending copy, and its size locked beside what they had. -/
  first : ∀ row ∈ chosen,
    (∃ id, after.copy? blob row.address = some ⟨id, blob, row.address, .duringCreation, size⟩)
      ∧ after.worker? row.address = some { row with locked := row.locked + size }
      ∧ (row.locked + size).toNat = row.locked.toNat + size.toNat
  /-- The workers of the second have a pending copy as well, and its size locked only if the first
  has not chosen them. -/
  second : ∀ row ∈ chosen',
    (∃ id, after.copy? blob' row.address = some ⟨id, blob', row.address, .duringCreation, size'⟩)
      ∧ (row.address ∉ chosen.map (·.address) →
        after.worker? row.address = some { row with locked := row.locked + size' }
          ∧ (row.locked + size').toNat = row.locked.toNat + size'.toNat)
  /-- There are no other new copies, and no copy is changed or gone. -/
  copies : ∀ other worker, ¬ (other = blob ∧ worker ∈ chosen.map (·.address)) →
    ¬ (other = blob' ∧ worker ∈ chosen'.map (·.address)) →
      after.copy? other worker = before.copy? other worker
  /-- The other workers have the rows they had. -/
  workers : ∀ worker, worker ∉ chosen.map (·.address) → worker ∉ chosen'.map (·.address) →
    after.worker? worker = before.worker? worker
  /-- No worker has more locked than it has available. -/
  covered : ∀ row ∈ after.workers.rows, row.locked ≤ row.available

/-- A worker that was chosen has room for the size beside what it has locked.  The room is what
keeps the sum of the words from wrapping around. -/
theorem locked_add_of_chosen {rows chosen : List WorkerRow}
    (covered : ∀ row ∈ rows, row.locked ≤ row.available)
    (picked : roomiest rows size replication = .ok chosen) : ∀ row ∈ chosen,
      (row.locked + size).toNat = row.locked.toNat + size.toNat
        ∧ row.locked + size ≤ row.available := by
  intro row mem
  obtain ⟨listed, fit⟩ := of_mem_roomiest picked mem
  have room := row.locked_add_le (covered row listed) fit
  have sum : (row.locked + size).toNat = row.locked.toNat + size.toNat :=
    toNat_add (Nat.lt_of_le_of_lt room row.available.toNat_lt)
  refine ⟨sum, ?_⟩
  rw [UInt64.le_iff_toNat_le, sum]
  exact room

/-- A booking on workers that have room leaves no worker with more locked than it has available. -/
theorem covered_of_booking {before after : Ledger} {chosen : List WorkerRow}
    (booking : Ledger.Booking blob size chosen before after)
    (written : ∀ row ∈ chosen,
      after.worker? row.address = some { row with locked := row.locked + size })
    (room : ∀ row ∈ chosen, row.locked + size ≤ row.available)
    (covered : ∀ row ∈ before.workers.rows, row.locked ≤ row.available) :
    ∀ row ∈ after.workers.rows, row.locked ≤ row.available := by
  intro row listed
  have current := Ledger.worker?_of_mem listed
  by_cases among : row.address ∈ chosen.map (·.address)
  · obtain ⟨old, mem, same⟩ := List.mem_map.1 among
    rw [← same, written old mem] at current
    cases current
    exact room old mem
  · rw [(booking.elsewhere _ among).2] at current
    exact covered row (Ledger.worker?_eq_some_iff.1 current).1

/-- A booking on the rows before another one, and that other one, leave both copies and the rows of
the later one.  The later booking writes the rows it had chosen by, which do not know of the earlier
one.  On a worker in both lists the earlier reservation is therefore lost, while its copy stays. -/
theorem overwritten_of_bookings {before between after : Ledger} {chosen chosen' : List WorkerRow}
    (absent : ∀ worker, before.copy? blob worker = none)
    (absent' : ∀ worker, before.copy? blob' worker = none) (differ : blob ≠ blob')
    (covered : ∀ row ∈ before.workers.rows, row.locked ≤ row.available)
    (picked : roomiest before.workers.rows size replication = .ok chosen)
    (picked' : roomiest before.workers.rows size' replication = .ok chosen')
    (earlier : Ledger.Booking blob' size' chosen' before between)
    (later : Ledger.Booking blob size chosen between after) :
    Overwritten blob size chosen blob' size' chosen' before after := by
  have room := locked_add_of_chosen covered picked
  have room' := locked_add_of_chosen covered picked'
  have first : ∀ row ∈ chosen, _ := fun row mem =>
    later.fresh mem ((earlier.others blob row.address differ).trans (absent _))
  have second : ∀ row ∈ chosen', _ := fun row mem => earlier.fresh mem (absent' _)
  constructor
  case first => exact fun row mem => ⟨(first row mem).1, (first row mem).2, (room row mem).1⟩
  case second =>
    intro row mem
    rw [later.others blob' row.address differ.symm]
    refine ⟨(second row mem).1, fun only => ?_⟩
    rw [(later.elsewhere _ only).2]
    exact ⟨(second row mem).2, (room' row mem).1⟩
  case copies =>
    intro other worker notFirst notSecond
    have kept : after.copy? other worker = between.copy? other worker := by
      by_cases same : other = blob
      · subst same
        exact (later.elsewhere worker fun mem => notFirst ⟨rfl, mem⟩).1
      · exact later.others other worker same
    have kept' : between.copy? other worker = before.copy? other worker := by
      by_cases same : other = blob'
      · subst same
        exact (earlier.elsewhere worker fun mem => notSecond ⟨rfl, mem⟩).1
      · exact earlier.others other worker same
    exact kept.trans kept'
  case workers =>
    exact fun worker notFirst notSecond =>
      (later.elsewhere worker notFirst).2.trans (earlier.elsewhere worker notSecond).2
  case covered =>
    have still := covered_of_booking earlier (fun row mem => (second row mem).2)
      (fun row mem => (room' row mem).2) covered
    exact covered_of_booking later (fun row mem => (first row mem).2)
      (fun row mem => (room row mem).2) still

section

variable (calm : master.Calm) (valid : BlobId.Valid blob)
  (new : ∀ worker, master.ledger.copy? blob worker = none)

include calm valid new

/-- Without outages a blob that has no copy is booked on the workers that are chosen. -/
theorem Calm.answer_place_of_chosen (now : Int64) {chosen : List WorkerRow}
    (picked : roomiest master.ledger.workers.rows size replication = .ok chosen) :
    (master.answer now (.place blob size)).1 = .ok (chosen.map (·.address))
      ∧ Ledger.Booking blob size chosen master.ledger
        (master.answer now (.place blob size)).2.ledger := by
  rw [calm.answer_place_eq now valid (Ledger.savedCopiesOf_of_absent new), picked]
  refine calm.goOn_of_absent (fun _ _ => new _) (fun row mem => ?_)
    (fun row mem => (of_mem_roomiest picked mem).2)
    (nodup_roomiest picked master.ledger.workers.nodup_keys)
  rw [Ledger.worker?_of_roomiest picked row mem]
  rfl

theorem Calm.answer_place_of_short (now : Int64) {e : Failure}
    (few : roomiest master.ledger.workers.rows size replication = .error e) :
    master.answer now (.place blob size) = (.error e, master) := by
  rw [calm.answer_place_eq now valid (Ledger.savedCopiesOf_of_absent new), few]
  rfl

/-- The same blob in lockstep with itself is placed once.  When the first goes on, every worker it
has chosen has a copy from the second, and a worker with a copy is passed over. -/
theorem Calm.lockstep_same (now : Int64) {chosen : List WorkerRow}
    (picked : roomiest master.ledger.workers.rows size replication = .ok chosen) :
    (master.lockstep (place blob size) (place blob size)).1
        = (.ok (chosen.map (·.address)), .ok (chosen.map (·.address)))
      ∧ (master.lockstep (place blob size) (place blob size)).2.ledger
        = (master.answer now (.place blob size)).2.ledger := by
  have noneSaved := Ledger.savedCopiesOf_of_absent new
  rw [calm.lockstep_eq now valid valid noneSaved noneSaved, picked]
  obtain ⟨answered, booking⟩ := calm.answer_place_of_chosen valid new now picked
  have known : ∀ row ∈ chosen,
      ((master.answer now (.place blob size)).2.ledger.copy? blob row.address).isSome := by
    intro row mem
    obtain ⟨⟨id, found⟩, -⟩ := booking.fresh mem (new _)
    rw [found]
    rfl
  obtain ⟨answered', same⟩ := (calm.answer now (.place blob size)).goOn_of_known size known
  exact ⟨Prod.ext answered' answered, same⟩

variable (valid' : BlobId.Valid blob') (new' : ∀ worker, master.ledger.copy? blob' worker = none)

include valid' new'

/-- Different blobs that both find enough workers are both placed. -/
theorem Calm.lockstep_differing (differ : blob ≠ blob')
    (covered : ∀ row ∈ master.ledger.workers.rows, row.locked ≤ row.available)
    {chosen chosen' : List WorkerRow}
    (picked : roomiest master.ledger.workers.rows size replication = .ok chosen)
    (picked' : roomiest master.ledger.workers.rows size' replication = .ok chosen') :
    (master.lockstep (place blob size) (place blob' size')).1
        = (.ok (chosen.map (·.address)), .ok (chosen'.map (·.address)))
      ∧ Overwritten blob size chosen blob' size' chosen' master.ledger
        (master.lockstep (place blob size) (place blob' size')).2.ledger := by
  rw [calm.lockstep_eq 0 valid valid' (Ledger.savedCopiesOf_of_absent new)
    (Ledger.savedCopiesOf_of_absent new'), picked]
  obtain ⟨answered', earlier⟩ := calm.answer_place_of_chosen valid' new' 0 picked'
  have still : ∀ row ∈ chosen,
      ((master.answer 0 (.place blob' size')).2.ledger.worker? row.address).isSome := by
    intro row mem
    refine earlier.isSome_worker ?_
    rw [Ledger.worker?_of_roomiest picked row mem]
    rfl
  have fits : ∀ row ∈ chosen, Selection.fits size row = true :=
    fun row mem => (of_mem_roomiest picked mem).2
  obtain ⟨answered, later⟩ := (calm.answer 0 (.place blob' size')).goOn_of_absent
    (fun row _ => (earlier.others blob row.address differ).trans (new _)) still fits
    (nodup_roomiest picked master.ledger.workers.nodup_keys)
  exact ⟨Prod.ext answered answered',
    overwritten_of_bookings new new' differ covered picked picked' earlier later⟩

/-- If the first finds too few workers, the second is placed alone. -/
theorem Calm.lockstep_first_short (now : Int64) {e : Failure}
    (few : roomiest master.ledger.workers.rows size replication = .error e) :
    (master.lockstep (place blob size) (place blob' size')).1
        = (.error e, (master.answer now (.place blob' size')).1)
      ∧ (master.lockstep (place blob size) (place blob' size')).2.ledger
        = (master.answer now (.place blob' size')).2.ledger := by
  rw [calm.lockstep_eq now valid valid' (Ledger.savedCopiesOf_of_absent new)
    (Ledger.savedCopiesOf_of_absent new'), few]
  exact ⟨rfl, rfl⟩

/-- If the second finds too few workers, the first is placed alone. -/
theorem Calm.lockstep_second_short (now : Int64) {e : Failure}
    (few : roomiest master.ledger.workers.rows size' replication = .error e) :
    (master.lockstep (place blob size) (place blob' size')).1
        = ((master.answer now (.place blob size)).1, .error e)
      ∧ (master.lockstep (place blob size) (place blob' size')).2.ledger
        = (master.answer now (.place blob size)).2.ledger := by
  rw [calm.lockstep_eq now valid valid' (Ledger.savedCopiesOf_of_absent new)
    (Ledger.savedCopiesOf_of_absent new'), calm.answer_place_of_short valid' new' now few,
    calm.answer_place_eq now valid (Ledger.savedCopiesOf_of_absent new)]
  exact ⟨rfl, rfl⟩

end

/-! ## Any two placements -/

/-- Two placements in lockstep, of valid blobs without any copy, on any ledger that calls without
outages lead to.

If the blobs differ and both find enough workers, both answer their own choice, and the first has
overwritten what the second locked on workers that both have chosen.  If blob and size are the same,
both answer alike and leave what a single placement leaves.  A placement that finds too few workers
fails for want of space, and the other one answers and leaves what it does alone.

The earlier calls enter only by leaving no row with more locked than available, so that both sizes
fit in the numbers.  A placement is cut where it has chosen (`runPast_place`): what it does from
there depends on its choice and not on the ledger, so the first goes on after the second with rows
that may be out of date, and writes them back. -/
theorem lockstep_placements (address label : String) (calls : List (Int64 × MasterCall))
    {blob blob' : String} {size size' : UInt64} (now : Int64) (valid : BlobId.Valid blob)
    (valid' : BlobId.Valid blob')
    (new : ∀ worker, ((start address label).after calls).ledger.copy? blob worker = none)
    (new' : ∀ worker, ((start address label).after calls).ledger.copy? blob' worker = none) :
    let master := (start address label).after calls
    let rows := master.ledger.workers.rows
    let first := master.answer now (.place blob size)
    let second := master.answer now (.place blob' size')
    let both := master.lockstep (place blob size) (place blob' size')
    (∀ chosen chosen', blob ≠ blob' → roomiest rows size replication = .ok chosen →
        roomiest rows size' replication = .ok chosen' →
          both.1 = (.ok (chosen.map (·.address)), .ok (chosen'.map (·.address)))
            ∧ Overwritten blob size chosen blob' size' chosen' master.ledger both.2.ledger)
      ∧ (∀ chosen, blob = blob' → size = size' → roomiest rows size replication = .ok chosen →
          both.1 = (.ok (chosen.map (·.address)), .ok (chosen.map (·.address)))
            ∧ first.1 = .ok (chosen.map (·.address)) ∧ both.2.ledger = first.2.ledger)
      ∧ (∀ e, roomiest rows size replication = .error e → e.kind = .resourceExhausted
          ∧ both.1 = (.error e, second.1) ∧ both.2.ledger = second.2.ledger)
      ∧ ∀ e, roomiest rows size' replication = .error e → e.kind = .resourceExhausted
          ∧ both.1 = (first.1, .error e) ∧ both.2.ledger = first.2.ledger := by
  intro master rows first second both
  have calm : master.Calm := (calm_start address label).after calls
  have covered : ∀ row ∈ rows, row.locked ≤ row.available := fun row listed =>
    ((balances_after address label calls).books (Ledger.worker?_of_mem listed)).covered
  have exhausted : ∀ {space e}, roomiest rows space replication = .error e →
      e.kind = .resourceExhausted := by
    intro space e few
    rw [(roomiest_eq_error_iff.1 few).2]
    rfl
  refine ⟨fun chosen chosen' differ picked picked' => ?_, ?_, fun e few => ?_, fun e few => ?_⟩
  · exact calm.lockstep_differing valid new valid' new' differ covered picked picked'
  · rintro chosen rfl rfl picked
    obtain ⟨answers, same⟩ := calm.lockstep_same valid new now picked
    exact ⟨answers, (calm.answer_place_of_chosen valid new now picked).1, same⟩
  · exact ⟨exhausted few, calm.lockstep_first_short valid new valid' new' now few⟩
  · exact ⟨exhausted few, calm.lockstep_second_short valid new valid' new' now few⟩

/-- Two blobs in lockstep on three workers: there are copies of both, but only the size of the first
is locked. -/
theorem lockstep_on_three :
    let both := trioJoined.lockstep (place "x" 4) (place "y" 3)
    both.1 = (.ok ["a", "b", "c"], .ok ["a", "b", "c"])
      ∧ (∃ id, both.2.ledger.copy? "x" "a" = some ⟨id, "x", "a", .duringCreation, 4⟩)
      ∧ (∃ id, both.2.ledger.copy? "y" "a" = some ⟨id, "y", "a", .duringCreation, 3⟩)
      ∧ both.2.ledger.worker? "a" = some ⟨"a", 10, 4, 0⟩ := by
  have nothing : trioJoined.ledger.copies.rows = [] := by decide +kernel
  have new : ∀ blob worker, trioJoined.ledger.copy? blob worker = none := by
    intro blob worker
    exact Table.find?_eq_none_iff.2 (by simp [nothing])
  have choice : ∀ {size}, size = 4 ∨ size = 3 →
      roomiest trioJoined.ledger.workers.rows size replication
        = .ok [.fresh "a" 10 0, .fresh "b" 10 0, .fresh "c" 10 0] := by
    rintro size (rfl | rfl) <;> cbv
  obtain ⟨placed, -⟩ := lockstep_placements "m" "row" (joining 10 ["c", "b", "a"]) 0
    (by decide +kernel : BlobId.Valid "x") (by decide +kernel : BlobId.Valid "y") (new "x")
    (new "y")
  obtain ⟨answers, overwritten⟩ := placed _ _ (by decide) (choice (.inl rfl)) (choice (.inr rfl))
  obtain ⟨copy, row, -⟩ := overwritten.first (.fresh "a" 10 0) (List.mem_cons_self ..)
  obtain ⟨copy', -⟩ := overwritten.second (.fresh "a" 10 0) (List.mem_cons_self ..)
  exact ⟨answers, copy, copy', row⟩

end Master

end BlobCluster
