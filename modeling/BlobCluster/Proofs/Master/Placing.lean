import BlobCluster.Proofs.Ledger.Finding
import BlobCluster.Proofs.Ledger.Ranking
import BlobCluster.Proofs.Master.Lockstep
import BlobCluster.Proofs.Master.Retrying

/-!
# The exact effect of a placement

What one placement answers and writes, row by row, whatever the tables hold.  Nothing is asked of
them: the books need not balance, a row may have more locked than available, and copies may lie on
workers that are not there.  The tables keep one row for each key, and that is all it takes for the
loop over the chosen workers to find every row as it was read before the loop began.

`Selection.Foremost` says which workers are chosen, in which order.  `Ledger.Enrolled` says what is
written for them: the `newcomers`, those that have no copy of the blob yet, get one under the next
identifier of the mint and have its size locked, and nothing else is touched.  `placement_exact`
puts both together with the three ways in which a placement leaves everything as it is.
-/

namespace BlobCluster

open Program

/-! ## Who is enrolled -/

namespace Ledger

variable {before between after : Ledger} {blob : String} {size : UInt64} {row : WorkerRow}
  {rows : List WorkerRow} {id : String} {ids : List String}

/-- Those of the workers that have no copy of a blob. -/
def newcomers (ledger : Ledger) (blob : String) (rows : List WorkerRow) : List WorkerRow :=
  rows.filter fun row => (ledger.copy? blob row.address).isNone

/-- What a placement on some workers writes.  Each newcomer gets a copy under its own identifier,
and of its row only the locked space changes, by exactly the size of the blob. -/
structure Enrolled (blob : String) (size : UInt64) (rows : List WorkerRow) (ids : List String)
    (before after : Ledger) : Prop where
  length : ids.length = (before.newcomers blob rows).length
  written : ∀ entry ∈ (before.newcomers blob rows).zip ids,
    after.copy? blob entry.1.address
        = some ⟨entry.2, blob, entry.1.address, .duringCreation, size⟩
      ∧ ∃ locked : UInt64, locked.toNat = entry.1.locked.toNat + size.toNat
        ∧ after.worker? entry.1.address = some { entry.1 with locked }
  copies : ∀ other worker,
    ¬ (other = blob ∧ worker ∈ (before.newcomers blob rows).map (·.address)) →
    after.copy? other worker = before.copy? other worker
  workers : ∀ worker, worker ∉ (before.newcomers blob rows).map (·.address) →
    after.worker? worker = before.worker? worker

theorem Enrolled.nil : Enrolled blob size [] [] before before where
  length := rfl
  written _ mem := nomatch mem
  copies _ _ _ := rfl
  workers _ _ := rfl

theorem newcomers_of_known (found : (before.copy? blob row.address).isSome) :
    before.newcomers blob (row :: rows) = before.newcomers blob rows := by
  refine List.filter_cons_of_neg ?_
  rw [Option.isNone_iff_eq_none]
  intro absent
  rw [absent] at found
  cases found

theorem newcomers_of_absent (absent : before.copy? blob row.address = none) :
    before.newcomers blob (row :: rows) = row :: before.newcomers blob rows := by
  refine List.filter_cons_of_pos ?_
  rw [absent]
  rfl

/-- A booking on one worker makes no difference to who else is a newcomer. -/
theorem newcomers_book (new : row.address ∉ rows.map (·.address)) :
    (before.book id blob size row).newcomers blob rows = before.newcomers blob rows := by
  refine List.filter_congr fun other mem => ?_
  have differs : row.address ≠ other.address := fun same =>
    new (List.mem_map.2 ⟨other, mem, same.symm⟩)
  rw [book, copy?_putWorker, copy?_putCopy, if_neg fun both => differs both.2]

theorem Enrolled.known (found : (before.copy? blob row.address).isSome)
    (h : Enrolled blob size rows ids before after) :
    Enrolled blob size (row :: rows) ids before after := by
  obtain ⟨length, written, copies, workers⟩ := h
  rw [← newcomers_of_known found] at length written copies workers
  exact ⟨length, written, copies, workers⟩

/-- A newcomer is booked before the others. -/
theorem Enrolled.cons (absent : before.copy? blob row.address = none)
    (fits : Selection.fits size row = true) (new : row.address ∉ rows.map (·.address))
    (h : Enrolled blob size rows ids (before.book id blob size row) after) :
    Enrolled blob size (row :: rows) (id :: ids) before after := by
  have booked : Booking blob size [row] before (before.book id blob size row) := .book id absent
  have later : row.address ∉ (before.newcomers blob rows).map (·.address) := fun mem =>
    new ((List.filter_sublist.map _).subset mem)
  obtain ⟨length, written, copies, workers⟩ := h
  rw [newcomers_book new] at length written copies workers
  have enrolled : before.newcomers blob (row :: rows) = row :: before.newcomers blob rows :=
    newcomers_of_absent absent
  constructor
  · rw [enrolled, List.length_cons, List.length_cons, length]
  · intro entry mem
    rw [enrolled, List.zip_cons_cons] at mem
    rcases List.mem_cons.1 mem with rfl | mem
    · have copy := copies blob row.address fun both => later both.2
      refine ⟨?_, row.locked + size, toNat_add (row.locked_add_lt fits), ?_⟩
      · rw [copy, book, copy?_putWorker, copy?_putCopy, if_pos ⟨rfl, rfl⟩]
      · rw [workers _ later, book, worker?_putWorker, if_pos rfl]
    · exact written entry mem
  · intro other worker away
    rw [enrolled, List.map_cons, List.mem_cons] at away
    rw [copies other worker fun both => away ⟨both.1, .inr both.2⟩, book, copy?_putWorker,
      copy?_putCopy, if_neg fun both => away ⟨both.1.symm, .inl both.2.symm⟩]
  · intro worker away
    rw [enrolled, List.map_cons, List.mem_cons, not_or] at away
    exact (workers worker away.2).trans (booked.untouched away.1).2

end Ledger

/-! ## Running the loop -/

namespace Program

variable {α β σ : Type} {gate : Gate σ}

theorem run_bind {program : Program α} {desk after : Desk σ} {a : α}
    (answered : program.run gate desk = (.ok a, after)) (f : α → Program β) :
    (program.bind f).run gate desk = (f a).run gate after := by
  induction program generalizing desk with
  | done a' =>
    cases answered
    rfl
  | fail e => cases answered
  | overflow => cases answered
  | mint next ih => exact ih _ answered
  | ask q next ih =>
    rw [run] at answered
    show run gate (.ask q _) desk = _
    rw [run]
    rcases posed : pose gate desk q with ⟨e | answer, left⟩
    · rw [posed] at answered
      cases answered
    · rw [posed] at answered
      exact ih _ answered

end Program

namespace Placement

variable {ledger : Ledger} {blob : String} {size : UInt64} {row : WorkerRow}
  {rows : List WorkerRow}

theorem run_reserve_of_known (found : (ledger.copy? blob row.address).isSome) (mint : Mint) :
    (reserve blob size row).run Outages.strike ⟨ledger, mint, []⟩
      = (.ok (), ⟨ledger, mint, []⟩) := by
  obtain ⟨copy, found⟩ := Option.isSome_iff_exists.1 found
  refine (run_query rfl _).trans ?_
  rw [found]
  rfl

theorem run_reserve_of_absent (absent : ledger.copy? blob row.address = none)
    (there : (ledger.worker? row.address).isSome) (fits : Selection.fits size row = true)
    (mint : Mint) :
    (reserve blob size row).run Outages.strike ⟨ledger, mint, []⟩
      = (.ok (), ⟨ledger.book mint.next.1 blob size row, mint.next.2, []⟩) := by
  refine (run_query rfl _).trans ?_
  rw [absent]
  refine (run_query rfl _).trans ?_
  show ((Program.sum row.locked size).bind _).run _ _ = _
  rw [sum_eq_done (row.locked_add_lt fits)]
  have update : (ledger.putCopy ⟨mint.next.1, blob, row.address, .duringCreation, size⟩).worker?
      row.address = ledger.worker? row.address := rfl
  exact run_query (Query.perform_updateWorker (update ▸ there)) .done

/-- Every worker still has the row that was read before the loop, because the workers are distinct.
The identifiers are drawn only for those who have no copy yet, so they are counted by the
newcomers. -/
theorem run_reserveAll (blob : String)
    (there : ∀ row ∈ rows, (ledger.worker? row.address).isSome)
    (fits : ∀ row ∈ rows, Selection.fits size row = true)
    (distinct : (rows.map (·.address)).Nodup) (mint : Mint) :
    let count := (ledger.newcomers blob rows).length
    ∃ after, (reserveAll blob size rows).run Outages.strike ⟨ledger, mint, []⟩
        = (.ok (), ⟨after, mint.past count, []⟩)
      ∧ Ledger.Enrolled blob size rows (mint.take count) ledger after := by
  induction rows generalizing ledger mint with
  | nil => exact ⟨ledger, rfl, .nil⟩
  | cons row rest ih =>
    obtain ⟨new, distinct⟩ := List.nodup_cons.1 distinct
    have fit := fits row (List.mem_cons_self ..)
    have fits' : ∀ other ∈ rest, Selection.fits size other = true :=
      fun other mem => fits other (List.mem_cons_of_mem _ mem)
    have there' : ∀ other ∈ rest, (ledger.worker? other.address).isSome :=
      fun other mem => there other (List.mem_cons_of_mem _ mem)
    cases found : ledger.copy? blob row.address with
    | some copy =>
      have known : (ledger.copy? blob row.address).isSome := by simp [found]
      have first : (reserve blob size row).run Outages.strike ⟨ledger, mint, []⟩ = _ :=
        run_reserve_of_known known mint
      obtain ⟨after, ran, enrolled⟩ := ih there' fits' distinct mint
      rw [Ledger.newcomers_of_known known]
      exact ⟨after, (run_bind first _).trans ran, enrolled.known known⟩
    | none =>
      have first := run_reserve_of_absent found (there row (List.mem_cons_self ..)) fit mint
      have still : ∀ other ∈ rest,
          ((ledger.book mint.next.1 blob size row).worker? other.address).isSome :=
        fun other mem => Ledger.isSome_putWorker (there' other mem)
      obtain ⟨after, ran, enrolled⟩ := ih still fits' distinct mint.next.2
      rw [Ledger.newcomers_book new] at ran enrolled
      rw [Ledger.newcomers_of_absent found]
      exact ⟨after, (run_bind first _).trans ran, enrolled.cons found fit new⟩

theorem Placed.of_invalid {before after : Ledger} {r : Except Failure (List String)}
    (h : Placed blob size before r after) (invalid : ¬ BlobId.Valid blob) :
    (∃ e, r = .error e ∧ e.code = .invalidArgument) ∧ after = before := by
  cases h with
  | invalid rejected =>
    refine ⟨⟨_, rfl, ?_⟩, rfl⟩
    unfold BlobId.validate at rejected
    split at rejected
    next =>
      cases rejected
      rfl
    next => cases rejected
  | held valid => exact absurd valid invalid
  | short valid => exact absurd valid invalid
  | booked valid => exact absurd valid invalid

theorem Placed.of_held {before after : Ledger} {r : Except Failure (List String)}
    (h : Placed blob size before r after) (valid : BlobId.Valid blob)
    (some_ : before.savedCopiesOf blob ≠ []) :
    r = .ok ((before.savedCopiesOf blob).map (·.worker)) ∧ after = before := by
  cases h with
  | invalid rejected =>
    rw [BlobId.validate_eq_ok_iff.2 valid] at rejected
    cases rejected
  | held => exact ⟨rfl, rfl⟩
  | short _ none_ => exact absurd none_ some_
  | booked _ none_ => exact absurd none_ some_

end Placement

/-! ## The placement -/

namespace Master

open Placement (replication)

variable {master : Master} {blob : String} {size : UInt64}

/-- A placement that goes on with workers it has chosen enrolls them. -/
theorem Calm.goOn_of_chosen (calm : master.Calm) (blob : String) {rows : List WorkerRow}
    (chosen : Selection.roomiest master.ledger.workers.rows size replication = .ok rows) :
    let count := (master.ledger.newcomers blob rows).length
    let placed := master.goOn blob size (.ok rows)
    placed.1 = .ok (rows.map (·.address))
      ∧ placed.2.desk.mint = master.desk.mint.past count
      ∧ Ledger.Enrolled blob size rows (master.desk.mint.take count) master.ledger
        placed.2.ledger := by
  have current := Ledger.worker?_of_roomiest chosen
  have there : ∀ row ∈ rows, (master.ledger.worker? row.address).isSome := fun row mem => by
    rw [current row mem]
    rfl
  obtain ⟨after, ran, enrolled⟩ := Placement.run_reserveAll blob there
    (fun row mem => (Selection.of_mem_roomiest chosen mem).2)
    (Selection.nodup_roomiest chosen master.ledger.workers.nodup_keys) master.desk.mint
  have desk : master.desk = ⟨master.ledger, master.desk.mint, []⟩ := by
    rw [← calm.queries]
    rfl
  have whole := run_bind ran fun _ => .done (rows.map (·.address))
  rw [← desk] at whole
  have placed : master.goOn blob size (.ok rows)
      = (.ok (rows.map (·.address)), { master with desk := _ }) :=
    congrArg (fun ended => (ended.1, { master with desk := ended.2 })) whole
  rw [placed]
  exact ⟨rfl, rfl, enrolled⟩

/-- The exact effect of a placement whose queries all get through, on any tables, for any text and
any size.  It changes nothing if the text is no blob id, if somebody has confirmed the blob, or if
too few workers have the space.  Otherwise it names the first three of those that have it, by free
space and address, and enrolls those of them that are new to the blob, under the next identifiers of
the mint.

That such a placement ends as `Placed` says is known without a look at the run.  What that leaves
open, which identifiers are drawn and which amounts are written, is followed through the loop over
the chosen workers, each of whom still has the row that was read before (`run_reserveAll`). -/
theorem placement_exact (master : Master) (now : Int64) (blob : String) (size : UInt64) :
    let before := master.ledger
    let candidates := before.workers.rows.filter (Selection.fits size)
    let placed := (Trial.undisturbed now (.place blob size)).answer master
    (¬ BlobId.Valid blob →
        (∃ e, placed.1 = .error e ∧ e.code = .invalidArgument) ∧ placed.2.ledger = before)
      ∧ (BlobId.Valid blob → (∃ worker, before.Saved blob worker) →
        (∃ named : List String, placed.1 = .ok named
          ∧ (∀ worker, worker ∈ named ↔ before.Saved blob worker)
          ∧ named.Pairwise fun a b => Bytes.toUtf8 a < Bytes.toUtf8 b)
        ∧ placed.2.ledger = before)
      ∧ (BlobId.Valid blob → (∀ worker, ¬ before.Saved blob worker) → candidates.length < 3 →
        placed.1 = .error (Selection.shortage size 3 candidates.length)
        ∧ placed.2.ledger = before)
      ∧ (BlobId.Valid blob → (∀ worker, ¬ before.Saved blob worker) → 3 ≤ candidates.length →
        ∃ rows, let ids := master.desk.mint.take (before.newcomers blob rows).length
          Selection.Foremost candidates 3 rows ∧ placed.1 = .ok (rows.map (·.address))
          ∧ ids.Nodup ∧ placed.2.desk.mint = master.desk.mint.past ids.length
          ∧ Ledger.Enrolled blob size rows ids before placed.2.ledger) := by
  intro before candidates placed
  have calm := Trial.calm_undisturbed now (.place blob size) master
  have outcome : Placement.Placed blob size before placed.1 placed.2.ledger := calm.placed rfl
  refine ⟨fun invalid => ?_, fun valid held => ?_, fun valid new few => ?_,
    fun valid new many => ?_⟩
  · exact outcome.of_invalid invalid
  · obtain ⟨worker, saved⟩ := held
    have some_ : before.savedCopiesOf blob ≠ [] := fun none_ =>
      Ledger.savedCopiesOf_eq_nil_iff.1 none_ worker saved
    obtain ⟨answered, same⟩ := outcome.of_held valid some_
    refine ⟨⟨_, answered, fun worker => ?_, ?_⟩, same⟩
    · rw [List.mem_map, Ledger.saved_iff]
    · exact List.pairwise_map.2 (before.pairwise_savedCopiesOf blob)
  · have short := Selection.roomiest_eq_error_iff.2 ⟨few, rfl⟩
    have none_ := Ledger.savedCopiesOf_eq_nil_iff.2 new
    rcases outcome.of_new valid none_ with ⟨e, short', answered, same⟩ | ⟨rows, chosen, -⟩
    · cases short.symm.trans short'
      exact ⟨answered, same⟩
    · cases short.symm.trans chosen
  · obtain ⟨rows, chosen⟩ : ∃ rows, Selection.roomiest before.workers.rows size 3 = .ok rows :=
      ⟨_, Selection.roomiest_eq_ok_iff.2 ⟨many, rfl⟩⟩
    have none_ := Ledger.savedCopiesOf_eq_nil_iff.2 new
    have goesOn : placed
        = ((Trial.undisturbed now (.place blob size)).arm master).goOn blob size (.ok rows) := by
      rw [← chosen]
      exact calm.answer_place_eq now valid none_
    have few : (before.newcomers blob rows).length ≤ 3 := by
      rw [← Selection.length_roomiest chosen]
      exact List.length_filter_le _ _
    obtain ⟨answered, mint, enrolled⟩ := calm.goOn_of_chosen blob chosen
    rw [← goesOn] at answered mint enrolled
    refine ⟨rows, Selection.foremost_of_roomiest chosen before.workers.nodup_keys, answered,
      Mint.nodup_take _ (by omega), ?_, enrolled⟩
    rw [Mint.length_take]
    exact mint

end Master

end BlobCluster
