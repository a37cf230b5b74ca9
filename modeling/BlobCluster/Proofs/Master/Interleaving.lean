import Mathlib.Logic.Relation
import BlobCluster.Proofs.Ledger.Selection
import BlobCluster.Proofs.Master.Repetition

/-!
# Calls in flight on one ledger

The calls of a master do not wait for each other.  `Traffic` is a ledger with the calls that are
under way on it, and one step of it either lets a new call arrive or performs one query of one
call.  A query may also fail instead of being performed, and an identifier may be any text, so that
every source of identifiers and every pattern of failures is covered.

Calls write back whole rows of workers that they computed from rows they read earlier, so a row may
replace a newer one and reservations get lost.  The main result is that nevertheless no
worker ever has more locked than available, and that no sum or difference leaves the 64 bits of its
numbers.  What carries it is not a relation between the rows and the copies, which does not survive
lost updates, but that every row is covered by itself: `Program.Prudent` says of the rest of a call
that it writes only covered rows as long as the rows it is answered are covered, and both the ledger
and the rest of every call keep this (`Program.Step.covered`).

`Program.steps_of_run` and `Program.steps_of_runPast` tie the steps to how programs are run: a call
that runs alone, and one that runs up to some query, are parts of a schedule.
`covered_while_overtaken` is such a schedule: a placement that comes late writes over what another
has reserved, and the copy of the other is confirmed before the late one has come to its second
worker.
-/

namespace BlobCluster

namespace Program

variable {α β σ : Type}

/-! ## One step of a program -/

/-- One indivisible step of a program, on a ledger that other programs change as well. -/
inductive Step : Ledger × Program α → Ledger × Program α → Prop where
  /-- An identifier is drawn. -/
  | draw (ledger : Ledger) (next : String → Program α) (id : String) :
      Step (ledger, .mint next) (ledger, next id)
  /-- A query fails, refused by the ledger or struck before it takes effect. -/
  | fail (ledger : Ledger) (q : Query) (next : q.Answer → Program α) (e : Failure) :
      Step (ledger, .ask q next) (ledger, .fail e)
  /-- A query is performed. -/
  | answer {ledger after : Ledger} {q : Query} (next : q.Answer → Program α) {a : q.Answer}
      (h : q.perform ledger = .ok (a, after)) :
      Step (ledger, .ask q next) (after, next a)

abbrev Steps : Ledger × Program α → Ledger × Program α → Prop := Relation.ReflTransGen Step

/-- What a program that has ended answers. -/
def outcome? : Program α → Option (Except Failure α)
  | .done a => some (.ok a)
  | .fail e => some (.error e)
  | .overflow => some (.error overflowFailure)
  | .ask _ _ | .mint _ => none

theorem steps_of_run (gate : Gate σ) (program : Program α) (desk : Desk σ) :
    ∃ ended : Program α,
      Steps (desk.ledger, program) ((program.run gate desk).2.ledger, ended)
        ∧ ended.outcome? = some (program.run gate desk).1 := by
  induction program generalizing desk with
  | done a => exact ⟨.done a, .refl, rfl⟩
  | fail e => exact ⟨.fail e, .refl, rfl⟩
  | overflow => exact ⟨.overflow, .refl, rfl⟩
  | mint next ih =>
    obtain ⟨ended, steps, outcome⟩ := ih desk.mint.next.1 { desk with mint := desk.mint.next.2 }
    exact ⟨ended, .head (.draw _ _ _) steps, outcome⟩
  | ask q next ih =>
    rw [run]
    unfold pose
    rcases hg : gate q.kind desk.gate with ⟨_ | e, state⟩
    · cases hp : q.perform desk.ledger with
      | error e => exact ⟨.fail e, .single (.fail _ _ _ _), rfl⟩
      | ok answered =>
        obtain ⟨a, ledger⟩ := answered
        obtain ⟨ended, steps, outcome⟩ := ih a { desk with ledger, gate := state }
        exact ⟨ended, .head (.answer _ hp) steps, outcome⟩
    · exact ⟨.fail e, .single (.fail _ _ _ _), rfl⟩

/-- Runs two programs so that the second overtakes the first, and gives what then remains of the
first.  Both have asked a query before either goes on; the second runs to its end, and after that
the first past another query. -/
def overtaken (gate : Gate σ) (slow : Program α) (fast : Program β)
    (first second third : Query.Kind) (desk : Desk σ) : Program α × Desk σ :=
  let begun := slow.runPast gate first desk
  let overtaking := fast.runPast gate second begun.2
  begun.1.runPast gate third (overtaking.1.run gate overtaking.2).2

/-- A program that runs alone up to a query takes steps up to what then remains of it.  The steps
are those of the small-step relation, which lets any other program take its own in between. -/
theorem steps_of_runPast (gate : Gate σ) (kind : Query.Kind) (program : Program α)
    (desk : Desk σ) :
    Steps (desk.ledger, program)
      ((program.runPast gate kind desk).2.ledger, (program.runPast gate kind desk).1) := by
  induction program generalizing desk with
  | done a => exact .refl
  | fail e => exact .refl
  | overflow => exact .refl
  | mint next ih =>
    exact .head (.draw _ _ _) (ih desk.mint.next.1 { desk with mint := desk.mint.next.2 })
  | ask q next ih =>
    rw [runPast]
    unfold pose
    rcases hg : gate q.kind desk.gate with ⟨_ | e, state⟩
    · cases hp : q.perform desk.ledger with
      | error e => exact .single (.fail _ _ _ _)
      | ok answered =>
        obtain ⟨a, ledger⟩ := answered
        simp only
        split
        · exact .single (.answer _ hp)
        · exact .head (.answer _ hp) (ih a { desk with ledger, gate := state })
    · exact .single (.fail _ _ _ _)

end Program

/-! ## Rows that are covered -/

/-- No more is locked than available. -/
def WorkerRow.Covered (row : WorkerRow) : Prop := row.locked ≤ row.available

def Ledger.Covered (ledger : Ledger) : Prop := ∀ row ∈ ledger.workers.rows, row.Covered

namespace Query

/-- A query writes covered rows only. -/
def WritesCovered : Query → Prop
  | .addWorker row | .updateWorker row => row.Covered
  | _ => True

/-- The rows of an answer are covered, and those that were chosen have the space.  That a chosen
worker has the space is kept with its row, since the reservation computes with the row and does not
ask again. -/
def AnswersCovered : (q : Query) → q.Answer → Prop
  | .worker _, row => WorkerRow.Covered row
  | .roomiest space _, rows => ∀ row ∈ rows, WorkerRow.Covered row ∧ Selection.fits space row
  | _, _ => True

end Query

theorem Ledger.Covered.putWorker {ledger : Ledger} {row : WorkerRow} (h : ledger.Covered)
    (covered : row.Covered) :
    Ledger.Covered { ledger with workers := ledger.workers.put row } := by
  intro other mem
  rcases Table.mem_insertRow mem with rfl | mem
  · exact covered
  · exact h other mem

/-- A query that writes covered rows leaves a covered ledger covered and answers covered rows.  What
is answered is covered as well, because a program that has read a row may write it back much later,
on another ledger. -/
theorem Ledger.Covered.perform {ledger after : Ledger} {q : Query} {a : q.Answer}
    (h : ledger.Covered) (writes : q.WritesCovered) (done : q.perform ledger = .ok (a, after)) :
    after.Covered ∧ q.AnswersCovered a := by
  cases q with
  | addWorker row =>
    simp only [Query.perform, Ledger.addWorker] at done
    split at done
    · cases done
    · cases done
      exact ⟨h.putWorker writes, trivial⟩
  | updateWorker row =>
    simp only [Query.perform, Ledger.updateWorker] at done
    split at done
    · cases done
      exact ⟨h.putWorker writes, trivial⟩
    · cases done
  | dropWorker address =>
    cases done
    exact ⟨fun row mem => h row (List.mem_filter.1 mem).1, trivial⟩
  | worker address =>
    simp only [Query.perform, Ledger.worker] at done
    split at done
    next row found =>
      cases done
      exact ⟨h, h _ (List.mem_of_find?_eq_some found)⟩
    next => cases done
  | roomiest space count =>
    simp only [Query.perform] at done
    cases chosen : Selection.roomiest ledger.workers.rows space count with
    | error e =>
      rw [chosen] at done
      cases done
    | ok rows =>
      rw [chosen] at done
      cases done
      refine ⟨h, fun row mem => ?_⟩
      obtain ⟨listed, fits⟩ := Selection.of_mem_roomiest chosen mem
      exact ⟨h row listed, fits⟩
  | addCopy | updateCopy | savedCopies | copies | copyOn | dropBlob | dropCopiesOn | flush =>
    cases done
    exact ⟨h, trivial⟩

/-! ## Programs that write covered rows -/

namespace Program

variable {α β : Type}

/-- Whatever covered rows a program is answered, it writes covered rows only and no sum is out of
range.  Nothing is said of the ledger by then: other programs may have changed it since a row was
read. -/
def Prudent : Program α → Prop
  | .done _ | .fail _ => True
  | .overflow => False
  | .mint next => ∀ id, (next id).Prudent
  | .ask q next => q.WritesCovered ∧ ∀ a, q.AnswersCovered a → (next a).Prudent

/-- One step keeps the ledger covered and the rest of the program prudent. -/
theorem Step.covered {ledger after : Ledger} {program rest : Program α}
    (step : Step (ledger, program) (after, rest)) (covered : ledger.Covered)
    (prudent : program.Prudent) : after.Covered ∧ rest.Prudent := by
  cases step with
  | draw => exact ⟨covered, prudent _⟩
  | fail => exact ⟨covered, trivial⟩
  | answer next done =>
    obtain ⟨writes, goesOn⟩ := prudent
    obtain ⟨covered', answers⟩ := covered.perform writes done
    exact ⟨covered', goesOn _ answers⟩

theorem Prudent.bind {program : Program α} {f : α → Program β} (h : program.Prudent)
    (next : ∀ a, (f a).Prudent) : (program.bind f).Prudent := by
  induction program with
  | done a => exact next a
  | fail e => exact h
  | overflow => exact h
  | mint rest ih => exact fun id => ih id (h id)
  | ask q rest ih => exact ⟨h.1, fun a answers => ih a (h.2 a answers)⟩

end Program

namespace Placement

open Program

/-- Reserving on a covered row that has the space writes a covered row. -/
theorem prudent_reserve {blob : String} {size : UInt64} {row : WorkerRow} (covered : row.Covered)
    (fits : Selection.fits size row = true) : (reserve blob size row).Prudent := by
  have room := row.locked_add_le covered fits
  have range : row.locked.toNat + size.toNat < UInt64.size :=
    Nat.lt_of_le_of_lt room row.available.toNat_lt
  refine ⟨trivial, fun found _ => ?_⟩
  cases found with
  | some copy => trivial
  | none =>
    intro id
    refine ⟨trivial, fun _ _ => ?_⟩
    show ((Program.sum row.locked size).bind _).Prudent
    rw [sum_eq_done range]
    refine ⟨?_, fun _ _ => trivial⟩
    show row.locked + size ≤ row.available
    rw [UInt64.le_iff_toNat_le, Program.toNat_add range]
    exact room

theorem prudent_reserveAll {blob : String} {size : UInt64} {rows : List WorkerRow}
    (h : ∀ row ∈ rows, row.Covered ∧ Selection.fits size row) :
    (reserveAll blob size rows).Prudent := by
  induction rows with
  | nil => trivial
  | cons row rest ih =>
    obtain ⟨covered, fits⟩ := h row (List.mem_cons_self ..)
    have others := ih fun other mem => h other (List.mem_cons_of_mem _ mem)
    exact (prudent_reserve covered fits).bind fun _ => others

theorem prudent_place (blob : String) (size : UInt64) : (place blob size).Prudent := by
  have validated : (ofExcept (BlobId.validate blob)).Prudent := by
    cases BlobId.validate blob <;> trivial
  refine validated.bind fun _ => ⟨trivial, fun saved _ => ?_⟩
  show (if saved.isEmpty then _ else _ : Program (List String)).Prudent
  split
  · refine ⟨trivial, fun rows answers => ?_⟩
    exact (prudent_reserveAll answers).bind fun _ => trivial
  · trivial

theorem prudent_locate (blob : String) : (locate blob).Prudent := by
  refine ⟨trivial, fun saved _ => ?_⟩
  cases saved with
  | nil => trivial
  | cons copy rest => exact ⟨trivial, fun _ _ => trivial⟩

/-- Spending takes the same amount off what is locked and what is available.  Subtractions that
would fall below zero are refused, so both amounts go down by the same number and keep their
order. -/
theorem prudent_confirm (blob worker : String) : (confirm blob worker).Prudent := by
  refine ⟨trivial, fun found _ => ?_⟩
  cases found with
  | none => trivial
  | some copy =>
    show (if copy.state = .saved then _ else _ : Program Unit).Prudent
    split
    · trivial
    · refine ⟨trivial, fun row (covered : row.Covered) => ?_⟩
      show ((spend row.locked copy.size _).bind _).Prudent
      by_cases locked : copy.size ≤ row.locked
      · have enough : copy.size ≤ row.available := UInt64.le_trans locked covered
        rw [spend, if_pos locked]
        show ((spend row.available copy.size _).bind _).Prudent
        rw [spend, if_pos enough]
        refine ⟨trivial, fun _ _ => ⟨?_, fun _ _ => trivial⟩⟩
        show row.locked - copy.size ≤ row.available - copy.size
        have le := UInt64.le_iff_toNat_le.1 covered
        rw [UInt64.le_iff_toNat_le, UInt64.toNat_sub_of_le _ _ locked,
          UInt64.toNat_sub_of_le _ _ enough]
        omega
      · rw [spend, if_neg locked]
        trivial

theorem prudent_register (address : String) (available : UInt64) (now : Int64) :
    (register address available now).Prudent := by
  unfold register
  split
  · trivial
  · refine ⟨trivial, fun _ _ => ⟨trivial, fun _ _ => ⟨?_, fun _ _ => trivial⟩⟩⟩
    show (0 : UInt64) ≤ available
    rw [UInt64.le_iff_toNat_le]
    exact Nat.zero_le _

theorem prudent_forget (blob : String) : (forget blob).Prudent :=
  ⟨trivial, fun _ _ => ⟨trivial, fun _ _ => trivial⟩⟩

end Placement

theorem MasterCall.prudent_program (now : Int64) (call : MasterCall) :
    (call.program now).Prudent := by
  cases call with
  | health => trivial
  | place blob size => exact Placement.prudent_place blob size
  | locate blob => exact Placement.prudent_locate blob
  | confirm blob worker => exact Placement.prudent_confirm blob worker
  | register address available => exact Placement.prudent_register address available now
  | forget blob => exact Placement.prudent_forget blob

/-! ## Schedules -/

/-- A call under way: what remains of its program. -/
structure Underway where
  call : MasterCall
  rest : Program call.Answer

/-- A ledger with the calls under way on it; a call that has ended stays listed. -/
structure Traffic where
  ledger : Ledger
  calls : List Underway

namespace Traffic

/-- What happens next: a call arrives at some time, or one of the calls takes a step. -/
inductive Step : Traffic → Traffic → Prop where
  | arrive (ledger : Ledger) (calls : List Underway) (now : Int64) (call : MasterCall) :
      Step ⟨ledger, calls⟩ ⟨ledger, ⟨call, call.program now⟩ :: calls⟩
  | proceed {ledger after : Ledger} {call : MasterCall} {rest rest' : Program call.Answer}
      (before later : List Underway) (h : Program.Step (ledger, rest) (after, rest')) :
      Step ⟨ledger, before ++ ⟨call, rest⟩ :: later⟩ ⟨after, before ++ ⟨call, rest'⟩ :: later⟩

/-- What can come about from an empty ledger, with calls arriving at any time and in any number,
and their queries performed or failing in any order. -/
inductive Reached : Traffic → Prop where
  | start : Reached ⟨.empty, []⟩
  | step {traffic next : Traffic} (h : Reached traffic) (step : Step traffic next) : Reached next

/-- A call that nothing comes between takes any number of steps. -/
theorem Reached.proceed {call : MasterCall} {here there : Ledger × Program call.Answer}
    (before later : List Underway) (h : Reached ⟨here.1, before ++ ⟨call, here.2⟩ :: later⟩)
    (steps : Program.Steps here there) :
    Reached ⟨there.1, before ++ ⟨call, there.2⟩ :: later⟩ := by
  induction steps with
  | refl => exact h
  | tail _ step ih => exact ih.step (.proceed before later step)

/-- A call that arrives and is run alone leaves the ledger that `Program.run` gives. -/
theorem Reached.run {σ : Type} {ledger : Ledger} {calls : List Underway}
    (h : Reached ⟨ledger, calls⟩) (gate : Program.Gate σ) (desk : Program.Desk σ)
    (same : desk.ledger = ledger) (now : Int64) (call : MasterCall) :
    ∃ ended : Program call.Answer,
      Reached ⟨((call.program now).run gate desk).2.ledger, ⟨call, ended⟩ :: calls⟩
        ∧ ended.outcome? = some ((call.program now).run gate desk).1 := by
  obtain ⟨ended, steps, outcome⟩ := Program.steps_of_run gate (call.program now) desk
  have arrived := h.step (.arrive ledger calls now call)
  rw [← same] at arrived
  exact ⟨ended, Reached.proceed [] calls arrived steps, outcome⟩

/-- One of two calls may overtake the other. -/
theorem Reached.overtaken {σ : Type} {calls : List Underway} (gate : Program.Gate σ)
    (desk : Program.Desk σ) (h : Reached ⟨desk.ledger, calls⟩) (now : Int64)
    (slow fast : MasterCall) (first second third : Query.Kind) :
    let late := (slow.program now).overtaken gate (fast.program now) first second third desk
    ∃ calls', Reached ⟨late.2.ledger, calls'⟩ ∧ ⟨slow, late.1⟩ ∈ calls' := by
  let begun := (slow.program now).runPast gate first desk
  let overtaking := (fast.program now).runPast gate second begun.2
  have slowBegun := Reached.proceed [] calls (h.step (.arrive _ _ now slow))
    (Program.steps_of_runPast gate first (slow.program now) desk)
  have fastBegun := Reached.proceed [] _ (slowBegun.step (.arrive _ _ now fast))
    (Program.steps_of_runPast gate second (fast.program now) begun.2)
  obtain ⟨ended, steps, -⟩ := Program.steps_of_run gate overtaking.1 overtaking.2
  have fastEnded := Reached.proceed [] _ fastBegun steps
  have slowLate := Reached.proceed [⟨fast, ended⟩] calls fastEnded
    (Program.steps_of_runPast gate third begun.1 (overtaking.1.run gate overtaking.2).2)
  exact ⟨_, slowLate, List.mem_append_right _ List.mem_cons_self⟩

/-- What a master has done for calls that came one after the other is the end of a schedule. -/
theorem reached_after (address label : String) (calls : List (Int64 × MasterCall)) :
    ∃ ended, Reached ⟨((Master.start address label).after calls).ledger, ended⟩ := by
  induction calls with
  | nil => exact ⟨[], .start⟩
  | cons arriving earlier ih =>
    obtain ⟨now, call⟩ := arriving
    obtain ⟨ended, reached⟩ := ih
    rw [Master.after, Master.answer]
    -- A call that is struck by an outage of the whole call has not arrived.
    rcases ((Master.start address label).after earlier).outages.strike call.kind
      with ⟨_ | e, outages⟩
    · obtain ⟨last, reached', -⟩ := reached.run Outages.strike
        ((Master.start address label).after earlier).desk rfl now call
      exact ⟨_, reached'⟩
    · exact ⟨ended, reached⟩

/-- What holds at every moment: the ledger is covered and every call under way is prudent. -/
structure Safe (traffic : Traffic) : Prop where
  covered : traffic.ledger.Covered
  prudent : ∀ underway ∈ traffic.calls, underway.rest.Prudent

theorem safe_start : Safe ⟨.empty, []⟩ :=
  ⟨fun _ mem => (nomatch mem), fun _ mem => (nomatch mem)⟩

theorem Safe.step {traffic next : Traffic} (h : Safe traffic) (step : Step traffic next) :
    Safe next := by
  cases step with
  | arrive ledger calls now call =>
    refine ⟨h.covered, fun underway mem => ?_⟩
    rcases List.mem_cons.1 mem with rfl | old
    · exact call.prudent_program now
    · exact h.prudent underway old
  | proceed before later step =>
    rename_i ledger after call rest rest'
    have prudent : rest.Prudent := h.prudent ⟨call, rest⟩ (by simp)
    obtain ⟨covered, goesOn⟩ := step.covered h.covered prudent
    refine ⟨covered, fun underway mem => ?_⟩
    rcases List.mem_append.1 mem with old | mem
    · exact h.prudent underway (List.mem_append_left _ old)
    · rcases List.mem_cons.1 mem with rfl | old
      · exact goesOn
      · exact h.prudent underway (List.mem_append_right _ (List.mem_cons_of_mem _ old))

theorem safe_of_reached {traffic : Traffic} (h : Reached traffic) : Safe traffic := by
  induction h with
  | start => exact safe_start
  | step _ step ih => exact ih.step step

/-- In whatever order the queries of any number of calls are performed or fail, no worker has more
locked than available, so that the free space of a worker is an exact difference; no call under way
is at a sum that is out of range, and what a call takes off an amount is always within it.

A call books on the row that it has read, whatever has become of the row since, so its next write is
decided by what it was answered and not by the ledger.  Hence the invariant has a part about each
program under way: it is prudent, that is, whatever covered rows it will be answered it will write
covered rows.  A step of one call neither changes the rest of another nor can it spoil this. -/
theorem covered_of_reached {traffic : Traffic} (h : Reached traffic) :
    (∀ row ∈ traffic.ledger.workers.rows,
        row.locked ≤ row.available ∧ row.free.toNat + row.locked.toNat = row.available.toNat)
      ∧ (∀ underway ∈ traffic.calls, underway.rest ≠ .overflow)
      ∧ ∀ (amount size left : UInt64) (e : Failure),
          Placement.spend amount size e = .done left →
            left.toNat + size.toNat = amount.toNat := by
  have safe := safe_of_reached h
  refine ⟨fun row mem => ?_, fun underway mem overflowed => ?_, fun _ _ _ _ => ?_⟩
  · have covered := safe.covered row mem
    exact ⟨covered, row.free_add_locked covered⟩
  · have prudent := safe.prudent underway mem
    rw [overflowed] at prudent
    exact prudent
  · exact Placement.toNat_of_spend

open Master in
/-- Two placements choose the same workers before either has booked one.  Then "y" is booked on all
of them, and "x", from the rows that it has read before that, on the first, where the reservation of
"y" is lost.  Still "y" can be confirmed there, while "x" is on its way to the others: what is left
of the reservation of "x" is covered by what is left of the space. -/
theorem covered_while_overtaken :
    let late := (MasterCall.program 1 (.place "x" 4)).overtaken Outages.strike
      (MasterCall.program 1 (.place "y" 3)) .roomiest .roomiest .updateWorker trioJoined.desk
    let confirmed := (MasterCall.program 2 (.confirm "y" "a")).run Outages.strike late.2
    late.1.outcome? = none ∧ (late.2.ledger.copy? "y" "a").map (·.size) = some 3
      ∧ late.2.ledger.worker? "a" = some ⟨"a", 10, 4, 0⟩
      ∧ confirmed.2.ledger.worker? "a" = some ⟨"a", 7, 1, 0⟩
      ∧ ∃ calls, Reached ⟨confirmed.2.ledger, calls⟩ ∧ ⟨.place "x" 4, late.1⟩ ∈ calls
        ∧ (∀ row ∈ confirmed.2.ledger.workers.rows,
          row.locked ≤ row.available ∧ row.free.toNat + row.locked.toNat = row.available.toNat)
        ∧ late.1 ≠ .overflow := by
  refine ⟨by cbv, by cbv, by cbv, by cbv, ?_⟩
  obtain ⟨joined, reached⟩ := reached_after "m" "row" (joining 10 ["c", "b", "a"])
  obtain ⟨calls, overtaken, under⟩ := reached.overtaken Outages.strike trioJoined.desk 1
    (.place "x" 4) (.place "y" 3) .roomiest .roomiest .updateWorker
  obtain ⟨ended, reached', -⟩ := overtaken.run Outages.strike _ rfl 2 (.confirm "y" "a")
  obtain ⟨covered, inRange, -⟩ := covered_of_reached reached'
  have under' := List.mem_cons_of_mem ⟨.confirm "y" "a", ended⟩ under
  exact ⟨_, reached', under', covered, inRange _ under'⟩

end Traffic

end BlobCluster
