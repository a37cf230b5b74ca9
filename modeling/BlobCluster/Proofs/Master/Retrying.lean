import BlobCluster.Proofs.Ledger.Stopping
import BlobCluster.Proofs.Master.Books
import BlobCluster.Proofs.Master.History

/-!
# Calls that are tried again

A call that fails half-way is made again until it succeeds.  Placements and confirmations both write
two tables one after the other, first the copy and then the row of its worker, and both take a copy
that is written as a sign that the rest was done as well.  So everything depends on the query that
updates the row.  As long as it is never the one that fails, nothing is left half-done: a
confirmation that is tried again leaves what a single one would (`confirmation_retried`), and every
copy that a repeated placement names is backed by space that is locked for it
(`placement_retried`).  If it fails, the retry takes the copy for finished.  A confirmation then
never spends the space, and a placement hands out a copy that cannot be confirmed.
-/

namespace BlobCluster

open Program

/-! ## Failing trials -/

section Failing

variable {call : MasterCall} {master : Master}

/-- What a failing call leaves has a property that holds wherever it can stop. -/
theorem Trial.stopped {kinds : Query.Kind → Prop} {inv : Ledger → Prop} {trial : Trial}
    {e : Failure} (plan : trial.queries.Within kinds)
    (posed : (trial.call.program trial.now).Along (fun q before _ => kinds q.kind → inv before)
      (fun _ _ => True) master.ledger)
    (refused : (trial.call.program trial.now).Meets false
      (fun r after => (∃ e, r = .error e) → inv after) master.ledger)
    (here : inv master.ledger) (failed : (trial.answer master).1 = .error e) :
    inv (trial.answer master).2.ledger := by
  have planned : (trial.arm master).outages = trial.calls := rfl
  unfold Trial.answer Master.answer at failed ⊢
  rw [planned] at failed ⊢
  rcases struck : trial.calls.strike trial.call.kind with ⟨_ | e', outages⟩
  · rw [struck] at failed
    exact stopped_run plan posed refused failed
  · exact here

/-- A call without outages. -/
def Trial.undisturbed (now : Int64) (call : MasterCall) : Trial := ⟨now, call, [], []⟩

theorem Trial.calm_undisturbed (now : Int64) (call : MasterCall) (master : Master) :
    ((undisturbed now call).arm master).Calm :=
  ⟨rfl, rfl⟩

/-- Each of these trials makes the call, and fails.  Time and planned outages may differ from trial
to trial; each meets the ledger that the one before has left. -/
def Master.Fails (call : MasterCall) (master : Master) : List Trial → Prop
  | [] => True
  | trial :: later =>
    trial.call = call ∧ (∃ e, (trial.answer master).1 = .error e)
      ∧ (trial.answer master).2.Fails call later

/-- What any number of failing calls leave has a property that holds wherever each of them can stop.
Each attempt starts from what the one before has left, so the property must be enough to prove
itself for the next. -/
theorem Master.Fails.stopped {kinds : Query.Kind → Prop} {attempts : List Trial}
    (inv : Ledger → Prop) (failed : master.Fails call attempts)
    (plans : ∀ trial ∈ attempts, trial.queries.Within kinds)
    (posed : ∀ ledger, inv ledger → ∀ now, (call.program now).Along
      (fun q before _ => kinds q.kind → inv before) (fun _ _ => True) ledger)
    (refused : ∀ ledger, inv ledger → ∀ now, (call.program now).Meets false
      (fun r after => (∃ e, r = .error e) → inv after) ledger)
    (here : inv master.ledger) : inv (master.tried attempts).ledger := by
  induction attempts generalizing master with
  | nil => exact here
  | cons trial later ih =>
    obtain ⟨same, ⟨e, stopped⟩, rest⟩ := failed
    refine ih rest (fun other mem => plans other (List.mem_cons_of_mem _ mem)) ?_
    refine Trial.stopped (plans trial (List.mem_cons_self ..)) ?_ ?_ here stopped
    · rw [same]
      exact posed _ here trial.now
    · rw [same]
      exact refused _ here trial.now

end Failing

/-! ## Confirmations -/

namespace Placement

variable {ledger : Ledger} {blob worker : String} {size : UInt64}

/-- Every query of a confirmation is posed on the ledger as it was, but for the one that updates the
row of the worker, which is posed when the copy is confirmed already.  The copy is written before
the row of the worker, and this gap is the only one a confirmation has. -/
theorem posed_confirm {copy : CopyRow} (found : ledger.copy? blob worker = some copy) :
    (confirm blob worker).Along (fun q before _ => before = ledger
        ∨ q.kind = .updateWorker ∧ copy.state = .duringCreation
          ∧ before = ledger.putCopy { copy with state := .saved })
      (fun _ _ => True) ledger := by
  rintro _ _ ⟨⟩
  refine ⟨.inl rfl, ?_⟩
  rw [found]
  show (if copy.state = .saved then _ else _ : Program Unit).Along _ _ _
  cases pending : copy.state with
  | saved => trivial
  | duringCreation =>
    refine MasterCall.along_worker (.inl rfl) fun row there => ?_
    show ((spend row.locked copy.size _).bind _).Along _ _ _
    unfold spend
    split
    · show ((spend row.available copy.size _).bind _).Along _ _ _
      unfold spend
      split
      · rintro _ _ ⟨⟩
        exact ⟨.inl rfl, MasterCall.along_updateWorker (.inr ⟨rfl, rfl, rfl⟩) trivial⟩
      · trivial
    · trivial

theorem refused_confirm :
    (confirm blob worker).Meets false (fun r after => (∃ e, r = .error e) → after = ledger)
      ledger := by
  refine settled_confirm.mono fun r after settled failed => ?_
  cases settled with
  | missing => rfl
  | already => rfl
  | short => rfl
  | spent =>
    obtain ⟨e, failed⟩ := failed
    cases failed

end Placement

namespace Master

variable {master : Master} {accounts : String → Account} {blob worker : String} {copy : CopyRow}

theorem Calm.confirm_pending (calm : master.Calm) (balanced : master.ledger.Balances accounts)
    (found : master.ledger.copy? blob worker = some copy) (pending : copy.state = .duringCreation)
    (now : Int64) : ∃ row, master.ledger.worker? worker = some row
      ∧ copy.size ≤ row.locked ∧ copy.size ≤ row.available
      ∧ (master.answer now (.confirm blob worker)).1 = .ok ()
      ∧ (master.answer now (.confirm blob worker)).2.ledger
        = (master.ledger.putCopy { copy with state := .saved }).putWorker
            { row with locked := row.locked - copy.size,
                       available := row.available - copy.size } := by
  obtain ⟨row, current, locked, available⟩ := balanced.not_short found pending
  obtain ⟨answered, written⟩ :=
    (calm.settled now blob worker).of_pending found pending current ⟨locked, available⟩
  exact ⟨row, current, locked, available, answered, written⟩

/-- Confirmations that fail leave the ledger, unless one of them stops at the row of the worker:
then the copy is confirmed and its space is not spent. -/
theorem Fails.confirming (kinds : Query.Kind → Prop) {attempts : List Trial}
    (failed : master.Fails (.confirm blob worker) attempts)
    (plans : ∀ trial ∈ attempts, trial.queries.Within kinds)
    (found : master.ledger.copy? blob worker = some copy) :
    (master.tried attempts).ledger = master.ledger
      ∨ kinds .updateWorker
        ∧ (master.tried attempts).ledger = master.ledger.putCopy { copy with state := .saved } := by
  refine Fails.stopped (fun ledger => ledger = master.ledger ∨ kinds .updateWorker
    ∧ ledger = master.ledger.putCopy { copy with state := .saved }) failed plans ?_ ?_ (.inl rfl)
  · rintro ledger (rfl | ⟨may, rfl⟩) -
    · refine (Placement.posed_confirm found).weaken fun q before _ posed may => ?_
      rcases posed with same | ⟨kind, -, written⟩
      · exact .inl same
      · exact .inr ⟨kind ▸ may, written⟩
    · obtain ⟨-, rfl, rfl⟩ := Ledger.copy?_eq_some_iff.1 found
      have saved : (master.ledger.putCopy { copy with state := .saved }).copy? copy.blob copy.worker
          = some { copy with state := .saved } := by
        rw [Ledger.copy?_putCopy, if_pos ⟨rfl, rfl⟩]
      refine (Placement.posed_confirm saved).weaken fun q before _ posed _ => ?_
      rcases posed with same | ⟨-, state, -⟩
      · exact .inr ⟨may, same⟩
      · cases state
  · rintro ledger here -
    refine Placement.refused_confirm.mono fun r after same failed => ?_
    rw [same failed]
    exact here

/-- The confirmation of a pending copy, on any ledger that calls without outages lead to, is tried
again after any number of failures.  It succeeds.  If the failures left the copy pending, it leaves
the ledger that a single confirmation would.  If they left it confirmed, its space is not spent.
They leave it pending if no outage of the query that updates a worker is planned.

A confirmation writes twice, the copy first, so it can be left half done in one way only.  An
invariant of any number of failures is therefore that the ledger is as it was or has this one copy
confirmed (`Fails.confirming`), and the retry is a confirmation in the first case and finds nothing
to do in the second. -/
theorem confirmation_retried (address label : String) (calls : List (Int64 × MasterCall))
    {blob worker : String} {copy : CopyRow} {attempts : List Trial}
    (found : ((start address label).after calls).ledger.copy? blob worker = some copy)
    (pending : copy.state = .duringCreation)
    (failed : ((start address label).after calls).Fails (.confirm blob worker) attempts)
    (now later : Int64) :
    let master := (start address label).after calls
    let left := master.tried attempts
    let once := master.answer now (.confirm blob worker)
    let retried := (Trial.undisturbed later (.confirm blob worker)).answer left
    once.1 = .ok () ∧ retried.1 = .ok ()
      ∧ (¬ left.ledger.Saved blob worker → retried.2.ledger = once.2.ledger)
      ∧ (left.ledger.Saved blob worker →
          retried.2.ledger = master.ledger.putCopy { copy with state := .saved })
      ∧ ((∀ trial ∈ attempts, trial.queries.Within (· ≠ .updateWorker)) →
          ¬ left.ledger.Saved blob worker) := by
  intro master left once retried
  have calm : master.Calm := (calm_start address label).after calls
  have balanced : master.ledger.Balances _ := balances_after address label calls
  have notSaved : ¬ master.ledger.Saved blob worker := by
    rintro ⟨copy', found', saved⟩
    cases found.symm.trans found'
    cases pending.symm.trans saved
  have calm' := Trial.calm_undisturbed later (.confirm blob worker) left
  obtain ⟨row, current, -, -, answered, written⟩ :=
    calm.confirm_pending balanced found pending now
  have plain : (∀ trial ∈ attempts, trial.queries.Within (· ≠ .updateWorker)) →
      ¬ left.ledger.Saved blob worker := by
    intro plans
    rcases failed.confirming _ plans found with same | ⟨no, -⟩
    · rw [same]
      exact notSaved
    · exact absurd rfl no
  rcases failed.confirming (fun _ => True) (fun _ _ _ _ => trivial) found with
    same | ⟨-, half⟩
  · have balanced' : left.ledger.Balances _ := same ▸ balanced
    have found' : left.ledger.copy? blob worker = some copy := same ▸ found
    obtain ⟨row', current', -, -, answered', written'⟩ :=
      calm'.confirm_pending balanced' found' pending later
    have current'' : master.ledger.worker? worker = some row' := same ▸ current'
    obtain rfl : row = row' := Option.some.inj (current.symm.trans current'')
    refine ⟨answered, answered', fun _ => ?_, fun saved => absurd (same ▸ saved) notSaved, plain⟩
    exact written'.trans (same ▸ written.symm)
  · have found' : left.ledger.copy? blob worker = some { copy with state := .saved } := by
      obtain ⟨-, rfl, rfl⟩ := Ledger.copy?_eq_some_iff.1 found
      rw [half, Ledger.copy?_putCopy, if_pos ⟨rfl, rfl⟩]
    obtain ⟨answered', written'⟩ := (calm'.settled later blob worker).of_saved found' rfl
    exact ⟨answered, answered', fun none_ => absurd ⟨_, found', rfl⟩ none_,
      fun _ => written'.trans half, plain⟩

/-- Three workers have joined and have a pending copy each. -/
def promised : Master :=
  (start "m" "row").after ((1, .place "x" 4) :: joining 10 ["c", "b", "a"])

/-- The repository is down for one query of a kind, after some that get through. -/
def down (kind : Query.Kind) (skip : Nat) : Outages Query.Kind :=
  [⟨kind, ⟨.repository, "down"⟩, skip, 1⟩]

/-- Two confirmations fail, one of them when it was about to write, and the third spends the space
as the first would have. -/
theorem confirmation_of_down :
    let attempts : List Trial := [⟨2, .confirm "x" "a", [], down .worker 0⟩,
      ⟨3, .confirm "x" "a", [], down .updateCopy 0⟩]
    ((Trial.undisturbed 4 (.confirm "x" "a")).answer (promised.tried attempts)).2.ledger
      = (promised.answer 2 (.confirm "x" "a")).2.ledger := by
  intro attempts
  have found : promised.ledger.copy? "x" "a"
      = some ⟨"row-0", "x", "a", .duringCreation, 4⟩ := by cbv
  have failed : promised.Fails (.confirm "x" "a") attempts :=
    ⟨rfl, ⟨_, by cbv⟩, rfl, ⟨_, by cbv⟩, trivial⟩
  obtain ⟨-, -, same, -, plain⟩ := confirmation_retried "m" "row" _ found rfl failed 2 4
  exact same (plain (by decide))

/-- If the query that updates the row of the worker fails, the retry succeeds and its space is still
locked, though a single confirmation would have spent it. -/
theorem confirmation_left_unspent :
    let failing : Trial := ⟨2, .confirm "x" "a", [], down .updateWorker 0⟩
    let retried := (Trial.undisturbed 3 (.confirm "x" "a")).answer (failing.answer promised).2
    (failing.answer promised).1 = .error ⟨.repository, "down"⟩ ∧ retried.1 = .ok ()
      ∧ retried.2.ledger.worker? "a" = some ⟨"a", 10, 4, 0⟩
      ∧ (promised.answer 3 (.confirm "x" "a")).2.ledger.worker? "a" = some ⟨"a", 6, 0, 0⟩ := by
  refine ⟨?_, ?_, ?_, ?_⟩ <;> cbv

end Master

/-! ## Placements -/

namespace Ledger

variable {ledger after : Ledger} {accounts : String → Account} {blob worker : String}
  {size : UInt64} {rows : List WorkerRow}

/-- The books balance, and nobody has confirmed the blob. -/
structure Unconfirmed (ledger : Ledger) (accounts : String → Account) (blob : String) : Prop where
  balanced : ledger.Balances accounts
  new : ∀ worker, ¬ ledger.Saved blob worker

theorem Unconfirmed.bookings (h : ledger.Unconfirmed accounts blob)
    (booked : Bookings blob size rows ledger after)
    (fits : ∀ row ∈ rows, Selection.fits size row = true)
    (distinct : (rows.map (·.address)).Nodup) : after.Unconfirmed accounts blob :=
  ⟨h.balanced.bookings booked fits,
    fun worker => (booked.booking distinct).not_saved (h.new worker)⟩

end Ledger

namespace Placement

variable {ledger : Ledger} {accounts : String → Account} {blob worker : String} {size : UInt64}

/-- The queries of a reservation are posed on the ledger as it was, but for the one that updates the
row of the worker. -/
theorem posed_reserve {row : WorkerRow} (current : ledger.worker? row.address = some row)
    (fits : Selection.fits size row = true) :
    (reserve blob size row).Along (fun q before _ => q.kind ≠ .updateWorker → before = ledger)
      (fun _ after => Ledger.Bookings blob size [row] ledger after) ledger := by
  rintro _ _ ⟨⟩
  refine ⟨fun _ => rfl, ?_⟩
  cases found : ledger.copy? blob row.address with
  | some copy =>
    refine .known current ?_ .nil
    rw [found]
    rfl
  | none =>
    intro id
    rintro _ _ ⟨⟩
    refine ⟨fun _ => rfl, ?_⟩
    show ((Program.sum row.locked size).bind _).Along _ _ _
    rw [sum_eq_done (row.locked_add_lt fits)]
    exact MasterCall.along_updateWorker (fun other => absurd rfl other)
      (.book id current found .nil)

/-- While space is reserved on workers that fit, the books balance whenever a query is posed, but
for those that update the row of a worker.  The exception is the moment between the row of a copy
and the reservation for it, when something is pending that nothing is locked for. -/
theorem posed_reserveAll {rows : List WorkerRow} (h : ledger.Unconfirmed accounts blob)
    (current : ∀ row ∈ rows, ledger.worker? row.address = some row)
    (fits : ∀ row ∈ rows, Selection.fits size row = true)
    (distinct : (rows.map (·.address)).Nodup) :
    (reserveAll blob size rows).Along
      (fun q before _ => q.kind ≠ .updateWorker → before.Unconfirmed accounts blob)
      (fun _ _ => True) ledger := by
  induction rows generalizing ledger with
  | nil => trivial
  | cons row rest ih =>
    obtain ⟨new, distinct⟩ := List.nodup_cons.1 distinct
    have fit := fits row (List.mem_cons_self ..)
    have first : (reserve blob size row).Along _ _ ledger :=
      posed_reserve (current row (List.mem_cons_self ..)) fit
    refine Along.bind ((first.weaken fun q before _ same may => ?_).mono fun _ between booked => ?_)
    · rw [same may]
      exact h
    · have single : ([row].map (·.address)).Nodup := List.nodup_singleton _
      refine ih (h.bookings booked (List.forall_mem_singleton.2 fit) single) ?_
        (fun other mem => fits other (List.mem_cons_of_mem _ mem)) distinct
      exact (booked.booking single).still_current
        (fun other mem => current other (List.mem_cons_of_mem _ mem)) new

theorem posed_place (h : ledger.Unconfirmed accounts blob) :
    (place blob size).Along
      (fun q before _ => q.kind ≠ .updateWorker → before.Unconfirmed accounts blob)
      (fun _ _ => True) ledger := by
  unfold place
  cases BlobId.validate blob with
  | error e => trivial
  | ok accepted =>
    rintro saved _ ⟨⟩
    refine ⟨fun _ => h, ?_⟩
    show (if (ledger.savedCopiesOf blob).isEmpty then _ else _ : Program (List String)).Along _ _ _
    split
    next =>
      refine MasterCall.along_roomiest (fun _ => h) fun rows chosen => ?_
      show ((reserveAll blob size rows).bind _).Along _ _ _
      have posed : (reserveAll blob size rows).Along _ _ ledger :=
        posed_reserveAll h (Ledger.worker?_of_roomiest chosen)
          (fun row mem => (Selection.of_mem_roomiest chosen mem).2)
          (Selection.nodup_roomiest chosen ledger.workers.nodup_keys)
      exact Along.bind (posed.mono fun _ _ _ => trivial)
    next => trivial

theorem refused_place :
    (place blob size).Meets false (fun r after => (∃ e, r = .error e) → after = ledger)
      ledger := by
  refine placed_place.mono fun r after placed failed => ?_
  obtain ⟨e, rfl⟩ := failed
  cases placed with
  | invalid => rfl
  | short => rfl

end Placement

namespace Master

variable {master : Master} {accounts : String → Account} {blob worker : String} {size : UInt64}

/-- Placements that fail leave books that balance, if none stops at the row of a worker. -/
theorem Fails.placing {attempts : List Trial} (failed : master.Fails (.place blob size) attempts)
    (plans : ∀ trial ∈ attempts, trial.queries.Within (· ≠ .updateWorker))
    (here : master.ledger.Unconfirmed accounts blob) :
    (master.tried attempts).ledger.Unconfirmed accounts blob := by
  refine Fails.stopped (fun ledger => ledger.Unconfirmed accounts blob) failed plans ?_ ?_ here
  · exact fun ledger here _ => Placement.posed_place here
  · intro ledger here _
    refine Placement.refused_place.mono fun r after same failed => ?_
    rw [same failed]
    exact here

/-- Confirmations on other workers leave the copy on this one. -/
theorem Calm.confirmed_elsewhere (calm : master.Calm) {others : List (Int64 × MasterCall)}
    (elsewhere : ∀ call ∈ others, ∃ other, other ≠ worker ∧ call.2 = .confirm blob other) :
    (master.after others).ledger.copy? blob worker = master.ledger.copy? blob worker := by
  induction others with
  | nil => rfl
  | cons call earlier ih =>
    obtain ⟨now, _⟩ := call
    obtain ⟨other, differs, rfl⟩ := elsewhere _ (List.mem_cons_self ..)
    have settled := (calm.after earlier).settled now blob other
    exact (settled.elsewhere differs).trans
      (ih fun call mem => elsewhere call (List.mem_cons_of_mem _ mem))

/-- A copy on a worker can be confirmed.  This takes its size off what is locked and what is
available, and leaves enough locked for every other pending copy on the worker. -/
def Confirmable (master : Master) (blob worker : String) : Prop :=
  ∃ copy row row', master.ledger.copy? blob worker = some copy ∧ copy.state = .duringCreation
    ∧ master.ledger.worker? worker = some row
    ∧ ∀ now, (master.answer now (.confirm blob worker)).1 = .ok ()
      ∧ (master.answer now (.confirm blob worker)).2.ledger.worker? worker = some row'
      ∧ row'.locked.toNat + copy.size.toNat = row.locked.toNat
      ∧ row'.available.toNat + copy.size.toNat = row.available.toNat
      ∧ (master.answer now (.confirm blob worker)).2.ledger.pendingOn worker ≤ row'.locked.toNat

/-- A master in order can confirm every pending copy. -/
theorem Orderly.confirmable (orderly : master.Orderly)
    (found : master.ledger.copy? blob worker = some copy)
    (pending : copy.state = .duringCreation) : master.Confirmable blob worker := by
  obtain ⟨journal, balanced⟩ := orderly.books
  obtain ⟨row, current, locked, available⟩ := balanced.not_short found pending
  refine ⟨copy, row, { row with locked := row.locked - copy.size,
                                available := row.available - copy.size },
    found, pending, current, fun now => ?_⟩
  obtain ⟨answered, written⟩ :=
    (orderly.calm.settled now blob worker).of_pending found pending current ⟨locked, available⟩
  have left := UInt64.toNat_sub_of_le _ _ locked
  have left' := UInt64.toNat_sub_of_le _ _ available
  have le := UInt64.le_iff_toNat_le.1 locked
  have le' := UInt64.le_iff_toNat_le.1 available
  have spent := (balanced.spend found pending current).2.2
  have there : ((master.ledger.putCopy { copy with state := .saved }).putWorker
      { row with locked := row.locked - copy.size,
                 available := row.available - copy.size }).worker? worker
      = some { row with locked := row.locked - copy.size,
                        available := row.available - copy.size } := by
    rw [Ledger.worker?_putWorker]
    exact if_pos (Ledger.address_of_worker? current)
  have agrees := (spent.books there).locked
  rw [written]
  refine ⟨answered, there, ?_, ?_, ?_⟩
  · show (row.locked - copy.size).toNat + _ = _
    omega
  · show (row.available - copy.size).toNat + _ = _
    omega
  · rw [agrees]
    exact Nat.le_add_right _ _

/-- The placement of a blob that nobody has confirmed, on any ledger that calls without outages lead
to, fails any number of times, never at the query that updates a worker.  If it succeeds then, every
copy it names can be confirmed, whichever of the other copies were confirmed before.

Struck at that query, a placement would leave a copy with nothing locked for it, and the next one
would pass it over as reserved.  Every other failure leaves books that balance, and in such books a
pending copy has its size locked, whoever else is confirmed first (`Orderly.confirmable`). -/
theorem placement_retried (address label : String) (calls : List (Int64 × MasterCall))
    {blob : String} {size : UInt64} {attempts : List Trial} {now : Int64} {named : List String}
    {placed : Master}
    (new : ∀ worker, ¬ ((start address label).after calls).ledger.Saved blob worker)
    (failed : ((start address label).after calls).Fails (.place blob size) attempts)
    (plans : ∀ trial ∈ attempts, trial.queries.Within (· ≠ .updateWorker))
    (granted : (Trial.undisturbed now (.place blob size)).answer
      (((start address label).after calls).tried attempts) = (.ok named, placed)) :
    ∀ worker ∈ named, ∀ others : List (Int64 × MasterCall),
      (∀ call ∈ others, ∃ other, other ≠ worker ∧ call.2 = .confirm blob other) →
      (placed.after others).Confirmable blob worker := by
  intro worker mem others elsewhere
  have here : ((start address label).after calls).ledger.Unconfirmed _ blob :=
    ⟨balances_after address label calls, new⟩
  have left := failed.placing plans here
  have calm := Trial.calm_undisturbed now (.place blob size)
    (((start address label).after calls).tried attempts)
  obtain ⟨-, rows, chosen, bookings, rfl⟩ :=
    (calm.placed granted).booked_of_ok (Ledger.savedCopiesOf_eq_nil_iff.2 left.new)
  have distinct := Selection.nodup_roomiest chosen (Table.nodup_keys _)
  have after := left.bookings bookings
    (fun row mem => (Selection.of_mem_roomiest chosen mem).2) distinct
  obtain ⟨row, listed, rfl⟩ := List.mem_map.1 mem
  obtain ⟨copy, found, pending⟩ := (bookings.booking distinct).pending listed (left.new _)
  have calm' : placed.Calm := by
    have still : ((Trial.undisturbed now (.place blob size)).answer
      (((start address label).after calls).tried attempts)).2.Calm := calm.answer now _
    rw [granted] at still
    exact still
  have sameCopy := calm'.confirmed_elsewhere elsewhere
  have orderly : placed.Orderly := ⟨calm', _, after.balanced⟩
  exact (orderly.after others).confirmable (sameCopy.trans found) pending

/-- Three workers have joined. -/
def joined : Master := (start "m" "row").after (joining 10 ["c", "b", "a"])

/-- Two placements fail after some reservations, and every copy that the third names can be
confirmed. -/
theorem placement_of_down :
    let attempts : List Trial := [⟨1, .place "x" 4, [], down .addCopy 1⟩,
      ⟨2, .place "x" 4, [], down .copyOn 2⟩]
    let placed := (Trial.undisturbed 3 (.place "x" 4)).answer (joined.tried attempts)
    placed.1 = .ok ["a", "b", "c"]
      ∧ ∀ worker ∈ ["a", "b", "c"], placed.2.Confirmable "x" worker := by
  intro attempts
  have new : ∀ worker, ¬ joined.ledger.Saved "x" worker :=
    Ledger.savedCopiesOf_eq_nil_iff.1 (by decide +kernel)
  have failed : joined.Fails (.place "x" 4) attempts :=
    ⟨rfl, ⟨_, by cbv⟩, rfl, ⟨_, by cbv⟩, trivial⟩
  have named : ((Trial.undisturbed 3 (.place "x" 4)).answer (joined.tried attempts)).1
      = .ok ["a", "b", "c"] := by cbv
  refine ⟨named, fun worker mem => ?_⟩
  exact placement_retried "m" "row" _ new failed (by decide) (Prod.ext named rfl) worker mem []
    fun call none_ => absurd none_ List.not_mem_nil

/-- If the query that updates the row of a worker fails, the next placement names that worker and
its copy cannot be confirmed, because nothing is locked for it. -/
theorem placement_left_unbacked :
    let failing : Trial := ⟨1, .place "x" 4, [], down .updateWorker 1⟩
    let placed := (Trial.undisturbed 2 (.place "x" 4)).answer (failing.answer joined).2
    (failing.answer joined).1 = .error ⟨.repository, "down"⟩ ∧ placed.1 = .ok ["b", "c", "a"]
      ∧ (placed.2.answer 3 (.confirm "x" "b")).1
        = .error (Placement.spaceBelow "locked" "b" 4) := by
  refine ⟨?_, ?_, ?_⟩ <;> cbv

end Master

end BlobCluster
