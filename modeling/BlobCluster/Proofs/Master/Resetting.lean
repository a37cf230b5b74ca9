import BlobCluster.Proofs.Master.Retrying

/-!
# Registrations that are tried again

A registration drops the copies on the worker, drops its row and adds a fresh one, and the last of
these is refused if a row is there.  A registration that breaks off leaves the ledger as it was,
without the copies, or without copies and row (`Halfway`).  From each of these the next one starts
the worker afresh as from the first, since what is dropped twice is dropped once: however many
attempts have failed, the one that succeeds leaves what it would have left alone.
-/

namespace BlobCluster

/-! ## Tables changed twice -/

namespace Table

variable {α κ : Type} [Ord κ] {key : α → κ}

theorem keep_keep (table : Table key) (test : α → Bool) :
    (table.keep test).keep test = table.keep test := by
  refine ext_rows ?_
  show (table.rows.filter test).filter test = table.rows.filter test
  rw [List.filter_filter]
  exact List.filter_congr fun row _ => Bool.and_self _

theorem insertRow_insertRow [Std.TransOrd κ] {row row' : α} (same : key row = key row')
    (rows : List α) : insertRow key row' (insertRow key row rows) = insertRow key row' rows := by
  have equal : compare (key row') (key row) = .eq := by
    rw [same]
    exact Std.ReflCmp.compare_self
  induction rows with
  | nil => simp [insertRow, equal]
  | cons head rest ih =>
    simp only [insertRow, same]
    cases order : compare (key row') (key head) with
    | lt => simp only [insertRow, equal]
    | eq => simp only [insertRow, equal]
    | gt => simp only [insertRow, order, ih]

theorem put_put [Std.TransOrd κ] (table : Table key) {row row' : α} (same : key row = key row') :
    (table.put row).put row' = table.put row' :=
  ext_rows (insertRow_insertRow same table.rows)

end Table

/-! ## Starting a worker afresh -/

namespace Ledger

variable {ledger left : Ledger} {address other blob : String} {available : UInt64} {now : Int64}

def reset (ledger : Ledger) (address : String) (available : UInt64) (now : Int64) : Ledger :=
  ((ledger.dropCopiesOn address).dropWorker address).putWorker (.fresh address available now)

theorem worker?_reset :
    (ledger.reset address available now).worker? other
      = if other = address then some (.fresh address available now) else ledger.worker? other := by
  rw [reset, worker?_putWorker, worker?_dropWorker, worker?_dropCopiesOn]
  by_cases same : other = address
  · simp [WorkerRow.fresh, same]
  · simp [WorkerRow.fresh, same, Ne.symm same]

theorem copy?_reset :
    (ledger.reset address available now).copy? blob other
      = if other = address then none else ledger.copy? blob other := by
  rw [reset, copy?_putWorker, copy?_dropWorker, copy?_dropCopiesOn]

/-- Of two resets only the later one counts. -/
theorem putWorker_reset (later : Int64) :
    (ledger.reset address available now).putWorker (.fresh address available later)
      = ledger.reset address available later :=
  congrArg (Ledger.mk _) (Table.put_put _ rfl)

/-- What a reset leaves that breaks off.  The copies are dropped before the row of the worker, and
the new row is added last, so there are only these three. -/
inductive Halfway (address : String) (ledger : Ledger) : Ledger → Prop
  | untouched : Halfway address ledger ledger
  | emptied : Halfway address ledger (ledger.dropCopiesOn address)
  | removed : Halfway address ledger ((ledger.dropCopiesOn address).dropWorker address)

namespace Halfway

/-- A reset gives the same after one that broke off as without it. -/
theorem reset_eq (h : Halfway address ledger left) :
    left.reset address available now = ledger.reset address available now := by
  cases h with
  | untouched => rfl
  | emptied =>
    simp only [reset, dropCopiesOn, dropWorker, putWorker, Table.keep_keep]
  | removed =>
    simp only [reset, dropCopiesOn, dropWorker, putWorker, Table.keep_keep]

/-- The rows of other workers are not touched. -/
theorem of_other (h : Halfway address ledger left) (apart : other ≠ address) :
    left.worker? other = ledger.worker? other
      ∧ ∀ blob, left.copy? blob other = ledger.copy? blob other := by
  cases h with
  | untouched => exact ⟨rfl, fun _ => rfl⟩
  | emptied => exact ⟨rfl, fun blob => by rw [copy?_dropCopiesOn, if_neg apart]⟩
  | removed =>
    constructor
    · rw [worker?_dropWorker, if_neg apart]
      rfl
    · intro blob
      rw [copy?_dropWorker, copy?_dropCopiesOn, if_neg apart]

/-- A copy on the worker is only left if nothing was done.  Copies are dropped first, so a copy that
is there tells that the registration broke off before its first change. -/
theorem eq_of_copy? (h : Halfway address ledger left) {copy : CopyRow}
    (found : left.copy? blob address = some copy) : left = ledger := by
  cases h with
  | untouched => rfl
  | emptied =>
    rw [copy?_dropCopiesOn, if_pos rfl] at found
    cases found
  | removed =>
    rw [copy?_dropWorker, copy?_dropCopiesOn, if_pos rfl] at found
    cases found

end Halfway

end Ledger

/-! ## One attempt -/

/-- Every query of a registration is posed on a ledger that a broken one may leave. -/
theorem Placement.posed_register (ledger : Ledger) (address : String) (available : UInt64)
    (now : Int64) :
    (register address available now).Along (fun _ before _ => ledger.Halfway address before)
      (fun _ _ => True) ledger := by
  unfold register
  split
  next => trivial
  next =>
    rintro _ _ ⟨⟩
    refine ⟨.untouched, ?_⟩
    rintro _ _ ⟨⟩
    refine ⟨.emptied, ?_⟩
    intro _ _ _
    exact ⟨.removed, trivial⟩

/-- A registration that fails, for whichever of its queries, leaves a reset half-way. -/
theorem Trial.halfway_of_failed {trial : Trial} {master : Master} {address : String}
    {offered : UInt64} {e : Failure} (named : address ≠ "")
    (call : trial.call = .register address offered) (failed : (trial.answer master).1 = .error e) :
    master.ledger.Halfway address (trial.answer master).2.ledger := by
  have plan : trial.queries.Within fun _ => True := fun _ _ => trivial
  refine Trial.stopped plan ?_ ?_ .untouched failed
  · rw [call]
    exact (Placement.posed_register _ _ _ _).weaken fun _ _ _ half _ => half
  · rw [call]
    refine (Placement.meets_register address offered trial.now).mono ?_
    rintro r after settled ⟨e, rfl⟩
    rw [if_neg (by simpa using named)] at settled
    cases settled.1

/-! ## Any number of attempts -/

namespace Master

variable {master : Master} {address : String} {attempts : List Trial}

/-- Each of these trials registers the worker, with whatever space, and fails.  The trials may offer
different amounts of space, as a worker does that is restarted in between. -/
def FailsToRegister (address : String) (master : Master) : List Trial → Prop
  | [] => True
  | trial :: later =>
    (∃ offered, trial.call = .register address offered) ∧ (∃ e, (trial.answer master).1 = .error e)
      ∧ (trial.answer master).2.FailsToRegister address later

theorem tried_concat (master : Master) (before : List Trial) (trial : Trial) :
    master.tried (before ++ [trial]) = (trial.answer (master.tried before)).2 := by
  induction before generalizing master with
  | nil => rfl
  | cons first before ih => exact ih (first.answer master).2

/-- Each attempt leaves a reset of what it has found half-way. -/
theorem FailsToRegister.halfway (failed : master.FailsToRegister address attempts)
    (named : address ≠ "") {before after : List Trial} {trial : Trial}
    (whole : attempts = before ++ trial :: after) :
    (master.tried before).ledger.Halfway address (master.tried (before ++ [trial])).ledger := by
  subst whole
  rw [tried_concat]
  induction before generalizing master with
  | nil =>
    obtain ⟨⟨offered, call⟩, ⟨e, stopped⟩, -⟩ := failed
    exact Trial.halfway_of_failed named call stopped
  | cons first before ih => exact ih failed.2.2

/-- Whatever holds of a ledger and of all that a reset may leave of it half-way holds after any
number of attempts. -/
theorem FailsToRegister.stays (inv : Ledger → Prop)
    (failed : master.FailsToRegister address attempts)
    (named : address ≠ "") (here : inv master.ledger)
    (step : ∀ held left, inv held → held.Halfway address left → inv left) :
    inv (master.tried attempts).ledger := by
  induction attempts generalizing master with
  | nil => exact here
  | cons trial later ih =>
    obtain ⟨⟨offered, call⟩, ⟨e, stopped⟩, rest⟩ := failed
    exact ih rest (step _ _ here (Trial.halfway_of_failed named call stopped))

/-- A registration without outages starts the worker afresh. -/
theorem register_undisturbed (master : Master) (named : address ≠ "") (available : UInt64)
    (now : Int64) :
    ((Trial.undisturbed now (.register address available)).answer master).1 = .ok ()
      ∧ ((Trial.undisturbed now (.register address available)).answer master).2.ledger
        = master.ledger.reset address available now := by
  have calm := Trial.calm_undisturbed now (.register address available) master
  have settled := calm.answer_of_meets now (.register address available)
    (Placement.meets_register address available now)
  rwa [if_neg (by simpa using named)] at settled

/-- Registrations of a worker that fail, whatever they offer and wherever they break off, make no
difference to the one that succeeds: it starts the worker afresh as it would have at first.  On the
way only rows of this worker change, and a copy on it that is left is never without the row of the
worker, if it had one.

A registration that breaks off has done nothing, or dropped the copies of the worker, or its row as
well (`Halfway`), and what it has dropped the next one would drop anyway.  So a reset of what is
left is a reset of what there was, whatever space the attempts in between have offered. -/
theorem registration_retried (master : Master) {address : String} {attempts : List Trial}
    (named : address ≠ "") (failed : master.FailsToRegister address attempts) (available : UInt64)
    (now later : Int64) :
    let once := (Trial.undisturbed now (.register address available)).answer master
    let retried :=
      (Trial.undisturbed later (.register address available)).answer (master.tried attempts)
    -- The tables are the same, but for when the worker has registered.
    once.1 = .ok () ∧ retried.1 = .ok () ∧
    (retried.2.ledger = once.2.ledger.putWorker (.fresh address available later)) ∧
    (now = later → retried.2.ledger = once.2.ledger) ∧
    -- The worker has one row and no copies, and all other rows are as they were.
    (retried.2.ledger.workers.rows.map WorkerRow.address).count address = 1 ∧
    retried.2.ledger.worker? address = some ⟨address, available, 0, later⟩ ∧
    (∀ row ∈ retried.2.ledger.copies.rows, row.worker ≠ address) ∧
    (∀ other ≠ address, retried.2.ledger.worker? other = master.ledger.worker? other
      ∧ ∀ blob, retried.2.ledger.copy? blob other = master.ledger.copy? blob other) ∧
    -- Each attempt has changed rows of this worker only.
    ∀ before trial after, attempts = before ++ trial :: after →
      let held := (master.tried before).ledger
      let left := (master.tried (before ++ [trial])).ledger
      (∀ other ≠ address, left.worker? other = held.worker? other
        ∧ ∀ blob, left.copy? blob other = held.copy? blob other) ∧
      ∀ blob copy, left.copy? blob address = some copy →
        (held.worker? address).isSome → (left.worker? address).isSome := by
  intro once retried
  obtain ⟨answered, written⟩ := master.register_undisturbed named available now
  obtain ⟨answered', written'⟩ :=
    (master.tried attempts).register_undisturbed named available later
  have same : retried.2.ledger = master.ledger.reset address available later := by
    refine written'.trans (failed.stays (fun left =>
      left.reset address available later = master.ledger.reset address available later) named rfl ?_)
    intro held left equal half
    exact half.reset_eq.trans equal
  have fresh : retried.2.ledger.worker? address = some ⟨address, available, 0, later⟩ := by
    rw [same, Ledger.worker?_reset, if_pos rfl]
    rfl
  refine ⟨answered, answered', ?_, ?_, ?_, fresh, ?_, ?_, ?_⟩
  · rw [same, written]
    exact (Ledger.putWorker_reset later).symm
  · rintro rfl
    exact same.trans written.symm
  · obtain ⟨mem, -⟩ := Ledger.worker?_eq_some_iff.1 fresh
    exact List.count_eq_one_of_mem retried.2.ledger.workers.nodup_keys
      (List.mem_map.2 ⟨_, mem, rfl⟩)
  · intro row mem here
    have found := Ledger.copy?_of_mem mem
    rw [here, same, Ledger.copy?_reset, if_pos rfl] at found
    cases found
  · intro other apart
    rw [same, Ledger.worker?_reset, if_neg apart]
    exact ⟨rfl, fun blob => by rw [Ledger.copy?_reset, if_neg apart]⟩
  · intro before trial after whole held left
    have half : held.Halfway address left := failed.halfway named whole
    refine ⟨fun other apart => half.of_other apart, ?_⟩
    intro blob copy found there
    rw [half.eq_of_copy? found]
    exact there

/-- Three workers have joined whose addresses begin alike, and a copy is promised on each. -/
def alike : Master :=
  (start "m" "row").after ((1, .place "x" 4) :: joining 10 ["a", "a:1", "a:11"])

/-- Two registrations break off, one before it drops the row of the worker and one before it adds a
new one, and the third starts the worker afresh. -/
theorem registration_of_down :
    let attempts : List Trial := [⟨2, .register "a:1" 7, [], down .dropWorker 0⟩,
      ⟨3, .register "a:1" 8, [], down .addWorker 0⟩]
    let retried := (Trial.undisturbed 4 (.register "a:1" 9)).answer (alike.tried attempts)
    alike.ledger.worker? "a:1" = some ⟨"a:1", 10, 4, 0⟩ ∧
    retried.2.ledger.worker? "a:1" = some ⟨"a:1", 9, 0, 4⟩ ∧
    retried.2.ledger.worker? "a:11" = alike.ledger.worker? "a:11" ∧
    retried.2.ledger.copy? "x" "a" = alike.ledger.copy? "x" "a" := by
  intro attempts retried
  have failed : alike.FailsToRegister "a:1" attempts :=
    ⟨⟨7, rfl⟩, ⟨_, by cbv⟩, ⟨8, rfl⟩, ⟨_, by cbv⟩, trivial⟩
  obtain ⟨-, -, -, -, -, fresh, -, others, -⟩ :=
    registration_retried alike (by decide) failed 9 4 4
  exact ⟨by cbv, fresh, (others "a:11" (by decide)).1, (others "a" (by decide)).2 "x"⟩

end Master

end BlobCluster
