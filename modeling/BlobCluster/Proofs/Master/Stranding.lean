import Mathlib
import BlobCluster.Proofs.Master.Books

/-!
# What deletions leave locked

The locked space of a worker is meant for its pending copies.  A placement locks what it makes
pending, a confirmation unlocks it, and a registration starts both at nothing.  A deletion alone
drops pending copies and leaves their space locked, and no later call but a registration gives it
back.  So a worker has locked exactly what is pending on it, unless a deletion since its last
registration has dropped a pending copy of it that takes space (`locked_eq_pending_iff`).  One such
deletion is enough: `locked_after_forget` has a worker without any copy and with space locked.
-/

namespace BlobCluster

/-- All that is pending of a blob on a worker is its one copy there. -/
theorem Ledger.pendingOf_eq (ledger : Ledger) (blob worker : String) :
    ledger.pendingOf blob worker
      = ((ledger.copy? blob worker).map (·.pendingOn worker)).getD 0 := by
  have single := Table.total_of_single ledger.copies ⟨blob, worker⟩
    (fun row => if row.blob = blob then row.pendingOn worker else 0) fun row _ differs => by
      by_cases same : row.blob = blob
      · have elsewhere : row.worker ≠ worker := by
          rintro rfl
          exact differs (by rw [CopyRow.key, same])
        simp [CopyRow.pendingOn, elsewhere]
      · exact if_neg same
  refine single.trans ?_
  cases found : ledger.copy? blob worker with
  | none =>
    have absent : ledger.copies.find? ⟨blob, worker⟩ = none := found
    rw [absent]
    rfl
  | some copy =>
    have there : ledger.copies.find? ⟨blob, worker⟩ = some copy := found
    rw [there, Option.map_some, Option.map_some, if_pos (blob_of_copy? found)]

/-! ## One call -/

namespace JournalEntry

variable {entry : JournalEntry} {worker : String}

/-- The call drops a copy on the worker that is pending and takes space. -/
def strands (entry : JournalEntry) (worker : String) : Bool :=
  match entry.call with
  | .forget blob => (entry.before.copy? blob worker).any fun copy =>
    copy.state == .duringCreation && copy.size != 0
  | _ => false

/-- A deletion has dropped every copy of its blob, and nothing else. -/
def Faithful (entry : JournalEntry) : Prop :=
  ∀ blob, entry.call = .forget blob → entry.after = entry.before.dropBlob blob

/-- Space is stranded by the calls that drop a pending copy with a size.  Copies without a size are
dropped without a trace in the amounts, so they do not count. -/
theorem stranded_eq_zero_iff (faithful : entry.Faithful) :
    entry.stranded worker = 0 ↔ entry.strands worker = false := by
  obtain ⟨call, before, after⟩ := entry
  cases call with
  | forget blob =>
    obtain rfl : after = before.dropBlob blob := faithful blob rfl
    rw [stranded_forget, Ledger.pendingOf_eq]
    show _ ↔ ((before.copy? blob worker).any _) = false
    cases found : before.copy? blob worker with
    | none => simp
    | some copy =>
      have here := Ledger.worker_of_copy? found
      have size : copy.size.toNat = 0 ↔ copy.size = 0 := UInt64.toNat_inj (b := 0)
      cases state : copy.state <;> simp [CopyRow.pendingOn, here, state, size]
  | _ => exact iff_of_true rfl rfl

end JournalEntry

/-! ## All calls -/

namespace Master

open Journal

variable {master : Master}

/-- Without outages every deletion in a journal has dropped the copies of its blob. -/
theorem Calm.faithful_journal (calm : master.Calm) (calls : List (Int64 × MasterCall)) :
    ∀ entry ∈ master.journal calls, entry.Faithful := by
  induction calls with
  | nil => exact nofun
  | cons call earlier ih =>
    intro entry mem
    rcases List.mem_cons.1 mem with rfl | old
    · rintro blob (same : call.2 = .forget blob)
      have outcome := (calm.after earlier).answer_of_meets call.1 (.forget blob)
        Placement.meets_forget
      show ((master.after earlier).answer call.1 call.2).2.ledger = _
      rw [same]
      exact outcome.2
    · exact ih entry old

/-- Nothing is stranded on a worker as long as no call drops a pending copy of it with a size. -/
theorem Calm.strandedSince_eq_zero_iff (calm : master.Calm) (calls : List (Int64 × MasterCall))
    (worker : String) :
    strandedSince worker (master.journal calls) = 0
      ↔ ∀ entry ∈ since worker (master.journal calls), entry.strands worker = false := by
  have faithful : ∀ entry ∈ since worker (master.journal calls), entry.Faithful :=
    fun entry mem => calm.faithful_journal calls entry ((List.takeWhile_sublist _).mem mem)
  rw [strandedSince, List.sum_eq_zero_iff_forall_eq_nat, List.forall_mem_map]
  exact forall₂_congr fun entry mem => JournalEntry.stranded_eq_zero_iff (faithful entry mem)

/-- A master that has answered any calls, one after the other and without outages, has locked on
each worker at least what is pending there.  It has locked exactly that, and nothing on a worker
without pending copies, if and only if no deletion since the registration of the worker has dropped
a pending copy of it that takes space.

What is locked beyond what is pending is what the journal counts as stranded.  It is a sum of
natural numbers over the deletions, so it vanishes exactly if each of them has stranded nothing. -/
theorem locked_eq_pending_iff (address label : String) (calls : List (Int64 × MasterCall)) :
    let master := (start address label).after calls
    let journal := (start address label).journal calls
    ∀ row ∈ master.ledger.workers.rows,
      master.ledger.pendingOn row.address ≤ row.locked.toNat
        ∧ (row.locked.toNat = master.ledger.pendingOn row.address
          ↔ ∀ entry ∈ since row.address journal, entry.strands row.address = false)
        ∧ ((∀ copy ∈ master.ledger.copies.rows, copy.worker = row.address → copy.state = .saved) →
          (row.locked = 0
            ↔ ∀ entry ∈ since row.address journal, entry.strands row.address = false)) := by
  intro master journal row listed
  have balanced : master.ledger.Balances (account journal) := balances_after address label calls
  have locked : row.locked.toNat
      = master.ledger.pendingOn row.address + strandedSince row.address journal :=
    (balanced.books (Ledger.worker?_of_mem listed)).locked
  have none_ : strandedSince row.address journal = 0 ↔ _ :=
    (calm_start address label).strandedSince_eq_zero_iff calls row.address
  refine ⟨by omega, ?_, fun confirmed => ?_⟩
  · rw [← none_]
    omega
  · have nothing : master.ledger.pendingOn row.address = 0 := by
      refine Table.total_eq_zero fun copy mem => if_neg ?_
      rintro ⟨here, pending⟩
      rw [confirmed copy mem here] at pending
      cases pending
    have zero : row.locked.toNat = 0 ↔ row.locked = 0 := UInt64.toNat_inj (b := 0)
    rw [← none_, ← zero]
    omega

/-- The calls that place four megabytes on three workers with ten, confirm one of the copies and
delete the blob. -/
def halfway : List (Int64 × MasterCall) :=
  [(0, .forget "x"), (0, .confirm "x" "a"), (0, .place "x" 4)] ++ joining 10 ["c", "b", "a"]

/-- The same calls and then the placement of another blob. -/
def resumed : List (Int64 × MasterCall) := (0, .place "y" 2) :: halfway

/-- A worker whose copy was confirmed before the deletion has locked just what is pending of the
next blob. -/
theorem locked_of_confirmed :
    ⟨"a", 6, 2, 0⟩ ∈ ((start "m" "row").after resumed).ledger.workers.rows
      ∧ ((start "m" "row").after resumed).ledger.pendingOn "a" = 2 := by
  have rows : ((start "m" "row").after resumed).ledger.workers.rows
      = [⟨"a", 6, 2, 0⟩, ⟨"b", 10, 6, 0⟩, ⟨"c", 10, 6, 0⟩] := by cbv
  have spared : ((since "a" ((start "m" "row").journal resumed)).all
      fun entry => entry.strands "a" == false) = true := by cbv
  have listed : ⟨"a", 6, 2, 0⟩ ∈ ((start "m" "row").after resumed).ledger.workers.rows := by
    simp [rows]
  obtain ⟨-, exactly, -⟩ := locked_eq_pending_iff "m" "row" resumed _ listed
  exact ⟨listed, (exactly.2 (by simpa using spared)).symm⟩

/-- The workers whose copies were pending have their space locked for ever, without any copy. -/
theorem locked_after_forget :
    let ledger := ((start "m" "row").after halfway).ledger
    ledger.worker? "b" = some ⟨"b", 10, 4, 0⟩ ∧ ledger.pendingOn "b" = 0
      ∧ ledger.copies.rows = [] := by
  refine ⟨?_, ?_, ?_⟩ <;> cbv

end Master

end BlobCluster
