import BlobCluster.Proofs.Ledger.Balance
import BlobCluster.Proofs.Ledger.Booking
import BlobCluster.Proofs.Ledger.Ranking

/-!
# When a placement is granted

Where the books balance, there is one reason to refuse the placement of a blob: nobody has confirmed
it, and fewer than three workers have the space.  The ledger then stays as it was, and the refusal
tells how many workers there are.  A placement that is granted names workers that are listed, and
each of them then has a copy to be confirmed.
-/

namespace BlobCluster

namespace Ledger

variable {ledger : Ledger} {accounts : String → Account} {blob : String} {size : UInt64}

/-- How many workers have room for so many bytes, in megabytes that are neither spent nor locked. -/
def roomy (ledger : Ledger) (bytes : UInt64) : Nat :=
  ledger.workers.rows.countP fun row =>
    (bytes.toNat + (Text.mebibyte - 1)) / Text.mebibyte + row.locked.toNat ≤ row.available.toNat

/-- The blob is confirmed somewhere, or three workers have room for its bytes. -/
def Admits (ledger : Ledger) (blob : String) (bytes : UInt64) : Prop :=
  (∃ worker, ledger.Saved blob worker) ∨ 3 ≤ ledger.roomy bytes

/-- Where the books balance, exactly the workers that have room are candidates. -/
theorem Balances.length_candidates (h : ledger.Balances accounts) (bytes : UInt64) :
    (ledger.workers.rows.filter (Selection.fits (Text.megabytesFor bytes))).length
      = ledger.roomy bytes := by
  rw [← List.countP_eq_length_filter]
  refine List.countP_congr fun row listed => ?_
  have covered := (h.books (worker?_of_mem listed)).covered
  rw [WorkerRow.fits_iff covered, Text.toNat_megabytesFor, decide_eq_true_iff]

end Ledger

namespace Placement

open Ledger

variable {before after : Ledger} {accounts : String → Account} {blob : String} {size : UInt64}
  {r : Except Failure (List String)}

/-- A blob that is admitted is placed, on workers that then have a copy. -/
theorem Placed.of_admits (h : Placed blob (Text.megabytesFor size) before r after)
    (valid : BlobId.Valid blob) (balanced : before.Balances accounts)
    (admits : before.Admits blob size) :
    ∃ addresses, r = .ok addresses ∧ ∀ address ∈ addresses,
      (after.copy? blob address).isSome ∧ ∃ row ∈ before.workers.rows, row.address = address := by
  cases h with
  | invalid rejected =>
    rw [BlobId.validate_eq_ok_iff.2 valid] at rejected
    cases rejected
  | held =>
    refine ⟨_, rfl, fun address mem => ?_⟩
    obtain ⟨copy, found, -⟩ := saved_iff.2 (List.mem_map.1 mem)
    have housed := balanced.housed _ _ _ found
    obtain ⟨row, current⟩ := Option.isSome_iff_exists.1 housed
    obtain ⟨listed, same⟩ := worker?_eq_some_iff.1 current
    refine ⟨?_, row, listed, same⟩
    rw [found]
    rfl
  | short _ none_ few =>
    obtain ⟨few, -⟩ := Selection.roomiest_eq_error_iff.1 few
    rw [balanced.length_candidates] at few
    rcases admits with ⟨worker, saved⟩ | room
    · exact absurd saved (savedCopiesOf_eq_nil_iff.1 none_ worker)
    · exact absurd few (Nat.not_lt.2 room)
  | booked _ _ chosen bookings =>
    refine ⟨_, rfl, fun address mem => ?_⟩
    obtain ⟨row, picked, rfl⟩ := List.mem_map.1 mem
    refine ⟨?_, row, (Selection.of_mem_roomiest chosen picked).1, rfl⟩
    have booking := bookings.booking (Selection.nodup_roomiest chosen before.workers.nodup_keys)
    rcases booking.booked row picked with ⟨found, same, -⟩ | ⟨-, ⟨id, new⟩, -⟩
    · rw [same]
      exact found
    · rw [new]
      rfl

/-- A blob that is not admitted is refused for lack of space, and nothing changes.  The shortage
that is reported counts the candidates, and if the books balance these are the workers with room for
the blob. -/
theorem Placed.of_not_admits (h : Placed blob (Text.megabytesFor size) before r after)
    (valid : BlobId.Valid blob) (balanced : before.Balances accounts)
    (refused : ¬ before.Admits blob size) :
    r = .error (Selection.shortage (Text.megabytesFor size) 3 (before.roomy size))
      ∧ after = before := by
  have unsaved : before.savedCopiesOf blob = [] :=
    savedCopiesOf_eq_nil_iff.2 fun worker saved => refused (.inl ⟨worker, saved⟩)
  have few : before.roomy size < 3 := Nat.not_le.1 fun room => refused (.inr room)
  have short : Selection.roomiest before.workers.rows (Text.megabytesFor size) replication
      = .error (Selection.shortage (Text.megabytesFor size) 3 (before.roomy size)) := by
    rw [Selection.roomiest_eq_error_iff, balanced.length_candidates]
    exact ⟨few, rfl⟩
  rcases h.of_new valid unsaved with ⟨e, failed, rfl, rfl⟩ | ⟨rows, chosen, -⟩
  · obtain rfl := Except.error.inj (failed.symm.trans short)
    exact ⟨rfl, rfl⟩
  · rw [short] at chosen
    cases chosen

end Placement

end BlobCluster
