import BlobCluster.Proofs.Bytes.Order
import BlobCluster.Proofs.Ledger.Holders

/-!
# Which copy is found

The rows of a ledger are sorted, so the confirmed copies of a blob are listed in the order of the
bytes of their workers' addresses, and looking the blob up leads to the first of them.  On a ledger
whose copies lie on workers that are there this is all there is to a lookup: it finds the worker
with the least address, and it fails only for want of a confirmed copy.
-/

namespace BlobCluster

namespace Ledger

variable {ledger : Ledger} {blob worker : String}

/-- The copies of a blob are listed by the addresses of their workers. -/
theorem pairwise_copiesOf (ledger : Ledger) (blob : String) :
    (ledger.copiesOf blob).Pairwise fun a b => Bytes.toUtf8 a.worker < Bytes.toUtf8 b.worker := by
  have keys : (ledger.copiesOf blob).Pairwise fun a b => compare a.key b.key = .lt :=
    ledger.copies.ordered.filter _
  refine keys.imp_of_mem fun {a b} mem mem' less => ?_
  have here : a.blob = blob := blob_of_copy? (mem_copiesOf.1 mem)
  have here' : b.blob = blob := blob_of_copy? (mem_copiesOf.1 mem')
  rw [← Bytes.compare_eq_lt_iff]
  have both : (compare a.blob b.blob).then (compare a.worker b.worker) = .lt := less
  have same : compare blob blob = .eq := Std.ReflCmp.compare_self
  rw [here, here', same] at both
  exact both

theorem pairwise_savedCopiesOf (ledger : Ledger) (blob : String) :
    (ledger.savedCopiesOf blob).Pairwise fun a b =>
      Bytes.toUtf8 a.worker < Bytes.toUtf8 b.worker :=
  (pairwise_copiesOf ledger blob).filter _

theorem nodup_workers (ledger : Ledger) (blob : String) :
    ((ledger.copiesOf blob).map (·.worker)).Nodup := by
  refine List.pairwise_map.2 ((pairwise_copiesOf ledger blob).imp fun {a b} less same => ?_)
  rw [same] at less
  exact List.lt_irrefl _ less

/-- The first confirmed copy of a blob is on the worker with the least address. -/
theorem least_of_savedCopiesOf {copy : CopyRow} {rest : List CopyRow}
    (listed : ledger.savedCopiesOf blob = copy :: rest) :
    ledger.Saved blob copy.worker
      ∧ ∀ other, ledger.Saved blob other → Bytes.toUtf8 copy.worker ≤ Bytes.toUtf8 other := by
  constructor
  · refine saved_iff.2 ⟨copy, ?_, rfl⟩
    rw [listed]
    exact List.mem_cons_self ..
  · intro other saved
    obtain ⟨found, mem, rfl⟩ := saved_iff.1 saved
    have ordered := pairwise_savedCopiesOf ledger blob
    rw [listed] at ordered mem
    rcases List.mem_cons.1 mem with rfl | later
    · exact List.le_refl _
    · exact List.le_of_lt ((List.pairwise_cons.1 ordered).1 _ later)

end Ledger

/-! ## Looking up -/

/-- What a lookup answers about a ledger. -/
def Ledger.Finds (ledger : Ledger) (blob : String) : Except Failure String → Prop
  | .ok worker => ledger.Saved blob worker
    ∧ ∀ other, ledger.Saved blob other → Bytes.toUtf8 worker ≤ Bytes.toUtf8 other
  | .error e => e = Placement.noSavedCopy blob ∧ ∀ worker, ¬ ledger.Saved blob worker

/-- Without outages a lookup finds the least holder, or that there is none. -/
theorem Placement.finds_locate {ledger : Ledger} (housed : ledger.Housed) (blob : String) :
    (locate blob).Meets false (fun r _ => ledger.Finds blob r) ledger := by
  refine .query nofun rfl ?_
  cases listed : ledger.savedCopiesOf blob with
  | nil => exact ⟨rfl, Ledger.savedCopiesOf_eq_nil_iff.1 listed⟩
  | cons copy rest =>
    have least := Ledger.least_of_savedCopiesOf listed
    obtain ⟨saved, found, -⟩ := least.1
    obtain ⟨row, there⟩ := Option.isSome_iff_exists.1 (housed _ _ _ found)
    refine .query nofun (Query.perform_worker there) ?_
    show ledger.Finds blob (.ok row.address)
    rw [Ledger.address_of_worker? there]
    exact least

/-- Two addresses that are both the least are the same. -/
theorem Ledger.Finds.unique {ledger : Ledger} {blob : String} {r r' : Except Failure String}
    (h : ledger.Finds blob r) (h' : ledger.Finds blob r') : r = r' := by
  cases r with
  | error e =>
    cases r' with
    | error e' => rw [h.1, h'.1]
    | ok worker => exact absurd h'.1 (h.2 worker)
  | ok worker =>
    cases r' with
    | error e => exact absurd h.1 (h'.2 worker)
    | ok worker' =>
      have same : Bytes.toUtf8 worker = Bytes.toUtf8 worker' :=
        List.le_antisymm (h.2 _ h'.1) (h'.2 _ h.1)
      rw [Bytes.toUtf8_injective same]

end BlobCluster
