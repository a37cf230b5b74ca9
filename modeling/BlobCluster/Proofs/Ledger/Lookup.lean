import BlobCluster.Ledger.Query

/-!
# Looking things up in a changed ledger

A ledger is seen through two views: `copy?` gives the copy of a blob on a worker and `worker?` the
row of a worker.  Each change of a ledger is described here by what it does to the two views, and
the lists that queries answer are described by what `copy?` gives.  Everything that is proved about
masters later rests on these equations and not on the order of the rows.
-/

namespace BlobCluster

namespace Ledger

variable {ledger : Ledger} {blob worker : String}

/-! ## Copies -/

theorem copy?_eq_some_iff {row : CopyRow} :
    ledger.copy? blob worker = some row
      ↔ row ∈ ledger.copies.rows ∧ row.blob = blob ∧ row.worker = worker := by
  unfold copy?
  rw [Table.find?_eq_some_iff]
  simp [CopyRow.key]

theorem blob_of_copy? {row : CopyRow} (h : ledger.copy? blob worker = some row) :
    row.blob = blob :=
  (copy?_eq_some_iff.1 h).2.1

theorem worker_of_copy? {row : CopyRow} (h : ledger.copy? blob worker = some row) :
    row.worker = worker :=
  (copy?_eq_some_iff.1 h).2.2

theorem copy?_of_mem {row : CopyRow} (h : row ∈ ledger.copies.rows) :
    ledger.copy? row.blob row.worker = some row :=
  copy?_eq_some_iff.2 ⟨h, rfl, rfl⟩

theorem copy?_putCopy (row : CopyRow) :
    (ledger.putCopy row).copy? blob worker
      = if row.blob = blob ∧ row.worker = worker then some row else ledger.copy? blob worker := by
  unfold copy? putCopy
  rw [Table.find?_put]
  simp [CopyRow.key]

theorem copy?_dropBlob (gone : String) :
    (ledger.dropBlob gone).copy? blob worker
      = if blob = gone then none else ledger.copy? blob worker := by
  unfold copy? dropBlob
  rw [Table.find?_keep]
  cases h : ledger.copies.find? ⟨blob, worker⟩ with
  | none => simp
  | some row =>
    have here : row.blob = blob := blob_of_copy? h
    by_cases same : blob = gone <;> simp [Option.filter_some, here, same]

theorem copy?_dropCopiesOn (gone : String) :
    (ledger.dropCopiesOn gone).copy? blob worker
      = if worker = gone then none else ledger.copy? blob worker := by
  unfold copy? dropCopiesOn
  rw [Table.find?_keep]
  cases h : ledger.copies.find? ⟨blob, worker⟩ with
  | none => simp
  | some row =>
    have here : row.worker = worker := worker_of_copy? h
    by_cases same : worker = gone <;> simp [Option.filter_some, here, same]

@[simp] theorem copy?_dropWorker (gone : String) :
    (ledger.dropWorker gone).copy? blob worker = ledger.copy? blob worker := rfl

theorem mem_copiesOf {row : CopyRow} :
    row ∈ ledger.copiesOf blob ↔ ledger.copy? blob row.worker = some row := by
  unfold copiesOf
  rw [List.mem_filter, copy?_eq_some_iff]
  simp

theorem copiesOf_dropBlob (ledger : Ledger) (blob : String) :
    (ledger.dropBlob blob).copiesOf blob = [] := by
  refine List.eq_nil_iff_forall_not_mem.2 fun row listed => ?_
  have found := mem_copiesOf.1 listed
  rw [copy?_dropBlob, if_pos rfl] at found
  cases found

theorem mem_savedCopiesOf {row : CopyRow} :
    row ∈ ledger.savedCopiesOf blob
      ↔ ledger.copy? blob row.worker = some row ∧ row.state = .saved := by
  unfold savedCopiesOf
  rw [List.mem_filter, mem_copiesOf]
  simp

/-! ## Workers -/

theorem worker?_eq_some_iff {row : WorkerRow} :
    ledger.worker? worker = some row ↔ row ∈ ledger.workers.rows ∧ row.address = worker :=
  Table.find?_eq_some_iff

theorem address_of_worker? {row : WorkerRow} (h : ledger.worker? worker = some row) :
    row.address = worker :=
  (worker?_eq_some_iff.1 h).2

theorem worker?_of_mem {row : WorkerRow} (h : row ∈ ledger.workers.rows) :
    ledger.worker? row.address = some row :=
  worker?_eq_some_iff.2 ⟨h, rfl⟩

@[simp] theorem worker?_putCopy (row : CopyRow) :
    (ledger.putCopy row).worker? worker = ledger.worker? worker := rfl

@[simp] theorem worker?_dropBlob (gone : String) :
    (ledger.dropBlob gone).worker? worker = ledger.worker? worker := rfl

@[simp] theorem worker?_dropCopiesOn (gone : String) :
    (ledger.dropCopiesOn gone).worker? worker = ledger.worker? worker := rfl

theorem worker?_dropWorker (gone : String) :
    (ledger.dropWorker gone).worker? worker
      = if worker = gone then none else ledger.worker? worker := by
  unfold worker? dropWorker
  rw [Table.find?_keep]
  cases h : ledger.workers.find? worker with
  | none => simp
  | some row =>
    have here : row.address = worker := address_of_worker? h
    by_cases same : worker = gone <;> simp [Option.filter_some, here, same]

theorem worker_eq_ok_iff {row : WorkerRow} :
    ledger.worker worker = .ok row ↔ ledger.worker? worker = some row := by
  unfold Ledger.worker
  cases ledger.worker? worker <;> simp

def putWorker (ledger : Ledger) (row : WorkerRow) : Ledger :=
  { ledger with workers := ledger.workers.put row }

theorem worker?_putWorker (row : WorkerRow) :
    (ledger.putWorker row).worker? worker
      = if row.address = worker then some row else ledger.worker? worker := by
  unfold worker? putWorker
  rw [Table.find?_put]
  simp

@[simp] theorem copy?_putWorker (row : WorkerRow) :
    (ledger.putWorker row).copy? blob worker = ledger.copy? blob worker := rfl

theorem has_workers (address : String) :
    ledger.workers.has address = (ledger.worker? address).isSome := rfl

theorem addWorker_eq_ok_iff {row : WorkerRow} {after : Ledger} :
    ledger.addWorker row = .ok after
      ↔ ledger.worker? row.address = none ∧ after = ledger.putWorker row := by
  unfold addWorker
  rw [has_workers]
  cases ledger.worker? row.address <;> simp [putWorker, eq_comm]

theorem updateWorker_eq_ok_iff {row : WorkerRow} {after : Ledger} :
    ledger.updateWorker row = .ok after
      ↔ (ledger.worker? row.address).isSome ∧ after = ledger.putWorker row := by
  unfold updateWorker
  rw [has_workers]
  cases ledger.worker? row.address <;> simp [putWorker, eq_comm]

/-! ## Copies on workers -/

/-- Every copy lies on a worker that is there. -/
def Housed (ledger : Ledger) : Prop :=
  ∀ blob worker copy, ledger.copy? blob worker = some copy → (ledger.worker? worker).isSome

theorem housed_empty : Ledger.empty.Housed := fun _ _ _ found => nomatch found

theorem isSome_putWorker {row : WorkerRow} (h : (ledger.worker? worker).isSome) :
    ((ledger.putWorker row).worker? worker).isSome := by
  rw [worker?_putWorker]
  split
  next => rfl
  next => exact h

namespace Housed

theorem putWorker (h : ledger.Housed) (row : WorkerRow) : (ledger.putWorker row).Housed :=
  fun _ _ _ found => isSome_putWorker (h _ _ _ found)

theorem putCopy (h : ledger.Housed) {row : CopyRow} (there : (ledger.worker? row.worker).isSome) :
    (ledger.putCopy row).Housed := by
  intro blob worker copy found
  rw [copy?_putCopy] at found
  split at found
  next here =>
    rw [← here.2]
    exact there
  next => exact h _ _ _ found

theorem dropBlob (h : ledger.Housed) (gone : String) : (ledger.dropBlob gone).Housed := by
  intro blob worker copy found
  rw [copy?_dropBlob] at found
  split at found
  next => cases found
  next => exact h _ _ _ found

theorem dropCopiesOn (h : ledger.Housed) (gone : String) : (ledger.dropCopiesOn gone).Housed := by
  intro blob worker copy found
  rw [copy?_dropCopiesOn] at found
  split at found
  next => cases found
  next => exact h _ _ _ found

theorem dropWorker (h : ledger.Housed) (gone : String) :
    ((ledger.dropCopiesOn gone).dropWorker gone).Housed := by
  intro blob worker copy found
  rw [copy?_dropWorker, copy?_dropCopiesOn] at found
  rw [worker?_dropWorker]
  split at found
  next => cases found
  next elsewhere =>
    rw [if_neg elsewhere]
    exact h _ _ _ found

end Housed

end Ledger

namespace Query

theorem perform_updateWorker {ledger : Ledger} {row : WorkerRow}
    (h : (ledger.worker? row.address).isSome) :
    (Query.updateWorker row).perform ledger = .ok ((), ledger.putWorker row) := by
  show (ledger.updateWorker row).map _ = _
  rw [Ledger.updateWorker_eq_ok_iff.2 ⟨h, rfl⟩]
  rfl

theorem perform_addWorker {ledger : Ledger} {row : WorkerRow}
    (h : ledger.worker? row.address = none) :
    (Query.addWorker row).perform ledger = .ok ((), ledger.putWorker row) := by
  show (ledger.addWorker row).map _ = _
  rw [Ledger.addWorker_eq_ok_iff.2 ⟨h, rfl⟩]
  rfl

theorem perform_worker {ledger : Ledger} {address : String} {row : WorkerRow}
    (h : ledger.worker? address = some row) :
    (Query.worker address).perform ledger = .ok (row, ledger) := by
  show (ledger.worker address).map _ = _
  rw [Ledger.worker_eq_ok_iff.2 h]
  rfl

end Query

end BlobCluster
