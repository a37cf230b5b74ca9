import Mathlib.Data.List.Induction
import BlobCluster.Proofs.Ledger.Finding
import BlobCluster.Proofs.Ledger.Keyed

/-!
# What a ledger records

A ledger holds what its history has written last: under each key the row of the last query that
wrote one, unless a later query has dropped it.  Queries that are refused are no part of that
history.  The lists that a ledger answers, the rows that a drop takes away and the refusals of the
table of workers are all described by what lies under the keys.
-/

namespace BlobCluster

/-! ## Histories -/

namespace Query

/-- What a query leaves under a key of the table of copies, if it does not leave it alone.  The
outer option tells whether the key is concerned and the inner one what is there then; a dropped row
is not the same as an untouched one. -/
def setsCopy? : Query → CopyKey → Option (Option CopyRow)
  | .addCopy row, key | .updateCopy row, key =>
    if key = ⟨row.blob, row.worker⟩ then some (some row) else none
  | .dropBlob blob, key => if key.blob = blob then some none else none
  | .dropCopiesOn address, key => if key.worker = address then some none else none
  | _, _ => none

/-- What a query that is not refused leaves under a key of the table of workers, if it does not
leave it alone. -/
def setsWorker? : Query → String → Option (Option WorkerRow)
  | .addWorker row, address | .updateWorker row, address =>
    if address = row.address then some (some row) else none
  | .dropWorker gone, address => if address = gone then some none else none
  | _, _ => none

end Query

/-- A row was written under a key, and no later query of the history has set that key. -/
def LastWrite {κ α : Type} (sets? : Query → κ → Option (Option α)) (history : List Query) (key : κ)
    (row : α) : Prop :=
  ∃ before q after, history = before ++ q :: after ∧ sets? q key = some (some row) ∧
    ∀ later ∈ after, sets? later key = none

section LastWrite

variable {κ α : Type} {sets? : Query → κ → Option (Option α)} {key : κ} {row : α}

theorem not_lastWrite_nil : ¬ LastWrite sets? [] key row := by
  rintro ⟨before, q, after, whole, -⟩
  simp at whole

/-- The last query of a history has written the row itself, or has left it alone.  Histories grow at
their end, so this is the step of the induction on them. -/
theorem lastWrite_concat_iff {history : List Query} {q : Query} :
    LastWrite sets? (history ++ [q]) key row
      ↔ sets? q key = some (some row) ∨ sets? q key = none ∧ LastWrite sets? history key row := by
  constructor
  · rintro ⟨before, wrote, after, whole, written, untouched⟩
    rcases List.eq_nil_or_concat after with rfl | ⟨middle, last, rfl⟩
    · obtain ⟨-, same⟩ := List.append_inj' whole rfl
      obtain rfl := (List.cons.inj same).1
      exact .inl written
    · rw [List.concat_eq_append] at whole untouched
      rw [← List.cons_append, ← List.append_assoc] at whole
      obtain ⟨rfl, same⟩ := List.append_inj' whole rfl
      obtain rfl := (List.cons.inj same).1
      refine .inr ⟨untouched q (by simp), before, wrote, middle, rfl, written, ?_⟩
      intro later among
      exact untouched later (List.mem_append_left _ among)
  · rintro (written | ⟨alone, before, wrote, after, rfl, written, untouched⟩)
    · exact ⟨history, q, [], rfl, written, nofun⟩
    · refine ⟨before, wrote, after ++ [q], by simp, written, ?_⟩
      intro later among
      rcases List.mem_append.1 among with earlier | last
      · exact untouched later earlier
      · rw [List.mem_singleton.1 last]
        exact alone

/-- What lies under a key after one more query. -/
theorem lastWrite_concat_iff_getD {history : List Query} {q : Query} {found : Option α}
    (ih : found = some row ↔ LastWrite sets? history key row) :
    (sets? q key).getD found = some row ↔ LastWrite sets? (history ++ [q]) key row := by
  rw [lastWrite_concat_iff, ← ih]
  cases sets? q key with
  | none => simp
  | some value => simp

end LastWrite

/-! ## What lies under a key -/

namespace Query

variable {ledger : Ledger} {q : Query}

theorem after_of_ok {answer : q.Answer} {after : Ledger}
    (granted : q.perform ledger = .ok (answer, after)) : q.after ledger = after := by
  rw [Query.after, granted]

theorem after_of_error {e : Failure} (refused : q.perform ledger = .error e) :
    q.after ledger = ledger := by
  rw [Query.after, refused]

theorem perform_addWorker_of_some {row there : WorkerRow}
    (h : ledger.worker? row.address = some there) :
    (Query.addWorker row).perform ledger
      = .error ⟨.repository, "worker " ++ row.address ++ " already exists"⟩ := by
  simp [perform, Ledger.addWorker, Ledger.has_workers, h, Except.map]

theorem perform_updateWorker_of_none {row : WorkerRow} (h : ledger.worker? row.address = none) :
    (Query.updateWorker row).perform ledger = .error (Ledger.unknownWorker row.address) := by
  simp [perform, Ledger.updateWorker, Ledger.has_workers, h, Except.map]

theorem perform_worker_of_none {address : String} (h : ledger.worker? address = none) :
    (Query.worker address).perform ledger = .error (Ledger.unknownWorker address) := by
  simp [perform, Ledger.worker, h, Except.map]

theorem after_roomiest (ledger : Ledger) (space : UInt64) (count : Nat) :
    (Query.roomiest space count).after ledger = ledger := by
  cases chosen : Selection.roomiest ledger.workers.rows space count with
  | error e => exact after_of_error (e := e) (by rw [perform, chosen]; rfl)
  | ok rows =>
    have granted : (Query.roomiest space count).perform ledger = .ok (rows, ledger) := by
      rw [perform, chosen]
      rfl
    exact after_of_ok granted

/-- The table of copies after a query, by what the query sets. -/
theorem copy?_after (q : Query) (ledger : Ledger) (key : CopyKey) :
    (q.after ledger).copy? key.blob key.worker
      = (q.setsCopy? key).getD (ledger.copy? key.blob key.worker) := by
  have put : ∀ row : CopyRow, (ledger.putCopy row).copy? key.blob key.worker
      = (if key = ⟨row.blob, row.worker⟩ then some (some row) else none).getD
          (ledger.copy? key.blob key.worker) := by
    intro row
    rw [Ledger.copy?_putCopy]
    by_cases same : key = ⟨row.blob, row.worker⟩
    · simp [same]
    · have apart : ¬ (row.blob = key.blob ∧ row.worker = key.worker) := by
        rintro ⟨blob, worker⟩
        exact same (by rw [blob, worker])
      simp [same, apart]
  cases q with
  | addCopy row => exact put row
  | updateCopy row => exact put row
  | dropBlob gone =>
    show (ledger.dropBlob gone).copy? key.blob key.worker = _
    rw [Ledger.copy?_dropBlob, setsCopy?]
    split <;> rfl
  | dropCopiesOn gone =>
    show (ledger.dropCopiesOn gone).copy? key.blob key.worker = _
    rw [Ledger.copy?_dropCopiesOn, setsCopy?]
    split <;> rfl
  | addWorker row =>
    cases there : ledger.worker? row.address with
    | none => rw [after_of_ok (perform_addWorker there)]; rfl
    | some other => rw [after_of_error (perform_addWorker_of_some there)]; rfl
  | updateWorker row =>
    cases there : ledger.worker? row.address with
    | none => rw [after_of_error (perform_updateWorker_of_none there)]; rfl
    | some other => rw [after_of_ok (perform_updateWorker (by simp [there]))]; rfl
  | worker address =>
    cases there : ledger.worker? address with
    | none => rw [after_of_error (perform_worker_of_none there)]; rfl
    | some other => rw [after_of_ok (perform_worker there)]; rfl
  | roomiest space count => rw [after_roomiest]; rfl
  | savedCopies | copies | copyOn | dropWorker | flush => rfl

/-- The table of workers after a query that is granted, by what the query sets. -/
theorem worker?_of_granted {answer : q.Answer} {after : Ledger}
    (granted : q.perform ledger = .ok (answer, after)) (address : String) :
    after.worker? address = (q.setsWorker? address).getD (ledger.worker? address) := by
  have put : ∀ row : WorkerRow, (ledger.putWorker row).worker? address
      = (if address = row.address then some (some row) else none).getD
          (ledger.worker? address) := by
    intro row
    rw [Ledger.worker?_putWorker]
    by_cases same : address = row.address
    · simp [same]
    · simp [same, Ne.symm same]
  rw [← after_of_ok granted]
  cases q with
  | addWorker row =>
    cases there : ledger.worker? row.address with
    | none =>
      rw [after_of_ok (perform_addWorker there)]
      exact put row
    | some other =>
      rw [perform_addWorker_of_some there] at granted
      cases granted
  | updateWorker row =>
    cases there : ledger.worker? row.address with
    | none =>
      rw [perform_updateWorker_of_none there] at granted
      cases granted
    | some other =>
      rw [after_of_ok (perform_updateWorker (by simp [there]))]
      exact put row
  | dropWorker gone =>
    show (ledger.dropWorker gone).worker? address = _
    rw [Ledger.worker?_dropWorker, setsWorker?]
    split <;> rfl
  | worker named =>
    cases there : ledger.worker? named with
    | none => rw [after_of_error (perform_worker_of_none there)]; rfl
    | some other => rw [after_of_ok (perform_worker there)]; rfl
  | roomiest space count => rw [after_roomiest]; rfl
  | addCopy | updateCopy | savedCopies | copies | copyOn | dropBlob | dropCopiesOn | flush => rfl

end Query

namespace Ledger

/-- The queries that are granted, when queries are asked one after another. -/
def granted (ledger : Ledger) : List Query → List Query
  | [] => []
  | q :: later =>
    match q.perform ledger with
    | .ok (_, after) => q :: after.granted later
    | .error _ => ledger.granted later

theorem afterAll_concat (ledger : Ledger) (queries : List Query) (q : Query) :
    ledger.afterAll (queries ++ [q]) = q.after (ledger.afterAll queries) := by
  rw [afterAll, List.foldl_append]
  rfl

theorem granted_append (ledger : Ledger) (queries later : List Query) :
    ledger.granted (queries ++ later)
      = ledger.granted queries ++ (ledger.afterAll queries).granted later := by
  induction queries generalizing ledger with
  | nil => rfl
  | cons q queries ih =>
    have further : ledger.afterAll (q :: queries) = (q.after ledger).afterAll queries := rfl
    rw [List.cons_append, granted, granted, further]
    cases performed : q.perform ledger with
    | error e => rw [Query.after_of_error performed]; exact ih ledger
    | ok outcome =>
      rw [Query.after_of_ok performed, List.cons_append, ← ih outcome.2]

/-- A copy is found exactly if it is the one last written under its key. -/
theorem copy?_afterAll_iff (queries : List Query) (key : CopyKey) (row : CopyRow) :
    (Ledger.empty.afterAll queries).copy? key.blob key.worker = some row
      ↔ LastWrite Query.setsCopy? queries key row := by
  induction queries using List.reverseRecOn with
  | nil => exact iff_of_false nofun not_lastWrite_nil
  | append_singleton queries q ih =>
    rw [afterAll_concat, Query.copy?_after]
    exact lastWrite_concat_iff_getD ih

/-- A worker is found exactly if its row is the one last written by a query that was granted. -/
theorem worker?_afterAll_iff (queries : List Query) (address : String) (row : WorkerRow) :
    (Ledger.empty.afterAll queries).worker? address = some row
      ↔ LastWrite Query.setsWorker? (Ledger.empty.granted queries) address row := by
  induction queries using List.reverseRecOn with
  | nil => exact iff_of_false nofun not_lastWrite_nil
  | append_singleton queries q ih =>
    rw [afterAll_concat, granted_append]
    cases performed : q.perform (Ledger.empty.afterAll queries) with
    | error e =>
      simp only [granted, performed, List.append_nil, Query.after_of_error performed]
      exact ih
    | ok outcome =>
      simp only [granted, performed, Query.after_of_ok performed,
        Query.worker?_of_granted performed]
      exact lastWrite_concat_iff_getD ih

/-! ## Drops -/

variable {ledger : Ledger} {blob address : String}

theorem mem_dropBlob {row : CopyRow} :
    row ∈ (ledger.dropBlob blob).copies.rows
      ↔ row ∈ ledger.copies.rows ∧ row ∉ ledger.copiesOf blob := by
  show row ∈ ledger.copies.rows.filter _ ↔ row ∈ ledger.copies.rows ∧ row ∉ List.filter _ _
  simp only [List.mem_filter, bne_iff_ne, beq_iff_eq]
  tauto

theorem dropBlob_eq_self (none : ledger.copiesOf blob = []) : ledger.dropBlob blob = ledger := by
  have all : ∀ row ∈ ledger.copies.rows, (row.blob != blob) = true := by
    intro row mem
    have other := List.filter_eq_nil_iff.1 none row mem
    simpa using other
  exact congrArg (Ledger.mk · ledger.workers) (Table.ext_rows (List.filter_eq_self.2 all))

theorem mem_dropCopiesOn {row : CopyRow} :
    row ∈ (ledger.dropCopiesOn address).copies.rows
      ↔ row ∈ ledger.copies.rows ∧ row.worker ≠ address := by
  show row ∈ ledger.copies.rows.filter _ ↔ _
  simp only [List.mem_filter, bne_iff_ne]

theorem dropCopiesOn_eq_self (none : ∀ row ∈ ledger.copies.rows, row.worker ≠ address) :
    ledger.dropCopiesOn address = ledger := by
  have all : ∀ row ∈ ledger.copies.rows, (row.worker != address) = true := by simpa using none
  exact congrArg (Ledger.mk · ledger.workers) (Table.ext_rows (List.filter_eq_self.2 all))

theorem mem_dropWorker {row : WorkerRow} :
    row ∈ (ledger.dropWorker address).workers.rows
      ↔ row ∈ ledger.workers.rows ∧ row.address ≠ address := by
  show row ∈ ledger.workers.rows.filter _ ↔ _
  simp only [List.mem_filter, bne_iff_ne]

theorem dropWorker_eq_self (none : ledger.worker? address = none) :
    ledger.dropWorker address = ledger := by
  have all : ∀ row ∈ ledger.workers.rows, (row.address != address) = true := by
    simpa using Table.find?_eq_none_iff.1 none
  exact congrArg (Ledger.mk ledger.copies) (Table.ext_rows (List.filter_eq_self.2 all))

end Ledger

/-! ## The whole -/

/-- A ledger that was empty is two tables by key, whatever has been asked of it since.

The tables to compare with keep a key beside each row and go by it alone, as a store of keys and
values does.  Every query keeps the two in step (`Shows.afterAll`).  What is under a key is told
from the history: it is what the last query that sets this key has written, and for that it suffices
to look at one more query at the end of a history. -/
theorem Ledger.tables_by_key (queries : List Query) :
    let ledger := Ledger.empty.afterAll queries
    let tables := KeyedTables.empty.afterAll queries
    -- Every row lies under its own key, and tables that go by the stored key answer alike.
    (tables.copies.rows = ledger.copies.rows.map fun row => (⟨row.blob, row.worker⟩, row)) ∧
    (tables.workers.rows = ledger.workers.rows.map fun row => (row.address, row)) ∧
    (∀ q : Query, (tables.perform q).map Prod.fst = (q.perform ledger).map Prod.fst) ∧
    -- There is one row for a key at most, and it is the one last written.
    (ledger.copies.rows.map CopyRow.key).Nodup ∧
    (∀ blob address, (Query.copyOn blob address).perform ledger
      = .ok (ledger.copy? blob address, ledger)) ∧
    (∀ blob address row, ledger.copy? blob address = some row
      ↔ LastWrite Query.setsCopy? queries ⟨blob, address⟩ row) ∧
    -- The copies of a blob are listed by worker; dropping the blob takes away what is listed.
    (∀ blob, ∃ rows,
      (Query.copies blob).perform ledger = .ok (rows, ledger) ∧
      (∀ row, row ∈ rows
        ↔ row.blob = blob ∧ ∃ key, LastWrite Query.setsCopy? queries key row) ∧
      (rows.Pairwise fun a b => Bytes.toUtf8 a.worker < Bytes.toUtf8 b.worker) ∧
      (Query.savedCopies blob).perform ledger
        = .ok (rows.filter fun row => row.state = .saved, ledger) ∧
      ∃ after, (Query.dropBlob blob).perform ledger = .ok ((), after) ∧
        (∀ row, row ∈ after.copies.rows ↔ row ∈ ledger.copies.rows ∧ row ∉ rows) ∧
        after.workers = ledger.workers ∧ (rows = [] → after = ledger)) ∧
    (∀ address, ∃ after, (Query.dropCopiesOn address).perform ledger = .ok ((), after) ∧
      (∀ row, row ∈ after.copies.rows ↔ row ∈ ledger.copies.rows ∧ row.worker ≠ address) ∧
      after.workers = ledger.workers ∧
      ((∀ row ∈ ledger.copies.rows, row.worker ≠ address) → after = ledger)) ∧
    (∀ address, ∃ after, (Query.dropWorker address).perform ledger = .ok ((), after) ∧
      (∀ row, row ∈ after.workers.rows ↔ row ∈ ledger.workers.rows ∧ row.address ≠ address) ∧
      after.copies = ledger.copies ∧ (ledger.worker? address = none → after = ledger)) ∧
    -- A worker is added if it is new and updated if it is there, and read as it was last written.
    (∀ (row : WorkerRow) (e : Failure),
      ((Query.addWorker row).perform ledger = .error e
        ↔ (ledger.worker? row.address).isSome
          ∧ e = ⟨.repository, "worker " ++ row.address ++ " already exists"⟩) ∧
      ((Query.updateWorker row).perform ledger = .error e
        ↔ ledger.worker? row.address = none ∧ e = ⟨.notFound, "worker " ++ row.address⟩)) ∧
    (∀ (q : Query) (e : Failure), q.perform ledger = .error e →
      Ledger.empty.afterAll (queries ++ [q]) = ledger) ∧
    (∀ address row, (Query.worker address).perform ledger = .ok (row, ledger)
      ↔ LastWrite Query.setsWorker? (Ledger.empty.granted queries) address row) ∧
    (∀ address, ledger.worker? address = none
      → (Query.worker address).perform ledger = .error ⟨.notFound, "worker " ++ address⟩) := by
  intro ledger tables
  have shows : tables.Shows ledger := KeyedTables.shows_empty.afterAll queries
  have written := Ledger.copy?_afterAll_iff queries
  refine ⟨shows.copies, shows.workers, fun q => (shows.perform q).answer, ledger.copies.nodup_keys,
    fun _ _ => rfl, fun blob address row => written ⟨blob, address⟩ row, ?_, ?_, ?_, ?_, ?_, ?_,
    fun _ => Query.perform_worker_of_none⟩
  · intro blob
    refine ⟨ledger.copiesOf blob, rfl, ?_, ledger.pairwise_copiesOf blob, ?_,
      ledger.dropBlob blob, rfl, fun _ => Ledger.mem_dropBlob, rfl, Ledger.dropBlob_eq_self⟩
    · intro row
      rw [Ledger.mem_copiesOf]
      constructor
      · intro found
        exact ⟨Ledger.blob_of_copy? found, _, (written ⟨blob, row.worker⟩ row).1 found⟩
      · rintro ⟨rfl, key, last⟩
        have found := (written key row).2 last
        rwa [← Ledger.blob_of_copy? found, ← Ledger.worker_of_copy? found] at found
    · show Except.ok ((ledger.copiesOf blob).filter _, ledger) = _
      congr 3
  · intro address
    exact ⟨ledger.dropCopiesOn address, rfl, fun _ => Ledger.mem_dropCopiesOn, rfl,
      Ledger.dropCopiesOn_eq_self⟩
  · intro address
    exact ⟨ledger.dropWorker address, rfl, fun _ => Ledger.mem_dropWorker, rfl,
      Ledger.dropWorker_eq_self⟩
  · intro row e
    cases there : ledger.worker? row.address with
    | none =>
      rw [Query.perform_addWorker there, Query.perform_updateWorker_of_none there]
      simp [Ledger.unknownWorker, eq_comm]
    | some other =>
      rw [Query.perform_addWorker_of_some there, Query.perform_updateWorker (by simp [there])]
      simp [eq_comm]
  · intro q e refused
    rw [Ledger.afterAll_concat]
    exact Query.after_of_error refused
  · intro address row
    rw [← Ledger.worker?_afterAll_iff]
    constructor
    · intro read
      cases there : ledger.worker? address with
      | none => rw [Query.perform_worker_of_none there] at read; cases read
      | some other =>
        rw [Query.perform_worker there] at read
        cases read
        rfl
    · exact Query.perform_worker

/-- Two blobs and two workers of which one begins like the other, a row written twice, a worker
added twice and a blob that was never there. -/
theorem Ledger.tables_by_key_prefixes :
    let queries : List Query :=
      [.addWorker (.fresh "w" 5 0), .addWorker (.fresh "w" 9 1),
        .addCopy ⟨"1", "h", "w1", .duringCreation, 1⟩, .addCopy ⟨"2", "h", "w", .saved, 2⟩,
        .addCopy ⟨"3", "h1", "w", .saved, 3⟩, .updateCopy ⟨"4", "h", "w1", .saved, 4⟩]
    let ledger := Ledger.empty.afterAll queries
    LastWrite Query.setsCopy? queries ⟨"h", "w1"⟩ ⟨"4", "h", "w1", .saved, 4⟩ ∧
    LastWrite Query.setsWorker? (Ledger.empty.granted queries) "w" (.fresh "w" 5 0) ∧
    Ledger.empty.afterAll (queries ++ [.addWorker (.fresh "w" 7 2)]) = ledger ∧
    (Query.dropBlob "").perform ledger = .ok ((), ledger) ∧
    (Query.worker "w1").perform ledger = .error ⟨.notFound, "worker w1"⟩ := by
  intro queries ledger
  obtain ⟨-, -, -, -, -, found, listed, -, -, refused, left, read, unknown⟩ :=
    Ledger.tables_by_key queries
  refine ⟨(found "h" "w1" _).1 (by decide), (read "w" _).1 rfl, ?_, ?_, unknown "w1" (by decide)⟩
  · exact left _ _ ((refused (.fresh "w" 7 2) _).1.2 ⟨by decide, rfl⟩)
  · obtain ⟨rows, answered, -, -, -, after, dropped, -, -, same⟩ := listed ""
    have empty : rows = [] := by
      have none : (Query.copies "").perform ledger = .ok ([], ledger) := rfl
      exact (Prod.mk.inj (Except.ok.inj (answered.symm.trans none))).1
    rw [dropped, same empty]

end BlobCluster
