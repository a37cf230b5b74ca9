import BlobCluster.Ledger.Query

/-!
# Tables with their keys beside the rows

A ledger sorts its rows by a key that it computes from the row.  `KeyedTables` are the same two
tables with every key stored beside its row, apart from it: writes and drops go by the stored key,
lists of copies are picked by what the rows say.  That the two ways agree is an invariant of the
operations: whatever is asked from the beginning on, every row lies under its own key, and the two
kinds of table give the same answers and refusals.
-/

namespace BlobCluster

/-! ## Tables of pairs -/

namespace Table

variable {α κ : Type} [Ord κ] {key : α → κ}

/-- A row with its key beside it. -/
def keyed (key : α → κ) (row : α) : κ × α := (key row, row)

theorem map_insertRow (row : α) (rows : List α) :
    (insertRow key row rows).map (keyed key)
      = insertRow Prod.fst (keyed key row) (rows.map (keyed key)) := by
  induction rows with
  | nil => rfl
  | cons head rest ih =>
    simp only [insertRow, List.map_cons]
    have same : compare (keyed key row).1 (keyed key head).1 = compare (key row) (key head) := rfl
    rw [same]
    cases compare (key row) (key head) with
    | lt => rfl
    | eq => rfl
    | gt => rw [List.map_cons, ih]

/-- The rows of a table of pairs are those of a table, each under its own key. -/
def Pairs (pairs : Table (Prod.fst : κ × α → κ)) (table : Table key) : Prop :=
  pairs.rows = table.rows.map (keyed key)

namespace Pairs

variable {pairs : Table (Prod.fst : κ × α → κ)} {table : Table key}

theorem put [Std.TransOrd κ] (h : pairs.Pairs table) (row : α) :
    (pairs.put (key row, row)).Pairs (table.put row) := by
  show insertRow Prod.fst (keyed key row) pairs.rows = (insertRow key row table.rows).map _
  rw [map_insertRow, h]

theorem keep (h : pairs.Pairs table) (test : κ → Bool) :
    (pairs.keep fun pair => test pair.1).Pairs (table.keep fun row => test (key row)) := by
  show pairs.rows.filter _ = (table.rows.filter _).map _
  rw [h, List.filter_map]
  rfl

theorem find? (h : pairs.Pairs table) (k : κ) :
    (pairs.find? k).map Prod.snd = table.find? k := by
  show (pairs.rows.find? _).map _ = _
  rw [h, List.find?_map, Option.map_map]
  exact Option.map_id'

theorem has (h : pairs.Pairs table) (k : κ) : pairs.has k = table.has k := by
  rw [Table.has, Table.has, ← h.find?, Option.isSome_map]

theorem values (h : pairs.Pairs table) : pairs.rows.map Prod.snd = table.rows := by
  rw [h, List.map_map]
  exact List.map_id _

end Pairs

end Table

/-! ## The two tables of a master -/

/-- The copies by blob and worker and the workers by address, each key beside its row. -/
structure KeyedTables where
  copies : Table (Prod.fst : CopyKey × CopyRow → CopyKey)
  workers : Table (Prod.fst : String × WorkerRow → String)

namespace KeyedTables

def empty : KeyedTables := ⟨.empty, .empty⟩

def perform (tables : KeyedTables) : (q : Query) → Except Failure (q.Answer × KeyedTables)
  | .addCopy row | .updateCopy row =>
    .ok ((), { tables with copies := tables.copies.put (⟨row.blob, row.worker⟩, row) })
  | .savedCopies blob =>
    .ok (((tables.copies.rows.map Prod.snd).filter (·.blob == blob)).filter (·.state == .saved),
      tables)
  | .copies blob => .ok ((tables.copies.rows.map Prod.snd).filter (·.blob == blob), tables)
  | .copyOn blob worker => .ok ((tables.copies.find? ⟨blob, worker⟩).map Prod.snd, tables)
  | .dropBlob blob =>
    .ok ((), { tables with copies := tables.copies.keep fun pair => pair.1.blob != blob })
  | .dropCopiesOn worker =>
    .ok ((), { tables with copies := tables.copies.keep fun pair => pair.1.worker != worker })
  | .addWorker row =>
    if tables.workers.has row.address then
      .error ⟨.repository, "worker " ++ row.address ++ " already exists"⟩
    else .ok ((), { tables with workers := tables.workers.put (row.address, row) })
  | .updateWorker row =>
    if tables.workers.has row.address then
      .ok ((), { tables with workers := tables.workers.put (row.address, row) })
    else .error ⟨.notFound, "worker " ++ row.address⟩
  | .dropWorker address =>
    .ok ((), { tables with workers := tables.workers.keep fun pair => pair.1 != address })
  | .worker address =>
    match tables.workers.find? address with
    | some pair => .ok (pair.2, tables)
    | none => .error ⟨.notFound, "worker " ++ address⟩
  | .roomiest space count =>
    (Selection.roomiest (tables.workers.rows.map Prod.snd) space count).map fun rows =>
      (rows, tables)
  | .flush => .ok ((), tables)

/-- Every row of a ledger lies under its own key, and no other rows are there. -/
structure Shows (tables : KeyedTables) (ledger : Ledger) : Prop where
  copies : tables.copies.Pairs ledger.copies
  workers : tables.workers.Pairs ledger.workers

theorem shows_empty : empty.Shows Ledger.empty := ⟨rfl, rfl⟩

/-- Two outcomes of a query are the same refusal, or the same answer with tables that go on showing
the ledger.  The refusals have to be the same failure, texts included, because a caller sees
them. -/
inductive Agrees {α : Type} :
    Except Failure (α × KeyedTables) → Except Failure (α × Ledger) → Prop
  | refused (e : Failure) : Agrees (.error e) (.error e)
  | answered (answer : α) {tables : KeyedTables} {ledger : Ledger} (shows : tables.Shows ledger) :
    Agrees (.ok (answer, tables)) (.ok (answer, ledger))

variable {tables : KeyedTables} {ledger : Ledger}

/-- One query keeps every row under its own key and is answered alike. -/
theorem Shows.perform (h : tables.Shows ledger) (q : Query) :
    Agrees (tables.perform q) (q.perform ledger) := by
  cases q with
  | addCopy row => exact .answered () ⟨h.copies.put row, h.workers⟩
  | updateCopy row => exact .answered () ⟨h.copies.put row, h.workers⟩
  | savedCopies blob =>
    have rows := h.copies.values
    simp only [KeyedTables.perform, rows]
    exact .answered _ h
  | copies blob =>
    have rows := h.copies.values
    simp only [KeyedTables.perform, rows]
    exact .answered _ h
  | copyOn blob worker =>
    have found := h.copies.find? ⟨blob, worker⟩
    simp only [KeyedTables.perform, found]
    exact .answered _ h
  | dropBlob blob => exact .answered () ⟨h.copies.keep (·.blob != blob), h.workers⟩
  | dropCopiesOn worker => exact .answered () ⟨h.copies.keep (·.worker != worker), h.workers⟩
  | addWorker row =>
    have there := h.workers.has row.address
    simp only [KeyedTables.perform, Query.perform, Ledger.addWorker, there]
    split
    · exact .refused _
    · exact .answered () ⟨h.copies, h.workers.put row⟩
  | updateWorker row =>
    have there := h.workers.has row.address
    simp only [KeyedTables.perform, Query.perform, Ledger.updateWorker, there]
    split
    · exact .answered () ⟨h.copies, h.workers.put row⟩
    · exact .refused _
  | dropWorker address => exact .answered () ⟨h.copies, h.workers.keep (· != address)⟩
  | worker address =>
    have found := h.workers.find? address
    simp only [KeyedTables.perform, Query.perform, Ledger.worker, Ledger.worker?, ← found]
    cases tables.workers.find? address with
    | none => exact .refused _
    | some pair => exact .answered _ h
  | roomiest space count =>
    have rows := h.workers.values
    simp only [KeyedTables.perform, Query.perform, rows]
    cases Selection.roomiest ledger.workers.rows space count with
    | error e => exact .refused e
    | ok chosen => exact .answered chosen h
  | flush => exact .answered () h

end KeyedTables

/-! ## Many queries -/

/-- The ledger after a query; one that is refused leaves it as it was. -/
def Query.after (q : Query) (ledger : Ledger) : Ledger :=
  match q.perform ledger with
  | .ok (_, after) => after
  | .error _ => ledger

def Ledger.afterAll (ledger : Ledger) (queries : List Query) : Ledger :=
  queries.foldl (fun ledger q => q.after ledger) ledger

/-- The tables after a query; one that is refused leaves them as they were. -/
def KeyedTables.after (tables : KeyedTables) (q : Query) : KeyedTables :=
  match tables.perform q with
  | .ok (_, after) => after
  | .error _ => tables

def KeyedTables.afterAll (tables : KeyedTables) (queries : List Query) : KeyedTables :=
  queries.foldl KeyedTables.after tables

namespace KeyedTables

theorem Shows.after {tables : KeyedTables} {ledger : Ledger} (h : tables.Shows ledger) (q : Query) :
    (tables.after q).Shows (q.after ledger) := by
  have agrees := h.perform q
  unfold KeyedTables.after Query.after
  generalize tables.perform q = one at agrees ⊢
  generalize q.perform ledger = other at agrees ⊢
  cases agrees with
  | refused e => exact h
  | answered answer shows => exact shows

/-- Whatever is asked of empty tables, every row lies under its own key. -/
theorem Shows.afterAll {tables : KeyedTables} {ledger : Ledger} (h : tables.Shows ledger)
    (queries : List Query) : (tables.afterAll queries).Shows (ledger.afterAll queries) := by
  induction queries generalizing tables ledger with
  | nil => exact h
  | cons q queries ih => exact ih (h.after q)

theorem Agrees.answer {α : Type} {one : Except Failure (α × KeyedTables)}
    {other : Except Failure (α × Ledger)} (h : Agrees one other) :
    one.map Prod.fst = other.map Prod.fst := by
  cases h with
  | refused e => rfl
  | answered answer shows => rfl

end KeyedTables

end BlobCluster
