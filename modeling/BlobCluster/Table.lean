/-!
# Sorted tables

A table holds rows in strictly ascending order of their key, so there is one row for a key at
most and two tables with the same rows are equal.  `put` inserts a row or replaces the one with
its key, `keep` drops every row that fails a test.  `find?_put` and `find?_keep` say what either
does to the view `find?`.
-/

namespace BlobCluster

/-- Rows in ascending order of their keys.  The order is part of the table, so there is one row for
a key at most, and tables with the same rows are the same. -/
structure Table {α κ : Type} [Ord κ] (key : α → κ) where
  rows : List α
  ordered : rows.Pairwise fun a b => compare (key a) (key b) = .lt
  deriving DecidableEq

namespace Table

variable {α κ : Type} [Ord κ] {key : α → κ}

/-! ## Rows in order -/

/-- Puts a row in its place, instead of one with the same key. -/
def insertRow (key : α → κ) (row : α) : List α → List α
  | [] => [row]
  | head :: rest =>
    match compare (key row) (key head) with
    | .lt => row :: head :: rest
    | .eq => row :: rest
    | .gt => head :: insertRow key row rest

theorem mem_insertRow {row a : α} {rows : List α} (h : a ∈ insertRow key row rows) :
    a = row ∨ a ∈ rows := by
  induction rows with
  | nil => simpa [insertRow] using h
  | cons head rest ih =>
    simp only [insertRow] at h
    split at h <;> simp only [List.mem_cons] at h ⊢ <;> grind

theorem ordered_insertRow [Std.TransOrd κ] {row : α} {rows : List α}
    (h : rows.Pairwise fun a b => compare (key a) (key b) = .lt) :
    (insertRow key row rows).Pairwise fun a b => compare (key a) (key b) = .lt := by
  induction rows with
  | nil => simp [insertRow]
  | cons head rest ih =>
    obtain ⟨below, ordered⟩ := List.pairwise_cons.1 h
    simp only [insertRow]
    split
    next lt =>
      refine List.pairwise_cons.2 ⟨?_, h⟩
      intro a ha
      rcases List.mem_cons.1 ha with rfl | ha
      · exact lt
      · exact Std.TransCmp.lt_trans lt (below a ha)
    next eq =>
      refine List.pairwise_cons.2 ⟨?_, ordered⟩
      intro a ha
      exact Std.TransCmp.lt_of_eq_of_lt eq (below a ha)
    next gt =>
      refine List.pairwise_cons.2 ⟨?_, ih ordered⟩
      intro a ha
      rcases mem_insertRow ha with rfl | ha
      · exact Std.OrientedCmp.gt_iff_lt.1 gt
      · exact below a ha

/-! ## Operations -/

def empty : Table key := ⟨[], .nil⟩

instance : Inhabited (Table key) := ⟨empty⟩

def find? (table : Table key) (k : κ) : Option α :=
  table.rows.find? fun row => compare (key row) k == .eq

def has (table : Table key) (k : κ) : Bool := (table.find? k).isSome

/-- Inserts a row; it replaces a row with the same key. -/
def put [Std.TransOrd κ] (table : Table key) (row : α) : Table key :=
  ⟨insertRow key row table.rows, ordered_insertRow table.ordered⟩

/-- Keeps the rows that pass a test. -/
def keep (table : Table key) (test : α → Bool) : Table key :=
  ⟨table.rows.filter test, table.ordered.filter test⟩

def erase (table : Table key) (k : κ) : Table key :=
  table.keep fun row => compare (key row) k != .eq

/-! ## What the operations do to the view -/

theorem ext_rows {s t : Table key} (h : s.rows = t.rows) : s = t := by
  cases s
  cases t
  cases h
  rfl

theorem find?_insertRow [Std.TransOrd κ] (row : α) (rows : List α) (k : κ) :
    (insertRow key row rows).find? (fun a => compare (key a) k == .eq) =
      if compare (key row) k = .eq then some row
      else rows.find? fun a => compare (key a) k == .eq := by
  induction rows with
  | nil =>
    simp only [insertRow, List.find?_cons, List.find?_nil]
    split <;> simp_all
  | cons head rest ih =>
    simp only [insertRow]
    split
    next lt => by_cases hk : compare (key row) k = .eq <;> simp [hk]
    next eq =>
      have same : compare (key head) k = compare (key row) k :=
        (Std.TransCmp.congr_left eq).symm
      by_cases hk : compare (key row) k = .eq <;> simp [hk, same]
    next gt =>
      have differ : compare (key row) k = .eq → compare (key head) k ≠ .eq := by
        intro hr hh
        have : compare (key row) (key head) = .eq :=
          Std.TransCmp.eq_trans hr (Std.OrientedCmp.eq_symm hh)
        simp [this] at gt
      by_cases hh : compare (key head) k = .eq
      · have hr : ¬compare (key row) k = .eq := fun hr => differ hr hh
        simp [hh, hr]
      · have hb : (compare (key head) k == .eq) = false := by simpa using hh
        simp [hb, ih]

/-- After `put` the key of the row leads to it and every other key to what it led to before. -/
theorem find?_put [Std.TransOrd κ] (table : Table key) (row : α) (k : κ) :
    (table.put row).find? k =
      if compare (key row) k = .eq then some row else table.find? k :=
  find?_insertRow row table.rows k

/-! ## Tables whose keys compare equal only if they are the same -/

@[simp] theorem find?_empty (k : κ) : (empty : Table key).find? k = none := rfl

section Lawful

variable [Std.LawfulEqOrd κ]

theorem eq_of_mem_ordered {rows : List α}
    (ordered : rows.Pairwise fun a b => compare (key a) (key b) = .lt) {a b : α}
    (ha : a ∈ rows) (hb : b ∈ rows) (same : key a = key b) : a = b := by
  induction rows with
  | nil => cases ha
  | cons head rest ih =>
    obtain ⟨below, ordered⟩ := List.pairwise_cons.1 ordered
    rcases List.mem_cons.1 ha with first | later <;> rcases List.mem_cons.1 hb with first' | later'
    · rw [first, first']
    · exact absurd (below b later') (by simp [← first, same])
    · exact absurd (below a later) (by simp [← first', same])
    · exact ih ordered later later'

/-- No two rows of a table have one key. -/
theorem nodup_keys (table : Table key) : (table.rows.map key).Nodup := by
  refine List.pairwise_map.2 (table.ordered.imp fun {a b} below same => ?_)
  rw [same] at below
  simp at below

/-- A key leads to a row exactly when the row is in the table and has that key. -/
theorem find?_eq_some_iff {table : Table key} {k : κ} {row : α} :
    table.find? k = some row ↔ row ∈ table.rows ∧ key row = k := by
  constructor
  · intro h
    have here := List.find?_some h
    exact ⟨List.mem_of_find?_eq_some h, by simpa using here⟩
  · rintro ⟨mem, rfl⟩
    cases h : table.find? (key row) with
    | none =>
      have absent := List.find?_eq_none.1 h row mem
      simp at absent
    | some other =>
      have same : key other = key row := by simpa using List.find?_some h
      rw [eq_of_mem_ordered table.ordered (List.mem_of_find?_eq_some h) mem same]

theorem find?_eq_none_iff {table : Table key} {k : κ} :
    table.find? k = none ↔ ∀ row ∈ table.rows, key row ≠ k := by
  simp [find?, List.find?_eq_none]

theorem find?_key {table : Table key} {k : κ} {row : α} (h : table.find? k = some row) :
    key row = k :=
  (find?_eq_some_iff.1 h).2

/-- After `keep` a key leads to its row only if the row passes the test. -/
theorem find?_keep (table : Table key) (test : α → Bool) (k : κ) :
    (table.keep test).find? k = (table.find? k).filter test := by
  cases h : table.find? k with
  | none =>
    rw [find?_eq_none_iff] at h
    refine find?_eq_none_iff.2 fun row mem => h row ?_
    exact (List.mem_filter.1 mem).1
  | some row =>
    obtain ⟨mem, rfl⟩ := find?_eq_some_iff.1 h
    cases passes : test row with
    | true =>
      rw [Option.filter_some, if_pos passes]
      exact find?_eq_some_iff.2 ⟨List.mem_filter.2 ⟨mem, passes⟩, rfl⟩
    | false =>
      rw [Option.filter_some, if_neg (by simp [passes])]
      refine find?_eq_none_iff.2 fun other kept same => ?_
      obtain ⟨mem', passes'⟩ := List.mem_filter.1 kept
      rw [eq_of_mem_ordered table.ordered mem' mem same] at passes'
      simp [passes] at passes'

theorem find?_erase [DecidableEq κ] (table : Table key) (gone k : κ) :
    (table.erase gone).find? k = if k = gone then none else table.find? k := by
  rw [erase, find?_keep]
  cases h : table.find? k with
  | none => simp
  | some row =>
    have := find?_key h
    by_cases same : k = gone <;> simp [Option.filter_some, this, same]

end Lawful

end Table

end BlobCluster
