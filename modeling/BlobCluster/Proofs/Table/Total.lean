import Mathlib.Algebra.GroupWithZero.Nat
import BlobCluster.Table

/-!
# Sums over a table

`Table.total` adds up an amount of every row.  Both operations that change a table change such a
sum in a way that can be read off the rows they touch: `total_put` says that the amount of the new
row comes in and that of the row it replaces goes out, `total_keep` that the rows which fail the
test no longer count.  These two are all that the books of a master need.
-/

namespace BlobCluster.Table

variable {α κ : Type} [Ord κ] {key : α → κ}

def total (table : Table key) (amount : α → Nat) : Nat := (table.rows.map amount).sum

theorem sum_insertRow [Std.TransOrd κ] {rows : List α} (row : α) (amount : α → Nat)
    (ordered : rows.Pairwise fun a b => compare (key a) (key b) = .lt) :
    ((insertRow key row rows).map amount).sum
        + ((rows.find? fun a => compare (key a) (key row) == .eq).map amount).getD 0
      = (rows.map amount).sum + amount row := by
  induction rows with
  | nil => simp [insertRow]
  | cons head rest ih =>
    obtain ⟨below, ordered⟩ := List.pairwise_cons.1 ordered
    simp only [insertRow]
    split
    next lt =>
      -- The row goes in front, so no row of the table has its key.
      have absent : (head :: rest).find? (fun a => compare (key a) (key row) == .eq) = none := by
        refine List.find?_eq_none.2 fun a ha => ?_
        have above : compare (key row) (key a) = .lt := by
          rcases List.mem_cons.1 ha with rfl | later
          · exact lt
          · exact Std.TransCmp.lt_trans lt (below a later)
        simp [Std.OrientedCmp.gt_iff_lt.2 above]
      rw [absent]
      simp only [List.map_cons, List.sum_cons, Option.map_none, Option.getD_none]
      omega
    next eq =>
      have same : compare (key head) (key row) = .eq := Std.OrientedCmp.eq_symm eq
      simp only [List.find?_cons, same, BEq.rfl, List.map_cons, List.sum_cons, Option.map_some,
        Option.getD_some]
      omega
    next gt =>
      have differs : (compare (key head) (key row) == .eq) = false := by
        simp [Std.OrientedCmp.gt_iff_lt.1 gt]
      have rest' := ih ordered
      simp only [List.find?_cons, differs, List.map_cons, List.sum_cons]
      omega

/-- Putting a row adds its amount and takes away that of the row it replaces. -/
theorem total_put [Std.TransOrd κ] (table : Table key) (row : α) (amount : α → Nat) :
    (table.put row).total amount + ((table.find? (key row)).map amount).getD 0
      = table.total amount + amount row :=
  sum_insertRow row amount table.ordered

/-- What is kept adds up to the amounts of the rows that pass. -/
theorem total_keep (table : Table key) (test : α → Bool) (amount : α → Nat) :
    (table.keep test).total amount = table.total fun row => if test row then amount row else 0 := by
  show ((table.rows.filter test).map amount).sum = _
  unfold total
  induction table.rows with
  | nil => rfl
  | cons head rest ih =>
    cases passes : test head with
    | true => simp [passes, ih]
    | false => simp [passes, ih]

theorem total_congr {table : Table key} {f g : α → Nat} (h : ∀ row ∈ table.rows, f row = g row) :
    table.total f = table.total g := by
  unfold total
  rw [List.map_congr_left h]

theorem total_add (table : Table key) (f g : α → Nat) :
    (table.total fun row => f row + g row) = table.total f + table.total g := by
  unfold total
  induction table.rows with
  | nil => rfl
  | cons head rest ih =>
    simp only [List.map_cons, List.sum_cons, ih]
    omega

theorem total_eq_zero {table : Table key} {amount : α → Nat}
    (h : ∀ row ∈ table.rows, amount row = 0) : table.total amount = 0 := by
  unfold total
  rw [List.map_congr_left h]
  induction table.rows with
  | nil => rfl
  | cons head rest ih => rw [List.map_cons, List.sum_cons, ih]

theorem le_total {table : Table key} {row : α} (amount : α → Nat) (h : row ∈ table.rows) :
    amount row ≤ table.total amount := by
  unfold total
  revert h
  induction table.rows with
  | nil => intro h; cases h
  | cons head rest ih =>
    intro h
    simp only [List.map_cons, List.sum_cons]
    rcases List.mem_cons.1 h with rfl | later
    · omega
    · have := ih later
      omega

theorem total_of_single [Std.LawfulEqOrd κ] (table : Table key) (k : κ) (amount : α → Nat)
    (only : ∀ row ∈ table.rows, key row ≠ k → amount row = 0) :
    table.total amount = ((table.find? k).map amount).getD 0 := by
  obtain ⟨rows, ordered⟩ := table
  unfold total find?
  simp only at only ⊢
  induction rows with
  | nil => rfl
  | cons head rest ih =>
    obtain ⟨below, ordered⟩ := List.pairwise_cons.1 ordered
    have others := ih ordered fun row later => only row (List.mem_cons_of_mem _ later)
    by_cases here : key head = k
    · have rest_zero : (rest.map amount).sum = 0 := by
        rw [others]
        have absent : rest.find? (fun row => compare (key row) k == .eq) = none := by
          refine List.find?_eq_none.2 fun row later same => ?_
          have equal : key row = k := by simpa using same
          have lt := below row later
          rw [here, equal] at lt
          simp at lt
        rw [absent]
        rfl
      simp [here, rest_zero]
    · have zero := only head (List.mem_cons_self ..) here
      simp [here, zero, others]

end BlobCluster.Table
