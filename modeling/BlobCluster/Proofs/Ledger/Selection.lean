import BlobCluster.Placement
import BlobCluster.Text.Size

/-!
# The workers that are chosen

What a choice of the roomiest workers consists of: listed workers with enough space, as many as were
asked for, and no worker twice.  The order among them plays no part here.  The second section turns
the free space of a worker, which is counted in 64 bits, into numbers: on a row that has no more
locked than available the subtraction is exact, so a copy that fits can be locked without leaving
the range.
-/

namespace BlobCluster

namespace Selection

variable {rows chosen : List WorkerRow} {space : UInt64} {count : Nat}

theorem roomiest_eq_ok_iff :
    roomiest rows space count = .ok chosen
      ↔ count ≤ (rows.filter (fits space)).length
        ∧ chosen = ((rows.filter (fits space)).mergeSort preferred).take count := by
  unfold roomiest
  simp only
  split
  next few => simp [Nat.not_le.2 few]
  next many =>
    simp only [Except.ok.injEq]
    exact ⟨fun h => ⟨by omega, h.symm⟩, fun h => h.2.symm⟩

theorem of_mem_roomiest (h : roomiest rows space count = .ok chosen) {row : WorkerRow}
    (mem : row ∈ chosen) : row ∈ rows ∧ fits space row = true := by
  obtain ⟨-, rfl⟩ := roomiest_eq_ok_iff.1 h
  have sorted := List.mem_of_mem_take mem
  rw [List.mem_mergeSort] at sorted
  exact List.mem_filter.1 sorted

theorem length_roomiest (h : roomiest rows space count = .ok chosen) : chosen.length = count := by
  obtain ⟨enough, rfl⟩ := roomiest_eq_ok_iff.1 h
  rw [List.length_take, List.length_mergeSort]
  omega

theorem nodup_roomiest (h : roomiest rows space count = .ok chosen)
    (distinct : (rows.map (·.address)).Nodup) : (chosen.map (·.address)).Nodup := by
  obtain ⟨-, rfl⟩ := roomiest_eq_ok_iff.1 h
  have filtered : ((rows.filter (fits space)).map (·.address)).Nodup :=
    distinct.sublist (List.filter_sublist.map _)
  have sorted : (((rows.filter (fits space)).mergeSort preferred).map (·.address)).Nodup :=
    ((List.mergeSort_perm _ _).map _).nodup_iff.2 filtered
  exact sorted.sublist ((List.take_sublist _ _).map _)

end Selection

/-! ## Space in numbers -/

namespace WorkerRow

variable {row : WorkerRow} {size : UInt64}

/-- The free space is what is left, and nothing if more is locked than available. -/
theorem toNat_free (row : WorkerRow) :
    row.free.toNat = row.available.toNat - row.locked.toNat := by
  unfold free
  split
  next covered => exact UInt64.toNat_sub_of_le _ _ covered
  next more =>
    rw [UInt64.le_iff_toNat_le] at more
    show 0 = _
    omega

/-- On a row with no more locked than available the free space is exactly what is left. -/
theorem free_add_locked (covered : row.locked ≤ row.available) :
    row.free.toNat + row.locked.toNat = row.available.toNat := by
  have le := UInt64.le_iff_toNat_le.1 covered
  rw [toNat_free]
  omega

/-- On such a row a copy fits if it can be locked within what is available. -/
theorem fits_iff (covered : row.locked ≤ row.available) :
    Selection.fits size row = true
      ↔ size.toNat + row.locked.toNat ≤ row.available.toNat := by
  have exact_ := free_add_locked covered
  unfold Selection.fits
  rw [decide_eq_true_iff, UInt64.le_iff_toNat_le]
  omega

theorem locked_add_le (covered : row.locked ≤ row.available)
    (fits : Selection.fits size row = true) :
    row.locked.toNat + size.toNat ≤ row.available.toNat := by
  have room := (fits_iff covered).1 fits
  omega

end WorkerRow

/-- The megabytes of a blob are counted without leaving the range of the numbers. -/
theorem Text.toNat_megabytesFor (bytes : UInt64) :
    (megabytesFor bytes).toNat = (bytes.toNat + (mebibyte - 1)) / mebibyte := by
  have range := bytes.toNat_lt
  have small : (bytes.toNat + (mebibyte - 1)) / mebibyte < 2 ^ 64 := by
    unfold mebibyte
    omega
  rw [megabytesFor, UInt64.toNat_ofNat_of_lt' small]

/-! ## Sums and differences in programs -/

theorem Program.sum_eq_done {a b : UInt64} (h : a.toNat + b.toNat < UInt64.size) :
    Program.sum a b = .done (a + b) :=
  if_pos h

theorem Program.toNat_add {a b : UInt64} (h : a.toNat + b.toNat < UInt64.size) :
    (a + b).toNat = a.toNat + b.toNat := by
  rw [UInt64.toNat_add]
  exact Nat.mod_eq_of_lt h

/-- What is answered when an amount is spent is exactly what is left of it. -/
theorem Placement.spend_eq_done_iff {amount size left : UInt64} {e : Failure} :
    Placement.spend amount size e = .done left ↔ size ≤ amount ∧ amount - size = left := by
  unfold Placement.spend
  split
  next enough => simp [enough]
  next short => simp [short]

theorem Placement.toNat_of_spend {amount size left : UInt64} {e : Failure}
    (h : Placement.spend amount size e = .done left) :
    left.toNat + size.toNat = amount.toNat := by
  obtain ⟨enough, rfl⟩ := Placement.spend_eq_done_iff.1 h
  have le := UInt64.le_iff_toNat_le.1 enough
  rw [UInt64.toNat_sub_of_le _ _ enough]
  omega

end BlobCluster
