import Mathlib.Algebra.Order.Floor.Div
import BlobCluster.Bytes

/-!
# Cutting a byte string

A byte string can be cut into pieces of one length, of which only the last may be shorter.
`flatten_cut`, `length_cut` and the two statements on the lengths of the pieces say that `cut` does
this; no piece is empty, so there are as many pieces as the quotient of the lengths, rounded up.
-/

namespace BlobCluster.Bytes

/-- A byte string in pieces of this length; the last one has what is left. -/
def cut (length : Nat) (bytes : Bytes) : List Bytes :=
  if _h : 0 < length ∧ bytes ≠ [] then bytes.take length :: cut length (bytes.drop length) else []
termination_by bytes.length
decreasing_by
  have := List.length_pos_iff.2 _h.2
  rw [List.length_drop]
  omega

variable {length : Nat} {bytes piece : Bytes}

@[simp] theorem cut_nil (length : Nat) : cut length [] = [] := by
  rw [cut, dif_neg]
  simp

theorem cut_of_ne_nil (positive : 0 < length) (some_ : bytes ≠ []) :
    cut length bytes = bytes.take length :: cut length (bytes.drop length) := by
  rw [cut, dif_pos ⟨positive, some_⟩]

theorem cut_eq_nil_iff (positive : 0 < length) : cut length bytes = [] ↔ bytes = [] := by
  constructor
  · intro none_
    by_contra some_
    rw [cut_of_ne_nil positive some_] at none_
    cases none_
  · rintro rfl
    exact cut_nil length

theorem flatten_cut (positive : 0 < length) (bytes : Bytes) :
    (cut length bytes).flatten = bytes := by
  fun_induction cut length bytes with
  | case1 bytes _ ih => rw [List.flatten_cons, ih, List.take_append_drop]
  | case2 bytes empty =>
    have nothing : bytes = [] := by
      by_contra some_
      exact empty ⟨positive, some_⟩
    rw [nothing, List.flatten_nil]

theorem drop_add_length_take (offset : Nat) :
    bytes.drop (offset + ((bytes.drop offset).take length).length)
      = (bytes.drop offset).drop length := by
  rw [List.drop_drop, List.length_take, List.length_drop]
  by_cases last : bytes.length - offset ≤ length
  · rw [List.drop_eq_nil_of_le (by omega), List.drop_eq_nil_of_le (by omega)]
  · rw [Nat.min_eq_left (by omega)]

/-- Taking one piece off leaves one less to come. -/
theorem ceilDiv_eq_add_one (positive : 0 < length) {size : Nat} (some_ : 0 < size) :
    size ⌈/⌉ length = (size - length) ⌈/⌉ length + 1 := by
  rw [Nat.ceilDiv_eq_add_pred_div, Nat.ceilDiv_eq_add_pred_div]
  by_cases last : size ≤ length
  · have rest : size - length + length - 1 < length := by omega
    have here : size + length - 1 = size - 1 + length := by omega
    have small : size - 1 < length := by omega
    rw [Nat.div_eq_of_lt rest, here, Nat.add_div_right _ positive, Nat.div_eq_of_lt small]
  · have split : size + length - 1 = size - length + length - 1 + length := by omega
    rw [split, Nat.add_div_right _ positive]

theorem length_cut (positive : 0 < length) (bytes : Bytes) :
    (cut length bytes).length = bytes.length ⌈/⌉ length := by
  fun_induction cut length bytes with
  | case1 bytes more ih =>
    rw [List.length_cons, ih, List.length_drop,
      ceilDiv_eq_add_one positive (List.length_pos_iff.2 more.2)]
  | case2 bytes empty =>
    have nothing : bytes = [] := by
      by_contra some_
      exact empty ⟨positive, some_⟩
    rw [nothing]
    simp

theorem length_of_mem_cut (mem : piece ∈ cut length bytes) :
    1 ≤ piece.length ∧ piece.length ≤ length := by
  fun_induction cut length bytes with
  | case1 bytes more ih =>
    rcases List.mem_cons.1 mem with rfl | later
    · have some_ := List.length_pos_iff.2 more.2
      rw [List.length_take]
      omega
    · exact ih later
  | case2 bytes empty => cases mem

theorem length_of_mem_dropLast_cut (mem : piece ∈ (cut length bytes).dropLast) :
    piece.length = length := by
  fun_induction cut length bytes with
  | case1 bytes more ih =>
    by_cases last : bytes.drop length = []
    · rw [last, cut_nil] at mem
      cases mem
    · rw [List.dropLast_cons_of_ne_nil (by rwa [Ne, cut_eq_nil_iff more.1])] at mem
      rcases List.mem_cons.1 mem with rfl | later
      · have goesOn : length < bytes.length := by
          rw [List.drop_eq_nil_iff] at last
          omega
        rw [List.length_take]
        omega
      · exact ih later
  | case2 bytes empty => cases mem

end BlobCluster.Bytes
