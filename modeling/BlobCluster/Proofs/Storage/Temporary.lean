import Mathlib.Algebra.GroupWithZero.Nat
import Mathlib.Data.List.Nodup
import Mathlib.Data.List.Perm.Subperm
import BlobCluster.Proofs.Storage.Ready

/-!
# Temporary names are free

A temporary name spells its serial number in twelve hexadecimal digits, so serial numbers have
different names until they differ by a multiple of 2^48.  A volume tries one number more than it has
entries.  If these are fewer than 2^48 the names are all different, and one of them is not taken.
So a temporary file is a new file, and once it is gone nothing is seen to have changed.
-/

namespace BlobCluster

/-! ## What a name spells -/

namespace Bytes

/-- The low bytes of a number determine it up to what they leave out. -/
theorem mod_eq_of_ofNatLE {count m n : Nat} (h : ofNatLE count m = ofNatLE count n) :
    m % 256 ^ count = n % 256 ^ count := by
  induction count generalizing m n with
  | zero => simp [Nat.mod_one]
  | succ count ih =>
    obtain ⟨first, rest⟩ := List.cons.inj h
    have low : m % 256 = n % 256 := by simpa using congrArg UInt8.toNat first
    rw [Nat.pow_succ', Nat.mod_mul, Nat.mod_mul, low, ih rest]

theorem hexDigit_inj {m n : Nat} (small : m < 16) (small' : n < 16)
    (h : hexDigit m = hexDigit n) : m = n := by
  have table : ∀ m < 16, ∀ n < 16, hexDigit m = hexDigit n → m = n := by decide
  exact table m small n small' h

theorem hexPair_inj {a b : UInt8} (h : hexPair a = hexPair b) : a = b := by
  have range := a.toNat_lt
  have range' := b.toNat_lt
  obtain ⟨high, rest⟩ := List.cons.inj h
  have high := hexDigit_inj (by omega) (by omega) high
  have low := hexDigit_inj (by omega) (by omega) (List.cons.inj rest).1
  exact UInt8.toNat_inj.1 (by omega)

theorem flatMap_hexPair_inj {xs ys : Bytes} (h : xs.flatMap hexPair = ys.flatMap hexPair) :
    xs = ys := by
  induction xs generalizing ys with
  | nil =>
    cases ys with
    | nil => rfl
    | cons y ys => cases h
  | cons x xs ih =>
    cases ys with
    | nil => cases h
    | cons y ys =>
      have parts : hexPair x ++ xs.flatMap hexPair = hexPair y ++ ys.flatMap hexPair := h
      obtain ⟨first, rest⟩ := List.append_inj parts rfl
      rw [hexPair_inj first, ih rest]

end Bytes

namespace Volume

variable {volume : Volume} {place : Path}

/-- Serial numbers with one name differ by a multiple of 2^48. -/
theorem mod_eq_of_temporaryName {m n : Nat} (h : temporaryName m = temporaryName n) :
    m % 2 ^ 48 = n % 2 ^ 48 := by
  unfold temporaryName at h
  have digits := String.ofList_injective
    ((String.append_right_inj _).1 ((String.append_left_inj _).1 h))
  exact Bytes.mod_eq_of_ofNatLE (List.reverse_inj.1 (Bytes.flatMap_hexPair_inj digits))

/-! ## Names that are free -/

/-- Whatever is somewhere below the top is one of the entries. -/
theorem mem_entries_of_at? {node : Node} (nonempty : place ≠ [])
    (there : volume.at? place = some node) : place ∈ volume.entries.rows.map (·.path) := by
  rw [at?_of_ne_nil nonempty] at there
  obtain ⟨entry, found, -⟩ := Option.map_eq_some_iff.1 there
  obtain ⟨mem, rfl⟩ := Table.find?_eq_some_iff.1 found
  exact List.mem_map_of_mem mem

/-- A temporary name that is found in a folder is the name of an entry there. -/
theorem mem_entries_of_find {folder top : Path} {serial : Nat}
    (walked : volume.walk [] folder = .ok top)
    (taken : (volume.find (folder ++ [temporaryName serial])).toBool = true) :
    top ++ [temporaryName serial] ∈ volume.entries.rows.map (·.path) := by
  cases found : volume.find (folder ++ [temporaryName serial]) with
  | error e =>
    rw [found] at taken
    cases taken
  | ok node =>
    obtain ⟨place, located, there⟩ := find_eq_ok_iff.1 found
    obtain ⟨noDot, noDots⟩ :=
      ChunkStore.ne_dot_of_valid (ChunkStore.ordinary_temporaryName serial).valid
    obtain ⟨top', walked', rfl⟩ := locate_name noDot noDots located
    obtain rfl : top = top' := Except.ok.inj (walked.symm.trans walked')
    exact mem_entries_of_at? (by simp) there

/-- Among more serial numbers than there are entries, one has a name that is not taken.  One more
than there are entries are tried, and by the bound their names are all different. -/
theorem exists_free (few : volume.entries.rows.length < 2 ^ 48) (folder : Path) :
    ∃ serial ∈ (List.range (volume.entries.rows.length + 1)).map (volume.drawn + ·),
      (volume.find (folder ++ [temporaryName serial])).toBool = false := by
  cases walked : volume.walk [] folder with
  | error e =>
    refine ⟨volume.drawn, by simp, ?_⟩
    cases found : volume.find (folder ++ [temporaryName volume.drawn]) with
    | error e => rfl
    | ok node =>
      obtain ⟨place, located, -⟩ := find_eq_ok_iff.1 found
      unfold locate at located
      rw [walk_append, walked] at located
      split at located <;> cases located
  | ok top =>
    -- The places of these names are different, so they cannot all be among the entries.
    by_contra all
    push Not at all
    simp only [ne_eq, Bool.not_eq_false] at all
    let serials := (List.range (volume.entries.rows.length + 1)).map (volume.drawn + ·)
    have distinct : (serials.map fun serial => top ++ [temporaryName serial]).Nodup := by
      rw [List.map_map]
      refine List.Nodup.map_on (fun m mem n mem' same => ?_) List.nodup_range
      have lt := List.mem_range.1 mem
      have lt' := List.mem_range.1 mem'
      have name := (List.cons.inj (List.append_cancel_left same)).1
      have equal : (volume.drawn + m) % 2 ^ 48 = (volume.drawn + n) % 2 ^ 48 :=
        mod_eq_of_temporaryName name
      omega
    have subset : (serials.map fun serial => top ++ [temporaryName serial])
        ⊆ volume.entries.rows.map (·.path) := by
      intro place mem
      obtain ⟨serial, listed, rfl⟩ := List.mem_map.1 mem
      exact mem_entries_of_find walked (all serial listed)
    have fits := (distinct.subperm subset).length_le
    simp only [serials, List.length_map, List.length_range] at fits
    omega

theorem free_freeSerial (few : volume.entries.rows.length < 2 ^ 48) (folder : Path) :
    (volume.find (folder ++ [temporaryName (volume.freeSerial folder)])).toBool = false := by
  obtain ⟨serial, mem, free⟩ := exists_free few folder
  unfold freeSerial
  simp only
  let serials := (List.range (volume.entries.rows.length + 1)).map (volume.drawn + ·)
  rcases found : serials.find? fun n =>
      !(volume.find (folder ++ [temporaryName n])).toBool with _ | first
  · have taken := List.find?_eq_none.1 found serial mem
    simp [free] at taken
  · simpa using List.find?_some found

end Volume

/-- Where the next temporary file of a store is made, nothing is seen. -/
theorem ChunkStore.Ready.seen_freeSerial {store : ChunkStore} {volume : Volume} {top : Path}
    (ready : store.Ready volume top) (few : volume.entries.rows.length < 2 ^ 48) :
    volume.seen (top ++ [Volume.temporaryName (volume.freeSerial store.root)]) = none := by
  have free := Volume.free_freeSerial few store.root
  have located := ready.locate (ordinary_temporaryName (volume.freeSerial store.root))
  unfold pathFor at located
  rw [Volume.seen]
  cases there : volume.at? (top ++ [Volume.temporaryName (volume.freeSerial store.root)]) with
  | none => rfl
  | some node =>
    rw [Volume.find_eq_ok_iff.2 ⟨_, located, there⟩] at free
    cases free

/-- A file that was not there before and is gone has left nothing behind. -/
theorem Volume.Replaced.undone {volume after : Volume} {place : Path}
    (h : volume.Replaced after place none) (absent : volume.seen place = none) :
    volume.Keeps after fun _ => False where
  sound := h.sound
  folders := h.keeps.folders
  seen other _ := by
    rw [h.seen]
    split
    next here => rw [here, absent]
    next => rfl

end BlobCluster
