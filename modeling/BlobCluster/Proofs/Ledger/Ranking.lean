import Mathlib.Data.List.Nodup
import Mathlib.Data.List.Perm.Subperm
import BlobCluster.Proofs.Bytes.Order
import BlobCluster.Proofs.Ledger.Lookup
import BlobCluster.Proofs.Ledger.Selection

/-!
# The ranking of workers

`Selection.preferred` ranks the workers of a ledger: it is transitive, it decides between any two,
and two rows that are each preferred to the other have one address.  So the roomiest workers are
determined as a set: some workers are the ones that are chosen exactly when they have the space,
are as many as were asked for, and are each preferred to everybody else who has it
(`roomiest_perm_iff`).

They are determined in their order as well.  `Selection.Foremost` says which rows come first without
a word about sorting; it holds of one list only, and that is the list which is chosen
(`roomiest_eq_ok_iff_foremost`).  As it only asks which rows there are, the choice is the same
however they are listed.
-/

namespace BlobCluster

namespace Selection

variable {rows chosen : List WorkerRow} {space : UInt64} {count : Nat} {a b c row : WorkerRow}

/-! ## The order -/

theorem preferred_iff :
    preferred a b = true
      ↔ b.free < a.free ∨ a.free = b.free ∧ (compare a.address b.address).isLE = true := by
  unfold preferred
  split
  next equal => simp [equal, UInt64.lt_irrefl]
  next differs => simp [differs]

theorem preferred_trans (h : preferred a b = true) (h' : preferred b c = true) :
    preferred a c = true := by
  rw [preferred_iff] at h h' ⊢
  rcases h with more | ⟨equal, before⟩
  · rcases h' with more' | ⟨equal', -⟩
    · exact .inl (UInt64.lt_trans more' more)
    · exact .inl (equal' ▸ more)
  · rcases h' with more' | ⟨equal', before'⟩
    · exact .inl (equal.symm ▸ more')
    · exact .inr ⟨equal.trans equal', Std.TransCmp.isLE_trans before before'⟩

theorem preferred_total (a b : WorkerRow) : (preferred a b || preferred b a) = true := by
  rw [Bool.or_eq_true, preferred_iff, preferred_iff]
  by_cases equal : a.free = b.free
  · have either : (compare a.address b.address).isLE = true
        ∨ (compare b.address a.address).isLE = true := by
      have swap : compare b.address a.address = (compare a.address b.address).swap :=
        Std.OrientedCmp.eq_swap
      rw [swap]
      cases compare a.address b.address <;> decide
    exact either.imp (.inr ⟨equal, ·⟩) (.inr ⟨equal.symm, ·⟩)
  · have differs : a.free.toNat ≠ b.free.toNat := mt UInt64.toNat_inj.1 equal
    rw [UInt64.lt_iff_toNat_lt, UInt64.lt_iff_toNat_lt]
    omega

/-- Ties are broken by the address. -/
theorem address_of_preferred (h : preferred a b = true) (h' : preferred b a = true) :
    a.address = b.address := by
  rw [preferred_iff, UInt64.lt_iff_toNat_lt] at h h'
  rcases h with more | ⟨equal, before⟩
  · rcases h' with more' | ⟨equal', -⟩
    · omega
    · rw [equal'] at more
      omega
  · rcases h' with more' | ⟨-, before'⟩
    · rw [equal] at more'
      omega
    · have swap : compare b.address a.address = (compare a.address b.address).swap :=
        Std.OrientedCmp.eq_swap
      rw [swap] at before'
      refine Std.LawfulEqOrd.eq_of_compare ?_
      cases way : compare a.address b.address with
      | lt => simp [way] at before'
      | eq => rfl
      | gt => simp [way] at before

/-! ## Who is chosen -/

/-- Two lists of one length without repetitions have the same members if there are no two members,
one of each, that the other list lacks.  It makes two choices of the best the same set: were they
different, a worker that one lacks would stand against one that the other lacks, and each would have
to be preferred to the other. -/
theorem perm_of_no_exchange {α : Type} {l l' : List α} (nodup : l.Nodup) (nodup' : l'.Nodup)
    (length : l.length = l'.length) (fixed : ∀ a ∈ l, a ∉ l' → ∀ b ∈ l', b ∉ l → False) :
    l.Perm l' := by
  have subset : l ⊆ l' := by
    intro a mem
    by_contra left
    -- The lists are of one length, so somebody else has taken the place of `a`.
    obtain ⟨b, mem', left'⟩ : ∃ b ∈ l', b ∉ l := by
      by_contra none_
      push Not at none_
      have same := (nodup'.subperm none_).perm_of_length_le (by omega)
      exact left (same.mem_iff.2 mem)
    exact fixed a mem left b mem' left'
  exact (nodup.subperm subset).perm_of_length_le (by omega)

/-- A choice fails only for want of workers with the space, and says how many there are. -/
theorem roomiest_eq_error_iff {e : Failure} :
    roomiest rows space count = .error e
      ↔ (rows.filter (fits space)).length < count
        ∧ e = shortage space count (rows.filter (fits space)).length := by
  unfold roomiest
  simp only
  split
  next few => simp [few, eq_comm]
  next many => simp [many]

theorem sorted_mergeSort (rows : List WorkerRow) :
    (rows.mergeSort preferred).Pairwise fun a b => preferred a b = true :=
  @List.pairwise_mergeSort _ preferred (fun _ _ _ => preferred_trans) preferred_total rows

/-- Whoever is chosen is preferred to everybody with the space who is not. -/
theorem preferred_of_mem_roomiest (h : roomiest rows space count = .ok chosen) {other : WorkerRow}
    (mem : row ∈ chosen) (listed : other ∈ rows) (fit : fits space other = true)
    (left : other ∉ chosen) : preferred row other = true := by
  obtain ⟨-, rfl⟩ := roomiest_eq_ok_iff.1 h
  have sorted := sorted_mergeSort (rows.filter (fits space))
  have candidate : other ∈ (rows.filter (fits space)).mergeSort preferred :=
    List.mem_mergeSort.2 (List.mem_filter.2 ⟨listed, fit⟩)
  rw [← List.take_append_drop count ((rows.filter (fits space)).mergeSort preferred)]
    at sorted candidate
  have behind := (List.mem_append.1 candidate).resolve_left left
  exact (List.pairwise_append.1 sorted).2.2 row mem other behind

/-- These workers have the space and are preferred to all others that have it.  It speaks of a set
of workers: in which order they are named makes no difference. -/
def Leading (rows : List WorkerRow) (space : UInt64) (named : List String) : Prop :=
  ∀ worker ∈ named, ∃ row ∈ rows, row.address = worker ∧ fits space row = true
    ∧ ∀ other ∈ rows, fits space other = true → other.address ∉ named →
      preferred row other = true

variable {named : List String}

theorem leading_of_roomiest (h : roomiest rows space count = .ok chosen)
    (same : (chosen.map (·.address)).Perm named) : Leading rows space named := by
  intro worker mem
  obtain ⟨row, chosen_, rfl⟩ := List.mem_map.1 (same.mem_iff.2 mem)
  obtain ⟨listed, fit⟩ := of_mem_roomiest h chosen_
  refine ⟨row, listed, rfl, fit, fun other listed' fit' left => ?_⟩
  refine preferred_of_mem_roomiest h chosen_ listed' fit' fun mem' => left ?_
  exact same.mem_iff.1 (List.mem_map_of_mem mem')

/-- Nobody else is chosen than the workers in the lead, if they are as many as are asked for. -/
theorem perm_of_leading (h : roomiest rows space count = .ok chosen)
    (distinct : (rows.map (·.address)).Nodup) (nodup : named.Nodup) (length : named.length = count)
    (leading : Leading rows space named) : (chosen.map (·.address)).Perm named := by
  have length' : (chosen.map (·.address)).length = named.length := by
    rw [List.length_map, length_roomiest h, length]
  refine perm_of_no_exchange (nodup_roomiest h distinct) nodup length' ?_
  intro other mem' notNamed worker mem left
  obtain ⟨row, listed, rfl, fit, ahead⟩ := leading worker mem
  obtain ⟨other, chosen_, rfl⟩ := List.mem_map.1 mem'
  obtain ⟨listed', fit'⟩ := of_mem_roomiest h chosen_
  have forth : preferred row other = true := ahead other listed' fit' notNamed
  have back : preferred other row = true :=
    preferred_of_mem_roomiest h chosen_ listed fit fun chosen' =>
      left (List.mem_map_of_mem chosen')
  rw [address_of_preferred forth back] at left
  exact left mem'

/-- Distinct workers are chosen exactly when they are in the lead. -/
theorem roomiest_perm_iff (distinct : (rows.map (·.address)).Nodup) (nodup : named.Nodup)
    (length : named.length = count) :
    (∃ chosen, roomiest rows space count = .ok chosen ∧ (chosen.map (·.address)).Perm named)
      ↔ Leading rows space named := by
  constructor
  · rintro ⟨chosen, h, same⟩
    exact leading_of_roomiest h same
  · intro leading
    have subset : named ⊆ (rows.filter (fits space)).map (·.address) := by
      intro worker mem
      obtain ⟨row, listed, rfl, fit, -⟩ := leading worker mem
      exact List.mem_map_of_mem (List.mem_filter.2 ⟨listed, fit⟩)
    have enough := (nodup.subperm subset).length_le
    rw [List.length_map, length] at enough
    have chosen := roomiest_eq_ok_iff.2 ⟨enough, rfl⟩
    exact ⟨_, chosen, perm_of_leading chosen distinct nodup length leading⟩

/-! ## In which order -/

/-- One worker comes before another: it has more free space or, with as much, the smaller
address. -/
def Ahead (a b : WorkerRow) : Prop :=
  b.free < a.free ∨ a.free = b.free ∧ Bytes.toUtf8 a.address < Bytes.toUtf8 b.address

instance : DecidableRel Ahead := fun a b =>
  inferInstanceAs (Decidable (b.free < a.free
    ∨ a.free = b.free ∧ Bytes.toUtf8 a.address < Bytes.toUtf8 b.address))

/-- Of two workers at most one is ahead of the other. -/
theorem Ahead.asymm (h : Ahead a b) : ¬ Ahead b a := by
  intro h'
  rw [Ahead, UInt64.lt_iff_toNat_lt] at h h'
  rcases h with more | ⟨equal, before⟩
  · rcases h' with more' | ⟨equal', -⟩
    · omega
    · rw [equal'] at more
      omega
  · rcases h' with more' | ⟨-, before'⟩
    · rw [equal] at more'
      omega
    · exact List.lt_asymm before before'

/-- These are the first so many of the candidates, in their order.  The order is `Ahead`, by free
space and then by address, so it does not depend on how the candidates are listed. -/
structure Foremost (candidates : List WorkerRow) (count : Nat) (chosen : List WorkerRow) :
    Prop where
  length : chosen.length = count
  distinct : (chosen.map (·.address)).Nodup
  listed : ∀ row ∈ chosen, row ∈ candidates
  ordered : chosen.Pairwise Ahead
  leading : ∀ row ∈ chosen, ∀ other ∈ candidates, other ∉ chosen → Ahead row other

theorem Foremost.nodup {candidates : List WorkerRow} (h : Foremost candidates count chosen) :
    chosen.Nodup :=
  List.Nodup.of_map _ h.distinct

/-- Only one list can be the first of the candidates.  Being ahead is asymmetric, so two sorted
lists of the same workers agree, and that they are the same workers is `perm_of_no_exchange`. -/
theorem Foremost.unique {candidates chosen' : List WorkerRow}
    (h : Foremost candidates count chosen) (h' : Foremost candidates count chosen') :
    chosen = chosen' := by
  have same : chosen.Perm chosen' := by
    refine perm_of_no_exchange h.nodup h'.nodup (h.length.trans h'.length.symm) ?_
    intro row mem left other mem' left'
    have forth := h.leading row mem other (h'.listed other mem') left'
    have back := h'.leading other mem' row (h.listed row mem) left
    exact forth.asymm back
  exact same.eq_of_pairwise (fun _ _ _ _ forth back => absurd back forth.asymm) h.ordered h'.ordered

/-- Who comes first does not depend on how the candidates are listed. -/
theorem Foremost.of_perm {candidates candidates' : List WorkerRow}
    (h : Foremost candidates count chosen) (same : candidates.Perm candidates') :
    Foremost candidates' count chosen where
  length := h.length
  distinct := h.distinct
  listed row mem := same.mem_iff.1 (h.listed row mem)
  ordered := h.ordered
  leading row mem other candidate := h.leading row mem other (same.mem_iff.2 candidate)

theorem ahead_of_preferred (h : preferred a b = true) (differs : a.address ≠ b.address) :
    Ahead a b := by
  rcases preferred_iff.1 h with more | ⟨equal, before⟩
  · exact .inl more
  · refine .inr ⟨equal, Bytes.compare_eq_lt_iff.1 ?_⟩
    cases way : compare a.address b.address with
    | lt => rfl
    | eq => exact absurd (Std.LawfulEqOrd.eq_of_compare way) differs
    | gt => simp [way] at before

theorem foremost_of_roomiest (h : roomiest rows space count = .ok chosen)
    (distinct : (rows.map (·.address)).Nodup) :
    Foremost (rows.filter (fits space)) count chosen where
  length := length_roomiest h
  distinct := nodup_roomiest h distinct
  listed row mem := List.mem_filter.2 (of_mem_roomiest h mem)
  ordered := by
    have differ := List.pairwise_map.1 (nodup_roomiest h distinct)
    obtain ⟨-, same⟩ := roomiest_eq_ok_iff.1 h
    have sorted : chosen.Pairwise fun a b => preferred a b = true := by
      rw [same]
      exact (sorted_mergeSort _).sublist (List.take_sublist _ _)
    exact (sorted.and differ).imp fun both => ahead_of_preferred both.1 both.2
  leading row mem other candidate left := by
    obtain ⟨listed, fit⟩ := List.mem_filter.1 candidate
    refine ahead_of_preferred (preferred_of_mem_roomiest h mem listed fit left) fun same => ?_
    have equal := List.inj_on_of_nodup_map distinct (of_mem_roomiest h mem).1 listed same
    exact left (equal ▸ mem)

/-- Of workers with different addresses exactly the first that have the space are chosen. -/
theorem roomiest_eq_ok_iff_foremost (distinct : (rows.map (·.address)).Nodup) :
    roomiest rows space count = .ok chosen
      ↔ Foremost (rows.filter (fits space)) count chosen := by
  refine ⟨fun h => foremost_of_roomiest h distinct, fun h => ?_⟩
  have enough : count ≤ (rows.filter (fits space)).length := by
    rw [← h.length]
    exact (h.nodup.subperm h.listed).length_le
  have made := roomiest_eq_ok_iff.2 ⟨enough, rfl⟩
  rw [made, (foremost_of_roomiest made distinct).unique h]

/-- The choice does not depend on the order in which the workers are listed. -/
theorem roomiest_of_perm {rows' : List WorkerRow} (distinct : (rows.map (·.address)).Nodup)
    (same : rows.Perm rows') : roomiest rows' space count = roomiest rows space count := by
  have candidates := same.filter (fits space)
  cases outcome : roomiest rows space count with
  | error e =>
    rw [roomiest_eq_error_iff] at outcome ⊢
    rwa [← candidates.length_eq]
  | ok chosen =>
    have distinct' : (rows'.map (·.address)).Nodup := (same.map _).nodup_iff.1 distinct
    rw [roomiest_eq_ok_iff_foremost distinct] at outcome
    exact (roomiest_eq_ok_iff_foremost distinct').2 (outcome.of_perm candidates)

theorem fits_eq (space : UInt64) (row : WorkerRow) :
    fits space row = decide (space.toNat ≤ row.available.toNat - row.locked.toNat) := by
  rw [fits, ← row.toNat_free]
  exact decide_eq_decide.2 UInt64.le_iff_toNat_le

/-- The choice of workers in full.  It fails for want of workers that have the space, and only so; a
worker with more locked than available has none.  Otherwise it is the list of those that come first,
unchanged and in their order, and no other list.  The order in which the workers are listed makes no
difference, neither to the choice nor to the failure.

Ties of space are broken by the address, so among workers with distinct addresses the order is
strict and only one list can come first.  With that nothing has to be known of the sorting but that
it permutes and orders, and the order of the listing drops out (`Foremost.of_perm`). -/
theorem roomiest_exact (distinct : (rows.map (·.address)).Nodup) (space : UInt64) (count : Nat) :
    let able := rows.filter fun row =>
      decide (space.toNat ≤ row.available.toNat - row.locked.toNat)
    ((∃ e, roomiest rows space count = .error e ∧ e.kind = .resourceExhausted)
        ↔ able.length < count)
      ∧ (count ≤ able.length → ∃ chosen, roomiest rows space count = .ok chosen)
      ∧ (∀ chosen, roomiest rows space count = .ok chosen ↔ Foremost able count chosen)
      ∧ ∀ listed, rows.Perm listed →
        roomiest listed space count = roomiest rows space count := by
  intro able
  have candidates : able = rows.filter (fits space) :=
    List.filter_congr fun row _ => (fits_eq space row).symm
  rw [candidates]
  refine ⟨⟨?_, fun few => ?_⟩, fun many => ?_, fun chosen => ?_, fun listed same => ?_⟩
  · rintro ⟨e, failed, -⟩
    exact (roomiest_eq_error_iff.1 failed).1
  · exact ⟨_, roomiest_eq_error_iff.2 ⟨few, rfl⟩, rfl⟩
  · exact ⟨_, roomiest_eq_ok_iff.2 ⟨many, rfl⟩⟩
  · exact roomiest_eq_ok_iff_foremost distinct
  · exact roomiest_of_perm distinct same

/-- Five workers: three with as much space free, one with less, and one with more locked than
available. -/
def fiveListed : List WorkerRow :=
  [⟨"c", 120, 20, 0⟩, ⟨"e", 10, 30, 0⟩, ⟨"b", 100, 0, 0⟩, ⟨"d", 50, 0, 0⟩, ⟨"a", 100, 0, 0⟩]

/-- Of three equal workers the two with the smaller addresses are chosen, however they are listed,
and five with the space are not found. -/
theorem roomiest_of_fiveListed :
    (fiveListed.map (·.address)).Nodup
      ∧ roomiest fiveListed 50 2 = .ok [⟨"a", 100, 0, 0⟩, ⟨"b", 100, 0, 0⟩]
      ∧ roomiest fiveListed.reverse 50 2 = .ok [⟨"a", 100, 0, 0⟩, ⟨"b", 100, 0, 0⟩]
      ∧ ∃ e, roomiest fiveListed 50 5 = .error e ∧ e.kind = .resourceExhausted := by
  have distinct : (fiveListed.map (·.address)).Nodup := by decide
  obtain ⟨-, -, chooses, listed⟩ := roomiest_exact distinct 50 2
  have chosen : roomiest fiveListed 50 2 = .ok [⟨"a", 100, 0, 0⟩, ⟨"b", 100, 0, 0⟩] :=
    (chooses _).2 ⟨rfl, by decide, by decide, by decide +kernel, by decide +kernel⟩
  have reversed := listed fiveListed.reverse (List.reverse_perm _).symm
  exact ⟨distinct, chosen, reversed.trans chosen, (roomiest_exact distinct 50 5).1.2 (by decide)⟩

end Selection

end BlobCluster
