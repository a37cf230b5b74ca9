import Mathlib
import BlobCluster.Proofs.Ledger.Booking
import BlobCluster.Proofs.Master.Books
import BlobCluster.Registration

/-!
# What the masters together promise of a worker

A worker offers every master a share of its free space.  Shares are rounded down to whole megabytes
and the size of a blob is rounded up, so the masters together can never promise more bytes than the
worker had.  What a master may still promise of a worker is its `roomOn`: a registration sets it to
the share, a placement takes the size of each copy off it, and no other call of the master touches
it, whether the copies it promised are confirmed, forgotten or promised again.  So the room on all
masters is what decreases when any of them places a blob, and `promised_le_free` adds this up over
every later sequence of calls.
-/

namespace BlobCluster

open Program

/-! ## Room on a worker -/

/-- Megabytes that may still be promised of a worker. -/
def Ledger.roomOn (ledger : Ledger) (worker : String) : Nat :=
  ((ledger.worker? worker).map (·.free.toNat)).getD 0

theorem Ledger.roomOn_of_worker? {ledger : Ledger} {worker : String} {row : WorkerRow}
    (current : ledger.worker? worker = some row) : ledger.roomOn worker = row.free.toNat := by
  rw [roomOn, current]
  rfl

/-- Megabytes of each copy that a call creates. -/
def MasterCall.copySize : MasterCall → Nat
  | .place _ size => size.toNat
  | _ => 0

/-- The call registers this worker. -/
def MasterCall.Registers (call : MasterCall) (worker : String) : Prop :=
  ∃ available, call = .register worker available

/-- How many copies on a worker a call created: those there afterwards and not before. -/
def JournalEntry.created (entry : JournalEntry) (worker : String) : Nat :=
  entry.after.copies.total fun row =>
    if row.worker = worker ∧ (entry.before.copy? row.blob row.worker).isNone then 1 else 0

namespace WorkerRow

variable {row : WorkerRow} {size : UInt64}

/-- Locking space for a copy that fits takes its size off the free space. -/
theorem free_lock (fits : Selection.fits size row = true) :
    { row with locked := row.locked + size }.free.toNat + size.toNat = row.free.toNat := by
  have sum : (row.locked + size).toNat = row.locked.toNat + size.toNat :=
    Program.toNat_add (row.locked_add_lt fits)
  by_cases covered : row.locked ≤ row.available
  · have room := row.locked_add_le covered fits
    have still : row.locked + size ≤ row.available := by
      rw [UInt64.le_iff_toNat_le, sum]
      exact room
    have before := free_add_locked covered
    have after : { row with locked := row.locked + size }.free.toNat + (row.locked + size).toNat
        = row.available.toNat := free_add_locked still
    omega
  · have none_ : row.free = 0 := if_neg covered
    have le : size ≤ row.free := by simpa [Selection.fits] using fits
    rw [none_] at le
    have zero : size = 0 := UInt64.le_zero_iff.1 le
    rw [zero, UInt64.add_zero]
    rfl

theorem free_spend (locked : size ≤ row.locked) (available : size ≤ row.available) :
    { row with locked := row.locked - size, available := row.available - size }.free.toNat
      = row.free.toNat := by
  have left := UInt64.toNat_sub_of_le _ _ locked
  have left' := UInt64.toNat_sub_of_le _ _ available
  have le := UInt64.le_iff_toNat_le.1 locked
  have le' := UInt64.le_iff_toNat_le.1 available
  by_cases covered : row.locked ≤ row.available
  · have covered' := UInt64.le_iff_toNat_le.1 covered
    have still : row.locked - size ≤ row.available - size := by
      rw [UInt64.le_iff_toNat_le, left, left']
      omega
    have before := free_add_locked covered
    have after : { row with locked := row.locked - size,
                            available := row.available - size }.free.toNat
        + (row.locked - size).toNat = (row.available - size).toNat := free_add_locked still
    omega
  · have uncovered := mt UInt64.le_iff_toNat_le.2 covered
    have still : ¬ row.locked - size ≤ row.available - size := by
      rw [UInt64.le_iff_toNat_le, left, left']
      omega
    rw [free, if_neg still, free, if_neg covered]

end WorkerRow

/-! ## One call -/

namespace JournalEntry

variable {call : MasterCall} {before after : Ledger} {blob worker : String} {size : UInt64}
  {rows : List WorkerRow}

/-- A call that leaves no copy where there was none creates none. -/
theorem created_eq_zero (there : ∀ blob worker, (after.copy? blob worker).isSome →
    (before.copy? blob worker).isSome) :
    (JournalEntry.mk call before after).created worker = 0 := by
  refine Table.total_eq_zero fun row listed => ?_
  have found : (after.copy? row.blob row.worker).isSome := by
    rw [Ledger.copy?_of_mem listed]
    rfl
  have old := there _ _ found
  refine if_neg fun both => ?_
  rw [Option.isNone_iff_eq_none] at both
  rw [both.2] at old
  cases old

theorem created_of_spent (call : MasterCall) (worker : String) {copy : CopyRow}
    (found : before.copy? copy.blob copy.worker = some copy) (row : WorkerRow) :
    (JournalEntry.mk call before
      ((before.putCopy { copy with state := .saved }).putWorker row)).created worker = 0 := by
  refine created_eq_zero fun b w there => ?_
  rw [Ledger.copy?_putWorker, Ledger.copy?_putCopy] at there
  split at there
  next here =>
    obtain ⟨rfl, rfl⟩ := here
    rw [found]
    rfl
  next => exact there

/-- A booking creates at most its copy of the blob on a worker.  The copies of other blobs are
untouched, so the count over all blobs is the count for this one, and that is at most one. -/
theorem created_of_booking (booking : Ledger.Booking blob size rows before after) :
    (JournalEntry.mk call before after).created worker
      = if (before.copy? blob worker).isNone ∧ (after.copy? blob worker).isSome then 1 else 0 := by
  have single : (JournalEntry.mk call before after).created worker
      = ((after.copy? blob worker).map fun row =>
          if row.worker = worker ∧ (before.copy? row.blob row.worker).isNone then 1
          else 0).getD 0 := by
    refine Table.total_of_single after.copies ⟨blob, worker⟩ _ fun row listed elsewhere => ?_
    refine if_neg ?_
    rintro ⟨rfl, new⟩
    have differs : row.blob ≠ blob := by
      rintro rfl
      exact elsewhere rfl
    rw [← booking.others _ _ differs, Ledger.copy?_of_mem listed] at new
    cases new
  rw [single]
  cases found : after.copy? blob worker with
  | none => simp
  | some copy =>
    obtain ⟨-, rfl, rfl⟩ := Ledger.copy?_eq_some_iff.1 found
    simp

/-- What a placement books on a worker is taken off its room. -/
theorem room_of_booking (booking : Ledger.Booking blob size rows before after)
    (current : ∀ row ∈ rows, before.worker? row.address = some row)
    (fits : ∀ row ∈ rows, Selection.fits size row = true) :
    after.roomOn worker + (JournalEntry.mk call before after).created worker * size.toNat
      = before.roomOn worker := by
  have noneNew : after.copy? blob worker = before.copy? blob worker →
      ¬ ((before.copy? blob worker).isNone ∧ (after.copy? blob worker).isSome) := by
    intro unchanged
    rw [unchanged]
    cases before.copy? blob worker <;> simp
  rw [created_of_booking booking]
  by_cases chosen : worker ∈ rows.map (·.address)
  · obtain ⟨row, mem, rfl⟩ := List.mem_map.1 chosen
    have room := Ledger.roomOn_of_worker? (current row mem)
    rcases booking.booked row mem with ⟨-, unchanged, raised⟩ | ⟨absent, ⟨id, new⟩, raised⟩
    · rw [if_neg (noneNew unchanged), room, Ledger.roomOn_of_worker? raised]
      omega
    · have locked := WorkerRow.free_lock (fits row mem)
      rw [absent, new, if_pos ⟨rfl, rfl⟩, room, Ledger.roomOn_of_worker? raised]
      omega
  · obtain ⟨unchanged, sameRow⟩ := booking.elsewhere worker chosen
    rw [if_neg (noneNew unchanged), Ledger.roomOn, sameRow, Ledger.roomOn]
    omega

end JournalEntry

/-- What a call does to the room on a worker: it takes off the size of every copy it creates, and
only placements create copies.  Room is counted in natural numbers, since sums of copies may leave
the range of the amounts in a row. -/
structure MasterCall.Rations (call : MasterCall) (worker : String) (before after : Ledger) :
    Prop where
  room : after.roomOn worker
      + (JournalEntry.mk call before after).created worker * call.copySize = before.roomOn worker
  created : (JournalEntry.mk call before after).created worker ≠ 0 →
    ∃ blob size, call = .place blob size

namespace MasterCall

variable {call : MasterCall} {worker : String} {before after : Ledger}

theorem Rations.of_same (sameRow : after.worker? worker = before.worker? worker)
    (there : ∀ blob worker, (after.copy? blob worker).isSome → (before.copy? blob worker).isSome) :
    call.Rations worker before after := by
  have none_ : (JournalEntry.mk call before after).created worker = 0 :=
    JournalEntry.created_eq_zero there
  constructor
  · rw [none_, Nat.zero_mul, Nat.add_zero, Ledger.roomOn, sameRow, Ledger.roomOn]
  · exact fun some_ => absurd none_ some_

theorem Rations.refl : call.Rations worker before before := .of_same rfl fun _ _ => id

theorem rations_confirm (blob address : String) :
    (Placement.confirm blob address).Meets false
      (fun _ after => (confirm blob address).Rations worker before after) before := by
  refine Placement.settled_confirm.mono fun r after settled => ?_
  cases settled with
  | missing => exact .refl
  | already => exact .refl
  | short => exact .refl
  | @spent copy row found pending current locked available =>
    obtain ⟨-, rfl, rfl⟩ := Ledger.copy?_eq_some_iff.1 found
    have same : row.address = copy.worker := Ledger.address_of_worker? current
    have none_ := JournalEntry.created_of_spent (confirm copy.blob copy.worker) worker found
      { row with locked := row.locked - copy.size, available := row.available - copy.size }
    refine ⟨?_, fun some_ => absurd none_ some_⟩
    rw [none_, Nat.zero_mul, Nat.add_zero]
    by_cases here : worker = copy.worker
    · have spent := WorkerRow.free_spend locked available
      rw [here, Ledger.roomOn_of_worker? current, ← spent]
      apply Ledger.roomOn_of_worker?
      rw [Ledger.worker?_putWorker, if_pos same]
    · have elsewhere : row.address ≠ worker := by
        rw [same]
        exact fun same => here same.symm
      rw [Ledger.roomOn, Ledger.worker?_putWorker, if_neg elsewhere, Ledger.worker?_putCopy,
        Ledger.roomOn]

theorem rations_register (address : String) (available : UInt64) (now : Int64)
    (other : worker ≠ address) :
    (Placement.register address available now).Meets false
      (fun _ after => (register address available).Rations worker before after) before := by
  refine (Placement.meets_register address available now).mono fun r after outcome => ?_
  split at outcome
  next =>
    obtain ⟨-, rfl⟩ := outcome
    exact .refl
  next =>
    obtain ⟨-, rfl⟩ := outcome
    apply Rations.of_same
    · rw [Ledger.worker?_putWorker, if_neg fun same => other same.symm,
        Ledger.worker?_dropWorker, if_neg other, Ledger.worker?_dropCopiesOn]
    · intro b w there
      rw [Ledger.copy?_putWorker, Ledger.copy?_dropWorker, Ledger.copy?_dropCopiesOn] at there
      split at there
      next => cases there
      next => exact there

theorem rations_place (blob : String) (size : UInt64) :
    (Placement.place blob size).Meets false
      (fun _ after => (place blob size).Rations worker before after) before := by
  refine Placement.placed_place.mono fun r after placed => ?_
  cases placed with
  | invalid => exact .refl
  | held => exact .refl
  | short => exact .refl
  | @booked rows _ valid none_ chosen bookings =>
    have listed : ∀ row ∈ rows, row ∈ before.workers.rows ∧ Selection.fits size row = true :=
      fun row mem => Selection.of_mem_roomiest chosen mem
    have booking := bookings.booking (Selection.nodup_roomiest chosen before.workers.nodup_keys)
    refine ⟨?_, fun _ => ⟨blob, size, rfl⟩⟩
    exact JournalEntry.room_of_booking booking
      (fun row mem => Ledger.worker?_of_mem (listed row mem).1)
      (fun row mem => (listed row mem).2)

end MasterCall

/-- Whatever a master is called for, it rations the room on every worker that does not register. -/
theorem Master.Calm.rations_answer {master : Master} (calm : master.Calm) (now : Int64)
    (call : MasterCall) {worker : String} (other : ¬ call.Registers worker) :
    call.Rations worker master.ledger (master.answer now call).2.ledger := by
  suffices described : (call.program now).Meets false
      (fun _ after => call.Rations worker master.ledger after) master.ledger from
    calm.answer_of_meets now call described
  cases call with
  | health => exact MasterCall.Rations.refl
  | locate blob =>
    refine Placement.unchanged_locate.mono ?_
    rintro r _ rfl
    exact .refl
  | forget blob =>
    refine Placement.meets_forget.mono ?_
    rintro r _ ⟨-, rfl⟩
    refine .of_same (Ledger.worker?_dropBlob blob) fun b w there => ?_
    rw [Ledger.copy?_dropBlob] at there
    split at there
    next => cases there
    next => exact there
  | register address available =>
    apply MasterCall.rations_register
    rintro rfl
    exact other ⟨available, rfl⟩
  | confirm blob address => exact MasterCall.rations_confirm blob address
  | place blob size => exact MasterCall.rations_place blob size

/-- A registration that is accepted sets the room on the worker to what was offered. -/
theorem Master.Calm.room_registered {master after : Master} (calm : master.Calm) {now : Int64}
    {worker : String} {available : UInt64}
    (accepted : master.answer now (.register worker available) = (.ok (), after)) :
    after.ledger.roomOn worker = available.toNat := by
  have described : ((MasterCall.register worker available).program now).Meets false
      (fun r after => r = .ok () → after.roomOn worker = available.toNat) master.ledger := by
    refine (Placement.meets_register worker available now).mono fun r after outcome answered => ?_
    split at outcome
    next =>
      rw [outcome.1] at answered
      cases answered
    next =>
      obtain ⟨-, rfl⟩ := outcome
      have current : (((master.ledger.dropCopiesOn worker).dropWorker worker).putWorker
          (.fresh worker available now)).worker? worker = some (.fresh worker available now) := by
        rw [Ledger.worker?_putWorker]
        exact if_pos rfl
      rw [Ledger.roomOn_of_worker? current]
      have nothing : (0 : UInt64) ≤ available := UInt64.zero_le
      show (if (0 : UInt64) ≤ available then available - 0 else 0).toNat = _
      rw [if_pos nothing, UInt64.sub_zero]
  have outcome := calm.answer_of_meets now (.register worker available) described
  rw [accepted] at outcome
  exact outcome rfl

/-! ## Sizes in bytes and in megabytes -/

theorem Text.le_megabytesFor (bytes : UInt64) :
    bytes.toNat ≤ mebibyte * (megabytesFor bytes).toNat := by
  rw [toNat_megabytesFor]
  unfold mebibyte
  omega

/-- The shares of all masters fit into the free bytes.  Both divisions round down, and what they
leave over is given to nobody. -/
theorem Registration.shares_le (free : UInt64) (masters : Nat) :
    Text.mebibyte * (masters * (share free masters).toNat) ≤ free.toNat := by
  unfold share
  by_cases none_ : masters = 0
  · rw [if_pos none_, none_]
    simp
  · have range := free.toNat_lt
    have le : free.toNat / Text.mebibyte / masters ≤ free.toNat :=
      (Nat.div_le_self ..).trans (Nat.div_le_self ..)
    rw [if_neg none_, UInt64.toNat_ofNat_of_lt' (by show _ < 2 ^ 64; omega)]
    calc Text.mebibyte * (masters * (free.toNat / Text.mebibyte / masters))
        ≤ Text.mebibyte * (free.toNat / Text.mebibyte) :=
          Nat.mul_le_mul_left _ (Nat.mul_div_le _ _)
      _ ≤ free.toNat := Nat.mul_div_le _ _

/-! ## All masters together -/

/-- A call of one of several masters at a time. -/
structure Errand (count : Nat) where
  master : Fin count
  now : Int64
  call : MasterCall
  /-- Bytes of the blob that is placed, if the call is a placement. -/
  bytes : UInt64

namespace Errand

variable {count : Nat}

/-- A blob is placed with the megabytes that hold it. -/
def Sized (errand : Errand count) : Prop :=
  ∀ blob size, errand.call = .place blob size → size = Text.megabytesFor errand.bytes

/-- The master that is called, after the call. -/
def answered (errand : Errand count) (masters : Fin count → Master) : Master :=
  ((masters errand.master).answer errand.now errand.call).2

/-- All masters after the call. -/
def after (errand : Errand count) (masters : Fin count → Master) : Fin count → Master :=
  Function.update masters errand.master (errand.answered masters)

/-- Bytes promised of a worker by a call: those of the blob for every copy that the call creates. -/
def promised (errand : Errand count) (worker : String) (masters : Fin count → Master) : Nat :=
  (JournalEntry.mk errand.call (masters errand.master).ledger
    (errand.answered masters).ledger).created worker * errand.bytes.toNat

/-- Bytes promised of a worker by calls one after the other, whatever becomes of the copies.  Copies
that are forgotten and placed again count each time, so a bound on this is more than one on what is
stored. -/
def promisedBy (worker : String) : (Fin count → Master) → List (Errand count) → Nat
  | _, [] => 0
  | masters, errand :: later =>
    errand.promised worker masters + promisedBy worker (errand.after masters) later

variable {masters : Fin count → Master} {worker : String} {errand : Errand count}

theorem calm_after (errand : Errand count) (calm : ∀ i, (masters i).Calm) (i : Fin count) :
    (errand.after masters i).Calm := by
  unfold after
  by_cases here : i = errand.master
  · subst here
    rw [Function.update_self]
    exact (calm _).answer _ _
  · rw [Function.update_of_ne here]
    exact calm i

/-- What one master gives away is missing from the room on all of them. -/
theorem sum_room_after (worker : String) (errand : Errand count) (masters : Fin count → Master) :
    ∑ i, (errand.after masters i).ledger.roomOn worker
        + (masters errand.master).ledger.roomOn worker
      = ∑ i, (masters i).ledger.roomOn worker + (errand.answered masters).ledger.roomOn worker := by
  have others : ∑ i ∈ Finset.univ.erase errand.master, (errand.after masters i).ledger.roomOn worker
      = ∑ i ∈ Finset.univ.erase errand.master, (masters i).ledger.roomOn worker := by
    refine Finset.sum_congr rfl fun i mem => ?_
    rw [after, Function.update_of_ne (Finset.ne_of_mem_erase mem)]
  have before := Finset.add_sum_erase Finset.univ (fun i => (masters i).ledger.roomOn worker)
    (Finset.mem_univ errand.master)
  have after_ := Finset.add_sum_erase Finset.univ
    (fun i => (errand.after masters i).ledger.roomOn worker) (Finset.mem_univ errand.master)
  have here : (errand.after masters errand.master) = errand.answered masters :=
    Function.update_self ..
  simp only [here] at after_
  omega

/-- The bytes a call promises are covered by the room it takes. -/
theorem promised_le (calm : ∀ i, (masters i).Calm) (sized : errand.Sized)
    (other : ¬ errand.call.Registers worker) :
    errand.promised worker masters
        + Text.mebibyte * ∑ i, (errand.after masters i).ledger.roomOn worker
      ≤ Text.mebibyte * ∑ i, (masters i).ledger.roomOn worker := by
  have rations := (calm errand.master).rations_answer errand.now errand.call other
  have sum := sum_room_after worker errand masters
  have room := rations.room
  obtain ⟨created, named⟩ : ∃ created, created = (JournalEntry.mk errand.call
    (masters errand.master).ledger (errand.answered masters).ledger).created worker := ⟨_, rfl⟩
  have bytes : created * errand.bytes.toNat
      ≤ Text.mebibyte * (created * errand.call.copySize) := by
    by_cases none_ : created = 0
    · rw [none_, Nat.zero_mul]
      exact Nat.zero_le _
    · obtain ⟨blob, size, placed⟩ := rations.created (named ▸ none_)
      have enough := Text.le_megabytesFor errand.bytes
      rw [← sized blob size placed] at enough
      rw [placed, Nat.mul_left_comm]
      exact Nat.mul_le_mul_left _ enough
  have total : created * errand.call.copySize
      + ∑ i, (errand.after masters i).ledger.roomOn worker
        = ∑ i, (masters i).ledger.roomOn worker := by
    rw [named]
    have here : ((masters errand.master).answer errand.now errand.call).2.ledger
      = (errand.answered masters).ledger := rfl
    rw [here] at room
    omega
  rw [promised, ← named, ← total, Nat.mul_add]
  omega

/-- No calls promise more bytes than there is room.  The induction is on the calls, with the room
that is left: each call promises no more than it takes off. -/
theorem promisedBy_le (calm : ∀ i, (masters i).Calm) (errands : List (Errand count))
    (sized : ∀ errand ∈ errands, errand.Sized)
    (other : ∀ errand ∈ errands, ¬ errand.call.Registers worker) :
    promisedBy worker masters errands ≤ Text.mebibyte * ∑ i, (masters i).ledger.roomOn worker := by
  induction errands generalizing masters with
  | nil => exact Nat.zero_le _
  | cons errand later ih =>
    have first := promised_le calm (sized errand (List.mem_cons_self ..))
      (other errand (List.mem_cons_self ..))
    have rest := ih (calm_after errand calm)
      (fun other mem => sized other (List.mem_cons_of_mem _ mem))
      (fun call mem => other call (List.mem_cons_of_mem _ mem))
    rw [promisedBy]
    omega

end Errand

/-- A worker that has offered every master its share is never promised more bytes than it had free.
The masters may have any contents when the worker registers, and may be called afterwards in any
order and for anything but a new registration of the worker, as long as no outages are planned and
blobs are placed with the megabytes that hold their bytes.  Every copy created on the worker counts,
whether it is confirmed or forgotten later.

Each copy is paid for by the room on its worker, which is its free space: creating one takes the
size off, confirming one gives nothing back, and forgetting one leaves the space locked.  So the
room on all masters together only shrinks (`Rations`), and it begins with the shares, whose sum fits
into the free bytes. -/
theorem Errand.promised_le_free {count : Nat} {worker : String} {free : UInt64}
    {masters registered : Fin count → Master} {now : Fin count → Int64}
    (calm : ∀ i, (masters i).Calm)
    (accepted : ∀ i, (masters i).answer (now i)
      (.register worker (Registration.share free count)) = (.ok (), registered i))
    (errands : List (Errand count)) (sized : ∀ errand ∈ errands, errand.Sized)
    (other : ∀ errand ∈ errands, ¬ errand.call.Registers worker) :
    promisedBy worker registered errands ≤ free.toNat := by
  have calmNow : ∀ i, (registered i).Calm := by
    intro i
    have kept := (calm i).answer (now i) (.register worker (Registration.share free count))
    rw [accepted i] at kept
    exact kept
  have rooms : ∑ i, (registered i).ledger.roomOn worker
      = count * (Registration.share free count).toNat := by
    rw [Finset.sum_congr rfl fun i _ => (calm i).room_registered (accepted i)]
    simp
  calc promisedBy worker registered errands
      ≤ Text.mebibyte * ∑ i, (registered i).ledger.roomOn worker :=
        promisedBy_le calmNow errands sized other
    _ = Text.mebibyte * (count * (Registration.share free count).toNat) := by rw [rooms]
    _ ≤ free.toNat := Registration.shares_le free count

/-! ## Two masters for a few calls -/

namespace Errand

/-- Two masters that know two workers already. -/
def staffed : Fin 2 → Master := fun _ =>
  (Master.start "m" "row").after [(0, .register "c" 100), (0, .register "b" 100)]

/-- A third worker with a little more than ten megabytes has registered with both. -/
def joined : Fin 2 → Master := fun i =>
  ((staffed i).answer 1 (.register "a" (Registration.share 10485765 2))).2

/-- Copies on the third worker that are confirmed, forgotten and placed again. -/
def fewCalls : List (Errand 2) :=
  [⟨0, 2, .place "x" 4, 3145729⟩, ⟨1, 3, .place "y" 1, 1⟩, ⟨0, 4, .confirm "x" "a", 0⟩,
    ⟨1, 5, .forget "y", 0⟩, ⟨1, 6, .place "y" 4, 4194304⟩]

/-- The copy that is placed again counts twice, and still less is promised than was free. -/
theorem promised_by_fewCalls :
    promisedBy "a" joined fewCalls = 7340034
      ∧ promisedBy "a" joined fewCalls ≤ (10485765 : UInt64).toNat := by
  have sizes : Text.megabytesFor 3145729 = 4 ∧ Text.megabytesFor 1 = 1
      ∧ Text.megabytesFor 4194304 = 4 := by
    decide +kernel
  have sized : ∀ errand ∈ fewCalls, errand.Sized := by
    simp [fewCalls, Sized, sizes]
  have other : ∀ errand ∈ fewCalls, ¬ errand.call.Registers "a" := by
    simp [fewCalls, MasterCall.Registers]
  have calm : ∀ i, (staffed i).Calm := fun _ => (Master.calm_start _ _).after _
  have accepted : ∀ i, (staffed i).answer 1 (.register "a" (Registration.share 10485765 2))
      = (.ok (), joined i) := by
    decide +kernel
  exact ⟨by cbv, promised_le_free calm accepted fewCalls sized other⟩

end Errand

end BlobCluster
