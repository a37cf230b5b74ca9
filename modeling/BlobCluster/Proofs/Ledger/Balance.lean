import BlobCluster.Proofs.Ledger.Lookup
import BlobCluster.Proofs.Ledger.Selection
import BlobCluster.Proofs.Table.Total

/-!
# The books of a ledger

What a worker has available and locked can be checked against an `Account` of it: the space it was
granted, how much of it was spent on confirmed copies, and how much is stranded because the copies
it was locked for are gone.  A ledger `Balances` when every row agrees with the account of its
worker and every copy lies on a worker that is there.

Each change of a ledger that a call makes has one lemma here, which says how the accounts go on:
reserving leaves them alone, spending moves the size of a copy to what is spent, forgetting a blob
strands what its copies had locked, and registering opens a new account.
-/

namespace BlobCluster

/-- Megabytes a copy holds locked on a worker: its size, as long as it is not confirmed. -/
def CopyRow.pendingOn (row : CopyRow) (worker : String) : Nat :=
  if row.worker = worker ∧ row.state = .duringCreation then row.size.toNat else 0

/-- What became of the space of a worker.  Its row has the same in two numbers, what is available
and what is locked; the account keeps apart what was spent from what was stranded. -/
structure Account where
  /-- Megabytes at the registration, if there was one. -/
  granted : Option Nat
  /-- Megabytes of copies confirmed since. -/
  spent : Nat
  /-- Megabytes of copies forgotten since that were not confirmed. -/
  stranded : Nat

namespace Account

/-- The account after more was spent and stranded. -/
def charge (account : Account) (spent stranded : Nat) : Account :=
  { account with spent := account.spent + spent, stranded := account.stranded + stranded }

/-- The account of a worker that has just registered. -/
def opened (space : UInt64) : Account := ⟨some space.toNat, 0, 0⟩

@[simp] theorem charge_zero (account : Account) : account.charge 0 0 = account := rfl

end Account

/-- The row of a worker agrees with its account, when so much is pending on it.  Sums are taken of
natural numbers, so agreement also says that no amount in the row has wrapped around. -/
structure WorkerRow.Agrees (row : WorkerRow) (pending : Nat) (account : Account) : Prop where
  available : account.granted = some (row.available.toNat + account.spent)
  locked : row.locked.toNat = pending + account.stranded
  covered : row.locked ≤ row.available

namespace WorkerRow.Agrees

variable {row : WorkerRow} {pending : Nat} {account : Account} {size : UInt64}

/-- What is pending is locked, and what is locked is there. -/
theorem room (h : row.Agrees (pending + size.toNat) account) :
    size ≤ row.locked ∧ size ≤ row.available := by
  have locked := h.locked
  have enough : size ≤ row.locked := by
    rw [UInt64.le_iff_toNat_le]
    omega
  exact ⟨enough, UInt64.le_trans enough h.covered⟩

/-- What was pending is spent: it leaves the row and goes to the account. -/
theorem spend (h : row.Agrees (pending + size.toNat) account) :
    ({ row with locked := row.locked - size, available := row.available - size }).Agrees pending
      (account.charge size.toNat 0) := by
  obtain ⟨enoughLocked, enough⟩ := h.room
  have locked := UInt64.toNat_sub_of_le _ _ enoughLocked
  have available := UInt64.toNat_sub_of_le _ _ enough
  have sizes := UInt64.le_iff_toNat_le.1 enough
  have covered := UInt64.le_iff_toNat_le.1 h.covered
  have before := h.locked
  constructor
  · show account.granted
      = some ((row.available - size).toNat + (account.spent + size.toNat))
    rw [h.available, available]
    congr 1
    omega
  · show (row.locked - size).toNat = pending + account.stranded
    omega
  · show row.locked - size ≤ row.available - size
    rw [UInt64.le_iff_toNat_le, locked, available]
    omega

end WorkerRow.Agrees

namespace Ledger

variable {ledger : Ledger} {accounts : String → Account} {blob worker : String}

/-! ## What is pending -/

/-- Megabytes of the copies on a worker that are not confirmed. -/
def pendingOn (ledger : Ledger) (worker : String) : Nat :=
  ledger.copies.total (·.pendingOn worker)

/-- The part of them that belongs to one blob. -/
def pendingOf (ledger : Ledger) (blob worker : String) : Nat :=
  ledger.copies.total fun row => if row.blob = blob then row.pendingOn worker else 0

@[simp] theorem pendingOn_putWorker (row : WorkerRow) :
    (ledger.putWorker row).pendingOn worker = ledger.pendingOn worker := rfl

@[simp] theorem pendingOn_dropWorker (gone : String) :
    (ledger.dropWorker gone).pendingOn worker = ledger.pendingOn worker := rfl

theorem pendingOn_putCopy (ledger : Ledger) (worker : String) (row : CopyRow) :
    (ledger.putCopy row).pendingOn worker
        + ((ledger.copy? row.blob row.worker).map (·.pendingOn worker)).getD 0
      = ledger.pendingOn worker + row.pendingOn worker :=
  Table.total_put ledger.copies row _

/-- What is pending on a worker splits into what belongs to a blob and what stays without it. -/
theorem pendingOn_dropBlob (ledger : Ledger) (blob worker : String) :
    (ledger.dropBlob blob).pendingOn worker + ledger.pendingOf blob worker
      = ledger.pendingOn worker := by
  have kept := Table.total_keep ledger.copies (·.blob != blob) (·.pendingOn worker)
  have both := Table.total_add ledger.copies
    (fun row => if row.blob != blob then row.pendingOn worker else 0)
    (fun row => if row.blob = blob then row.pendingOn worker else 0)
  have whole : (ledger.copies.total fun row =>
      (if row.blob != blob then row.pendingOn worker else 0)
        + if row.blob = blob then row.pendingOn worker else 0) = ledger.pendingOn worker := by
    refine Table.total_congr fun row _ => ?_
    by_cases same : row.blob = blob <;> simp [same]
  have left : (ledger.dropBlob blob).pendingOn worker
      = ledger.copies.total fun row => if row.blob != blob then row.pendingOn worker else 0 := kept
  have right : ledger.pendingOf blob worker
      = ledger.copies.total fun row => if row.blob = blob then row.pendingOn worker else 0 := rfl
  omega

theorem pendingOn_dropCopiesOn (gone : String) :
    (ledger.dropCopiesOn gone).pendingOn worker
      = if worker = gone then 0 else ledger.pendingOn worker := by
  have kept : (ledger.dropCopiesOn gone).pendingOn worker
      = ledger.copies.total fun row => if row.worker != gone then row.pendingOn worker else 0 :=
    Table.total_keep ledger.copies (·.worker != gone) (·.pendingOn worker)
  rw [kept]
  by_cases here : worker = gone
  · rw [if_pos here]
    refine Table.total_eq_zero fun row _ => ?_
    by_cases there : row.worker = gone
    · simp [there]
    · have elsewhere : row.worker ≠ worker := fun same => there (same.trans here)
      simp [CopyRow.pendingOn, elsewhere]
  · rw [if_neg here]
    refine Table.total_congr fun row _ => ?_
    by_cases there : row.worker = gone
    · have elsewhere : row.worker ≠ worker := fun same => here (same.symm.trans there)
      simp [CopyRow.pendingOn, elsewhere]
    · simp [there]

/-- A copy that is not confirmed is part of what is pending on its worker. -/
theorem size_le_pendingOn {copy : CopyRow} (found : ledger.copy? blob worker = some copy)
    (pending : copy.state = .duringCreation) : copy.size.toNat ≤ ledger.pendingOn worker := by
  obtain ⟨listed, -, here⟩ := copy?_eq_some_iff.1 found
  have le := Table.le_total (·.pendingOn worker) listed
  have all : copy.pendingOn worker = copy.size.toNat := if_pos ⟨here, pending⟩
  rw [← all]
  exact le

/-! ## Balance -/

/-- Every row agrees with the account of its worker, and every copy lies on a worker that is
there. -/
structure Balances (ledger : Ledger) (accounts : String → Account) : Prop where
  books : ∀ {address row}, ledger.worker? address = some row →
    row.Agrees (ledger.pendingOn address) (accounts address)
  housed : ledger.Housed

theorem balances_empty : Ledger.empty.Balances accounts where
  books found := nomatch found
  housed := housed_empty

/-- Reserving space for a new copy leaves the accounts as they are.  The row must be the current
one: a reservation that writes back an older row would forget what was locked in between. -/
theorem Balances.reserve (h : ledger.Balances accounts) {row : WorkerRow} {size : UInt64}
    (id : String) (absent : ledger.copy? blob row.address = none)
    (current : ledger.worker? row.address = some row)
    (room : row.locked.toNat + size.toNat ≤ row.available.toNat) :
    ((ledger.putCopy ⟨id, blob, row.address, .duringCreation, size⟩).putWorker
      { row with locked := row.locked + size }).Balances accounts := by
  have range : row.locked.toNat + size.toNat < UInt64.size :=
    Nat.lt_of_le_of_lt room row.available.toNat_lt
  have locked : (row.locked + size).toNat = row.locked.toNat + size.toNat :=
    Program.toNat_add range
  constructor
  · intro address found there
    have pending := pendingOn_putCopy ledger address ⟨id, blob, row.address, .duringCreation, size⟩
    simp only [absent, Option.map_none, Option.getD_none, CopyRow.pendingOn] at pending
    rw [worker?_putWorker] at there
    rw [pendingOn_putWorker]
    split at there
    next here =>
      cases there
      obtain rfl : row.address = address := here
      have old := h.books current
      rw [if_pos ⟨rfl, trivial⟩] at pending
      refine ⟨old.available, ?_, ?_⟩
      · show (row.locked + size).toNat = _
        have before := old.locked
        omega
      · show row.locked + size ≤ row.available
        rw [UInt64.le_iff_toNat_le, locked]
        exact room
    next elsewhere =>
      have old := h.books (worker?_putCopy _ ▸ there)
      rw [if_neg fun both => elsewhere both.1] at pending
      refine ⟨old.available, ?_, old.covered⟩
      have before := old.locked
      omega
  · refine (h.housed.putCopy ?_).putWorker _
    rw [current]
    rfl

/-- Spending what was reserved for a copy moves its size to what is spent on its worker.  That there
is enough to subtract is part of the conclusion, because a pending copy is one of the summands of
what is locked. -/
theorem Balances.spend (h : ledger.Balances accounts) {copy : CopyRow} {row : WorkerRow}
    (found : ledger.copy? blob worker = some copy) (pending : copy.state = .duringCreation)
    (current : ledger.worker? worker = some row) :
    copy.size ≤ row.locked ∧ copy.size ≤ row.available
      ∧ ((ledger.putCopy { copy with state := .saved }).putWorker
          { row with locked := row.locked - copy.size,
                     available := row.available - copy.size }).Balances
          fun address => (accounts address).charge
            (if address = worker then copy.size.toNat else 0) 0 := by
  have part := size_le_pendingOn found pending
  obtain ⟨-, rfl, rfl⟩ := copy?_eq_some_iff.1 found
  have agrees : row.Agrees
      (ledger.pendingOn copy.worker - copy.size.toNat + copy.size.toNat)
      (accounts copy.worker) := by
    rw [Nat.sub_add_cancel part]
    exact h.books current
  refine ⟨agrees.room.1, agrees.room.2, ?_, ?_⟩
  · intro address other there
    have sums := pendingOn_putCopy ledger address { copy with state := .saved }
    simp only [found, Option.map_some, Option.getD_some, CopyRow.pendingOn, pending] at sums
    rw [worker?_putWorker, address_of_worker? current] at there
    rw [pendingOn_putWorker]
    split at there
    next here =>
      cases there
      obtain rfl : copy.worker = address := here
      rw [if_pos ⟨rfl, trivial⟩, if_neg fun both => nomatch both.2] at sums
      have left : (ledger.putCopy { copy with state := .saved }).pendingOn copy.worker
          = ledger.pendingOn copy.worker - copy.size.toNat := by omega
      have spent := agrees.spend
      rw [address_of_worker? current] at spent
      rw [if_pos rfl, left]
      exact spent
    next elsewhere =>
      have old := h.books (worker?_putCopy _ ▸ there)
      rw [if_neg fun both => elsewhere both.1, if_neg fun both => elsewhere both.1] at sums
      rw [if_neg fun same => elsewhere same.symm, Account.charge_zero]
      refine ⟨old.available, ?_, old.covered⟩
      have before := old.locked
      omega
  · refine (h.housed.putCopy ?_).putWorker _
    rw [current]
    rfl

/-- Forgetting a blob strands what its copies had locked.  The rows of the workers are not written,
so what the copies had locked stays locked and has to be accounted for. -/
theorem Balances.dropBlob (h : ledger.Balances accounts) :
    (ledger.dropBlob blob).Balances fun address =>
      (accounts address).charge 0 (ledger.pendingOf blob address) := by
  constructor
  · intro address row found
    have old := h.books (worker?_dropBlob blob ▸ found)
    have split_ := pendingOn_dropBlob ledger blob address
    refine ⟨old.available, ?_, old.covered⟩
    show row.locked.toNat
      = _ + ((accounts address).stranded + ledger.pendingOf blob address)
    have before := old.locked
    omega
  · exact h.housed.dropBlob blob

/-- A worker that registers has nothing pending, and its account is opened anew. -/
theorem Balances.register (h : ledger.Balances accounts) (address : String) (available : UInt64)
    (now : Int64) :
    (((ledger.dropCopiesOn address).dropWorker address).putWorker
      (.fresh address available now)).Balances
      fun worker => if worker = address then .opened available else accounts worker := by
  constructor
  · intro worker row found
    rw [worker?_putWorker, worker?_dropWorker, worker?_dropCopiesOn] at found
    rw [pendingOn_putWorker, pendingOn_dropWorker, pendingOn_dropCopiesOn]
    by_cases here : worker = address
    · have same : (WorkerRow.fresh address available now).address = worker := here.symm
      rw [if_pos same] at found
      cases found
      rw [if_pos here, if_pos here]
      refine ⟨rfl, rfl, ?_⟩
      show (0 : UInt64) ≤ available
      rw [UInt64.le_iff_toNat_le]
      exact Nat.zero_le _
    · have elsewhere : ¬ (WorkerRow.fresh address available now).address = worker :=
        fun same => here same.symm
      rw [if_neg elsewhere, if_neg here] at found
      rw [if_neg here, if_neg here]
      exact h.books found
  · exact (h.housed.dropWorker address).putWorker _

end Ledger

end BlobCluster
