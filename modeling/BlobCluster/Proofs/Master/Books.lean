import BlobCluster.Proofs.Ledger.Balance
import BlobCluster.Proofs.Ledger.Booking

/-!
# The books of a master

A master that answers one call after another, without outages, keeps exact books.  Every call is
kept in a journal as a `JournalEntry` with the ledger before and after it.  What a worker was
granted, what was spent on it and what was stranded is read off the journal alone: off the
registrations, and off the copies that a call found pending and left confirmed or left no more.
The main result is that the rows of the ledger always agree with this account of the journal, and
that therefore the confirmation of a copy that is there never fails.  A master of which only that
much is known is `Orderly`: its books agree with some journal.

What a call writes keeps a ledger in balance, since bookings lock what is pending and a pending copy
can always be spent.  Entered into the journal, each call changes the accounts by just that, and the
calls are put together by induction.
-/

namespace BlobCluster

/-! ## Keeping the balance -/

namespace Ledger.Balances

variable {ledger after : Ledger} {accounts : String → Account} {blob worker : String}
  {size : UInt64} {rows : List WorkerRow}

/-- Bookings on workers that have the space keep the books. -/
theorem bookings (h : ledger.Balances accounts) (booked : Bookings blob size rows ledger after)
    (fits : ∀ row ∈ rows, Selection.fits size row = true) : after.Balances accounts := by
  induction booked with
  | nil => exact h
  | known current found later ih => exact ih h fun row mem => fits row (List.mem_cons_of_mem _ mem)
  | @book row _ _ _ id current absent later ih =>
    have room := row.locked_add_le (h.books current).covered (fits row (List.mem_cons_self ..))
    exact ih (h.reserve id absent current room) fun row mem => fits row (List.mem_cons_of_mem _ mem)

theorem placed {r : Except Failure (List String)} (h : ledger.Balances accounts)
    (placed : Placement.Placed blob size ledger r after) : after.Balances accounts := by
  cases placed with
  | invalid => exact h
  | held => exact h
  | short => exact h
  | booked _ _ chosen booked =>
    exact h.bookings booked fun row mem => (Selection.of_mem_roomiest chosen mem).2

/-- A pending copy can be spent, so a confirmation never finds too little space. -/
theorem not_short (h : ledger.Balances accounts) {copy : CopyRow}
    (found : ledger.copy? blob worker = some copy) (pending : copy.state = .duringCreation) :
    ∃ row, ledger.worker? worker = some row
      ∧ copy.size ≤ row.locked ∧ copy.size ≤ row.available := by
  obtain ⟨row, current⟩ := Option.isSome_iff_exists.1 (h.housed _ _ _ found)
  obtain ⟨locked, available, -⟩ := h.spend found pending current
  exact ⟨row, current, locked, available⟩

theorem settled {r : Except Failure Unit} (h : ledger.Balances accounts)
    (settled : Placement.Settled blob worker ledger r after) :
    (ledger.copy? blob worker = none ∧ r = .error (Placement.noCopy blob worker))
      ∨ r = .ok () := by
  cases settled with
  | missing absent => exact .inl ⟨absent, rfl⟩
  | already => exact .inr rfl
  | short found pending little =>
    obtain ⟨row, current, enough⟩ := h.not_short found pending
    exact absurd enough (little row current)
  | spent => exact .inr rfl

end Ledger.Balances

/-! ## The journal -/

/-- A call of a master with the ledger before and after it.  Both ledgers are kept, because what a
call has spent or stranded is read off the difference. -/
structure JournalEntry where
  call : MasterCall
  before : Ledger
  after : Ledger

namespace JournalEntry

/-- The space a worker was granted, if the call is its registration.  Without an address it would
have been refused. -/
def grant? (entry : JournalEntry) (worker : String) : Option Nat :=
  match entry.call with
  | .register address available =>
    if address.isEmpty then none else if address = worker then some available.toNat else none
  | _ => none

/-- Megabytes of the copies on a worker that the call confirmed: they were pending and are saved. -/
def spent (entry : JournalEntry) (worker : String) : Nat :=
  match entry.call with
  | .confirm _ _ => entry.before.copies.total fun row =>
    if (entry.after.copy? row.blob row.worker).any (·.state == .saved) then row.pendingOn worker
    else 0
  | _ => 0

/-- Megabytes of the copies on a worker that the call forgot while they were pending.  They are read
off the ledgers and not off the call, so a deletion that broke off strands nothing. -/
def stranded (entry : JournalEntry) (worker : String) : Nat :=
  match entry.call with
  | .forget _ => entry.before.copies.total fun row =>
    if (entry.after.copy? row.blob row.worker).isNone then row.pendingOn worker else 0
  | _ => 0

end JournalEntry

namespace Journal

/-- What a worker was granted at its last registration.  The latest entry comes first. -/
def lastGrant? (worker : String) (journal : List JournalEntry) : Option Nat :=
  journal.findSome? (·.grant? worker)

/-- The entries since the last registration of a worker. -/
def since (worker : String) (journal : List JournalEntry) : List JournalEntry :=
  journal.takeWhile fun entry => (entry.grant? worker).isNone

/-- Megabytes of all copies on a worker that were confirmed since its last registration. -/
def spentSince (worker : String) (journal : List JournalEntry) : Nat :=
  ((since worker journal).map (·.spent worker)).sum

/-- Megabytes of all copies on a worker that were forgotten since its last registration while they
were pending. -/
def strandedSince (worker : String) (journal : List JournalEntry) : Nat :=
  ((since worker journal).map (·.stranded worker)).sum

/-- The account of a worker that a journal gives. -/
def account (journal : List JournalEntry) (worker : String) : Account :=
  ⟨lastGrant? worker journal, spentSince worker journal, strandedSince worker journal⟩

variable {journal : List JournalEntry} {entry : JournalEntry} {worker : String}

theorem account_of_grant {space : Nat} (h : entry.grant? worker = some space) :
    account (entry :: journal) worker = ⟨some space, 0, 0⟩ := by
  simp [account, lastGrant?, spentSince, strandedSince, since, h]

theorem account_of_no_grant (h : entry.grant? worker = none) :
    account (entry :: journal) worker
      = (account journal worker).charge (entry.spent worker) (entry.stranded worker) := by
  simp [account, lastGrant?, spentSince, strandedSince, since, Account.charge, h, Nat.add_comm]

end Journal

/-! ## One call -/

namespace JournalEntry

variable {before after : Ledger} {blob address worker : String}

theorem spent_confirm
    (others : ∀ b w, ¬ (b = blob ∧ w = address) → after.copy? b w = before.copy? b w) :
    (JournalEntry.mk (.confirm blob address) before after).spent worker
      = ((before.copy? blob address).map fun row =>
          if (after.copy? row.blob row.worker).any (·.state == .saved) then row.pendingOn worker
          else 0).getD 0 := by
  refine Table.total_of_single before.copies ⟨blob, address⟩ _ fun row listed elsewhere => ?_
  have differs : ¬ (row.blob = blob ∧ row.worker = address) := by
    rintro ⟨rfl, rfl⟩
    exact elsewhere rfl
  rw [others _ _ differs, Ledger.copy?_of_mem listed]
  cases state : row.state <;> simp [CopyRow.pendingOn, state]

theorem stranded_forget :
    (JournalEntry.mk (.forget blob) before (before.dropBlob blob)).stranded worker
      = before.pendingOf blob worker := by
  refine Table.total_congr fun row listed => ?_
  show (if ((before.dropBlob blob).copy? row.blob row.worker).isNone then _ else _) = _
  rw [Ledger.copy?_dropBlob, Ledger.copy?_of_mem listed]
  by_cases same : row.blob = blob <;> simp [same]

end JournalEntry

namespace Journal

variable {before after : Ledger} {journal : List JournalEntry} {accounts : String → Account}

/-- A ledger that balances with accounts balances with a journal that gives the same accounts. -/
theorem balances_of_account (balanced : after.Balances accounts)
    (same : ∀ worker, account journal worker = accounts worker) :
    after.Balances (account journal) := by
  rw [funext same]
  exact balanced

/-- A call that spends and strands nothing keeps the accounts. -/
theorem balances_of_plain {call : MasterCall} (balanced : after.Balances (account journal))
    (noGrant : ∀ worker, (JournalEntry.mk call before after).grant? worker = none)
    (noneSpent : ∀ worker, (JournalEntry.mk call before after).spent worker = 0)
    (noneStranded : ∀ worker, (JournalEntry.mk call before after).stranded worker = 0) :
    after.Balances (account (⟨call, before, after⟩ :: journal)) := by
  refine balances_of_account balanced fun worker => ?_
  rw [account_of_no_grant (noGrant worker), noneSpent, noneStranded, Account.charge_zero]

theorem balances_confirm (h : before.Balances (account journal)) (blob address : String) :
    (Placement.confirm blob address).Meets false (fun _ after =>
      after.Balances (account (⟨.confirm blob address, before, after⟩ :: journal))) before := by
  refine Placement.settled_confirm.mono fun r after settled => ?_
  cases settled with
  | missing absent =>
    refine balances_of_plain h (fun _ => rfl) (fun worker => ?_) (fun _ => rfl)
    rw [JournalEntry.spent_confirm fun _ _ _ => rfl, absent]
    rfl
  | already found saved =>
    refine balances_of_plain h (fun _ => rfl) (fun worker => ?_) (fun _ => rfl)
    rw [JournalEntry.spent_confirm fun _ _ _ => rfl, found]
    simp [CopyRow.pendingOn, saved]
  | short found pending little =>
    obtain ⟨row, current, enough⟩ := h.not_short found pending
    exact absurd enough (little row current)
  | @spent copy row found pending current _ _ =>
    obtain ⟨-, -, balanced⟩ := h.spend found pending current
    refine balances_of_account balanced fun worker => ?_
    obtain ⟨-, rfl, rfl⟩ := Ledger.copy?_eq_some_iff.1 found
    rw [account_of_no_grant rfl, JournalEntry.spent_confirm, found]
    · have now : ((before.putCopy { copy with state := .saved }).putWorker
          { row with locked := row.locked - copy.size,
                     available := row.available - copy.size }).copy? copy.blob copy.worker
          = some { copy with state := .saved } := by
        rw [Ledger.copy?_putWorker, Ledger.copy?_putCopy, if_pos ⟨rfl, rfl⟩]
      have confirmed :
          (some { copy with state := CopyState.saved }).any (·.state == .saved) = true := rfl
      show (account journal worker).charge _ 0 = _
      rw [Option.map_some, Option.getD_some, now, if_pos confirmed, CopyRow.pendingOn]
      by_cases here : worker = copy.worker
      · rw [if_pos here, if_pos ⟨here.symm, pending⟩]
      · rw [if_neg here, if_neg fun both => here both.1.symm]
    · intro b w differs
      rw [Ledger.copy?_putWorker, Ledger.copy?_putCopy]
      exact if_neg fun both => differs ⟨both.1.symm, both.2.symm⟩

theorem balances_register (h : before.Balances (account journal)) (address : String)
    (available : UInt64) (now : Int64) :
    (Placement.register address available now).Meets false (fun _ after =>
      after.Balances (account (⟨.register address available, before, after⟩ :: journal)))
      before := by
  refine (Placement.meets_register address available now).mono fun r after outcome => ?_
  split at outcome
  next refused =>
    obtain ⟨-, rfl⟩ := outcome
    exact balances_of_plain h (fun _ => if_pos refused) (fun _ => rfl) (fun _ => rfl)
  next accepted =>
    obtain ⟨-, rfl⟩ := outcome
    refine balances_of_account (h.register address available now) fun worker => ?_
    by_cases here : worker = address
    · rw [if_pos here]
      apply account_of_grant
      show (if address.isEmpty then none else if address = worker then _ else _) = _
      rw [if_neg accepted, if_pos here.symm]
    · rw [if_neg here, account_of_no_grant]
      · exact Account.charge_zero _
      · show (if address.isEmpty then none else if address = worker then _ else _) = _
        rw [if_neg accepted, if_neg fun same => here same.symm]

theorem balances_forget (h : before.Balances (account journal)) (blob : String) :
    (Placement.forget blob).Meets false (fun _ after =>
      after.Balances (account (⟨.forget blob, before, after⟩ :: journal))) before := by
  refine Placement.meets_forget.mono ?_
  rintro r after ⟨-, rfl⟩
  refine balances_of_account h.dropBlob fun worker => ?_
  rw [account_of_no_grant rfl, JournalEntry.stranded_forget]
  rfl

/-- Whatever the call, books that agree with a journal agree with it after the call is entered. -/
theorem balances_program (h : before.Balances (account journal)) (now : Int64)
    (call : MasterCall) :
    (call.program now).Meets false (fun _ after =>
      after.Balances (account (⟨call, before, after⟩ :: journal))) before := by
  cases call with
  | health => exact balances_of_plain h (fun _ => rfl) (fun _ => rfl) (fun _ => rfl)
  | place blob size =>
    refine Placement.placed_place.mono fun _ after placed => ?_
    exact balances_of_plain (h.placed placed) (fun _ => rfl) (fun _ => rfl) (fun _ => rfl)
  | locate blob =>
    refine Placement.unchanged_locate.mono ?_
    rintro r _ rfl
    exact balances_of_plain h (fun _ => rfl) (fun _ => rfl) (fun _ => rfl)
  | confirm blob address => exact balances_confirm h blob address
  | register address available => exact balances_register h address available now
  | forget blob => exact balances_forget h blob

end Journal

/-! ## All calls -/

namespace Master

open Journal

/-- The master after calls, the latest of which comes first. -/
def after (master : Master) : List (Int64 × MasterCall) → Master
  | [] => master
  | (now, call) :: earlier => ((master.after earlier).answer now call).2

def journal (master : Master) : List (Int64 × MasterCall) → List JournalEntry
  | [] => []
  | (now, call) :: earlier =>
    let before := master.after earlier
    ⟨call, before.ledger, (before.answer now call).2.ledger⟩ :: master.journal earlier

theorem Calm.after {master : Master} (calm : master.Calm) (calls : List (Int64 × MasterCall)) :
    (master.after calls).Calm := by
  induction calls with
  | nil => exact calm
  | cons call earlier ih => exact ih.answer call.1 call.2

/-- The registrations of some workers with as much space each. -/
def joining (space : UInt64) (workers : List String) : List (Int64 × MasterCall) :=
  workers.map fun worker => (0, .register worker space)

theorem balances_after (address label : String) (calls : List (Int64 × MasterCall)) :
    ((start address label).after calls).ledger.Balances
      (account ((start address label).journal calls)) := by
  induction calls with
  | nil => exact Ledger.balances_empty
  | cons call earlier ih =>
    have calm := (calm_start address label).after earlier
    exact calm.answer_of_meets call.1 call.2 (balances_program ih call.1 call.2)

/-- No outages are planned, and the books agree with some journal. -/
structure Orderly (master : Master) : Prop where
  calm : master.Calm
  books : ∃ journal, master.ledger.Balances (account journal)

theorem orderly_start (address label : String) : (start address label).Orderly :=
  ⟨calm_start address label, [], Ledger.balances_empty⟩

theorem Orderly.answer {master : Master} (h : master.Orderly) (now : Int64) (call : MasterCall) :
    (master.answer now call).2.Orderly := by
  obtain ⟨journal, balanced⟩ := h.books
  exact ⟨h.calm.answer now call, _,
    h.calm.answer_of_meets now call (balances_program balanced now call)⟩

theorem Orderly.after {master : Master} (h : master.Orderly) (calls : List (Int64 × MasterCall)) :
    (master.after calls).Orderly := by
  induction calls with
  | nil => exact h
  | cons call earlier ih => exact ih.answer call.1 call.2

theorem Calm.placed {master after : Master} (calm : master.Calm) {now : Int64} {blob : String}
    {size : UInt64} {r : Except Failure (List String)}
    (answered : master.answer now (.place blob size) = (r, after)) :
    Placement.Placed blob size master.ledger r after.ledger := by
  have placed := calm.answer_of_meets now (.place blob size) Placement.placed_place
  rw [answered] at placed
  exact placed

theorem Calm.settled {master : Master} (calm : master.Calm) (now : Int64) (blob worker : String) :
    Placement.Settled blob worker master.ledger (master.answer now (.confirm blob worker)).1
      (master.answer now (.confirm blob worker)).2.ledger :=
  calm.answer_of_meets now (.confirm blob worker) Placement.settled_confirm

/-- Where the books balance, a confirmation succeeds on a copy that is there and otherwise says
that there is none. -/
theorem Calm.answer_confirm {master : Master} {accounts : String → Account} (calm : master.Calm)
    (balanced : master.ledger.Balances accounts) (now : Int64) (blob worker : String) :
    (master.ledger.copy? blob worker = none
        ∧ (master.answer now (.confirm blob worker)).1 = .error (Placement.noCopy blob worker))
      ∨ (master.answer now (.confirm blob worker)).1 = .ok () :=
  balanced.settled (calm.settled now blob worker)

/-- A master in order confirms a copy that is there, and no copy is gone afterwards. -/
theorem Orderly.confirm {master : Master} (h : master.Orderly) (now : Int64) {blob worker : String}
    (there : (master.ledger.copy? blob worker).isSome) :
    (master.answer now (.confirm blob worker)).1 = .ok ()
      ∧ ∀ other address, (master.ledger.copy? other address).isSome →
        ((master.answer now (.confirm blob worker)).2.ledger.copy? other address).isSome := by
  obtain ⟨journal, balanced⟩ := h.books
  refine ⟨?_, fun other address => (h.calm.settled now blob worker).isSome⟩
  rcases h.calm.answer_confirm balanced now blob worker with ⟨absent, -⟩ | answered
  · rw [absent] at there
    cases there
  · exact answered

/-- A master that has answered any calls, one after the other and without outages, keeps exact
books.  What a worker has available is what it was granted at its last registration less what was
confirmed since; what it has locked is what is pending on it and what was forgotten since while it
was pending; and no more is locked than available.  Every copy lies on a worker that is there.  So
the confirmation of a copy that is there succeeds, and any other fails because there is no copy.

The invariant is `Ledger.Balances` with the accounts that the journal gives.  A call is entered with
the ledger before and after it, and what it spends and strands is read off these two, so that the
induction over the calls has to know the programs only through what they leave. -/
theorem books_balance (address label : String) (calls : List (Int64 × MasterCall)) :
    let master := (start address label).after calls
    let journal := (start address label).journal calls
    (∀ row ∈ master.ledger.workers.rows, ∃ granted,
        lastGrant? row.address journal = some granted
          ∧ row.available.toNat = granted - spentSince row.address journal
          ∧ spentSince row.address journal ≤ granted
          ∧ row.locked.toNat
              = master.ledger.pendingOn row.address + strandedSince row.address journal
          ∧ row.locked ≤ row.available)
      ∧ (∀ copy ∈ master.ledger.copies.rows, ∃ row ∈ master.ledger.workers.rows,
          row.address = copy.worker)
      ∧ (∀ copy ∈ master.ledger.copies.rows, ∀ now,
          (master.answer now (.confirm copy.blob copy.worker)).1 = .ok ())
      ∧ ∀ now blob worker e, (master.answer now (.confirm blob worker)).1 = .error e →
          e = Placement.noCopy blob worker := by
  intro master journal
  have balanced : master.ledger.Balances (account journal) := balances_after address label calls
  have calm : master.Calm := (calm_start address label).after calls
  refine ⟨fun row listed => ?_, fun copy listed => ?_, fun copy listed now => ?_,
    fun now blob worker e => ?_⟩
  · have agrees := balanced.books (Ledger.worker?_of_mem listed)
    have available : lastGrant? row.address journal
      = some (row.available.toNat + spentSince row.address journal) := agrees.available
    exact ⟨_, available, by omega, by omega, agrees.locked, agrees.covered⟩
  · have housed := balanced.housed _ _ _ (Ledger.copy?_of_mem listed)
    obtain ⟨row, found⟩ := Option.isSome_iff_exists.1 housed
    exact ⟨row, Ledger.worker?_eq_some_iff.1 found⟩
  · have found := Ledger.copy?_of_mem listed
    rcases calm.answer_confirm balanced now copy.blob copy.worker with ⟨absent, -⟩ | answered
    · rw [absent] at found
      cases found
    · exact answered
  · intro failed
    rcases calm.answer_confirm balanced now blob worker with ⟨-, refused⟩ | answered
    · exact Except.error.inj (failed.symm.trans refused)
    · cases failed.symm.trans answered

end Master

end BlobCluster
