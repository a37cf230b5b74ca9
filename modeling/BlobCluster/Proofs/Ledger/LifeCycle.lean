import BlobCluster.Proofs.Ledger.Deeds
import BlobCluster.Proofs.Ledger.Holders

/-!
# The life of a copy

Queries write whole rows, so nothing in the ledger itself keeps a query from overwriting a confirmed
copy.  What keeps copies intact is the order in which calls pose their queries, and that is the
content of `MasterCall.Permits`: what one query of a call may make of a copy.  A copy is born by a
placement of its blob, where there was none and while no copy of the blob is confirmed; it keeps its
identifier and its size and changes its state once, by its confirmation; and it is gone only by a
deletion of its blob or a registration of its worker.

`permitted_program` shows that every query of every call is permitted, on any ledger and whichever
queries fail, and `issues_program` that every new copy gets an identifier of its own.
-/

namespace BlobCluster

open Program

/-- What a query posed for a call may make of the copy of a blob on a worker.  One row for each way
in which a copy may be there before and after.  That a copy changes nothing but its state, and this
in one direction only, is the third of them. -/
def MasterCall.Permits (call : MasterCall) (q : Query) (before : Ledger) (blob worker : String) :
    Option CopyRow → Option CopyRow → Prop
  | none, none => True
  | none, some new => call = .place blob new.size ∧ q = .addCopy new ∧ new.state = .duringCreation
    ∧ ∀ other, ¬ before.Saved blob other
  | some old, some new => new.id = old.id ∧ new.size = old.size
    ∧ (new.state = old.state
      ∨ call = .confirm blob worker ∧ old.state = .duringCreation ∧ new.state = .saved)
  | some _, none => call = .forget blob ∨ ∃ available, call = .register worker available

/-- A query posed for a call does to every copy what it may. -/
def MasterCall.Permitted (call : MasterCall) (q : Query) (before after : Ledger) : Prop :=
  ∀ blob worker, call.Permits q before blob worker (before.copy? blob worker)
    (after.copy? blob worker)

namespace MasterCall

variable {call : MasterCall} {q : Query} {before after ledger : Ledger} {blob worker : String}
  {size : UInt64}

theorem permits_same (copy : Option CopyRow) : call.Permits q before blob worker copy copy := by
  cases copy with
  | none => trivial
  | some copy => exact ⟨rfl, rfl, .inl rfl⟩

theorem permitted_of_same
    (same : ∀ blob worker, after.copy? blob worker = before.copy? blob worker) :
    call.Permitted q before after := by
  intro blob worker
  rw [same]
  exact permits_same _

theorem permitted_refl : call.Permitted q ledger ledger := permitted_of_same fun _ _ => rfl

theorem permitted_create {row : CopyRow} (absent : ledger.copy? row.blob row.worker = none)
    (pending : row.state = .duringCreation) (noneSaved : ∀ other, ¬ ledger.Saved row.blob other) :
    (place row.blob row.size).Permitted (.addCopy row) ledger (ledger.putCopy row) := by
  intro blob worker
  rw [Ledger.copy?_putCopy]
  split
  next here =>
    obtain ⟨rfl, rfl⟩ := here
    rw [absent]
    exact ⟨rfl, rfl, pending, noneSaved⟩
  next => exact permits_same _

theorem permitted_confirm {copy : CopyRow} (found : ledger.copy? copy.blob copy.worker = some copy)
    (pending : copy.state = .duringCreation) :
    (confirm copy.blob copy.worker).Permitted q ledger
      (ledger.putCopy { copy with state := .saved }) := by
  intro blob worker
  rw [Ledger.copy?_putCopy]
  split
  next here =>
    obtain ⟨rfl, rfl⟩ := here
    rw [found]
    exact ⟨rfl, rfl, .inr ⟨rfl, pending, rfl⟩⟩
  next => exact permits_same _

theorem permitted_dropBlob : (forget blob).Permitted q ledger (ledger.dropBlob blob) := by
  intro other worker
  rw [Ledger.copy?_dropBlob]
  split
  next here =>
    subst here
    cases ledger.copy? other worker with
    | none => trivial
    | some copy => exact .inl rfl
  next => exact permits_same _

theorem permitted_dropCopiesOn (available : UInt64) :
    (register worker available).Permitted q ledger (ledger.dropCopiesOn worker) := by
  intro blob other
  rw [Ledger.copy?_dropCopiesOn]
  split
  next here =>
    subst here
    cases ledger.copy? blob other with
    | none => trivial
    | some copy => exact .inr ⟨available, rfl⟩
  next => exact permits_same _

/-! ## Queries of calls -/

theorem along_worker {β : Type} {step : Query → Ledger → Ledger → Prop}
    {post : β → Ledger → Prop} {address : String} {f : WorkerRow → Program β}
    (stepped : step (.worker address) ledger ledger)
    (next : ∀ row, ledger.worker? address = some row → (f row).Along step post ledger) :
    ((query (.worker address)).bind f).Along step post ledger := by
  intro row after performed
  cases found : ledger.worker? address with
  | none =>
    rw [Query.perform, Ledger.worker, found] at performed
    cases performed
  | some current =>
    rw [Query.perform_worker found] at performed
    cases performed
    exact ⟨stepped, next _ found⟩

theorem along_roomiest {β : Type} {step : Query → Ledger → Ledger → Prop}
    {post : β → Ledger → Prop} {space : UInt64} {count : Nat} {f : List WorkerRow → Program β}
    (stepped : step (.roomiest space count) ledger ledger)
    (next : ∀ rows, Selection.roomiest ledger.workers.rows space count = .ok rows →
      (f rows).Along step post ledger) :
    ((query (.roomiest space count)).bind f).Along step post ledger := by
  intro rows after performed
  cases chosen : Selection.roomiest ledger.workers.rows space count with
  | error e =>
    rw [Query.perform, chosen] at performed
    cases performed
  | ok found =>
    rw [Query.perform, chosen] at performed
    cases performed
    exact ⟨stepped, next _ chosen⟩

theorem along_updateWorker {step : Query → Ledger → Ledger → Prop} {post : Unit → Ledger → Prop}
    {row : WorkerRow} (stepped : step (.updateWorker row) ledger (ledger.putWorker row))
    (ended : post () (ledger.putWorker row)) :
    (query (.updateWorker row)).Along step post ledger := by
  intro answer after performed
  have answered : ∃ written, ledger.updateWorker row = .ok written ∧ written = after := by
    cases updated : ledger.updateWorker row with
    | error e =>
      rw [Query.perform, updated] at performed
      cases performed
    | ok written =>
      rw [Query.perform, updated] at performed
      cases performed
      exact ⟨after, rfl, rfl⟩
  obtain ⟨written, updated, rfl⟩ := answered
  obtain ⟨-, rfl⟩ := Ledger.updateWorker_eq_ok_iff.1 updated
  exact ⟨stepped, ended⟩

/-- A reservation creates at most its copy, and confirms none. -/
theorem permitted_reserve (noneSaved : ∀ other, ¬ ledger.Saved blob other) (row : WorkerRow) :
    (Placement.reserve blob size row).Along (place blob size).Permitted
      (fun _ after => ∀ other, ¬ after.Saved blob other) ledger := by
  rintro found _ ⟨⟩
  refine ⟨permitted_refl, ?_⟩
  cases absent : ledger.copy? blob row.address with
  | some copy => exact noneSaved
  | none =>
    intro id
    rintro _ _ ⟨⟩
    have same : ∀ other, (ledger.putCopy ⟨id, blob, row.address, .duringCreation, size⟩).Saved
        blob other ↔ ledger.Saved blob other :=
      fun _ => Ledger.saved_putCopy_of_absent absent rfl
    have created : (place blob size).Permitted
        (.addCopy ⟨id, blob, row.address, .duringCreation, size⟩) ledger
        (ledger.putCopy ⟨id, blob, row.address, .duringCreation, size⟩) :=
      permitted_create absent rfl noneSaved
    refine ⟨created, ?_⟩
    show ((Program.sum row.locked size).bind _).Along _ _ _
    unfold Program.sum
    split
    · have copies : (place blob size).Permitted
          (.updateWorker { row with locked := row.locked + size })
          (ledger.putCopy ⟨id, blob, row.address, .duringCreation, size⟩)
          ((ledger.putCopy ⟨id, blob, row.address, .duringCreation, size⟩).putWorker
            { row with locked := row.locked + size }) :=
        permitted_of_same fun _ _ => Ledger.copy?_putWorker _
      refine along_updateWorker copies fun other saved => ?_
      exact noneSaved other ((same other).1 ((Ledger.saved_putWorker _).1 saved))
    · trivial

theorem permitted_reserveAll (noneSaved : ∀ other, ¬ ledger.Saved blob other)
    (rows : List WorkerRow) :
    (Placement.reserveAll blob size rows).Along (place blob size).Permitted (fun _ _ => True)
      ledger := by
  induction rows generalizing ledger with
  | nil => trivial
  | cons row rest ih =>
    exact Along.bind ((permitted_reserve noneSaved row).mono fun _ _ still => ih still)

theorem permitted_place :
    (Placement.place blob size).Along (place blob size).Permitted (fun _ _ => True) ledger := by
  unfold Placement.place
  cases BlobId.validate blob with
  | error e => trivial
  | ok accepted =>
    rintro saved _ ⟨⟩
    refine ⟨permitted_refl, ?_⟩
    show (if (ledger.savedCopiesOf blob).isEmpty then _ else _ : Program (List String)).Along _ _ _
    split
    next none_ =>
      have noneSaved := Ledger.savedCopiesOf_eq_nil_iff.1 (List.isEmpty_iff.1 none_)
      refine along_roomiest permitted_refl fun rows _ => ?_
      show ((Placement.reserveAll blob size rows).bind _).Along _ _ _
      exact Along.bind ((permitted_reserveAll noneSaved rows).mono fun _ _ _ => trivial)
    next => trivial

theorem permitted_locate :
    (Placement.locate blob).Along (locate blob).Permitted (fun _ _ => True) ledger := by
  rintro saved _ ⟨⟩
  refine ⟨permitted_refl, ?_⟩
  cases ledger.savedCopiesOf blob with
  | nil => trivial
  | cons copy rest => exact along_worker permitted_refl fun _ _ => trivial

theorem permitted_confirmation :
    (Placement.confirm blob worker).Along (confirm blob worker).Permitted (fun _ _ => True)
      ledger := by
  rintro found _ ⟨⟩
  refine ⟨permitted_refl, ?_⟩
  cases current : ledger.copy? blob worker with
  | none => trivial
  | some copy =>
    show (if copy.state = .saved then _ else _ : Program Unit).Along _ _ _
    cases pending : copy.state with
    | saved => trivial
    | duringCreation =>
      refine along_worker permitted_refl fun row there => ?_
      show ((Placement.spend row.locked copy.size _).bind _).Along _ _ _
      unfold Placement.spend
      split
      · show ((Placement.spend row.available copy.size _).bind _).Along _ _ _
        unfold Placement.spend
        split
        · obtain ⟨-, rfl, rfl⟩ := Ledger.copy?_eq_some_iff.1 current
          rintro _ _ ⟨⟩
          exact ⟨permitted_confirm current pending,
            along_updateWorker (permitted_of_same fun _ _ => Ledger.copy?_putWorker _) trivial⟩
        · trivial
      · trivial

theorem permitted_registration (available : UInt64) (now : Int64) :
    (Placement.register worker available now).Along (register worker available).Permitted
      (fun _ _ => True) ledger := by
  unfold Placement.register
  split
  next => trivial
  next =>
    rintro _ _ ⟨⟩
    refine ⟨permitted_dropCopiesOn available, ?_⟩
    rintro _ _ ⟨⟩
    refine ⟨permitted_of_same fun _ _ => rfl, ?_⟩
    intro answer after performed
    have new : ((ledger.dropCopiesOn worker).dropWorker worker).worker?
        (WorkerRow.fresh worker available now).address = none := by
      show ((ledger.dropCopiesOn worker).dropWorker worker).worker? worker = none
      rw [Ledger.worker?_dropWorker, if_pos rfl]
    rw [Query.perform_addWorker new] at performed
    cases performed
    exact ⟨permitted_of_same fun _ _ => rfl, trivial⟩

/-- Every query of a call does to the copies what it may, whatever the ledger and whichever
queries fail. -/
theorem permitted_program (now : Int64) (call : MasterCall) (ledger : Ledger) :
    (call.program now).Along call.Permitted (fun _ _ => True) ledger := by
  cases call with
  | health => trivial
  | place blob size => exact permitted_place
  | locate blob => exact permitted_locate
  | confirm blob worker => exact permitted_confirmation
  | register address available => exact permitted_registration available now
  | forget blob =>
    rintro copies _ ⟨⟩
    refine ⟨permitted_refl, ?_⟩
    rintro _ _ ⟨⟩
    exact ⟨permitted_dropBlob, trivial⟩

/-! ## Identifiers of calls -/

theorem issues_reserveAll (blob : String) (size : UInt64) (rows : List WorkerRow) :
    (Placement.reserveAll blob size rows).Issues [] := by
  induction rows with
  | nil => trivial
  | cons row rest ih =>
    refine Issues.bind (.query rfl fun found => ?_) fun _ => ih
    cases found with
    | some copy => trivial
    | none =>
      intro id
      refine ⟨[], List.Sublist.refl _, fun _ => ?_⟩
      show ((Program.sum row.locked size).bind _).Issues []
      unfold Program.sum
      split
      · exact ⟨[], List.Sublist.refl _, fun _ => trivial⟩
      · trivial

theorem issues_place (blob : String) (size : UInt64) : (Placement.place blob size).Issues [] := by
  unfold Placement.place
  cases BlobId.validate blob with
  | error e => trivial
  | ok accepted =>
    refine .query rfl fun saved => ?_
    show (if saved.isEmpty then _ else _ : Program (List String)).Issues []
    split
    · exact .query rfl fun rows => Issues.bind (issues_reserveAll blob size rows) fun _ => trivial
    · trivial

theorem issues_confirm (blob worker : String) : (Placement.confirm blob worker).Issues [] := by
  refine .query rfl fun found => ?_
  cases found with
  | none => trivial
  | some copy =>
    show (if copy.state = .saved then _ else _ : Program Unit).Issues []
    split
    · trivial
    · refine .query rfl fun row => ?_
      show ((Placement.spend row.locked copy.size _).bind _).Issues []
      unfold Placement.spend
      split
      · show ((Placement.spend row.available copy.size _).bind _).Issues []
        unfold Placement.spend
        split
        · exact .query rfl fun _ => ⟨[], List.Sublist.refl _, fun _ => trivial⟩
        · trivial
      · trivial

/-- A call gives every copy it creates an identifier that it has drawn for it. -/
theorem issues_program (now : Int64) (call : MasterCall) : (call.program now).Issues [] := by
  cases call with
  | health => trivial
  | place blob size => exact issues_place blob size
  | locate blob =>
    refine .query rfl fun saved => ?_
    cases saved with
    | nil => trivial
    | cons copy rest => exact .query rfl fun _ => trivial
  | confirm blob worker => exact issues_confirm blob worker
  | register address available =>
    show (Placement.register address available now).Issues []
    unfold Placement.register
    split
    · trivial
    · exact .query rfl fun _ => .query rfl fun _ => ⟨[], List.Sublist.refl _, fun _ => trivial⟩
  | forget blob => exact .query rfl fun copies => .query rfl fun _ => trivial

end MasterCall

end BlobCluster
