import BlobCluster.Proofs.Ledger.Lookup
import BlobCluster.Proofs.Ledger.Outcome
import BlobCluster.Proofs.Ledger.Selection

/-!
# Which copies a call confirms or drops

Whatever queries of a call fail, it confirms no other copies than it `Gains` and drops no other
confirmed copies than it `Loses`: only a confirmation confirms, only a registration or a deletion
drops.  Copies stay on workers that are there all along, since a registration drops the copies of a
worker before its row.

What a call says when it succeeds is tied to the ledger it leaves: a placement names every holder, a
confirmation has confirmed its copy, and after a deletion nothing of the blob is left.
-/

namespace BlobCluster

/-- The copies that a call may confirm. -/
def MasterCall.Gains (call : MasterCall) (blob worker : String) : Prop :=
  match call with
  | .confirm blob' worker' => blob = blob' ∧ worker = worker'
  | _ => False

/-- The copies that a call may drop. -/
def MasterCall.Loses (call : MasterCall) (blob worker : String) : Prop :=
  match call with
  | .register address _ => worker = address
  | .forget blob' => blob = blob'
  | _ => False

def Ledger.Saved (ledger : Ledger) (blob worker : String) : Prop :=
  ∃ copy, ledger.copy? blob worker = some copy ∧ copy.state = .saved

/-- What a successful answer says about the ledger that the call leaves.  Of a placement it says
that nobody else holds the blob.  An upload relies on this when it reports success after it has
saved on the named workers only. -/
def MasterCall.Says : (call : MasterCall) → call.Answer → Ledger → Prop
  | .place blob _, addresses, after =>
    BlobId.Valid blob ∧ addresses ≠ [] ∧ ∀ worker, after.Saved blob worker → worker ∈ addresses
  | .confirm blob worker, _, after => after.Saved blob worker
  | .forget blob, _, after => ∀ worker, ¬ after.Saved blob worker
  | .health, _, _ | .locate _, _, _ | .register _ _, _, _ => True

namespace Ledger

variable {ledger after : Ledger} {blob worker : String} {call : MasterCall}

/-- What a call may do to a ledger.  It speaks of confirmed copies alone: this is all that guards
are about, and it holds of calls that are struck at any query. -/
structure Follows (ledger : Ledger) (call : MasterCall) (after : Ledger) : Prop where
  housed : after.Housed
  gained : ∀ blob worker, after.Saved blob worker →
    ledger.Saved blob worker ∨ call.Gains blob worker
  lost : ∀ blob worker, ledger.Saved blob worker →
    after.Saved blob worker ∨ call.Loses blob worker

theorem Follows.of_same (housed : after.Housed)
    (same : ∀ blob worker, after.Saved blob worker ↔ ledger.Saved blob worker) :
    ledger.Follows call after :=
  ⟨housed, fun blob worker saved => .inl ((same blob worker).1 saved),
    fun blob worker saved => .inl ((same blob worker).2 saved)⟩

theorem Follows.refl (housed : ledger.Housed) : ledger.Follows call ledger :=
  .of_same housed fun _ _ => Iff.rfl

theorem saved_iff :
    ledger.Saved blob worker ↔ ∃ copy ∈ ledger.savedCopiesOf blob, copy.worker = worker := by
  constructor
  · rintro ⟨copy, found, state⟩
    obtain rfl := worker_of_copy? found
    exact ⟨copy, mem_savedCopiesOf.2 ⟨found, state⟩, rfl⟩
  · rintro ⟨copy, mem, rfl⟩
    exact ⟨copy, mem_savedCopiesOf.1 mem⟩

theorem savedCopiesOf_eq_nil_iff :
    ledger.savedCopiesOf blob = [] ↔ ∀ worker, ¬ ledger.Saved blob worker := by
  constructor
  · intro none_ worker saved
    obtain ⟨copy, listed, -⟩ := saved_iff.1 saved
    rw [none_] at listed
    cases listed
  · intro none_
    exact List.eq_nil_iff_forall_not_mem.2 fun copy mem =>
      none_ copy.worker (saved_iff.2 ⟨copy, mem, rfl⟩)

@[simp] theorem saved_putWorker (row : WorkerRow) :
    (ledger.putWorker row).Saved blob worker ↔ ledger.Saved blob worker := Iff.rfl

/-- A new copy that is not confirmed changes nothing about those that are. -/
theorem saved_putCopy_of_absent {row : CopyRow} (absent : ledger.copy? row.blob row.worker = none)
    (pending : row.state = .duringCreation) :
    (ledger.putCopy row).Saved blob worker ↔ ledger.Saved blob worker := by
  unfold Saved
  rw [copy?_putCopy]
  split
  next here =>
    obtain ⟨rfl, rfl⟩ := here
    simp [absent, pending]
  next => rfl

theorem saved_putCopy_of_saved {row : CopyRow} (saved : row.state = .saved) :
    (ledger.putCopy row).Saved blob worker
      ↔ (row.blob = blob ∧ row.worker = worker) ∨ ledger.Saved blob worker := by
  unfold Saved
  rw [copy?_putCopy]
  split
  next here => simp [here, saved]
  next elsewhere => simp [elsewhere]

/-- Putting a copy as confirmed is what a confirmation may do. -/
theorem follows_putCopy_of_saved (housed : ledger.Housed) {copy : CopyRow}
    (there : (ledger.worker? copy.worker).isSome) :
    ledger.Follows (.confirm copy.blob copy.worker)
      (ledger.putCopy { copy with state := .saved }) := by
  have saved : ∀ b w, (ledger.putCopy { copy with state := .saved }).Saved b w
      ↔ (copy.blob = b ∧ copy.worker = w) ∨ ledger.Saved b w :=
    fun _ _ => saved_putCopy_of_saved rfl
  refine ⟨housed.putCopy there, fun b w is => ?_, fun b w is => ?_⟩
  · rcases (saved b w).1 is with ⟨rfl, rfl⟩ | before
    · exact .inr ⟨rfl, rfl⟩
    · exact .inl before
  · exact .inl ((saved b w).2 (.inr is))

theorem saved_dropBlob {gone : String} :
    (ledger.dropBlob gone).Saved blob worker ↔ blob ≠ gone ∧ ledger.Saved blob worker := by
  unfold Saved
  rw [copy?_dropBlob]
  split
  next here => simp [here]
  next elsewhere => simp [elsewhere]

theorem saved_dropCopiesOn {gone : String} :
    (ledger.dropCopiesOn gone).Saved blob worker ↔ worker ≠ gone ∧ ledger.Saved blob worker := by
  unfold Saved
  rw [copy?_dropCopiesOn]
  split
  next here => simp [here]
  next elsewhere => simp [elsewhere]

end Ledger

/-! ## Calls whose queries may fail -/

namespace Placement

open Program

variable {ledger : Ledger} {blob worker : String} {size : UInt64}

/-- What reserving leaves: the same confirmed copies, and at least the same workers. -/
structure Reserves (ledger after : Ledger) : Prop where
  housed : after.Housed
  saved : ∀ blob worker, after.Saved blob worker ↔ ledger.Saved blob worker
  workers : ∀ worker, (ledger.worker? worker).isSome → (after.worker? worker).isSome

theorem Reserves.refl (housed : ledger.Housed) : Reserves ledger ledger :=
  ⟨housed, fun _ _ => Iff.rfl, fun _ => id⟩

theorem Reserves.trans {between after : Ledger} (h : Reserves ledger between)
    (h' : Reserves between after) : Reserves ledger after :=
  ⟨h'.housed, fun blob worker => (h'.saved blob worker).trans (h.saved blob worker),
    fun worker there => h'.workers worker (h.workers worker there)⟩

theorem reserves_reserve (blob : String) (size : UInt64) (housed : ledger.Housed) {row : WorkerRow}
    (there : (ledger.worker? row.address).isSome) :
    (reserve blob size row).Meets true (fun _ after => Reserves ledger after) ledger := by
  have unchanged := Reserves.refl housed
  refine .query (fun _ _ => unchanged) rfl ?_
  cases absent : ledger.copy? blob row.address with
  | some copy => exact unchanged
  | none =>
    intro id
    have added : Reserves ledger (ledger.putCopy ⟨id, blob, row.address, .duringCreation, size⟩) :=
      ⟨housed.putCopy there, fun _ _ => Ledger.saved_putCopy_of_absent absent rfl, fun _ is => is⟩
    refine .query (fun _ _ => unchanged) rfl ?_
    show ((Program.sum row.locked size).bind _).Meets _ _ _
    unfold Program.sum
    split
    · refine .last (fun _ _ => added) (Query.perform_updateWorker ?_) ?_
      · exact added.workers _ there
      · exact ⟨added.housed.putWorker _, added.saved,
          fun worker here => Ledger.isSome_putWorker (added.workers worker here)⟩
    · exact added

theorem reserves_reserveAll (blob : String) (size : UInt64) {rows : List WorkerRow}
    (housed : ledger.Housed) (there : ∀ row ∈ rows, (ledger.worker? row.address).isSome) :
    (reserveAll blob size rows).Meets true (fun _ after => Reserves ledger after) ledger := by
  induction rows generalizing ledger with
  | nil => exact Reserves.refl housed
  | cons row rest ih =>
    refine Meets.bind ((reserves_reserve blob size housed (there row (List.mem_cons_self ..))).mono
      ?_)
    rintro (e | _) between reserves
    · exact reserves
    · refine (ih reserves.housed fun other mem => ?_).mono fun _ after => reserves.trans
      exact reserves.workers _ (there other (List.mem_cons_of_mem _ mem))

/-- A placement confirms and drops nothing; if it succeeds, it names every worker that has a
confirmed copy, and at least one worker. -/
theorem follows_place (housed : ledger.Housed) :
    (place blob size).Meets true (fun r after => ledger.Follows (.place blob size) after
      ∧ ∀ addresses, r = .ok addresses → BlobId.Valid blob ∧ addresses ≠ []
        ∧ ∀ worker, after.Saved blob worker → worker ∈ addresses) ledger := by
  have unchanged : ∀ e : Failure, ledger.Follows (.place blob size) ledger
      ∧ ∀ addresses, (Except.error e : Except Failure (List String)) = .ok addresses →
        BlobId.Valid blob ∧ addresses ≠ []
          ∧ ∀ worker, ledger.Saved blob worker → worker ∈ addresses :=
    fun e => ⟨.refl housed, nofun⟩
  refine .ofExcept (fun e _ => unchanged e) fun _ accepted => ?_
  have valid : BlobId.Valid blob := BlobId.validate_eq_ok_iff.1 accepted
  refine .query (fun _ e => unchanged e) rfl ?_
  show (if (ledger.savedCopiesOf blob).isEmpty then _ else _ : Program (List String)).Meets _ _ _
  split
  next none_ =>
    have noneSaved := Ledger.savedCopiesOf_eq_nil_iff.1 (List.isEmpty_iff.1 none_)
    cases chosen : Selection.roomiest ledger.workers.rows size replication with
    | error e =>
      exact .refused (fun _ e => unchanged e) (by rw [Query.perform, chosen]; rfl) (unchanged e)
    | ok rows =>
      refine .query (fun _ e => unchanged e) (by rw [Query.perform, chosen]; rfl) (Meets.bind ?_)
      have there : ∀ row ∈ rows, (ledger.worker? row.address).isSome := by
        intro row mem
        rw [Ledger.worker?_of_mem (Selection.of_mem_roomiest chosen mem).1]
        rfl
      refine (reserves_reserveAll blob size housed there).mono ?_
      rintro (e | _) after reserves
      · exact ⟨.of_same reserves.housed reserves.saved, nofun⟩
      · refine ⟨.of_same reserves.housed reserves.saved, ?_⟩
        rintro _ ⟨⟩
        refine ⟨valid, ?_, fun worker saved => ?_⟩
        · intro empty
          have three := Selection.length_roomiest chosen
          rw [List.map_eq_nil_iff.1 empty] at three
          cases three
        · exact absurd ((reserves.saved _ _).1 saved) (noneSaved worker)
  next some_ =>
    refine ⟨.refl housed, ?_⟩
    rintro _ ⟨⟩
    refine ⟨valid, ?_, ?_⟩
    · intro empty
      rw [List.map_eq_nil_iff.1 empty] at some_
      exact some_ rfl
    · intro worker saved
      obtain ⟨copy, listed, rfl⟩ := Ledger.saved_iff.1 saved
      exact List.mem_map_of_mem listed

/-- Without outages a blob that nobody has goes to the roomiest workers. -/
theorem run_place {rows : List WorkerRow} (valid : BlobId.Valid blob)
    (new : ledger.savedCopiesOf blob = [])
    (chosen : Selection.roomiest ledger.workers.rows size replication = .ok rows) (mint : Mint) :
    (place blob size).run Outages.strike ⟨ledger, mint, []⟩
      = ((reserveAll blob size rows).bind fun _ => .done (rows.map (·.address))).run Outages.strike
          ⟨ledger, mint, []⟩ := by
  have performed : (Query.roomiest size replication).perform ledger = .ok (rows, ledger) := by
    rw [Query.perform, chosen]
    rfl
  show ((Program.ofExcept (BlobId.validate blob)).bind _).run _ _ = _
  rw [BlobId.validate_eq_ok_iff.2 valid]
  refine (Program.run_query (q := .savedCopies blob) rfl _).trans ?_
  rw [new]
  exact Program.run_query performed _

theorem follows_locate (housed : ledger.Housed) :
    (locate blob).Meets true (fun _ after => ledger.Follows (.locate blob) after) ledger := by
  have unchanged : ledger.Follows (.locate blob) ledger := .refl housed
  refine .query (fun _ _ => unchanged) rfl ?_
  cases saved : ledger.savedCopiesOf blob with
  | nil => exact unchanged
  | cons copy rest =>
    refine ⟨fun _ _ => unchanged, ?_⟩
    show Resolved _ _ ((ledger.worker copy.worker).map _)
    cases ledger.worker copy.worker with
    | error e => exact unchanged
    | ok row => exact unchanged

/-- A blob with a confirmed copy is found where it is confirmed, if all queries get through. -/
theorem meets_locate_of_saved (housed : ledger.Housed) (saved : ledger.Saved blob worker) :
    (locate blob).Meets false (fun r _ => ∃ holder, r = .ok holder ∧ ledger.Saved blob holder)
      ledger := by
  refine .query nofun rfl ?_
  cases listed : ledger.savedCopiesOf blob with
  | nil =>
    obtain ⟨copy, mem, -⟩ := Ledger.saved_iff.1 saved
    rw [listed] at mem
    cases mem
  | cons copy rest =>
    have mem : copy ∈ ledger.savedCopiesOf blob := by
      rw [listed]
      exact List.mem_cons_self ..
    have found := (Ledger.mem_savedCopiesOf.1 mem).1
    obtain ⟨row, there⟩ := Option.isSome_iff_exists.1 (housed _ _ _ found)
    refine .query nofun (Query.perform_worker there) ⟨row.address, rfl, ?_⟩
    rw [Ledger.address_of_worker? there]
    exact Ledger.saved_iff.2 ⟨copy, mem, rfl⟩

/-- A confirmation confirms at most its copy, and it has done so if it succeeds.  It does not need
the confirmation to get through: the copy is put as confirmed or is left, and the queries after that
are about the row of the worker. -/
theorem follows_confirm (housed : ledger.Housed) :
    (confirm blob worker).Meets true (fun r after =>
      ledger.Follows (.confirm blob worker) after ∧ (r = .ok () → after.Saved blob worker))
      ledger := by
  have unchanged : ∀ e : Failure, ledger.Follows (.confirm blob worker) ledger
      ∧ ((Except.error e : Except Failure Unit) = .ok () → ledger.Saved blob worker) :=
    fun e => ⟨.refl housed, nofun⟩
  refine .query (fun _ e => unchanged e) rfl ?_
  cases found : ledger.copy? blob worker with
  | none => exact unchanged _
  | some copy =>
    show (if copy.state = .saved then _ else _ : Program Unit).Meets _ _ _
    split
    next saved => exact ⟨.refl housed, fun _ => ⟨copy, found, saved⟩⟩
    next =>
      refine ⟨fun _ e => unchanged e, ?_⟩
      show Resolved _ _ ((ledger.worker worker).map _)
      cases current : ledger.worker worker with
      | error e => exact unchanged e
      | ok row =>
        have there := Ledger.worker_eq_ok_iff.1 current
        obtain ⟨-, rfl, rfl⟩ := Ledger.copy?_eq_some_iff.1 found
        show ((spend row.locked copy.size _).bind _).Meets _ _ _
        unfold spend
        split
        · show ((spend row.available copy.size _).bind _).Meets _ _ _
          unfold spend
          split
          · refine .query (fun _ e => unchanged e) rfl ?_
            have isThere : (ledger.worker? copy.worker).isSome := by
              rw [there]
              rfl
            have follows : ledger.Follows (.confirm copy.blob copy.worker)
                (ledger.putCopy { copy with state := .saved }) :=
              Ledger.follows_putCopy_of_saved housed isThere
            refine .last (fun _ e => ⟨follows, nofun⟩) (Query.perform_updateWorker ?_) ?_
            · show (ledger.worker? row.address).isSome
              rw [Ledger.address_of_worker? there, there]
              rfl
            · exact ⟨⟨follows.housed.putWorker _, follows.gained, follows.lost⟩,
                fun _ => (Ledger.saved_putCopy_of_saved rfl).2 (.inl ⟨rfl, rfl⟩)⟩
          · exact unchanged _
        · exact unchanged _

theorem follows_register (housed : ledger.Housed) (address : String) (available : UInt64)
    (now : Int64) :
    (register address available now).Meets true (fun _ after =>
      ledger.Follows (.register address available) after) ledger := by
  have unchanged : ledger.Follows (.register address available) ledger := .refl housed
  have dropped : ∀ after : Ledger, after.Housed →
      (∀ b w, after.Saved b w ↔ w ≠ address ∧ ledger.Saved b w) →
      ledger.Follows (.register address available) after := by
    intro after housed' same
    refine ⟨housed', fun b w saved => .inl ((same b w).1 saved).2, fun b w saved => ?_⟩
    by_cases here : w = address
    · exact .inr here
    · exact .inl ((same b w).2 ⟨here, saved⟩)
  unfold register
  split
  · exact unchanged
  · refine .query (fun _ _ => unchanged) rfl ?_
    have first := dropped (ledger.dropCopiesOn address) (housed.dropCopiesOn address)
      fun _ _ => Ledger.saved_dropCopiesOn
    refine .query (fun _ _ => first) rfl ?_
    have second := dropped ((ledger.dropCopiesOn address).dropWorker address)
      (housed.dropWorker address) fun _ _ => Ledger.saved_dropCopiesOn
    refine .last (fun _ _ => second) (Query.perform_addWorker ?_) ?_
    · show ((ledger.dropCopiesOn address).dropWorker address).worker? address = none
      rw [Ledger.worker?_dropWorker, if_pos rfl]
    · exact dropped _ (second.housed.putWorker _) fun _ _ => Ledger.saved_dropCopiesOn

/-- A deletion drops at most its blob, and nothing of the blob is left if it succeeds. -/
theorem follows_forget (housed : ledger.Housed) :
    (forget blob).Meets true (fun r after => ledger.Follows (.forget blob) after
      ∧ ∀ addresses, r = .ok addresses → ∀ worker, ¬ after.Saved blob worker) ledger := by
  have unchanged : ∀ e : Failure, ledger.Follows (.forget blob) ledger
      ∧ ∀ addresses, (Except.error e : Except Failure (List String)) = .ok addresses →
        ∀ worker, ¬ ledger.Saved blob worker :=
    fun e => ⟨.refl housed, nofun⟩
  refine .query (fun _ e => unchanged e) rfl (.query (fun _ e => unchanged e) rfl ?_)
  refine ⟨⟨housed.dropBlob blob, fun b w saved => ?_, fun b w saved => ?_⟩, ?_⟩
  · exact .inl (Ledger.saved_dropBlob.1 saved).2
  · by_cases here : b = blob
    · exact .inr here
    · exact .inl (Ledger.saved_dropBlob.2 ⟨here, saved⟩)
  · rintro _ ⟨⟩ worker saved
    exact (Ledger.saved_dropBlob.1 saved).1 rfl

end Placement

/-- Whatever queries fail, a call confirms and drops only what it may, and a successful answer says
what it should. -/
theorem MasterCall.follows_program {ledger : Ledger} (housed : ledger.Housed) (now : Int64)
    (call : MasterCall) :
    (call.program now).Meets true (fun r after => ledger.Follows call after
      ∧ ∀ answer, r = .ok answer → call.Says answer after) ledger := by
  cases call with
  | health => exact ⟨.refl housed, fun _ _ => trivial⟩
  | place blob size => exact Placement.follows_place housed
  | locate blob =>
    exact (Placement.follows_locate housed).mono fun _ _ follows => ⟨follows, fun _ _ => trivial⟩
  | confirm blob worker =>
    exact (Placement.follows_confirm housed).mono fun _ _ h => ⟨h.1, fun _ same => h.2 same⟩
  | register address available =>
    exact (Placement.follows_register housed address available now).mono
      fun _ _ follows => ⟨follows, fun _ _ => trivial⟩
  | forget blob => exact Placement.follows_forget housed

/-- Whatever outages are planned, a call of a master confirms and drops only what it may, and a
successful answer says what it should. -/
theorem Master.follows_answer {master : Master} (housed : master.ledger.Housed) (now : Int64)
    (call : MasterCall) :
    master.ledger.Follows call (master.answer now call).2.ledger
      ∧ ∀ answer, (master.answer now call).1 = .ok answer →
        call.Says answer (master.answer now call).2.ledger :=
  master.answer_of_meets now call (fun _ => ⟨.refl housed, nofun⟩) (call.follows_program housed now)

end BlobCluster
