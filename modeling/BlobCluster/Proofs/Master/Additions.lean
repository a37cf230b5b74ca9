import BlobCluster.Master.Client
import BlobCluster.Proofs.Ledger.LifeCycle
import BlobCluster.Proofs.Wire.Forms

/-!
# What adds copies to a ledger

A ledger gets a copy of a blob only by a placement of that blob, whichever queries fail.  Over a
link a call is a request, so this also rests on the forms: of all requests that are sent for calls
only that of a placement is read as one, and it is read as a placement of the same blob.
-/

namespace BlobCluster

open Http Wire

/-- Copies are only added of blobs that may be added. -/
def Ledger.AddsOnly (added : String → Prop) (before after : Ledger) : Prop :=
  ∀ blob worker, (after.copy? blob worker).isSome → (before.copy? blob worker).isSome ∨ added blob

namespace Ledger.AddsOnly

variable {added : String → Prop} {before between after : Ledger}

theorem refl (ledger : Ledger) : ledger.AddsOnly added ledger := fun _ _ there => Or.inl there

theorem trans (h : before.AddsOnly added between) (h' : between.AddsOnly added after) :
    before.AddsOnly added after := by
  intro blob worker there
  rcases h' blob worker there with earlier | new
  · exact h blob worker earlier
  · exact Or.inr new

theorem mono {more : String → Prop} (h : before.AddsOnly added after)
    (weaker : ∀ blob, added blob → more blob) : before.AddsOnly more after :=
  fun blob worker there => (h blob worker there).imp_right (weaker blob)

end Ledger.AddsOnly

/-- Deeds that are all in a relation lead from a ledger to one that is in the relation.  It makes a
statement about single queries one about whole calls, struck or not. -/
theorem Deed.Leads.related {R : Ledger → Ledger → Prop} (refl : ∀ ledger, R ledger ledger)
    (trans : ∀ {before between after}, R before between → R between after → R before after)
    {start stop : Ledger} {deeds : List Deed} (led : Deed.Leads start deeds stop)
    (each : ∀ q before after, .perform q before after ∈ deeds → R before after) : R start stop := by
  induction deeds generalizing start with
  | nil => exact led ▸ refl start
  | cons deed later ih =>
    have rest : ∀ q before after, .perform q before after ∈ later → R before after :=
      fun q before after mem => each q before after (List.mem_cons_of_mem _ mem)
    cases deed with
    | draw id => exact ih led rest
    | perform q before after =>
      obtain ⟨rfl, -, led'⟩ := led
      exact trans (each q before after List.mem_cons_self) (ih led' rest)

namespace MasterCall

/-- The call places the blob. -/
def Places (call : MasterCall) (blob : String) : Prop := ∃ size, call = .place blob size

variable {call : MasterCall} {q : Query} {before after : Ledger}

theorem Permitted.addsOnly (permitted : call.Permitted q before after) :
    before.AddsOnly call.Places after := by
  intro blob worker there
  have may := permitted blob worker
  cases earlier : before.copy? blob worker with
  | some copy => exact Or.inl rfl
  | none =>
    obtain ⟨copy, new⟩ := Option.isSome_iff_exists.1 there
    rw [earlier, new] at may
    exact Or.inr ⟨copy.size, may.1⟩

end MasterCall

namespace Master

/-- A master adds copies of a blob only for a placement of the blob. -/
theorem addsOnly_answer (master : Master) (now : Int64) (call : MasterCall) :
    master.ledger.AddsOnly call.Places (master.answer now call).2.ledger := by
  unfold answer
  rcases master.outages.strike call.kind with ⟨_ | e, outages⟩
  · refine (Program.leads_deeds (call.program now) master.desk).related (.refl ·) .trans ?_
    intro q before after mem
    have along : (call.program now).Along call.Permitted (fun _ _ => True) master.desk.ledger :=
      MasterCall.permitted_program _ _ _
    exact (along.deeds mem).addsOnly
  · exact .refl _

/-! ## Requests -/

/-- The request is read as a placement of the blob. -/
def AsksToPlace (request : Request) (blob : String) : Prop :=
  ∃ limit form, readForm limit PlacementForm.read request = .ok form ∧ form.blob = blob

variable {now : Int64} {request : Request} {master : Master}

theorem addsOnly_withSegment {added : String → Prop} (segment : String)
    {next : String → StateM Master Response}
    (h : ∀ value, master.ledger.AddsOnly added (next value master).2.ledger) :
    master.ledger.AddsOnly added (withSegment segment next master).2.ledger := by
  unfold withSegment
  cases segmentValue? segment with
  | some value => exact h value
  | none => exact .refl _

theorem addsOnly_withForm {α : Type} {added : String → Prop} (limit : Nat)
    {reading : Json.Reading α} {next : α → StateM Master Response}
    (h : ∀ form, readForm limit reading request = .ok form →
      master.ledger.AddsOnly added (next form master).2.ledger) :
    master.ledger.AddsOnly added (withForm limit reading request next master).2.ledger := by
  unfold withForm
  cases read : readForm limit reading request with
  | ok form => exact h form read
  | error response => exact .refl _

theorem addsOnly_of_not_places {added : String → Prop} {call : MasterCall}
    (noPlacement : ∀ blob, ¬ call.Places blob) :
    master.ledger.AddsOnly added (master.answer now call).2.ledger :=
  (master.addsOnly_answer now call).mono fun blob places => absurd places (noPlacement blob)

/-- A request adds copies of a blob only if it is read as a placement of the blob. -/
theorem addsOnly_serveEndpoint (limit : Nat) (endpoint : Endpoint) :
    master.ledger.AddsOnly (AsksToPlace request)
      (serveEndpoint now limit request endpoint master).2.ledger := by
  cases endpoint with
  | health => exact addsOnly_of_not_places nofun
  | locate segment => exact addsOnly_withSegment segment fun blob => addsOnly_of_not_places nofun
  | forget segment => exact addsOnly_withSegment segment fun blob => addsOnly_of_not_places nofun
  | confirm => exact addsOnly_withForm limit fun form _ => addsOnly_of_not_places nofun
  | register => exact addsOnly_withForm limit fun form _ => addsOnly_of_not_places nofun
  | place =>
    refine addsOnly_withForm limit fun form read => ?_
    refine (master.addsOnly_answer now (.place form.blob form.size)).mono ?_
    rintro blob ⟨size, same⟩
    cases same
    exact ⟨limit, form, read, rfl⟩

theorem addsOnly_respond (now : Int64) (request : Request) (master : Master) :
    master.ledger.AddsOnly (AsksToPlace request) (respond now request master).2.ledger := by
  unfold respond
  cases bodyLimit? bodyLimit request with
  | none => exact .refl _
  | some limit =>
    cases Endpoint.of? (segments request.target) with
    | none => exact .refl _
    | some endpoint =>
      by_cases answers : endpoint.answers request = true
      · simp only [answers, if_true]
        exact addsOnly_serveEndpoint limit endpoint
      · simp only [answers]
        exact .refl _

end Master

/-! ## Calls over a link -/

/-- What is read from a JSON request is read from its document. -/
theorem reading_of_readForm {α : Type} {method text : String} {value : Json} {address : Address}
    {limit : Nat} {reading : Json.Reading α} {form : α}
    (read : readForm limit reading ((Draft.json method text value).request address) = .ok form) :
    reading (Json.readValue (Bytes.toUtf8 value.render)).1 = .ok form := by
  unfold readForm at read
  split at read
  · cases read
  split at read
  · cases read
  next body taken =>
    have whole : body = Bytes.toUtf8 value.render := by
      have pieces : ((Draft.json method text value).request address).body
          = [.ok (Bytes.toUtf8 value.render)] := rfl
      rw [pieces, takeBody] at taken
      split at taken
      · cases taken
      · rw [takeBody, Except.map, List.append_nil] at taken
        exact (Except.ok.inj taken).symm
    rw [whole] at read
    split at read
    · cases read
    next same =>
      rw [same]
      exact congrArg Except.ok (Except.ok.inj read)

namespace MasterCall

theorem places_of_asks {call : MasterCall} {base blob : String} {address : Address}
    (asks : Master.AsksToPlace ((call.draft base).request address) blob) : call.Places blob := by
  obtain ⟨limit, form, read, rfl⟩ := asks
  cases call with
  | health => cases read
  | locate blob => cases read
  | forget blob => cases read
  | place blob size =>
    have same := reading_of_readForm read
    rw [PlacementForm.readValue_render, PlacementForm.read_toJson] at same
    cases same
    exact ⟨size, rfl⟩
  | confirm blob worker =>
    have same := reading_of_readForm read
    rw [ConfirmationForm.readValue_render] at same
    cases same
  | register worker available =>
    have same := reading_of_readForm read
    rw [RegistrationForm.readValue_render] at same
    cases same

/-- Over a link, too, a master adds copies of a blob only for a placement of the blob.  Of all calls
only a placement sends a body that is read as one, and a call that is not sent adds nothing. -/
theorem addsOnly_through (link : Link) (base : String) (now : Int64) (call : MasterCall)
    (master : Master) :
    master.ledger.AddsOnly call.Places (call.through link base now master).2.ledger := by
  have sent : master.ledger.AddsOnly call.Places
      (send link (call.draft base) (Master.respond now) master).2.ledger := by
    unfold send
    cases Address.parse (call.draft base).address with
    | error e => exact .refl _
    | ok address =>
      by_cases target : address.isTarget = true
      · cases link with
        | down =>
          simp only [target]
          exact .refl _
        | up =>
          simp only [target]
          exact (Master.addsOnly_respond now _ master).mono fun blob => places_of_asks
      · simp only [target]
        exact .refl _
  revert sent
  unfold through
  simp only [bind, StateT.bind]
  generalize send link (call.draft base) (Master.respond now) master = outcome
  obtain ⟨e | response, after⟩ := outcome
  · exact id
  · exact id

end MasterCall

end BlobCluster
