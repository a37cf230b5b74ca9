import BlobCluster.Proofs.Master.Additions
import BlobCluster.Proofs.Http.Link

/-!
# Calls that are posted

A placement, a confirmation or a registration is posted as a JSON form.  Wherever the address of the
master may lead, its form is read as this call or is refused, since no two calls have forms alike.
So over a link the call is made as it stands or not at all, and the caller hears the answer that was
given or a failure.
-/

namespace BlobCluster

open Http Wire

namespace Http

/-- A request whose form cannot be read is refused. -/
theorem not_isSuccess_of_readForm {α : Type} {limit : Nat} {reading : Json.Reading α}
    {request : Request} {response : Response}
    (refused : readForm limit reading request = .error response) :
    Status.isSuccess response.status = false := by
  unfold readForm at refused
  split at refused
  · cases refused
    rfl
  split at refused
  next fault _ =>
    cases refused
    cases fault <;> rfl
  next =>
    split at refused
    next fault _ =>
      cases refused
      cases fault <;> rfl
    next => cases refused

end Http

namespace MasterCall

def respond : (call : MasterCall) → call.Answer → Response
  | .health, _ => Master.wellResponse "master"
  | .place _ _, addresses | .forget _, addresses => .json 200 (HoldersForm.toJson ⟨addresses⟩)
  | .locate _, address => .json 200 (HolderForm.toJson ⟨address⟩)
  | .confirm _ _, _ | .register _ _, _ => .bare 204

theorem isSuccess_respond (call : MasterCall) (answer : call.Answer) :
    Status.isSuccess (call.respond answer).status = true := by
  cases call <;> rfl

theorem readAnswer_respond (call : MasterCall) (answer : call.Answer) :
    call.readAnswer (call.respond answer) = .ok answer := by
  cases call with
  | health => rfl
  | confirm => rfl
  | register => rfl
  | place =>
    rw [readAnswer, respond, readResponse_json (HoldersForm.decode?_render ⟨answer⟩)]
    rfl
  | forget =>
    rw [readAnswer, respond, readResponse_json (HoldersForm.decode?_render ⟨answer⟩)]
    rfl
  | locate =>
    rw [readAnswer, respond, readResponse_json (HolderForm.decode?_render ⟨answer⟩)]
    rfl

/-! ## Forms -/

/-- The form in a request is read as the one of this call or not at all.  All three endpoints with
forms are named because the path decides which form is read, and this is to hold whatever the path
has become on the way. -/
structure ReadAs (call : MasterCall) (request : Request) : Prop where
  place : ∀ limit form, readForm limit PlacementForm.read request = .ok form →
    call = .place form.blob form.size
  confirm : ∀ limit form, readForm limit ConfirmationForm.read request = .ok form →
    call = .confirm form.blob form.worker
  register : ∀ limit form, readForm limit RegistrationForm.read request = .ok form →
    call = .register form.address form.available

variable {blob worker base : String} {size : UInt64} {address : Address}

theorem readAs_place :
    (place blob size).ReadAs (((place blob size).draft base).request address) where
  place limit form read := by
    have same := reading_of_readForm read
    rw [PlacementForm.readValue_render, PlacementForm.read_toJson] at same
    cases same
    rfl
  confirm limit form read := by
    have same := reading_of_readForm read
    rw [PlacementForm.readValue_render] at same
    cases same
  register limit form read := by
    have same := reading_of_readForm read
    rw [PlacementForm.readValue_render] at same
    cases same

theorem readAs_confirm :
    (confirm blob worker).ReadAs (((confirm blob worker).draft base).request address) where
  place limit form read := by
    have same := reading_of_readForm read
    rw [ConfirmationForm.readValue_render] at same
    cases same
  confirm limit form read := by
    have same := reading_of_readForm read
    rw [ConfirmationForm.readValue_render, ConfirmationForm.read_toJson] at same
    cases same
    rfl
  register limit form read := by
    have same := reading_of_readForm read
    rw [ConfirmationForm.readValue_render] at same
    cases same

theorem readAs_register {available : UInt64} :
    (register worker available).ReadAs
      (((register worker available).draft base).request address) where
  place limit form read := by
    have same := reading_of_readForm read
    rw [RegistrationForm.readValue_render] at same
    cases same
  confirm limit form read := by
    have same := reading_of_readForm read
    rw [RegistrationForm.readValue_render] at same
    cases same
  register limit form read := by
    have same := reading_of_readForm read
    rw [RegistrationForm.readValue_render, RegistrationForm.read_toJson] at same
    cases same
    rfl

end MasterCall

/-! ## Requests -/

namespace Master

variable {call : MasterCall} {request : Request} {now : Int64}

/-- A request that is not served is refused, and nothing is done. -/
def Refuses (now : Int64) (request : Request) (master : Master) : Prop :=
  ∃ response, Status.isSuccess response.status = false
    ∧ Master.respond now request master = (response, master)

/-- A form is refused, or it is gone on with. -/
theorem withForm_cases {α : Type} (limit : Nat) (reading : Json.Reading α)
    (next : α → StateM Master Response) (master : Master) :
    (∃ response, Status.isSuccess response.status = false
        ∧ withForm limit reading request next master = (response, master))
      ∨ ∃ form, readForm limit reading request = .ok form
        ∧ withForm limit reading request next master = next form master := by
  unfold withForm
  cases read : readForm limit reading request with
  | error response => exact .inl ⟨response, not_isSuccess_of_readForm read, rfl⟩
  | ok form => exact .inr ⟨form, rfl, rfl⟩

/-- An endpoint that takes forms refuses a form or makes the call as which it is read. -/
theorem serveEndpoint_posted {endpoint : Endpoint} (posted : request.method = "POST")
    (answers : endpoint.answers request = true) (reads : call.ReadAs request) (limit : Nat)
    (master : Master) :
    (∃ response, Status.isSuccess response.status = false
        ∧ serveEndpoint now limit request endpoint master = (response, master))
      ∨ serveEndpoint now limit request endpoint master
        = responding now call call.respond master := by
  cases endpoint with
  | health =>
    have isGet : isGet request = true := answers
    rw [Http.isGet, posted] at isGet
    cases isGet
  | locate segment =>
    have isGet : isGet request = true := answers
    rw [Http.isGet, posted] at isGet
    cases isGet
  | forget segment =>
    have isDelete : (request.method == "DELETE") = true := answers
    rw [posted] at isDelete
    cases isDelete
  | place =>
    refine (withForm_cases limit _ _ master).imp id ?_
    rintro ⟨form, read, made⟩
    obtain rfl := reads.place limit form read
    exact made
  | confirm =>
    refine (withForm_cases limit _ _ master).imp id ?_
    rintro ⟨form, read, made⟩
    obtain rfl := reads.confirm limit form read
    exact made
  | register =>
    refine (withForm_cases limit _ _ master).imp id ?_
    rintro ⟨form, read, made⟩
    obtain rfl := reads.register limit form read
    exact made

/-- A form that is posted is refused or makes the call as which it is read.  A refusal leaves the
master as it was, whether it comes from the length of the body, from the path, from the method or
from the form. -/
theorem respond_posted (posted : request.method = "POST") (reads : call.ReadAs request)
    (master : Master) :
    Refuses now request master
      ∨ Master.respond now request master = responding now call call.respond master := by
  have noHead : (request.method == "HEAD") = false := by
    rw [posted]
    decide
  unfold Refuses Master.respond
  cases bodyLimit? bodyLimit request with
  | none =>
    refine .inl ⟨tooLong, rfl, ?_⟩
    simp only [forMethod, noHead]
    rfl
  | some limit =>
    cases Endpoint.of? (segments request.target) with
    | none => exact .inl ⟨notFound, rfl, rfl⟩
    | some endpoint =>
      by_cases answers : endpoint.answers request = true
      · simp only [answers, if_true, forMethod, noHead]
        exact serveEndpoint_posted posted answers reads limit master
      · simp only [answers]
        exact .inl ⟨wrongMethod, rfl, rfl⟩

end Master

/-! ## Calls -/

namespace MasterCall

/-- The call is posted as a form that is read as no other call. -/
structure Posted (call : MasterCall) (base : String) : Prop where
  method : (call.draft base).method = "POST"
  whole : arrivesWhole (call.draft base).body = true
  reads : ∀ address, call.ReadAs ((call.draft base).request address)

theorem posted_place (blob : String) (size : UInt64) (base : String) :
    (place blob size).Posted base :=
  ⟨rfl, rfl, fun _ => readAs_place⟩

theorem posted_confirm (blob worker base : String) : (confirm blob worker).Posted base :=
  ⟨rfl, rfl, fun _ => readAs_confirm⟩

theorem posted_register (worker : String) (available : UInt64) (base : String) :
    (register worker available).Posted base :=
  ⟨rfl, rfl, fun _ => readAs_register⟩

/-- What comes of a call is read from the response to its request. -/
theorem through_of_send {call : MasterCall} {base : String} {link : Link} {now : Int64}
    {master after : Master} {response : Except Failure Response}
    (sent : send link (call.draft base) (Master.respond now) master = (response, after)) :
    call.through link base now master = (response.bind call.readAnswer, after) := by
  unfold through
  simp only [bind, StateT.bind, sent]
  cases response <;> rfl

/-- Over a link a call that is posted is made as it stands, or not at all.  So what holds of a call
that is made on the spot holds of one over a link, up to an answer that the caller does not get. -/
theorem Posted.relayed {call : MasterCall} {base : String} (h : call.Posted base) (link : Link)
    (now : Int64) (master : Master) :
    Relayed master (master.answer now call) (call.through link base now master) := by
  rcases send_cases link (call.draft base) (Master.respond now) master with ⟨e, unsent⟩
    | ⟨address, -, sent⟩
  · rw [through_of_send unsent]
    exact .unmade e
  rw [h.whole, if_pos rfl] at sent
  rcases @Master.respond_posted _ _ now h.method (h.reads address) master with
    ⟨response, refused, answered⟩ | made
  · obtain ⟨e, failed⟩ := check_of_not_success refused
    rw [answered] at sent
    simp only [failed] at sent
    rw [through_of_send sent]
    exact .unmade e
  · rw [made] at sent
    rw [through_of_send sent]
    exact relayed_ofResult call.isSuccess_respond call.readAnswer_respond _
      (master.answer now call)

end MasterCall

end BlobCluster
