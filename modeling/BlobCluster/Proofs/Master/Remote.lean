import BlobCluster.Master.Client
import BlobCluster.Proofs.Http.Link
import BlobCluster.Proofs.Http.Naming
import BlobCluster.Proofs.Wire.Forms

/-!
# Calls of a master over a link

A blob is looked up and forgotten over a link as it is at the master itself, for every id that
travels in an address: the same tables are left, the same answer comes back, and a call fails over
the link exactly if it fails at the master.
-/

namespace BlobCluster.Master

open Http Wire

/-- A request without headers that is not for a head is answered by its endpoint. -/
theorem respond_of_endpoint {now : Int64} {request : Request} {endpoint : Endpoint}
    (noHeaders : request.headers = [])
    (reached : Endpoint.of? (segments request.target) = some endpoint)
    (answers : endpoint.answers request = true) (noHead : (request.method == "HEAD") = false)
    (master : Master) :
    respond now request master = serveEndpoint now bodyLimit request endpoint master := by
  unfold respond
  rw [bodyLimit?_of_no_headers noHeaders, reached]
  simp only [answers, if_true, forMethod, noHead]
  rfl

end BlobCluster.Master

namespace BlobCluster.MasterCall

open Http Wire

variable {base blob : String} {origin : Address} {now : Int64} {master : Master}

/-- A call whose request is answered by the call itself, in a form that its client reads, has the
same outcome over the link as at the master. -/
theorem through_of_served {call : MasterCall} {address : Address} {respond : call.Answer → Response}
    (read : Address.parse (call.draft base).address = .ok address)
    (target : address.isTarget = true) (whole : arrivesWhole (call.draft base).body = true)
    (served : Master.respond now ((call.draft base).request address) master
      = Master.responding now call respond master)
    (success : ∀ a, Status.isSuccess (respond a).status = true)
    (inverse : ∀ a, call.readAnswer (respond a) = .ok a) :
    SameOutcome (call.through .up base now master) (master.answer now call) := by
  have sent := send_up read target (Master.respond now) master
  rw [whole, if_pos rfl, served] at sent
  have through : call.through .up base now master
      = ((Response.ofResult respond (master.answer now call).1).check.bind call.readAnswer,
        (master.answer now call).2) := by
    have answered : (Master.responding now call respond master)
        = (Response.ofResult respond (master.answer now call).1, (master.answer now call).2) := rfl
    unfold through
    simp only [bind, StateT.bind, sent, answered]
    cases (Response.ofResult respond (master.answer now call).1).check <;> rfl
  rw [through]
  exact ⟨toOption_check_ofResult success inverse _, rfl⟩

theorem through_locate (node : Address.IsBase base origin) (valid : BlobId.Valid blob)
    (travels : BlobId.Travels blob) :
    SameOutcome ((locate blob).through .up base now master) (master.answer now (.locate blob)) := by
  obtain ⟨address, segment, read, target, segments, value⟩ := travels.reaches_worker node valid
  let request := ((locate blob).draft base).request address
  have reached : Master.Endpoint.of? (Http.segments request.target) = some (.locate segment) := by
    show Master.Endpoint.of? (Http.segments address.target) = _
    rw [segments]
    rfl
  have method : request.method = "GET" := rfl
  have noHead : (request.method == "HEAD") = false := by
    rw [method]
    decide
  have answers : Master.Endpoint.answers (.locate segment) request = true := by
    rw [Master.Endpoint.answers, isGet, method]
    decide
  have served : Master.respond now request master = Master.responding now (.locate blob)
      (fun a => Response.json 200 (HolderForm.toJson ⟨a⟩)) master := by
    rw [Master.respond_of_endpoint rfl reached answers noHead, Master.serveEndpoint, withSegment,
      value]
  refine through_of_served read target rfl served (fun _ => rfl) fun a => ?_
  rw [readAnswer, readResponse_json (HolderForm.decode?_render ⟨a⟩)]
  rfl

theorem through_forget (node : Address.IsBase base origin) (valid : BlobId.Valid blob)
    (travels : BlobId.Travels blob) (last : blob.toList.getLast? ≠ some ' ') :
    SameOutcome ((forget blob).through .up base now master) (master.answer now (.forget blob)) := by
  obtain ⟨address, segment, read, target, segments, present, value⟩ :=
    travels.reaches node valid last
  let request := ((forget blob).draft base).request address
  have reached : Master.Endpoint.of? (Http.segments request.target) = some (.forget segment) := by
    show Master.Endpoint.of? (Http.segments address.target) = _
    rw [segments, Master.Endpoint.of?, if_neg (by simp [present])]
  have method : request.method = "DELETE" := rfl
  have noHead : (request.method == "HEAD") = false := by
    rw [method]
    decide
  have answers : Master.Endpoint.answers (.forget segment) request = true := by
    rw [Master.Endpoint.answers, method]
    decide
  have served : Master.respond now request master = Master.responding now (.forget blob)
      (fun a => Response.json 200 (HoldersForm.toJson ⟨a⟩)) master := by
    rw [Master.respond_of_endpoint rfl reached answers noHead, Master.serveEndpoint, withSegment,
      value]
  refine through_of_served read target rfl served (fun _ => rfl) fun a => ?_
  rw [readAnswer, readResponse_json (HoldersForm.decode?_render ⟨a⟩)]
  rfl

end BlobCluster.MasterCall
