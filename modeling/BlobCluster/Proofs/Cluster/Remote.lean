import BlobCluster.Proofs.Cluster.Verified
import BlobCluster.Proofs.Http.Naming
import BlobCluster.Proofs.Master.Remote
import BlobCluster.Proofs.Worker.Remote

/-!
# Calls over a link are the calls themselves

A blob is looked up, forgotten, saved, read and removed over a link as it is at the node itself, for
every id that travels in an address and has no blank at its end.
-/

namespace BlobCluster.Cluster

open Http

variable {α : Type} {cluster : Cluster} {i : Nat} {worker : Worker} {blob : String}
  {origin : Address}

/-! ## Requests to a worker -/

theorem set_self_of_some {α : Type} {items : List α} {i : Nat} {item : α}
    (found : items[i]? = some item) : items.set i item = items := by
  obtain ⟨inside, rfl⟩ := List.getElem?_eq_some_iff.1 found
  exact List.set_getElem_self inside

theorem get_apply (cluster : Cluster) : (get : Acting Cluster) cluster = (.ok cluster, cluster) :=
  rfl

/-- A request is sent to the address of the worker, and nothing else is done. -/
theorem sendTo_of_some (found : cluster.workers[i]? = some worker) (link : Link)
    {drafting : String → Except Failure Draft} {draft : Draft}
    (drafted : drafting (baseOf worker.address) = .ok draft) :
    sendTo i link drafting cluster = send link draft (respondAt i) cluster := by
  have unchanged : { cluster with workers := cluster.workers.set i worker } = cluster := by
    rw [set_self_of_some found]
  have base : atWorker i (fun worker => (.ok (Http.baseOf worker.address), worker)) cluster
      = (.ok (Http.baseOf worker.address), cluster) := by
    rw [atWorker_of_some found, unchanged]
  unfold sendTo
  rw [bind_of_ok base, drafted]
  rfl

/-- A request for a blob reaches the worker with the id of the blob.  `Travels` says that the id
survives the parsing of the address, and the last character is excluded if it is a space, which the
parser would trim. -/
theorem send_blob (node : Address.IsBase (baseOf worker.address) origin)
    (valid : BlobId.Valid blob) (travels : BlobId.Travels blob)
    (last : blob.toList.getLast? ≠ some ' ') {draft : Draft}
    (sent : draft.address = Worker.blobAddress (baseOf worker.address) blob)
    (noHead : (draft.method == "HEAD") = false) :
    ∃ (address : Address) (segment : String), segmentValue? segment = some blob ∧
      send .up draft (respondAt i) cluster
        = (if arrivesWhole draft.body then
            (serveStorage i (draft.request address) (.blob segment) cluster).1.check
          else .error (notSent address),
          (serveStorage i (draft.request address) (.blob segment) cluster).2) := by
  obtain ⟨address, segment, read, target, segments, present, value⟩ :=
    travels.reaches node valid last
  refine ⟨address, segment, value, ?_⟩
  have served : respondAt i (draft.request address) cluster
      = serveStorage i (draft.request address) (.blob segment) cluster := by
    have reached : StorageEndpoint.of? (Http.segments (draft.request address).target)
        = some (.blob segment) := by
      show StorageEndpoint.of? (Http.segments address.target) = _
      rw [segments, StorageEndpoint.of?, if_neg (by simp [present])]
    have sameMethod : ((draft.request address).method == "HEAD") = false := noHead
    unfold respondAt
    rw [reached]
    simp only [forMethod, sameMethod]
    rfl
  rw [send_up (by rw [sent]; exact read) target, served]

/-- What is sent to a worker whose answer is not read. -/
theorem discard_sendTo {link : Link} {drafting : String → Except Failure Draft}
    {response : Except Failure Response} {after : Cluster}
    (sent : sendTo i link drafting cluster = (response, after)) :
    (do let _ ← sendTo i link drafting : Acting Unit) cluster
      = (response.map fun _ => (), after) := by
  cases response with
  | error e => exact bind_of_error sent
  | ok answer => exact bind_of_ok sent

theorem map_unit_eq_bind (response : Except Failure Response) :
    (response.map fun _ => ()) = response.bind fun _ => .ok () := by
  cases response <;> rfl

/-- A client that does not read the answer has the outcome of the call. -/
theorem toOption_check_bare {status : Nat} (success : Status.isSuccess status = true)
    (answer : Except Failure Unit) :
    ((Response.ofResult (fun () => .bare status) answer).check.map fun _ => ()).toOption
      = answer.toOption := by
  rw [map_unit_eq_bind]
  exact @toOption_check_ofResult Unit (fun () => .bare status) (fun _ => .ok ())
    (fun () => success) (fun () => rfl) answer

/-- A client that does not read the answer hears that the call was made, or a failure. -/
theorem relayed_check_bare {σ : Type} {status : Nat} (success : Status.isSuccess status = true)
    (s : σ) (made : Except Failure Unit × σ) :
    Relayed s made
      ((Response.ofResult (fun () => .bare status) made.1).check.map fun _ => (), made.2) := by
  rw [map_unit_eq_bind]
  exact @relayed_ofResult Unit σ (fun () => .bare status) (fun _ => .ok ())
    (fun () => success) (fun () => rfl) s made

/-! ## Saving -/

theorem saveOn_of_direct (direct : cluster.transport = .direct) (messages : Arriving SaveMessage) :
    saveOn i messages cluster = saveAt i messages cluster := by
  unfold saveOn
  rw [bind_of_ok (get_apply cluster), direct]

/-- Over a link a save is a request whose answer is not read. -/
theorem saveOn_of_link {link : Link} (linked : cluster.transport = .through link)
    (found : cluster.workers[i]? = some worker) {messages : Arriving SaveMessage} {draft : Draft}
    (drafted : Worker.saveDraft (baseOf worker.address) messages = .ok draft) :
    saveOn i messages cluster = ((send link draft (respondAt i) cluster).1.map fun _ => (),
      (send link draft (respondAt i) cluster).2) := by
  have called : saveOn i messages cluster
      = (do let _ ← sendTo i link fun base => Worker.saveDraft base messages : Acting Unit)
        cluster := by
    unfold saveOn
    rw [bind_of_ok (get_apply cluster), linked]
  rw [called]
  exact discard_sendTo (sendTo_of_some found link drafted)

/-- A worker saves the messages and the pieces of a body alike. -/
theorem sameOutcome_saveAt (messages : Arriving SaveMessage) :
    SameOutcome (saveAt i (.ok (.blob blob) :: Worker.regrouped (Worker.pieces messages)) cluster)
      (saveAt i (.ok (.blob blob) :: messages) cluster) := by
  refine .bind ?_ fun _ _ => .refl _
  unfold atWorker
  cases cluster.workers[i]? with
  | none => exact .refl _
  | some worker =>
    have same := @Worker.sameOutcome_save blob worker messages
    revert same
    simp only
    generalize worker.save (.ok (.blob blob) :: Worker.regrouped (Worker.pieces messages)) = one
    generalize worker.save (.ok (.blob blob) :: messages) = other
    intro same
    rcases same.cases with ⟨e, e', after, rfl, rfl⟩ | rfl
    · exact .of_errors e e' _
    · exact .refl _

theorem saveAt_fails {messages : Arriving SaveMessage}
    (broken : arrivesWhole (Worker.pieces messages) = false) :
    (saveAt i (.ok (.blob blob) :: messages) cluster).1.toOption = none := by
  refine toOption_of_first ?_
  unfold atWorker
  cases cluster.workers[i]? with
  | none => rfl
  | some worker =>
    have fails := @Worker.save_fails blob worker messages broken
    revert fails
    simp only
    generalize worker.save (.ok (.blob blob) :: messages) = outcome
    obtain ⟨e | saved, after⟩ := outcome
    · exact fun _ => rfl
    · exact nofun

/-! ## Reading -/

/-- The chunks of a blob, opened and handed out at a worker.  A reader at a distance has the whole
body or a failure, so it is this that a read over a link is compared with. -/
def readWhole (i : Nat) (blob : String) : Acting ChunkStream := do
  let opened ← readAt i blob
  let stream ← (pull opened : StateM Cluster ChunkStream)
  return stream

/-- What has come of a blob when its stream is at the end, and whether it broke off. -/
def received (reading : Acting ChunkStream) : Acting (List Bytes × Bool) := do
  let stream ← reading
  return (stream.chunks, stream.failure.isSome)

theorem streaming_of_error {request : Request} {opening : Acting Download} {e : Failure}
    {after : Cluster} (failed : opening cluster = (.error e, after)) :
    streaming request opening cluster = (.ofFailure e, after) := by
  have failed' : opening.run cluster = (.error e, after) := failed
  simp only [streaming, bind, StateT.bind, failed']
  rfl

theorem streaming_of_ok {request : Request} (noHead : (request.method == "HEAD") = false)
    {opening : Acting Download} {download : Download} {after : Cluster}
    (opened : opening cluster = (.ok download, after)) :
    streaming request opening cluster
      = (.octets (pull download after).1, (pull download after).2) := by
  have opened' : opening.run cluster = (.ok download, after) := opened
  simp only [streaming, bind, StateT.bind, opened', noHead]
  rfl

/-! ## Calls of a worker -/

section

variable (up : cluster.transport = .through .up) (found : cluster.workers[i]? = some worker)
  (node : Address.IsBase (baseOf worker.address) origin) (valid : BlobId.Valid blob)
  (travels : BlobId.Travels blob) (last : blob.toList.getLast? ≠ some ' ')

include up found node valid travels last

theorem removeOn_through :
    SameOutcome (removeOn i blob cluster) (removeAt i blob cluster) := by
  let draft := Worker.removeDraft (baseOf worker.address) blob
  have method : draft.method = "DELETE" := rfl
  obtain ⟨address, segment, value, sent⟩ := @send_blob cluster i worker blob origin node valid
    travels last draft rfl (by rw [method]; decide)
  have served : serveStorage i (draft.request address) (.blob segment) cluster
      = responding (removeAt i blob) (fun () => .bare 204) cluster := by
    have isDelete : (draft.request address).method = "DELETE" := method
    rw [serveStorage, isGet, isDelete, if_neg (by decide), if_neg (by decide),
      if_pos (by decide), withSegment, value]
  have whole : arrivesWhole draft.body = true := rfl
  rw [whole, if_pos rfl, served] at sent
  have called : removeOn i blob cluster
      = (do let _ ← sendTo i .up fun base => .ok (Worker.removeDraft base blob) : Acting Unit)
        cluster := by
    unfold removeOn
    rw [bind_of_ok (get_apply cluster), up]
  rw [called, discard_sendTo ((sendTo_of_some found .up rfl).trans sent)]
  exact ⟨toOption_check_bare (by decide) _, rfl⟩

/-- Blobs are saved over a link that is up as they are at the worker, and a save that breaks off
fails on both.  The worker gets other pieces than the sender has cut, so its saving must not depend
on the cut.  If the body breaks off, the worker fails and so does the request, though with other
texts. -/
theorem saveOn_through (messages : Arriving SaveMessage) :
    SameOutcome (saveOn i (.ok (.blob blob) :: messages) cluster)
      (saveAt i (.ok (.blob blob) :: messages) cluster) := by
  let draft : Draft := ⟨"PUT", Worker.blobAddress (baseOf worker.address) blob, [],
    Worker.pieces messages⟩
  have method : draft.method = "PUT" := rfl
  obtain ⟨address, segment, value, sent⟩ := @send_blob cluster i worker blob origin node valid
    travels last draft rfl (by rw [method]; decide)
  have served : serveStorage i (draft.request address) (.blob segment) cluster
      = responding
        (saveAt i (.ok (.blob blob) :: Worker.regrouped (Worker.pieces messages)))
        (fun () => .bare 201) cluster := by
    have isPut : (draft.request address).method = "PUT" := method
    rw [serveStorage, isGet, isPut, if_neg (by decide), if_pos (by decide), withSegment, value]
    rfl
  rw [served] at sent
  rw [saveOn_of_link up found rfl, sent]
  obtain ⟨answers, states⟩ := @sameOutcome_saveAt cluster i blob messages
  by_cases whole : arrivesWhole (Worker.pieces messages) = true
  · have arrives : arrivesWhole draft.body = true := whole
    rw [arrives, if_pos rfl]
    exact ⟨(toOption_check_bare (by decide) _).trans answers, states⟩
  · have breaks : arrivesWhole draft.body = false := by simpa using whole
    rw [breaks, if_neg Bool.false_ne_true]
    exact ⟨(saveAt_fails breaks).symm, states⟩

/-- A blob is opened over a link that is up by the response that the worker streams. -/
theorem readOn_through :
    ∃ request : Request, (request.method == "HEAD") = false ∧
      readOn i blob cluster
        = ((streaming request (readAt i blob) cluster).1.check.map fun response =>
            ⟨bodyStream response, none⟩, (streaming request (readAt i blob) cluster).2) := by
  let draft := Worker.readDraft (baseOf worker.address) blob
  have method : draft.method = "GET" := rfl
  have noHead : (draft.method == "HEAD") = false := by
    rw [method]
    decide
  obtain ⟨address, segment, value, sent⟩ := @send_blob cluster i worker blob origin node valid
    travels last draft rfl noHead
  have served : serveStorage i (draft.request address) (.blob segment) cluster
      = streaming (draft.request address) (readAt i blob) cluster := by
    have ofGet : (draft.request address).method = "GET" := method
    rw [serveStorage, isGet, ofGet, if_pos (by decide), withSegment, value]
  have whole : arrivesWhole draft.body = true := rfl
  rw [whole, if_pos rfl, served] at sent
  have reached : sendTo i .up (fun base => .ok (Worker.readDraft base blob)) cluster = _ :=
    (sendTo_of_some found .up rfl).trans sent
  have called : readOn i blob cluster
      = (do let response ← sendTo i .up fun base => .ok (Worker.readDraft base blob)
            return ⟨bodyStream response, none⟩ : Acting Download) cluster := by
    unfold readOn
    rw [bind_of_ok (get_apply cluster), up]
  refine ⟨draft.request address, noHead, ?_⟩
  rw [called]
  revert reached
  generalize (streaming (draft.request address) (readAt i blob) cluster).1.check = response
  intro reached
  cases response with
  | error e => exact bind_of_error reached
  | ok response => exact bind_of_ok reached

/-- Blobs are read over a link that is up as they are at the worker: the same chunks come, and they
break off at the same place. -/
theorem downloadFrom_through :
    SameOutcome (received (downloadFrom i blob) cluster) (received (readWhole i blob) cluster) := by
  obtain ⟨request, noHead, called⟩ := readOn_through up found node valid travels last
  cases outcome : readAt i blob cluster with
  | mk opened after =>
  cases opened with
  | error e =>
    obtain ⟨e', failed⟩ := check_ofFailure e
    rw [streaming_of_error outcome, failed] at called
    have remote : downloadFrom i blob cluster = (.error e', after) := bind_of_error called
    have here : readWhole i blob cluster = (.error e, after) := bind_of_error outcome
    have fails : received (downloadFrom i blob) cluster = (.error e', after) :=
      bind_of_error remote
    have fails' : received (readWhole i blob) cluster = (.error e, after) := bind_of_error here
    rw [fails, fails']
    exact .of_errors e' e after
  | ok download =>
    rw [streaming_of_ok noHead outcome] at called
    let handed := pull download after
    have remote : downloadFrom i blob cluster
        = (.ok (handed.1.reporting fun _ => Response.brokenBody), handed.2) :=
      bind_of_ok called
    have here : readWhole i blob cluster = (.ok handed.1, handed.2) := bind_of_ok outcome
    have comes : received (downloadFrom i blob) cluster
        = (.ok (handed.1.chunks, (handed.1.failure.map fun _ => Response.brokenBody).isSome),
          handed.2) := bind_of_ok remote
    have comes' : received (readWhole i blob) cluster
        = (.ok (handed.1.chunks, handed.1.failure.isSome), handed.2) := bind_of_ok here
    rw [comes, comes', Option.isSome_map]
    exact .refl _

end

/-! ## Calls of a master -/

theorem sameOutcome_callMaster {master : Master} {call : MasterCall}
    (up : cluster.transport = .through .up) (found : cluster.masters[i]? = some master)
    (same : SameOutcome (call.through .up (baseOf master.address) cluster.clock master)
      (master.answer cluster.clock call)) :
    SameOutcome (callMaster i call cluster)
      (atMaster i (fun master => master.answer cluster.clock call) cluster) := by
  unfold callMaster
  simp only [up, atMaster, found]
  revert same
  generalize call.through .up (baseOf master.address) cluster.clock master = one
  generalize master.answer cluster.clock call = other
  intro same
  rcases same.cases with ⟨e, e', after, rfl, rfl⟩ | rfl
  · exact .of_errors e e' _
  · exact .refl _

/-! ## All calls for a blob -/

/-- Over links that are up, a blob whose id has no other meaning in an address is looked up and
forgotten as it is at the master, and saved, read and removed as it is at the worker.  A blank at
the end of the id is kept in no call but the lookup.

The two base addresses have to end with host and port, for otherwise the id is read as part of what
follows.  Each call is then followed to the node it is sent to: the request is for the segments of
the path, the last of them stands for the id (`Travels.reaches`), and what is served there is the
call itself.  Only the words of a failure are lost, hence `SameOutcome`. -/
theorem calls_through {master : Master} {j : Nat} {origin' : Address}
    (up : cluster.transport = .through .up) (known : cluster.masters[j]? = some master)
    (found : cluster.workers[i]? = some worker)
    (node : Address.IsBase (baseOf master.address) origin')
    (node' : Address.IsBase (baseOf worker.address) origin) (valid : BlobId.Valid blob)
    (travels : BlobId.Travels blob) :
    SameOutcome (callMaster j (.locate blob) cluster)
      (atMaster j (fun master => master.answer cluster.clock (.locate blob)) cluster) ∧
    (blob.toList.getLast? ≠ some ' ' →
      SameOutcome (callMaster j (.forget blob) cluster)
        (atMaster j (fun master => master.answer cluster.clock (.forget blob)) cluster) ∧
      (∀ messages, SameOutcome (saveOn i (.ok (.blob blob) :: messages) cluster)
        (saveAt i (.ok (.blob blob) :: messages) cluster)) ∧
      SameOutcome (received (downloadFrom i blob) cluster)
        (received (readWhole i blob) cluster) ∧
      SameOutcome (removeOn i blob cluster) (removeAt i blob cluster)) := by
  refine ⟨sameOutcome_callMaster up known (MasterCall.through_locate node valid travels),
    fun last => ⟨?_, ?_, ?_, ?_⟩⟩
  · exact sameOutcome_callMaster up known
      (MasterCall.through_forget node valid travels last)
  · exact saveOn_through up found node' valid travels last
  · exact downloadFrom_through up found node' valid travels last
  · exact removeOn_through up found node' valid travels last

/-- The trio over links, with saved copies of two blobs.  The id of the second is written with a
letter beyond ASCII and a blank inside, which a request can only carry percent-encoded. -/
def linkedTrio : Cluster := { trio with
  transport := .through .up
  masters := [⟨"m", ⟨⟨(Table.empty.put ⟨"copy-0", "a", "a", .saved, 1⟩).put
    ⟨"copy-1", "é b", "a", .saved, 1⟩, .empty⟩, .fresh "copy", []⟩, []⟩] }

theorem calls_through_encoded :
    (Address.parse (Worker.blobAddress (baseOf "a") "é b")).map (·.target)
      = .ok "/blob/%C3%A9%20b" ∧
    (callMaster 0 (.forget "é b") linkedTrio).1.toOption = some ["a"] ∧
    SameOutcome (callMaster 0 (.locate "é b") linkedTrio)
      (atMaster 0 (fun master => master.answer 0 (.locate "é b")) linkedTrio) ∧
    SameOutcome (callMaster 0 (.forget "é b") linkedTrio)
      (atMaster 0 (fun master => master.answer 0 (.forget "é b")) linkedTrio) ∧
    (∀ messages, SameOutcome (saveOn 0 (.ok (.blob "é b") :: messages) linkedTrio)
      (saveAt 0 (.ok (.blob "é b") :: messages) linkedTrio)) ∧
    SameOutcome (received (downloadFrom 0 "é b") linkedTrio)
      (received (readWhole 0 "é b") linkedTrio) ∧
    SameOutcome (removeOn 0 "é b" linkedTrio) (removeAt 0 "é b" linkedTrio) := by
  have base : ∀ name ∈ ["m", "a"],
      Address.IsBase (baseOf name) ⟨false, "", name, none, "/", none, none⟩ := by
    intro name among
    simp only [List.mem_cons, List.not_mem_nil, or_false] at among
    rcases among with rfl | rfl
    · exact ⟨by decide +kernel, ⟨false, ['m'], by decide +kernel, by decide, by simp; decide⟩,
        by decide +kernel, by decide +kernel⟩
    · exact ⟨by decide +kernel, ⟨false, ['a'], by decide +kernel, by decide, by simp; decide⟩,
        by decide +kernel, by decide +kernel⟩
  have all := @calls_through linkedTrio 0 (freshWorker "a") "é b" _ _ 0 _ rfl rfl rfl
    (base "m" (by decide)) (base "a" (by decide)) (by decide +kernel)
    ⟨by decide, by decide, by decide +kernel⟩
  exact ⟨by decide +kernel, by decide +kernel, all.1, all.2 (by decide)⟩

/-- With a question mark in the id another blob is forgotten over the link. -/
theorem another_forgotten : BlobId.Valid "a?b" ∧
    ¬ SameOutcome (callMaster 0 (.forget "a?b") linkedTrio)
      (atMaster 0 (fun master => master.answer 0 (.forget "a?b")) linkedTrio) := by
  refine ⟨by decide +kernel, fun same => ?_⟩
  have remote : (callMaster 0 (.forget "a?b") linkedTrio).1.toOption = some ["a"] := by
    decide +kernel
  have here : (atMaster 0 (fun master => master.answer 0 (.forget "a?b")) linkedTrio).1.toOption
      = some [] := by
    decide +kernel
  have answers := same.1
  rw [remote, here] at answers
  cases answers

end BlobCluster.Cluster
