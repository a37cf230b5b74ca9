import BlobCluster.Proofs.Http.Link
import BlobCluster.Proofs.Wire.Forms

/-!
# Failures over the wire

A failure is sent as the name of its code and its message, and the receiver makes a failure of
these again.  Kinds that share a code become one kind on the way, but all that a receiver acts on,
which is the code, the message, the status and whether trying again may help, is a matter of the
code and the message alone.  So one crossing keeps all of it, and further crossings keep the failure
itself.

The other responses that are no success come from no node of the cluster; they are told apart by
their kind, which no code is read as.
-/

namespace BlobCluster

/-! ## Codes -/

namespace Failure

@[simp]
theorem code_ofWire (code : WireCode) (message : String) : (ofWire code message).code = code := by
  cases code <;> rfl

@[simp]
theorem message_ofWire (code : WireCode) (message : String) :
    (ofWire code message).message = message := by
  cases code <;> rfl

/-- No code stands for a response that no node has sent. -/
theorem kind_ofWire_ne_http (code : WireCode) (message : String) :
    (ofWire code message).kind ≠ .http := by
  cases code <;> exact nofun

/-- The kinds that share a code agree on whether trying again may help. -/
theorem retryable_ofWire (e : Failure) (message : String) :
    (ofWire e.code message).retryable = e.retryable := by
  obtain ⟨kind, text⟩ := e
  cases kind <;> rfl

theorem status_ofWire (e : Failure) (message : String) :
    (ofWire e.code message).status = e.status := by
  rw [status, code_ofWire, status]

end Failure

namespace Http

open Wire

/-! ## Responses -/

/-- The form of a failure in the body of a response, if it arrives and is one. -/
def Response.told? (response : Response) : Option FailureForm :=
  response.bytes.toOption.bind (Json.decode? FailureForm.read)

theorem told?_ofFailure (e : Failure) : (Response.ofFailure e).told? = some (.ofFailure e) := by
  have body : (Response.ofFailure e).bytes
      = .ok (Bytes.toUtf8 (FailureForm.ofFailure e).toJson.render) := rfl
  rw [Response.told?, body, Except.toOption, Option.bind_some, FailureForm.decode?_render]

/-- A response that tells of a failure is read as the failure of its form. -/
theorem check_of_told {response : Response} {form : FailureForm}
    (refused : Status.isSuccess response.status = false) (told : response.told? = some form) :
    response.check = .error form.failure := by
  unfold Response.told? at told
  rw [Response.check, if_neg (by simp [refused])]
  cases bytes : response.bytes with
  | error e => simp [bytes, Except.toOption] at told
  | ok body =>
    have decoded : Json.decode? FailureForm.read body = some form := by
      simpa [bytes, Except.toOption] using told
    simp only [Response.failureOf, decoded]

/-- A response that is no success and tells of no failure is a failure of the connection. -/
theorem check_of_not_told {response : Response}
    (refused : Status.isSuccess response.status = false) (untold : response.told? = none) :
    ∃ e, response.check = .error e ∧ e.kind = .http := by
  unfold Response.told? at untold
  rw [Response.check, if_neg (by simp [refused])]
  cases bytes : response.bytes with
  | error e =>
    -- Only a stream can break off, and then all that is known is that it did.
    have broken : e = Response.brokenBody := by
      unfold Response.bytes at bytes
      split at bytes
      · cases bytes
      · split at bytes
        · cases bytes
        · exact (Except.error.inj bytes).symm
    exact ⟨e, rfl, by rw [broken]; rfl⟩
  | ok body =>
    have undecoded : Json.decode? FailureForm.read body = none := by
      simpa [bytes, Except.toOption] using untold
    exact ⟨_, rfl, by simp only [Response.failureOf, undecoded]⟩

/-- What a receiver makes of a failure that was sent. -/
theorem check_ofFailure_eq (e : Failure) :
    (Response.ofFailure e).check = .error (.ofWire e.code e.message) :=
  check_of_told (not_isSuccess_status e) (told?_ofFailure e)

/-! ## Hops -/

/-- A failure has been sent and read so many times, each receiver sending what it has read. -/
inductive Crossed : Nat → Failure → Failure → Prop
  | unsent (e : Failure) : Crossed 0 e e
  | sent {hops : Nat} {e e' e'' : Failure} (before : Crossed hops e e')
      (read : (Response.ofFailure e').check = .error e'') : Crossed (hops + 1) e e''

/-- A failure that has crossed once is not changed by crossing again. -/
theorem check_ofFailure_ofWire (code : WireCode) (message : String) :
    (Response.ofFailure (.ofWire code message)).check = .error (.ofWire code message) := by
  rw [check_ofFailure_eq, Failure.code_ofWire, Failure.message_ofWire]

/-- However often a failure has crossed, it is what it was after the first time.  The first crossing
turns the kind into one of those that have a code of their own and puts its heading into the text;
after that both stay. -/
theorem crossed_succ_iff (e e'' : Failure) (hops : Nat) :
    Crossed (hops + 1) e e'' ↔ e'' = .ofWire e.code e.message := by
  induction hops generalizing e'' with
  | zero =>
    constructor
    · rintro (_ | ⟨⟨_⟩, read⟩)
      rw [check_ofFailure_eq] at read
      exact (Except.error.inj read).symm
    · rintro rfl
      exact .sent (.unsent e) (check_ofFailure_eq e)
  | succ hops ih =>
    constructor
    · rintro (_ | ⟨before, read⟩)
      rw [(ih _).1 before, check_ofFailure_ofWire] at read
      exact (Except.error.inj read).symm
    · rintro rfl
      exact .sent ((ih _).2 rfl) (check_ofFailure_ofWire e.code e.message)

/-- Failures keep over any number of hops all that a receiver acts on, and are told apart from the
responses that no node has sent; successes pass as they are.

What a receiver makes of a failure depends on its code and message alone.  Kinds that share a code
have the same status and agree on whether trying again may help, so the first hop loses nothing that
anyone acts on; and what it makes is a fixed point, from which any number of hops follow. -/
theorem failures_cross_the_wire :
    (∀ e : Failure, ∃ e',
      Status.isSuccess (Response.ofFailure e).status = false ∧
      (Response.ofFailure e).status = e.status ∧
      (Response.ofFailure e).check = .error e' ∧
      e'.code = e.code ∧ e'.message = e.message ∧ e'.status = e.status ∧
      e'.retryable = e.retryable ∧ e'.kind ≠ .http ∧
      (Response.ofFailure e').check = .error e' ∧
      ∀ hops e'', Crossed (hops + 1) e e'' ↔ e'' = e') ∧
    (∀ response : Response, Status.isSuccess response.status = false →
      ∃ e, response.check = .error e ∧ (e.kind = .http ↔ response.told? = none)) ∧
    (∀ response : Response, Status.isSuccess response.status = true →
      response.check = .ok response) := by
  refine ⟨?_, ?_, ?_⟩
  · intro e
    refine ⟨.ofWire e.code e.message, not_isSuccess_status e, rfl, check_ofFailure_eq e, ?_⟩
    exact ⟨Failure.code_ofWire _ _, Failure.message_ofWire _ _, Failure.status_ofWire e _,
      Failure.retryable_ofWire e _, Failure.kind_ofWire_ne_http _ _,
      check_ofFailure_ofWire _ _, fun hops e'' => crossed_succ_iff e e'' hops⟩
  · intro response refused
    cases told : response.told? with
    | none =>
      obtain ⟨e, read, kind⟩ := check_of_not_told refused told
      exact ⟨e, read, by simp [kind]⟩
    | some form =>
      exact ⟨form.failure, check_of_told refused told,
        iff_of_false (Failure.kind_ofWire_ne_http form.code form.message) nofun⟩
  · intro response success
    rw [Response.check, if_pos success]

/-- A failure of the system underneath with marks, a control and a character beyond the first plane
in its text, a page that a proxy has sent in place of an answer, and a stream that will break off
where it is read. -/
theorem failures_cross_the_wire_marks :
    (∃ e', (Response.ofFailure ⟨.io, "disk \"a\\b\"\n\x00 full 𝄞"⟩).check = .error e' ∧
      e'.code = .storage ∧ e'.message = "I/O error: disk \"a\\b\"\n\x00 full 𝄞" ∧
      e'.kind ≠ .http ∧ (Response.ofFailure e').check = .error e') ∧
    (∃ e, (Response.plain 503 "<html>").check = .error e ∧ e.kind = .http) ∧
    (Response.octets ⟨[], some ⟨.io, "gone"⟩⟩).check
      = .ok (.octets ⟨[], some ⟨.io, "gone"⟩⟩) := by
  obtain ⟨sent, refused, passed⟩ := failures_cross_the_wire
  refine ⟨?_, ?_, passed _ rfl⟩
  · obtain ⟨e', -, -, read, code, message, -, -, kind, again, -⟩ :=
      sent ⟨.io, "disk \"a\\b\"\n\x00 full 𝄞"⟩
    exact ⟨e', read, code, message, kind, again⟩
  · obtain ⟨e, read, unread⟩ := refused (.plain 503 "<html>") rfl
    exact ⟨e, read, unread.2 (by decide)⟩

end Http

end BlobCluster
