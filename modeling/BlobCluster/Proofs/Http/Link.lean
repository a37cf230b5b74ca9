import BlobCluster.Http.Body
import BlobCluster.Http.Link

/-!
# Calls over a link

Over a link that is up a request reaches who serves it, and the client takes from the response what
the call had answered.  A failure comes back as a failure, though perhaps in other words: what is
the same on both sides is `toOption` of the outcome.
-/

namespace BlobCluster.Http

variable {α β σ : Type}

/-! ## Outcomes -/

/-- Two outcomes are the same but for the words of a failure. -/
def SameOutcome (one other : Except Failure α × σ) : Prop :=
  one.1.toOption = other.1.toOption ∧ one.2 = other.2

namespace SameOutcome

theorem refl (one : Except Failure α × σ) : SameOutcome one one := ⟨rfl, rfl⟩

theorem of_errors (e e' : Failure) (s : σ) :
    SameOutcome ((.error e, s) : Except Failure α × σ) (.error e', s) := ⟨rfl, rfl⟩

theorem cases {one other : Except Failure α × σ} (same : SameOutcome one other) :
    (∃ e e' s, one = (.error e, s) ∧ other = (.error e', s)) ∨ one = other := by
  obtain ⟨r, s⟩ := one
  obtain ⟨r', s'⟩ := other
  obtain ⟨answers, states⟩ := same
  simp only at answers states
  subst states
  cases r with
  | error e =>
    cases r' with
    | error e' => exact Or.inl ⟨e, e', s, rfl, rfl⟩
    | ok b => cases answers
  | ok a =>
    cases r' with
    | error e' => cases answers
    | ok b => exact Or.inr (by rw [Option.some.inj answers])

theorem bind {action action' : ExceptT Failure (StateM σ) α} {s : σ}
    {f f' : α → ExceptT Failure (StateM σ) β} (same : SameOutcome (action s) (action' s))
    (next : ∀ a t, SameOutcome (f a t) (f' a t)) :
    SameOutcome ((action >>= f) s) ((action' >>= f') s) := by
  show SameOutcome (ExceptT.bindCont f (action s).1 (action s).2)
    (ExceptT.bindCont f' (action' s).1 (action' s).2)
  rcases same.cases with ⟨e, e', t, failed, failed'⟩ | equal
  · rw [failed, failed']
    exact of_errors e e' t
  · rw [equal]
    obtain ⟨e | a, t⟩ := action' s
    · exact refl _
    · exact next a t

end SameOutcome

/-- An action fails that fails wherever it goes on. -/
theorem toOption_of_rest {action : ExceptT Failure (StateM σ) α}
    {f : α → ExceptT Failure (StateM σ) β} {s : σ} (fails : ∀ a t, (f a t).1.toOption = none) :
    ((action >>= f) s).1.toOption = none := by
  show (ExceptT.bindCont f (action s).1 (action s).2).1.toOption = none
  obtain ⟨e | a, t⟩ := action s
  · rfl
  · exact fails a t

theorem toOption_of_first {action : ExceptT Failure (StateM σ) α}
    {f : α → ExceptT Failure (StateM σ) β} {s : σ} (fails : (action s).1.toOption = none) :
    ((action >>= f) s).1.toOption = none := by
  show (ExceptT.bindCont f (action s).1 (action s).2).1.toOption = none
  revert fails
  generalize action s = outcome
  obtain ⟨e | a, t⟩ := outcome
  · exact fun _ => rfl
  · exact nofun

/-- What a caller hears of a call that is to be made in a state.  If the call does not get through,
nothing is done.  If it does, what is done is done, and the caller hears the answer or a failure. -/
inductive Relayed (s : σ) (made : Except Failure α × σ) : Except Failure α × σ → Prop
  | unmade (e : Failure) : Relayed s made (.error e, s)
  | failed (e : Failure) : Relayed s made (.error e, made.2)
  | answered : Relayed s made made

/-! ## Responses -/

theorem not_isSuccess_status (e : Failure) : Status.isSuccess e.status = false := by
  unfold Failure.status Failure.code
  cases e.kind <;> rfl

theorem check_of_not_success {response : Response}
    (refused : Status.isSuccess response.status = false) : ∃ e, response.check = .error e := by
  unfold Response.check
  rw [refused]
  cases response.bytes with
  | error e => exact ⟨e, rfl⟩
  | ok body => exact ⟨_, rfl⟩

theorem check_ofFailure (e : Failure) : ∃ e', (Response.ofFailure e).check = .error e' :=
  check_of_not_success (not_isSuccess_status e)

/-- A client that reads each answer from its response has the outcome of the call.  Only whether
there is a failure is compared: its text is the one of the response and may differ. -/
theorem toOption_check_ofResult {respond : α → Response} {read : Response → Except Failure α}
    (success : ∀ a, Status.isSuccess (respond a).status = true)
    (inverse : ∀ a, read (respond a) = .ok a) (answer : Except Failure α) :
    ((Response.ofResult respond answer).check.bind read).toOption = answer.toOption := by
  cases answer with
  | error e =>
    obtain ⟨e', failed⟩ := check_ofFailure e
    rw [Response.ofResult, failed]
    rfl
  | ok a =>
    rw [Response.ofResult, Response.check, if_pos (success a)]
    exact congrArg Except.toOption (inverse a)

/-- A client that reads each answer from its response hears the answer or a failure. -/
theorem relayed_ofResult {respond : α → Response} {read : Response → Except Failure α}
    (success : ∀ a, Status.isSuccess (respond a).status = true)
    (inverse : ∀ a, read (respond a) = .ok a) (s : σ) (made : Except Failure α × σ) :
    Relayed s made ((Response.ofResult respond made.1).check.bind read, made.2) := by
  obtain ⟨e | a, after⟩ := made
  · obtain ⟨e', failed⟩ := check_ofFailure e
    simp only [Response.ofResult, failed]
    exact .failed e'
  · simp only [Response.ofResult, Response.check, success a, if_true, Except.bind, inverse a]
    exact .answered

theorem readResponse_json {reading : Json.Reading α} {status : Nat} {value : Json} {form : α}
    (read : Json.decode? reading (Bytes.toUtf8 value.render) = some form) :
    readResponse reading (.json status value) = .ok form := by
  have bytes : (Response.json status value).bytes = .ok (Bytes.toUtf8 value.render) := rfl
  rw [readResponse, bytes]
  simp only [read]

/-! ## Requests -/

/-- A request over a link that is up, to an address that can be read, is served. -/
theorem send_up {draft : Draft} {address : Address}
    (read : Address.parse draft.address = .ok address) (target : address.isTarget = true)
    (serve : Request → StateM σ Response) (s : σ) :
    send .up draft serve s
      = (if arrivesWhole draft.body then (serve (draft.request address) s).1.check
          else .error (notSent address), (serve (draft.request address) s).2) := by
  unfold send
  rw [read]
  simp only [target]
  rfl

/-- A request is not sent at all, or it is served.  A body that breaks off is served too, but then
the sender has a failure whatever was answered. -/
theorem send_cases (link : Link) (draft : Draft) (serve : Request → StateM σ Response) (s : σ) :
    (∃ e, send link draft serve s = (.error e, s))
      ∨ ∃ address, Address.parse draft.address = .ok address ∧ send link draft serve s
        = (if arrivesWhole draft.body then (serve (draft.request address) s).1.check
            else .error (notSent address), (serve (draft.request address) s).2) := by
  cases read : Address.parse draft.address with
  | error e =>
    refine .inl ⟨badAddress, ?_⟩
    unfold send
    rw [read]
    rfl
  | ok address =>
    by_cases target : address.isTarget = true
    · cases link with
      | up => exact .inr ⟨address, rfl, send_up read target serve s⟩
      | down =>
        refine .inl ⟨notSent address, ?_⟩
        unfold send
        rw [read]
        simp only [target]
        rfl
    · refine .inl ⟨badTarget address, ?_⟩
      unfold send
      rw [read]
      simp only [target]
      rfl

theorem bodyLimit?_of_no_headers {request : Request} (none : request.headers = []) (limit : Nat) :
    bodyLimit? limit request = some limit := by
  simp [bodyLimit?, announcedLength?, Request.header?, none]

end BlobCluster.Http
