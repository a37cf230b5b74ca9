import BlobCluster.Proofs.Master.Hearing
import BlobCluster.Proofs.Master.Resetting
import BlobCluster.Proofs.Registration
import BlobCluster.Proofs.Storage.Confinement
import BlobCluster.Serving

/-!
# Registering with every master

A worker that starts posts the same form to each of its masters, in rounds.  Nothing is asked of the
network between them for the rounds.  For what the masters are left with it has to be one that
`Carries` requests: a request may be lost, or the response to it, and then the worker hears some
refusal instead; but what a master is given is the request as it was sent, and what it does is done
to its own ledger.  A worker that hears of a success has then `Joined` the master, however often it
had failed to.
-/

namespace BlobCluster

open Http Wire

variable {σ κ : Type}

/-! ## What a master is left with -/

/-- The worker has just joined: it has one row, with nothing locked, and there are no copies on
it. -/
structure Ledger.Joined (ledger : Ledger) (worker : String) (space : UInt64) : Prop where
  row : ∃ since, ledger.worker? worker = some ⟨worker, space, 0, since⟩
  once : (ledger.workers.rows.map WorkerRow.address).count worker = 1
  empty : ∀ row ∈ ledger.copies.rows, row.worker ≠ worker

theorem Ledger.joined_reset (ledger : Ledger) (worker : String) (space : UInt64) (now : Int64) :
    (ledger.reset worker space now).Joined worker space := by
  have fresh : (ledger.reset worker space now).worker? worker = some (.fresh worker space now) := by
    rw [worker?_reset, if_pos rfl]
  refine ⟨⟨now, fresh⟩, ?_, fun row mem here => ?_⟩
  · obtain ⟨mem, -⟩ := worker?_eq_some_iff.1 fresh
    exact List.count_eq_one_of_mem (ledger.reset worker space now).workers.nodup_keys
      (List.mem_map.2 ⟨_, mem, rfl⟩)
  · have found := copy?_of_mem mem
    rw [here, copy?_reset, if_pos rfl] at found
    cases found

/-- A master that answers a registration, whatever outages are planned, has made it. -/
theorem Master.joined_of_answer {master : Master} {now : Int64} {worker : String} {space : UInt64}
    (answered : (master.answer now (.register worker space)).1 = .ok ()) :
    (master.answer now (.register worker space)).2.ledger.Joined worker space := by
  have made := master.answer_of_meets now (.register worker space) (fun _ => nofun)
    (Placement.meets_register worker space now).answering
  have settled := made () answered
  split at settled
  · cases settled.1
  · rw [settled.2]
    exact master.ledger.joined_reset worker space now

/-! ## Networks -/

/-- What becomes of a request for a master and what its sender hears.  If the request is lost, or
the response to it, the sender hears of a refusal. -/
inductive Master.Delivery (now : Int64) (request : Request) (master : Master) :
    Response → Master → Prop
  | lost {response : Response} (refused : Status.isSuccess response.status = false) :
    Delivery now request master response master
  | unheard {response : Response} (refused : Status.isSuccess response.status = false) :
    Delivery now request master response (Master.respond now request master).2
  | answered :
    Delivery now request master (Master.respond now request master).1
      (Master.respond now request master).2

/-- A network in which each address leads to a master, which is given the requests for it.  The
responses are those of `Delivery`, so requests and responses may be lost, but a success
is never invented. -/
structure Carries (route : String → κ) (masters : σ → κ → Master)
    (serve : String → Request → StateM σ Response) : Prop where
  delivers : ∀ address request state, ∃ now,
    (masters state (route address)).Delivery now request (serve address request state).1
      (masters (serve address request state).2 (route address))
  others : ∀ address request state other, other ≠ route address →
    masters (serve address request state).2 other = masters state other

/-- A posted registration of which the sender hears that it went well was made.  Of a lost request
or an unheard response the sender sees a status that is not a success, which leaves the case in
which the master has answered. -/
theorem Master.Delivery.joined {now : Int64} {master after : Master} {request : Request}
    {response : Response} (delivery : master.Delivery now request response after)
    {worker base : String} {space : UInt64} {address : Address}
    (sent : request = ((MasterCall.register worker space).draft base).request address)
    (accepted : ∃ heard, response.check = .ok heard) : after.ledger.Joined worker space := by
  have heard : ¬ Status.isSuccess response.status = false := by
    intro refused
    obtain ⟨heard, ok⟩ := accepted
    obtain ⟨e, failed⟩ := check_of_not_success refused
    rw [failed] at ok
    cases ok
  have posted := MasterCall.posted_register worker space base
  have reads : (MasterCall.register worker space).ReadAs request := sent ▸ posted.reads address
  have method : request.method = "POST" := sent ▸ posted.method
  cases delivery with
  | lost refused => exact absurd refused heard
  | unheard refused => exact absurd refused heard
  | answered =>
    rcases Master.respond_posted method reads master with
      ⟨response, refused, answered⟩ | made
    · rw [answered] at heard
      exact absurd refused heard
    · rw [made] at heard ⊢
      refine Master.joined_of_answer ?_
      cases outcome : (master.answer now (.register worker space)).1 with
      | ok a => rfl
      | error e =>
        refine absurd ?_ heard
        show Status.isSuccess (Response.ofResult _ (master.answer now _).1).status = false
        rw [outcome]
        exact not_isSuccess_status e

/-! ## One call -/

namespace Serving

variable {link : Link} {serve : String → Request → StateM σ Response} {worker master : String}
  {share : UInt64} {state : σ}

theorem registerOver_of_send {after : σ} {response : Except Failure Response}
    (sent : send link ((MasterCall.register worker share).draft (baseOf master)) (serve master)
      state = (response, after)) :
    registerOver link serve worker share master state = (response.map fun _ => (), after) := by
  unfold registerOver
  simp only [bind, StateT.bind, sent]
  cases response <;> rfl

/-- A request is not sent at all, or the registration is accepted as its response is. -/
theorem registerOver_cases (link : Link) (serve : String → Request → StateM σ Response)
    (worker : String) (share : UInt64) (master : String) (state : σ) :
    (∃ e, registerOver link serve worker share master state = (.error e, state))
      ∨ ∃ address request,
        request = ((MasterCall.register worker share).draft (baseOf master)).request address
        ∧ registerOver link serve worker share master state
          = ((serve master request state).1.check.map fun _ => (),
              (serve master request state).2) := by
  rcases send_cases link ((MasterCall.register worker share).draft (baseOf master)) (serve master)
    state with ⟨e, unsent⟩ | ⟨address, -, sent⟩
  · exact .inl ⟨e, registerOver_of_send unsent⟩
  · rw [(MasterCall.posted_register worker share _).whole, if_pos rfl] at sent
    exact .inr ⟨address, _, rfl, registerOver_of_send sent⟩

end Serving

namespace Carries

variable {route : String → κ} {masters : σ → κ → Master}
  {serve : String → Request → StateM σ Response}

/-- A registration changes one master, which the worker has joined if it hears so. -/
theorem registerOver (carries : Carries route masters serve) (link : Link) (worker : String)
    (share : UInt64) (master : String) (state : σ) :
    let made := Serving.registerOver link serve worker share master state
    (∀ other ≠ route master, masters made.2 other = masters state other)
      ∧ (made.1 = .ok () → (masters made.2 (route master)).ledger.Joined worker share) := by
  intro made
  rcases Serving.registerOver_cases link serve worker share master state with
    ⟨e, unsent⟩ | ⟨address, request, posted, sent⟩
  · have same : made = (.error e, state) := unsent
    rw [same]
    exact ⟨fun _ _ => rfl, nofun⟩
  · have same : made = _ := sent
    rw [same]
    refine ⟨fun other elsewhere => carries.others master request state other elsewhere,
      fun ok => ?_⟩
    obtain ⟨now, delivery⟩ := carries.delivers master request state
    refine delivery.joined posted ?_
    cases heard : (serve master request state).1.check with
    | ok response => exact ⟨response, rfl⟩
    | error e =>
      simp only [heard] at ok
      cases ok

/-- A registration with several masters that succeeds has joined the worker to all of them.  Two
addresses may lead to one master.  Then the last call of them decides, and the worker has joined by
that one; otherwise the master is left alone after its call. -/
theorem joined (carries : Carries route masters serve) (link : Link) (worker : String)
    (share : UInt64) (attempts : Nat) {addresses : List String} {state after : σ}
    (accepted : Registration.registerWith (Serving.registerOver link serve worker share) attempts
      addresses state = (.ok (), after)) :
    ∀ master ∈ addresses, (masters after (route master)).ledger.Joined worker share := by
  induction addresses generalizing state with
  | nil => exact nofun
  | cons first rest ih =>
    obtain ⟨before, between, answered, rest_⟩ := Registration.exists_of_registerWith_ok accepted
    have later := ih rest_
    refine List.forall_mem_cons.2 ⟨?_, later⟩
    by_cases again : ∃ master ∈ rest, route master = route first
    · obtain ⟨master, mem, same⟩ := again
      rw [← same]
      exact later master mem
    · -- No later call goes to the first master, so it is left as the worker has joined it.
      have joined := (carries.registerOver link worker share first before).2
      rw [answered] at joined
      have kept := Registration.keeps_registerWith
        (fun s => masters s (route first) = masters between (route first)) attempts
        (fun master mem s same => ((carries.registerOver link worker share master s).1 _
          fun is => again ⟨master, mem, is.symm⟩).trans same)
        (Eq.refl (masters between (route first)))
      rw [rest_] at kept
      rw [kept]
      exact joined rfl

end Carries

/-! ## Requests -/

/-- The request is a posted form. -/
structure Http.Request.Posts (request : Request) (form : RegistrationForm) : Prop where
  method : request.method = "POST"
  body : ∃ bytes, request.body = [.ok bytes]
    ∧ Json.decode? RegistrationForm.read bytes = some form

theorem MasterCall.posts_register (worker : String) (space : UInt64) (base : String)
    (address : Address) :
    (((register worker space).draft base).request address).Posts ⟨worker, space⟩ where
  method := rfl
  body := ⟨_, rfl, Json.decode?_render (RegistrationForm.readValue_render _)
    (RegistrationForm.read_toJson _)⟩

namespace Serving

variable {serve : String → Request → StateM σ Response}

/-- A request with the address that it is for. -/
abbrev Sent := String × Request

/-- The network, with a list of all requests and their responses. -/
def watched (serve : String → Request → StateM σ Response) (address : String) (request : Request) :
    StateM (σ × List (Sent × Response)) Response :=
  observed (fun sent : Sent => serve sent.1 sent.2) (address, request)

theorem mimicsOn_send {τ : Type} {view : τ → σ} {serve : Request → StateM σ Response}
    {other : Request → StateM τ Response}
    (same : ∀ request, MimicsOn view (serve request) (other request)) (link : Link)
    (draft : Draft) : MimicsOn view (send link draft serve) (send link draft other) := by
  intro state
  unfold send
  cases Address.parse draft.address with
  | error e => rfl
  | ok address =>
    by_cases target : address.isTarget = true
    · cases link with
      | down =>
        simp only [target]
        rfl
      | up =>
        simp only [target]
        show (_, (serve (draft.request address) (view state)).2) = _
        rw [same (draft.request address) state]
        rfl
    · simp only [target]
      rfl

theorem mem_watched {address : String} {request : Request} {state : σ × List (Sent × Response)}
    {entry : Sent × Response} (listed : entry ∈ (watched serve address request state).2.2) :
    entry ∈ state.2 ∨ entry.1 = (address, request) := by
  have whole : entry ∈ state.2 ++ [((address, request), (serve address request state.1).1)] :=
    listed
  rcases List.mem_append.1 whole with old | new
  · exact .inl old
  · exact .inr (congrArg Prod.fst (List.mem_singleton.1 new))

/-- A registration goes as it does when nobody watches. -/
theorem mimicsOn_registerOver (link : Link) (serve : String → Request → StateM σ Response)
    (worker : String) (share : UInt64) (master : String) :
    MimicsOn Prod.fst (registerOver link serve worker share master)
      (registerOver link (watched serve) worker share master) := by
  intro state
  have each : ∀ request, MimicsOn Prod.fst (serve master request) (watched serve master request) :=
    fun request => mimicsOn_observed (fun sent : Sent => serve sent.1 sent.2) (master, request)
  have sent := mimicsOn_send each link ((MasterCall.register worker share).draft (baseOf master))
    state
  cases listed : send link ((MasterCall.register worker share).draft (baseOf master))
      (watched serve master) state with
  | mk response after =>
    rw [listed] at sent
    rw [registerOver_of_send sent, registerOver_of_send listed]

/-- Every request is for one of these masters and posts the form of the worker. -/
def AllPost (masters : List String) (form : RegistrationForm) (seen : List (Sent × Response)) :
    Prop :=
  ∀ entry ∈ seen, entry.1.1 ∈ masters ∧ entry.1.2.Posts form

theorem allPost_registerOver {masters : List String} {master : String} (mem : master ∈ masters)
    (link : Link) (worker : String) (share : UInt64) {state : σ × List (Sent × Response)}
    (here : AllPost masters ⟨worker, share⟩ state.2) :
    AllPost masters ⟨worker, share⟩
      (registerOver link (watched serve) worker share master state).2.2 := by
  rcases registerOver_cases link (watched serve) worker share master state with
    ⟨e, unsent⟩ | ⟨address, request, posted, sent⟩
  · rw [unsent]
    exact here
  · rw [sent]
    show AllPost masters _ (watched serve master request state).2.2
    intro entry listed
    rcases mem_watched listed with old | new
    · exact here entry old
    · rw [new, posted]
      exact ⟨mem, MasterCall.posts_register worker share _ address⟩

/-! ## The whole registration -/

theorem registerWorker_of_free {link : Link} {settings : Settings.Worker} {worker : Worker}
    {free : UInt64} (space : worker.freeStorage.1 = .ok free) :
    registerWorker link serve settings worker
      = Registration.registerWith (registerOver link serve worker.address
          (Registration.share free settings.masters.length)) settings.registerRetries.toNat
          settings.masters := by
  unfold registerWorker
  rw [space]

end Serving

theorem Registration.toNat_share (free : UInt64) (masters : Nat) :
    (share free masters).toNat = free.toNat / Text.mebibyte / masters := by
  unfold share
  by_cases none_ : masters = 0
  · rw [if_pos none_, none_, Nat.div_zero]
    rfl
  · have range := free.toNat_lt
    have le : free.toNat / Text.mebibyte / masters ≤ free.toNat :=
      (Nat.div_le_self ..).trans (Nat.div_le_self ..)
    rw [if_neg none_, UInt64.toNat_ofNat_of_lt' (by show _ < 2 ^ 64; omega)]

/-- A worker registers with its masters in order and with each in a round of calls, whatever comes
of these, and it succeeds if and only if all masters accept.  Every request posts its address and
one share of its free space.  If the network carries requests, a worker that succeeds has joined
every master with that share.

With no attempt allowed no master would be called, so at least one is asked for.  The network is any
function from requests to responses.  Only the last part needs to know that an address leads to a
master which is given the requests for it; that responses may be lost even then does no harm,
because a registration that is made twice leaves what one leaves. -/
theorem Serving.registers_in_rounds (link : Link) (serve : String → Request → StateM σ Response)
    (settings : Settings.Worker) (worker : Worker) {free : UInt64}
    (space : worker.freeStorage.1 = .ok free) (some_ : 1 ≤ settings.registerRetries) (state : σ) :
    let attempts := settings.registerRetries.toNat
    let share := Registration.share free settings.masters.length
    let call := registerOver link serve worker.address share
    let made := registerWorker link serve settings worker state
    share.toNat = free.toNat / Text.mebibyte / settings.masters.length ∧
    -- The calls are listed with their outcomes: one round for each master up to the last.
    (∃ turns : List (Registration.Turn String),
      Registration.registerWith (observed call) attempts settings.masters (state, [])
        = (made.1, made.2, turns.flatMap Registration.Turn.calls)
      ∧ (∀ turn ∈ turns, Retry.Round attempts turn.earlier turn.last)
      ∧ Registration.Ends settings.masters turns made.1
      ∧ (made.1 = .ok () ↔ turns.map Registration.Turn.master = settings.masters
          ∧ ∀ turn ∈ turns, turn.last = .ok ())) ∧
    -- The requests are listed with their responses, and nothing else is changed by that.
    (let seen := registerWorker link (watched serve) settings worker (state, [])
     made = (seen.1, seen.2.1) ∧ AllPost settings.masters ⟨worker.address, share⟩ seen.2.2) ∧
    ∀ (κ : Type) (route : String → κ) (masters : σ → κ → Master), Carries route masters serve →
      made.1 = .ok () →
      ∀ master ∈ settings.masters,
        (masters made.2 (route master)).ledger.Joined worker.address share := by
  intro attempts share call made
  have positive : 1 ≤ attempts := UInt64.le_iff_toNat_le.1 some_
  have run : made = Registration.registerWith call attempts settings.masters state :=
    congrFun (registerWorker_of_free space) state
  refine ⟨Registration.toNat_share free _, ?_, ⟨?_, ?_⟩, ?_⟩
  · obtain ⟨turns, outcome, after, listed, rounds, ends⟩ :=
      Registration.turns_of_registerWith call positive settings.masters state []
    have same := Registration.mimicsOn_registerWith (mimicsOn_observed call) attempts
      settings.masters (state, [])
    rw [listed, ← run] at same
    rw [same]
    exact ⟨turns, listed, rounds, ends, ends.ok_iff⟩
  · rw [registerWorker_of_free space, run]
    exact Registration.mimicsOn_registerWith (mimicsOn_registerOver link serve worker.address share)
      attempts settings.masters (state, [])
  · rw [registerWorker_of_free space]
    let start : σ × List (Sent × Response) := (state, [])
    have unsent : AllPost settings.masters ⟨worker.address, share⟩ start.2 := nofun
    exact Registration.keeps_registerWith
      (fun s : σ × List (Sent × Response) => AllPost settings.masters ⟨worker.address, share⟩ s.2)
      attempts (fun _ mem _ here => allPost_registerOver mem link worker.address share here) unsent
  · intro κ route masters carries accepted
    rw [run] at accepted ⊢
    exact carries.joined link worker.address share attempts (Prod.ext accepted rfl)

/-! ## Two masters -/

namespace Serving

/-- A network between masters that loses the first so many responses. -/
def lossy (address : String) (request : Request) : StateM (Nat × (String → Master)) Response :=
  fun state =>
    let made := Master.respond 0 request (state.2 address)
    (if state.1 = 0 then made.1 else .bare 502, state.1 - 1,
      fun other => if other = address then made.2 else state.2 other)

theorem carries_lossy : Carries id Prod.snd lossy where
  delivers address request state := by
    refine ⟨0, ?_⟩
    have after : (lossy address request state).2.2 address
        = (Master.respond 0 request (state.2 address)).2 := if_pos rfl
    rw [id, after]
    unfold lossy
    by_cases kept : state.1 = 0
    · simp only [if_pos kept]
      exact .answered
    · simp only [if_neg kept]
      exact .unheard rfl
  others address request state other elsewhere := if_neg elsewhere

/-- Two masters "a" and "b" without workers; the first response is lost. -/
def twoMasters : Nat × (String → Master) := (1, fun address => .start address "row")

/-- A worker with a folder and seven million bytes. -/
def newcomer : Worker := ⟨"w", .shelf, .onShelf, .xxh64, 7000000, true, []⟩

theorem newcomer_registers :
    let settings : Settings.Worker := { masters := ["a", "b"], registerRetries := 2 }
    let made := registerWorker .up lossy settings newcomer twoMasters
    made.1 = .ok ()
      ∧ (∃ turns : List (Registration.Turn String), turns.map Registration.Turn.master = ["a", "b"]
        ∧ ∀ turn ∈ turns, Retry.Round 2 turn.earlier turn.last ∧ turn.last = .ok ())
      ∧ (made.2.2 "a").ledger.Joined "w" 3 ∧ (made.2.2 "b").ledger.Joined "w" 3 := by
  intro settings made
  have accepted : made.1 = .ok () := by decide +kernel
  have space : newcomer.freeStorage.1 = .ok 7000000 := by decide +kernel
  obtain ⟨-, ⟨turns, -, rounds, -, all⟩, -, joined⟩ :=
    registers_in_rounds .up lossy settings newcomer space (by decide) twoMasters
  obtain ⟨order, each⟩ := all.1 accepted
  have shares : Registration.share 7000000 settings.masters.length = 3 := by decide +kernel
  have joined := joined String id Prod.snd carries_lossy accepted
  rw [shares] at joined
  exact ⟨accepted, ⟨turns, order, fun turn mem => ⟨rounds turn mem, each turn mem⟩⟩,
    joined "a" (by decide), joined "b" (by decide)⟩

end Serving

end BlobCluster
