import BlobCluster.Master.Basic

/-!
# Outcomes of programs

`Program.Meets` says of a program and a ledger that every way the program can end satisfies a
property of its answer and of the ledger it leaves.  It follows the tree of the program: at a query
the ledger decides how the program goes on, and if queries may fail the property has to hold of that
failure as well.  Identifiers may be any texts.

`meets_run` takes the property over to `Program.run`, so that a call of a master is described once
by what it leaves, both for queries that may fail at any point (`Master.answer_of_meets`) and for
queries that all get through (`Master.Calm.answer_of_meets`).
-/

namespace BlobCluster

namespace Program

variable {α β σ : Type} {faulty : Bool} {ledger : Ledger}

/-! ## Every way a program can end -/

/-- What holds of the result of a query: of its failure, or of its answer and the ledger after. -/
def Resolved (failed : Failure → Prop) (answered : α → Ledger → Prop) :
    Except Failure (α × Ledger) → Prop
  | .error e => failed e
  | .ok (answer, after) => answered answer after

/-- However the program ends, its answer and the ledger it leaves satisfy `post`.  If it is
`faulty`, each query may fail instead of being performed.  Recursion on the program makes this a
statement about every run, so a fact about a call is proved along its text and holds for all plans
of outages at once. -/
def Meets (faulty : Bool) (post : Except Failure α → Ledger → Prop) : Program α → Ledger → Prop
  | .done a, ledger => post (.ok a) ledger
  | .fail e, ledger => post (.error e) ledger
  | .overflow, ledger => post (.error overflowFailure) ledger
  | .mint next, ledger => ∀ id, (next id).Meets faulty post ledger
  | .ask q next, ledger =>
    (faulty → ∀ e, post (.error e) ledger)
      ∧ Resolved (fun e => post (.error e) ledger)
          (fun answer after => (next answer).Meets faulty post after) (q.perform ledger)

/-- What has to hold when a program goes on with the answer of another.  A failure is passed on, so
it has to meet what the whole program should. -/
def Onward (faulty : Bool) (f : α → Program β) (post : Except Failure β → Ledger → Prop) :
    Except Failure α → Ledger → Prop
  | .ok a, ledger => (f a).Meets faulty post ledger
  | .error e, ledger => post (.error e) ledger

theorem Meets.mono {program : Program α} {post post' : Except Failure α → Ledger → Prop}
    (h : program.Meets faulty post ledger) (weaker : ∀ r after, post r after → post' r after) :
    program.Meets faulty post' ledger := by
  induction program generalizing ledger with
  | done a => exact weaker _ _ h
  | fail e => exact weaker _ _ h
  | overflow => exact weaker _ _ h
  | mint next ih => exact fun id => ih id (h id)
  | ask q next ih =>
    obtain ⟨struck, performed⟩ := h
    refine ⟨fun may e => weaker _ _ (struck may e), ?_⟩
    cases result : q.perform ledger with
    | error e =>
      rw [result] at performed
      exact weaker _ _ performed
    | ok answered =>
      rw [result] at performed
      exact ih _ performed

theorem Meets.bind {program : Program α} {f : α → Program β}
    {post : Except Failure β → Ledger → Prop}
    (h : program.Meets faulty (Onward faulty f post) ledger) :
    (program.bind f).Meets faulty post ledger := by
  induction program generalizing ledger with
  | done a => exact h
  | fail e => exact h
  | overflow => exact h
  | mint next ih => exact fun id => ih id (h id)
  | ask q next ih =>
    obtain ⟨struck, performed⟩ := h
    refine ⟨struck, ?_⟩
    cases result : q.perform ledger with
    | error e =>
      rw [result] at performed
      exact performed
    | ok answered =>
      rw [result] at performed
      exact ih _ performed

/-- A program that answers has had all its queries answered, so what its answers satisfy when no
query fails they satisfy anyway. -/
theorem Meets.answering {program : Program α} {post : Except Failure α → Ledger → Prop}
    (h : program.Meets false post ledger) :
    program.Meets true (fun r after => ∀ a, r = .ok a → post (.ok a) after) ledger := by
  induction program generalizing ledger with
  | done a =>
    rintro _ ⟨⟩
    exact h
  | fail e => exact nofun
  | overflow => exact nofun
  | mint next ih => exact fun id => ih id (h id)
  | ask q next ih =>
    refine ⟨fun _ _ => nofun, ?_⟩
    have performed := h.2
    cases result : q.perform ledger with
    | error e => exact nofun
    | ok answered =>
      rw [result] at performed
      exact ih _ performed

theorem Meets.ofExcept {outcome : Except Failure α} {f : α → Program β}
    {post : Except Failure β → Ledger → Prop}
    (failed : ∀ e, outcome = .error e → post (.error e) ledger)
    (passed : ∀ a, outcome = .ok a → (f a).Meets faulty post ledger) :
    ((Program.ofExcept outcome).bind f).Meets faulty post ledger := by
  cases outcome with
  | error e => exact failed e rfl
  | ok a => exact passed a rfl

theorem Meets.query {q : Query} {a : q.Answer} {after : Ledger} {f : q.Answer → Program β}
    {post : Except Failure β → Ledger → Prop} (struck : faulty = true → ∀ e, post (.error e) ledger)
    (performed : q.perform ledger = .ok (a, after)) (next : (f a).Meets faulty post after) :
    ((Program.query q).bind f).Meets faulty post ledger := by
  refine ⟨struck, ?_⟩
  rw [performed]
  exact next

theorem Meets.refused {q : Query} {e : Failure} {f : q.Answer → Program β}
    {post : Except Failure β → Ledger → Prop} (struck : faulty = true → ∀ e, post (.error e) ledger)
    (performed : q.perform ledger = .error e) (failed : post (.error e) ledger) :
    ((Program.query q).bind f).Meets faulty post ledger := by
  refine ⟨struck, ?_⟩
  rw [performed]
  exact failed

theorem Meets.last {q : Query} {a : q.Answer} {after : Ledger}
    {post : Except Failure q.Answer → Ledger → Prop}
    (struck : faulty = true → ∀ e, post (.error e) ledger)
    (performed : q.perform ledger = .ok (a, after)) (answered : post (.ok a) after) :
    (Program.query q).Meets faulty post ledger := by
  refine ⟨struck, ?_⟩
  rw [performed]
  exact answered

/-! ## Running -/

/-- The gate lets every query through and stays as it is. -/
def Open (gate : Gate σ) (state : σ) : Prop := ∀ kind, gate kind state = (none, state)

/-- A run ends in one of the ways its program can end.  Either failures are allowed for in the
outcome, or the gate lets every query pass; one proof serves both, as they differ only where a query
is struck. -/
theorem meets_run {gate : Gate σ} {program : Program α} {desk : Desk σ}
    {post : Except Failure α → Ledger → Prop} (passes : faulty = true ∨ Open gate desk.gate)
    (h : program.Meets faulty post desk.ledger) :
    post (program.run gate desk).1 (program.run gate desk).2.ledger := by
  induction program generalizing desk with
  | done a => exact h
  | fail e => exact h
  | overflow => exact h
  | mint next ih => exact ih _ passes (h _)
  | ask q next ih =>
    obtain ⟨struck, performed⟩ := h
    rw [run]
    unfold pose
    rcases decided : gate q.kind desk.gate with ⟨_ | e, state⟩
    · have still : faulty = true ∨ Open gate state := by
        rcases passes with may | isOpen
        · exact .inl may
        · rw [isOpen] at decided
          cases decided
          exact .inr isOpen
      cases result : q.perform desk.ledger with
      | error e =>
        rw [result] at performed
        exact performed
      | ok answered =>
        rw [result] at performed
        exact ih _ still performed
    · rcases passes with may | isOpen
      · exact struck may e
      · rw [isOpen] at decided
        cases decided

/-- Without outages a query that can be performed is, and the program goes on with its answer. -/
theorem run_query {q : Query} {a : q.Answer} {after : Ledger} {mint : Mint}
    (performed : q.perform ledger = .ok (a, after)) (f : q.Answer → Program α) :
    ((query q).bind f).run Outages.strike ⟨ledger, mint, []⟩
      = (f a).run Outages.strike ⟨after, mint, []⟩ := by
  show run _ (.ask q f) _ = _
  rw [run]
  unfold pose
  rw [Outages.strike_nil]
  simp only [performed]

theorem open_run {gate : Gate σ} {desk : Desk σ} (isOpen : Open gate desk.gate)
    (program : Program α) : (program.run gate desk).2.gate = desk.gate := by
  induction program generalizing desk with
  | done a => rfl
  | fail e => rfl
  | overflow => rfl
  | mint next ih => exact ih _ isOpen
  | ask q next ih =>
    rw [run]
    unfold pose
    rw [isOpen]
    cases q.perform desk.ledger with
    | error e => rfl
    | ok answered => exact ih _ isOpen

end Program

/-! ## Calls of a master -/

namespace Master

variable {master : Master}

/-- Whatever outages are planned, a call ends in one of the ways its program can end, or it fails
and leaves the ledger as it was. -/
theorem answer_of_meets (now : Int64) (call : MasterCall)
    {post : Except Failure call.Answer → Ledger → Prop}
    (struck : ∀ e, post (.error e) master.ledger)
    (h : (call.program now).Meets true post master.ledger) :
    post (master.answer now call).1 (master.answer now call).2.ledger := by
  unfold answer
  rcases Outages.strike call.kind master.outages with ⟨_ | e, outages⟩
  · exact Program.meets_run (.inl rfl) h
  · exact struck e

/-- No outages are planned. -/
structure Calm (master : Master) : Prop where
  calls : master.outages = []
  queries : master.desk.gate = []

theorem calm_start (address label : String) : (start address label).Calm := ⟨rfl, rfl⟩

theorem Calm.isOpen (h : master.Calm) : Program.Open Outages.strike master.desk.gate := by
  intro kind
  rw [h.queries]
  rfl

/-- Without outages a call ends in one of the ways its program can end. -/
theorem Calm.answer_of_meets (calm : master.Calm) (now : Int64) (call : MasterCall)
    {post : Except Failure call.Answer → Ledger → Prop}
    (h : (call.program now).Meets false post master.ledger) :
    post (master.answer now call).1 (master.answer now call).2.ledger := by
  unfold answer
  rw [calm.calls]
  exact Program.meets_run (.inr calm.isOpen) h

theorem Calm.answer (calm : master.Calm) (now : Int64) (call : MasterCall) :
    (master.answer now call).2.Calm := by
  unfold Master.answer
  rw [calm.calls]
  refine ⟨rfl, ?_⟩
  exact (Program.open_run calm.isOpen _).trans calm.queries

end Master

end BlobCluster
