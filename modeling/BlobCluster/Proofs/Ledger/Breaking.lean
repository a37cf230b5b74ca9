import BlobCluster.Proofs.Ledger.Outcome

/-!
# Programs that break off

A query that does not get through the gate ends its program.  `Program.struck?` names that query,
whatever the gate; if there is none the gate makes no difference to the run (`run_of_unstruck`).
`Program.Poses` says of every query of a program on which ledgers it is posed, also of those that
are not performed.  As a query that is struck leaves the ledger, this is what a program leaves that
breaks off there (`run_of_struck`).
-/

namespace BlobCluster.Program

variable {α β σ τ : Type} {gate : Gate σ}

/-! ## The query that is struck -/

/-- The query of a run that does not get through the gate, and the failure it meets there. -/
def struck? (gate : Gate σ) : Program α → Desk σ → Option (Query × Failure)
  | .done _, _ | .fail _, _ | .overflow, _ => none
  | .mint next, desk =>
    let drawn := desk.mint.next
    (next drawn.1).struck? gate { desk with mint := drawn.2 }
  | .ask q next, desk =>
    match gate q.kind desk.gate with
    | (some e, _) => some (q, e)
    | (none, state) =>
      match q.perform desk.ledger with
      | .error _ => none
      | .ok (answer, ledger) => (next answer).struck? gate { desk with ledger, gate := state }

/-- Where no query is struck the run is the same as behind a gate that is open. -/
theorem run_of_unstruck {open_ : Gate τ} {program : Program α} {desk : Desk σ} {state : τ}
    (isOpen : Open open_ state) (unstruck : program.struck? gate desk = none) :
    let free := program.run open_ ⟨desk.ledger, desk.mint, state⟩
    (program.run gate desk).1 = free.1 ∧ (program.run gate desk).2.ledger = free.2.ledger
      ∧ (program.run gate desk).2.mint = free.2.mint := by
  induction program generalizing desk with
  | done a => exact ⟨rfl, rfl, rfl⟩
  | fail e => exact ⟨rfl, rfl, rfl⟩
  | overflow => exact ⟨rfl, rfl, rfl⟩
  | mint next ih => exact ih _ unstruck
  | ask q next ih =>
    rw [struck?] at unstruck
    rw [run, run]
    unfold pose
    rw [isOpen]
    rcases decided : gate q.kind desk.gate with ⟨_ | e, after⟩
    · rw [decided] at unstruck
      simp only at unstruck ⊢
      cases performed : q.perform desk.ledger with
      | error e => exact ⟨rfl, rfl, rfl⟩
      | ok answered =>
        rw [performed] at unstruck
        exact ih _ unstruck
    · rw [decided] at unstruck
      cases unstruck

/-! ## Where queries are posed -/

/-- Every query of the program is posed on a ledger as `on` says, and if the program succeeds it
ends as `post` says, whichever queries fail.  A query that fails changes nothing, so `on` is what is
known of the ledger that is left when a run breaks off there. -/
def Poses (on : Query → Ledger → Prop) (post : α → Ledger → Prop) : Program α → Ledger → Prop
  | .done a, ledger => post a ledger
  | .fail _, _ | .overflow, _ => True
  | .mint next, ledger => ∀ id, (next id).Poses on post ledger
  | .ask q next, ledger => on q ledger
    ∧ ∀ answer after, q.perform ledger = .ok (answer, after) → (next answer).Poses on post after

variable {on on' : Query → Ledger → Prop} {ledger : Ledger}

theorem Poses.mono {program : Program α} {post post' : α → Ledger → Prop}
    (h : program.Poses on post ledger) (weaker : ∀ q here, on q here → on' q here)
    (weaker' : ∀ a after, post a after → post' a after) : program.Poses on' post' ledger := by
  induction program generalizing ledger with
  | done a => exact weaker' _ _ h
  | fail e => trivial
  | overflow => trivial
  | mint next ih => exact fun id => ih id (h id)
  | ask q next ih =>
    obtain ⟨here, later⟩ := h
    exact ⟨weaker _ _ here, fun answer after performed => ih answer (later answer after performed)⟩

theorem Poses.bind {program : Program α} {f : α → Program β} {post : β → Ledger → Prop}
    (h : program.Poses on (fun a after => (f a).Poses on post after) ledger) :
    (program.bind f).Poses on post ledger := by
  induction program generalizing ledger with
  | done a => exact h
  | fail e => trivial
  | overflow => trivial
  | mint next ih => exact fun id => ih id (h id)
  | ask q next ih =>
    obtain ⟨here, later⟩ := h
    exact ⟨here, fun answer after performed => ih answer (later answer after performed)⟩

/-- A query is posed here, and its answer is gone on with. -/
theorem Poses.query {q : Query} {a : q.Answer} {after : Ledger} {f : q.Answer → Program β}
    {post : β → Ledger → Prop} (here : on q ledger)
    (performed : q.perform ledger = .ok (a, after)) (next : (f a).Poses on post after) :
    ((Program.query q).bind f).Poses on post ledger := by
  refine ⟨here, fun answer after' performed' => ?_⟩
  cases performed.symm.trans performed'
  exact next

theorem Poses.refused {q : Query} {e : Failure} {f : q.Answer → Program β}
    {post : β → Ledger → Prop} (here : on q ledger) (performed : q.perform ledger = .error e) :
    ((Program.query q).bind f).Poses on post ledger := by
  refine ⟨here, fun answer after performed' => ?_⟩
  cases performed.symm.trans performed'

theorem Poses.last {q : Query} {a : q.Answer} {after : Ledger} {post : q.Answer → Ledger → Prop}
    (here : on q ledger) (performed : q.perform ledger = .ok (a, after)) (ended : post a after) :
    (Program.query q).Poses on post ledger := by
  refine ⟨here, fun answer after' performed' => ?_⟩
  cases performed.symm.trans performed'
  exact ended

/-- A program that breaks off at a query answers the failure it met, and leaves a ledger on which
that query was posed.  No induction on runs is needed after it: that a query is posed only on such
ledgers is proved along the program, without a gate. -/
theorem run_of_struck {program : Program α} {desk : Desk σ} {post : α → Ledger → Prop} {q : Query}
    {e : Failure} (posed : program.Poses on post desk.ledger)
    (struck : program.struck? gate desk = some (q, e)) :
    (program.run gate desk).1 = .error e ∧ on q (program.run gate desk).2.ledger := by
  induction program generalizing desk with
  | done a => cases struck
  | fail e => cases struck
  | overflow => cases struck
  | mint next ih => exact ih _ (posed _) struck
  | ask q' next ih =>
    obtain ⟨here, later⟩ := posed
    rw [struck?] at struck
    rw [run]
    unfold pose
    rcases decided : gate q'.kind desk.gate with ⟨_ | e', after⟩
    · rw [decided] at struck
      simp only at struck ⊢
      cases performed : q'.perform desk.ledger with
      | error e' =>
        rw [performed] at struck
        cases struck
      | ok answered =>
        rw [performed] at struck
        exact ih _ (later _ _ performed) struck
    · rw [decided] at struck
      cases struck
      exact ⟨rfl, here⟩

end BlobCluster.Program
