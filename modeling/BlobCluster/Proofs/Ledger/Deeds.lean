import BlobCluster.Proofs.Ledger.Outcome

/-!
# What programs do on their way

`Program.Meets` describes how a program ends.  Here it is described by what it does until then:
`Program.deeds` lists the identifiers that it draws and the queries that are performed, each with
the ledger before and after it.  A query that fails is no deed and ends the list.

`Along` says that every deed is a step of some kind, whichever queries fail, and has the shape of
the program.  `Issues` says that the rows a program adds carry identifiers it has drawn, each used
once at most; identifiers drawn in advance may be left over.
-/

namespace BlobCluster

/-- The row of a copy that a query creates. -/
def Query.created? : Query → Option CopyRow
  | .addCopy row => some row
  | _ => none

inductive Deed where
  | draw (id : String)
  | perform (q : Query) (before after : Ledger)

namespace Deed

def drawn? : Deed → Option String
  | .draw id => some id
  | .perform .. => none

def created? : Deed → Option CopyRow
  | .draw _ => none
  | .perform q _ _ => q.created?

def drawn (deeds : List Deed) : List String := deeds.filterMap drawn?

def created (deeds : List Deed) : List CopyRow := deeds.filterMap created?

theorem created_perform (q : Query) (before after : Ledger) (later : List Deed) :
    created (.perform q before after :: later) = q.created?.toList ++ created later := by
  have here : (perform q before after).created? = q.created? := rfl
  unfold created
  rw [List.filterMap_cons, here]
  cases q.created? <;> rfl

/-- The deeds lead from one ledger to another, each of them from where the one before it ended. -/
def Leads : Ledger → List Deed → Ledger → Prop
  | start, [], stop => start = stop
  | start, .draw _ :: later, stop => Leads start later stop
  | start, .perform q before after :: later, stop =>
    before = start ∧ (∃ answer, q.perform before = .ok (answer, after)) ∧ Leads after later stop

theorem Leads.append {start between stop : Ledger} {first second : List Deed}
    (h : Leads start first between) (h' : Leads between second stop) :
    Leads start (first ++ second) stop := by
  induction first generalizing start with
  | nil =>
    obtain rfl : start = between := h
    exact h'
  | cons deed later ih =>
    cases deed with
    | draw id => exact ih h
    | perform q before after => exact ⟨h.1, h.2.1, ih h.2.2⟩

end Deed

/-- The mint after so many identifiers. -/
def Mint.past (mint : Mint) : Nat → Mint
  | 0 => mint
  | count + 1 => mint.next.2.past count

namespace Program

variable {α β σ : Type} {gate : Gate σ}

/-! ## Deeds of a run -/

/-- What a program does at a desk before it ends.  Draws and queries that took effect are listed
with the ledgers around them, and a query that fails ends the list. -/
def deeds (gate : Gate σ) : Program α → Desk σ → List Deed
  | .done _, _ | .fail _, _ | .overflow, _ => []
  | .mint next, desk =>
    let drawn := desk.mint.next
    .draw drawn.1 :: (next drawn.1).deeds gate { desk with mint := drawn.2 }
  | .ask q next, desk =>
    match pose gate desk q with
    | (.error _, _) => []
    | (.ok answer, after) =>
      .perform q desk.ledger after.ledger :: (next answer).deeds gate after

/-- A query that is posed fails and leaves the ledger, or it is performed. -/
theorem pose_cases (gate : Gate σ) (desk : Desk σ) (q : Query) :
    (∃ e after, pose gate desk q = (.error e, after)
        ∧ after.ledger = desk.ledger ∧ after.mint = desk.mint)
      ∨ ∃ answer after, pose gate desk q = (.ok answer, after)
        ∧ q.perform desk.ledger = .ok (answer, after.ledger) ∧ after.mint = desk.mint := by
  unfold pose
  rcases gate q.kind desk.gate with ⟨_ | e, state⟩
  · cases performed : q.perform desk.ledger with
    | error e => exact .inl ⟨e, _, rfl, rfl, rfl⟩
    | ok answered => exact .inr ⟨answered.1, _, rfl, rfl, rfl⟩
  · exact .inl ⟨e, _, rfl, rfl, rfl⟩

theorem leads_deeds (program : Program α) (desk : Desk σ) :
    Deed.Leads desk.ledger (program.deeds gate desk) (program.run gate desk).2.ledger := by
  induction program generalizing desk with
  | done a => exact rfl
  | fail e => exact rfl
  | overflow => exact rfl
  | mint next ih => exact ih _ { desk with mint := desk.mint.next.2 }
  | ask q next ih =>
    rw [deeds, run]
    rcases pose_cases gate desk q with ⟨e, after, posed, same, -⟩
      | ⟨answer, after, posed, performed, -⟩
    · rw [posed]
      exact same.symm
    · rw [posed]
      exact ⟨rfl, ⟨answer, performed⟩, ih answer after⟩

/-- The drawn identifiers are the next ones of the mint. -/
theorem drawn_deeds (program : Program α) (desk : Desk σ) :
    Deed.drawn (program.deeds gate desk)
        = desk.mint.take (Deed.drawn (program.deeds gate desk)).length
      ∧ (program.run gate desk).2.mint
        = desk.mint.past (Deed.drawn (program.deeds gate desk)).length := by
  induction program generalizing desk with
  | done a => exact ⟨rfl, rfl⟩
  | fail e => exact ⟨rfl, rfl⟩
  | overflow => exact ⟨rfl, rfl⟩
  | mint next ih =>
    obtain ⟨drawn, after⟩ := ih desk.mint.next.1 { desk with mint := desk.mint.next.2 }
    exact ⟨congrArg (desk.mint.next.1 :: ·) drawn, after⟩
  | ask q next ih =>
    rw [deeds, run]
    rcases pose_cases gate desk q with ⟨e, after, posed, -, same⟩ | ⟨answer, after, posed, -, same⟩
    · rw [posed]
      exact ⟨rfl, same⟩
    · rw [posed, ← same]
      exact ih answer after

/-! ## Steps -/

/-- Every query that is performed is a step, and if the program succeeds it ends as `post` says,
whichever queries fail.  Unlike `Poses` it speaks of both sides of a query that went well, so it
also says what was done before a run breaks off. -/
def Along (step : Query → Ledger → Ledger → Prop) (post : α → Ledger → Prop) :
    Program α → Ledger → Prop
  | .done a, ledger => post a ledger
  | .fail _, _ | .overflow, _ => True
  | .mint next, ledger => ∀ id, (next id).Along step post ledger
  | .ask q next, ledger => ∀ answer after, q.perform ledger = .ok (answer, after) →
    step q ledger after ∧ (next answer).Along step post after

variable {step : Query → Ledger → Ledger → Prop} {ledger : Ledger}

theorem Along.bind {program : Program α} {f : α → Program β} {post : β → Ledger → Prop}
    (h : program.Along step (fun a after => (f a).Along step post after) ledger) :
    (program.bind f).Along step post ledger := by
  induction program generalizing ledger with
  | done a => exact h
  | fail e => trivial
  | overflow => trivial
  | mint next ih => exact fun id => ih id (h id)
  | ask q next ih =>
    intro answer after performed
    obtain ⟨first, rest⟩ := h answer after performed
    exact ⟨first, ih answer rest⟩

theorem Along.mono {program : Program α} {post post' : α → Ledger → Prop}
    (h : program.Along step post ledger) (weaker : ∀ a after, post a after → post' a after) :
    program.Along step post' ledger := by
  induction program generalizing ledger with
  | done a => exact weaker _ _ h
  | fail e => trivial
  | overflow => trivial
  | mint next ih => exact fun id => ih id (h id)
  | ask q next ih =>
    intro answer after performed
    obtain ⟨first, rest⟩ := h answer after performed
    exact ⟨first, ih answer rest⟩

theorem Along.weaken {program : Program α} {step' : Query → Ledger → Ledger → Prop}
    {post : α → Ledger → Prop} (h : program.Along step post ledger)
    (weaker : ∀ q before after, step q before after → step' q before after) :
    program.Along step' post ledger := by
  induction program generalizing ledger with
  | done a => exact h
  | fail e => trivial
  | overflow => trivial
  | mint next ih => exact fun id => ih id (h id)
  | ask q next ih =>
    intro answer after performed
    obtain ⟨first, rest⟩ := h answer after performed
    exact ⟨weaker _ _ _ first, ih answer rest⟩

/-- The deeds of a program are steps if its queries are.  The deeds are those behind some gate,
while the premise is about every answer a query can have. -/
theorem Along.deeds {program : Program α} {post : α → Ledger → Prop} {desk : Desk σ}
    (h : program.Along step post desk.ledger) {q : Query} {before after : Ledger}
    (mem : .perform q before after ∈ program.deeds gate desk) : step q before after := by
  induction program generalizing desk with
  | done a => cases mem
  | fail e => cases mem
  | overflow => cases mem
  | mint next ih =>
    rcases List.mem_cons.1 mem with this | later
    · cases this
    · have rest : (next desk.mint.next.1).Along step post
          ({ desk with mint := desk.mint.next.2 } : Desk σ).ledger := h _
      exact ih _ rest later
  | ask q' next ih =>
    rw [Program.deeds] at mem
    rcases pose_cases gate desk q' with ⟨e, left, posed, -, -⟩ | ⟨answer, left, posed, performed, -⟩
    · rw [posed] at mem
      cases mem
    · rw [posed] at mem
      obtain ⟨first, rest⟩ := h answer left.ledger performed
      rcases List.mem_cons.1 mem with this | later
      · cases this
        exact first
      · exact ih answer rest later

/-! ## Rows and their identifiers -/

/-- Every row that is added carries one of the unused identifiers, or one that the program has drawn
since, and no two rows carry the same one.  Identifiers may be left over when a program ends, as
they are if it breaks off after a draw. -/
def Issues : Program α → List String → Prop
  | .done _, _ | .fail _, _ | .overflow, _ => True
  | .mint next, unused => ∀ id, (next id).Issues (unused ++ [id])
  | .ask q next, unused => ∃ rest,
    ((q.created?.map (·.id)).toList ++ rest).Sublist unused
      ∧ ∀ answer, (next answer).Issues rest

theorem Issues.mono {program : Program α} {unused more : List String} (h : program.Issues unused)
    (sub : unused.Sublist more) : program.Issues more := by
  induction program generalizing unused more with
  | done a => trivial
  | fail e => trivial
  | overflow => trivial
  | mint next ih => exact fun id => ih id (h id) (sub.append (List.Sublist.refl _))
  | ask q next ih =>
    obtain ⟨rest, used, later⟩ := h
    exact ⟨rest, used.trans sub, later⟩

theorem Issues.bind {program : Program α} {f : α → Program β} {unused : List String}
    (h : program.Issues unused) (later : ∀ a, (f a).Issues []) :
    (program.bind f).Issues unused := by
  induction program generalizing unused with
  | done a => exact (later a).mono (List.nil_sublist _)
  | fail e => trivial
  | overflow => trivial
  | mint next ih => exact fun id => ih id (h id)
  | ask q next ih =>
    obtain ⟨rest, used, onward⟩ := h
    exact ⟨rest, used, fun answer => ih answer (onward answer)⟩

/-- A query that adds no row leaves the identifiers. -/
theorem Issues.query {q : Query} {f : q.Answer → Program β} {unused : List String}
    (plain : q.created? = none)
    (later : ∀ answer, (f answer).Issues unused) : ((Program.query q).bind f).Issues unused := by
  refine ⟨unused, ?_, later⟩
  rw [plain]
  exact List.Sublist.refl _

/-- The identifiers of created rows are among those drawn, in their order.  `unused` holds the
identifiers that were drawn before and may still be given to a row. -/
theorem Issues.created {program : Program α} {unused : List String} (h : program.Issues unused)
    (desk : Desk σ) : ((Deed.created (program.deeds gate desk)).map (·.id)).Sublist
      (unused ++ Deed.drawn (program.deeds gate desk)) := by
  induction program generalizing unused desk with
  | done a => exact List.nil_sublist _
  | fail e => exact List.nil_sublist _
  | overflow => exact List.nil_sublist _
  | mint next ih =>
    have later := ih _ (h desk.mint.next.1) { desk with mint := desk.mint.next.2 }
    rw [List.append_assoc] at later
    exact later
  | ask q next ih =>
    obtain ⟨rest, used, onward⟩ := h
    rw [deeds]
    rcases pose_cases gate desk q with ⟨e, after, posed, -, -⟩ | ⟨answer, after, posed, -, -⟩
    · rw [posed]
      exact List.nil_sublist _
    · rw [posed]
      have later := ih answer (onward answer) after
      have both := (List.Sublist.refl (q.created?.map (·.id)).toList).append later
      rw [← List.append_assoc] at both
      have all := both.trans (used.append (List.Sublist.refl _))
      have drawn :
          Deed.drawn (.perform q desk.ledger after.ledger :: (next answer).deeds gate after)
            = Deed.drawn ((next answer).deeds gate after) := rfl
      rw [Deed.created_perform, List.map_append, drawn]
      cases created : q.created? <;> simpa [created] using all

end Program

end BlobCluster
