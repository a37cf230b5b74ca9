import BlobCluster.Proofs.Ledger.Deeds

/-!
# Where programs stop

A query that fails ends its program and leaves the ledger on which it was posed.  So a program that
fails has left one of the ledgers on which its queries were posed, or the one on which a query was
refused.  Which queries can fail is known from the outages that are planned: no query fails of a
kind for which none is.  `stopped_run` puts this together for a property of ledgers.
-/

namespace BlobCluster

namespace Outages

variable {κ : Type} [DecidableEq κ] {kinds : κ → Prop} {plan : Outages κ}

/-- Outages are planned for some kinds of call only. -/
def Within (kinds : κ → Prop) (plan : Outages κ) : Prop := ∀ outage ∈ plan, kinds outage.kind

instance [DecidablePred kinds] : Decidable (plan.Within kinds) :=
  inferInstanceAs (Decidable (∀ outage ∈ plan, kinds outage.kind))

/-- Only a call of a kind with a planned outage fails. -/
theorem Within.of_struck (h : plan.Within kinds) {kind : κ} {e : Failure} {left : Outages κ}
    (struck : plan.strike kind = (some e, left)) : kinds kind := by
  induction plan generalizing left with
  | nil => cases struck
  | cons outage rest ih =>
    rw [strike] at struck
    split at struck
    next here =>
      rw [← here.1]
      exact h outage (List.mem_cons_self ..)
    next =>
      rcases later : strike kind rest with ⟨failure?, left'⟩
      rw [later] at struck
      cases struck
      exact ih (fun other mem => h other (List.mem_cons_of_mem _ mem)) later

theorem Within.strike (h : plan.Within kinds) (kind : κ) : (plan.strike kind).2.Within kinds := by
  induction plan with
  | nil => exact h
  | cons outage rest ih =>
    have here := h outage (List.mem_cons_self ..)
    have later : Within kinds rest := fun other mem => h other (List.mem_cons_of_mem _ mem)
    rw [Outages.strike]
    split
    next =>
      split
      · exact List.forall_mem_cons.2 ⟨here, later⟩
      · exact List.forall_mem_cons.2 ⟨here, later⟩
    next => exact List.forall_mem_cons.2 ⟨here, ih later⟩

end Outages

namespace Program

variable {α : Type} {kinds : Query.Kind → Prop} {inv : Ledger → Prop}

/-- Whichever queries fail, what is left has a property that every ledger has on which a query is
posed, and every ledger that is left if no query fails.  A query that fails changes nothing.  So the
ledger a call leaves is one on which a query was posed, or the one it ends with. -/
theorem Meets.of_posed {program : Program α} {ledger : Ledger}
    (posed : program.Along (fun _ before _ => inv before) (fun _ _ => True) ledger)
    (ended : program.Meets false (fun _ after => inv after) ledger) :
    program.Meets true (fun _ after => inv after) ledger := by
  induction program generalizing ledger with
  | done a => exact ended
  | fail e => exact ended
  | overflow => exact ended
  | mint next ih => exact fun id => ih id (posed id) (ended id)
  | ask q next ih =>
    obtain ⟨-, performed⟩ := ended
    show _ ∧ Resolved _ _ (q.perform ledger)
    cases result : q.perform ledger with
    | error e =>
      rw [result] at performed
      exact ⟨fun _ _ => performed, performed⟩
    | ok answered =>
      rw [result] at performed
      obtain ⟨here, later⟩ := posed _ _ result
      exact ⟨fun _ _ => here, ih _ later performed⟩

/-- A failing run leaves a ledger with a property, if every ledger has it on which a query of a kind
is posed that may fail, and every ledger on which the program fails by itself.  The two conditions
are proved by recursion on the program apart from each other, one about the queries that are posed,
with no outages to think of, and one about a run without outages. -/
theorem stopped_run {program : Program α} {desk : Desk (Outages Query.Kind)} {e : Failure}
    (plan : desk.gate.Within kinds)
    (posed : program.Along (fun q before _ => kinds q.kind → inv before) (fun _ _ => True)
      desk.ledger)
    (refused : program.Meets false (fun r after => (∃ e, r = .error e) → inv after) desk.ledger)
    (failed : (program.run Outages.strike desk).1 = .error e) :
    inv (program.run Outages.strike desk).2.ledger := by
  induction program generalizing desk with
  | done a => cases failed
  | fail e' => exact refused ⟨e', rfl⟩
  | overflow => exact refused ⟨_, rfl⟩
  | mint next ih => exact ih _ plan (posed _) (refused _) failed
  | ask q next ih =>
    have still := plan.strike q.kind
    obtain ⟨-, performed⟩ := refused
    rw [run] at failed ⊢
    unfold pose at failed ⊢
    rcases struck : desk.gate.strike q.kind with ⟨_ | e', left⟩
    · rw [struck] at still
      rw [struck] at failed
      simp only at failed ⊢
      cases result : q.perform desk.ledger with
      | error e' =>
        rw [result] at performed
        exact performed ⟨e', rfl⟩
      | ok answered =>
        rw [result] at performed failed
        exact ih _ still (posed _ _ result).2 performed failed
    · simp only
      cases result : q.perform desk.ledger with
      | error e' =>
        rw [result] at performed
        exact performed ⟨e', rfl⟩
      | ok answered => exact (posed _ _ result).1 (plan.of_struck struck)

end Program

end BlobCluster
