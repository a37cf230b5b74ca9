import Mathlib
import BlobCluster.Proofs.Ledger.Finding
import BlobCluster.Proofs.Ledger.LifeCycle

/-!
# The history of a master

A master answers one call after another while any queries of them fail.  Its history lists what was
done for each call: the identifiers drawn and the queries performed, each with the ledger before and
after it.  The main result reads the life of every copy off this history.  The history leads from an
empty ledger to that of the master, so nothing happens outside of it; every query in it does to the
copies only what its call may; no two copies were ever created under one identifier; and so a lookup
without outages finds the holder with the least address, or fails because there is none.

A `Trial` is a call with the outages planned for it.  As outages can be planned anew for each call,
trials cover every pattern of failing queries.
-/

namespace BlobCluster

/-! ## Identifiers -/

namespace Mint

theorem take_add (mint : Mint) (m n : Nat) :
    mint.take (m + n) = mint.take m ++ (mint.past m).take n := by
  induction m generalizing mint with
  | zero => simp [take, past]
  | succ m ih =>
    rw [Nat.succ_add]
    simp only [take, past, ih, List.cons_append]

theorem take_mk (label : String) (drawn : UInt64) (count : Nat) :
    (Mint.mk label drawn).take count
      = (List.range count).map fun n =>
          label ++ "-" ++ toString ((drawn.toNat + n) % 2 ^ 64) := by
  induction count generalizing drawn with
  | zero => rfl
  | succ count ih =>
    have range := drawn.toNat_lt
    have sum : (drawn + 1).toNat = (drawn.toNat + 1) % 2 ^ 64 := UInt64.toNat_add ..
    rw [take, List.range_succ_eq_map, List.map_cons, List.map_map]
    congr 1
    · rw [Nat.add_zero, Nat.mod_eq_of_lt range]
      rfl
    · refine (ih (drawn + 1)).trans (List.map_congr_left fun n _ => ?_)
      have same : ((drawn + 1).toNat + n) % 2 ^ 64 = (drawn.toNat + (n + 1)) % 2 ^ 64 := by
        rw [sum]
        omega
      rw [same]
      rfl

theorem nodup_take (mint : Mint) {count : Nat} (few : count ≤ 2 ^ 64) :
    (mint.take count).Nodup := by
  obtain ⟨label, drawn⟩ := mint
  rw [take_mk]
  refine List.Nodup.map_on ?_ List.nodup_range
  intro m mem n mem' same
  have lt := List.mem_range.1 mem
  have lt' := List.mem_range.1 mem'
  have equal : (drawn.toNat + m) % 2 ^ 64 = (drawn.toNat + n) % 2 ^ 64 :=
    Nat.repr_injective ((String.append_right_inj _).1 same)
  omega

theorem length_take (mint : Mint) (count : Nat) : (mint.take count).length = count := by
  induction count generalizing mint with
  | zero => rfl
  | succ count ih => exact congrArg (· + 1) (ih mint.next.2)

end Mint

/-! ## Trials -/

/-- A call of a master at a time, with the outages planned for it.  They replace those that an
earlier trial has left over, so trials say all there is about what fails. -/
structure Trial where
  now : Int64
  call : MasterCall
  /-- Outages of the call itself. -/
  calls : Outages MasterCall.Kind
  /-- Outages of its queries. -/
  queries : Outages Query.Kind

namespace Trial

/-- The master with these outages planned, instead of any others. -/
def arm (trial : Trial) (master : Master) : Master :=
  { master with desk := { master.desk with gate := trial.queries }, outages := trial.calls }

/-- The answer and the master after it. -/
def answer (trial : Trial) (master : Master) : Except Failure trial.call.Answer × Master :=
  (trial.arm master).answer trial.now trial.call

/-- What the master does for the call: nothing, if the call does not get through. -/
def deeds (trial : Trial) (master : Master) : List Deed :=
  match trial.calls.strike trial.call.kind with
  | (some _, _) => []
  | (none, _) => (trial.call.program trial.now).deeds Outages.strike (trial.arm master).desk

variable {trial : Trial} {master : Master}

/-- A call that gets through is the run of its program, any other leaves the desk. -/
theorem desk_answer (trial : Trial) (master : Master) :
    (trial.answer master).2.desk
      = match trial.calls.strike trial.call.kind with
        | (some _, _) => (trial.arm master).desk
        | (none, _) =>
          ((trial.call.program trial.now).run Outages.strike (trial.arm master).desk).2 := by
  have planned : (trial.arm master).outages = trial.calls := rfl
  unfold answer Master.answer
  rw [planned]
  rcases trial.calls.strike trial.call.kind with ⟨_ | e, outages⟩
  · rfl
  · rfl

theorem leads_deeds (trial : Trial) (master : Master) :
    Deed.Leads master.ledger (trial.deeds master) (trial.answer master).2.ledger := by
  have desk := trial.desk_answer master
  unfold Master.ledger
  rw [desk]
  unfold deeds
  rcases trial.calls.strike trial.call.kind with ⟨_ | e, outages⟩
  · exact Program.leads_deeds _ (trial.arm master).desk
  · rfl

theorem drawn_deeds (trial : Trial) (master : Master) :
    Deed.drawn (trial.deeds master)
        = master.desk.mint.take (Deed.drawn (trial.deeds master)).length
      ∧ (trial.answer master).2.desk.mint
        = master.desk.mint.past (Deed.drawn (trial.deeds master)).length := by
  rw [desk_answer]
  unfold deeds
  rcases trial.calls.strike trial.call.kind with ⟨_ | e, outages⟩
  · exact Program.drawn_deeds _ (trial.arm master).desk
  · exact ⟨rfl, rfl⟩

theorem created_deeds (trial : Trial) (master : Master) :
    ((Deed.created (trial.deeds master)).map (·.id)).Sublist (Deed.drawn (trial.deeds master)) := by
  unfold deeds
  rcases trial.calls.strike trial.call.kind with ⟨_ | e, outages⟩
  · exact (MasterCall.issues_program trial.now trial.call).created _
  · exact List.Sublist.refl _

theorem permitted_deeds {q : Query} {before after : Ledger}
    (mem : .perform q before after ∈ trial.deeds master) : trial.call.Permitted q before after := by
  have along : (trial.call.program trial.now).Along trial.call.Permitted (fun _ _ => True)
      (trial.arm master).desk.ledger := MasterCall.permitted_program _ _ _
  unfold deeds at mem
  rcases struck : trial.calls.strike trial.call.kind with ⟨_ | e, outages⟩
  · rw [struck] at mem
    exact along.deeds mem
  · rw [struck] at mem
    cases mem

end Trial

/-! ## Histories -/

namespace Master

/-- The master after trials, the first of which comes first. -/
def tried (master : Master) : List Trial → Master
  | [] => master
  | trial :: later => (trial.answer master).2.tried later

/-- What was done in these trials, and for which call.  The deeds carry the ledgers around them, so
the life of every copy can be followed through the whole list. -/
def history (master : Master) : List Trial → List (MasterCall × Deed)
  | [] => []
  | trial :: later =>
    (trial.deeds master).map (trial.call, ·) ++ (trial.answer master).2.history later

def deeds (master : Master) (trials : List Trial) : List Deed :=
  (master.history trials).map (·.2)

theorem deeds_cons (master : Master) (trial : Trial) (later : List Trial) :
    master.deeds (trial :: later) = trial.deeds master ++ (trial.answer master).2.deeds later := by
  unfold deeds
  rw [history, List.map_append, List.map_map]
  exact congrArg (· ++ _) (List.map_id _)

/-- Nothing happens to a ledger outside of the history. -/
theorem leads_history (master : Master) (trials : List Trial) :
    Deed.Leads master.ledger (master.deeds trials) (master.tried trials).ledger := by
  induction trials generalizing master with
  | nil => rfl
  | cons trial later ih =>
    rw [deeds_cons]
    exact (trial.leads_deeds master).append (ih _)

theorem permitted_history {master : Master} {trials : List Trial} {call : MasterCall} {q : Query}
    {before after : Ledger} (mem : (call, .perform q before after) ∈ master.history trials) :
    call.Permitted q before after := by
  induction trials generalizing master with
  | nil => cases mem
  | cons trial later ih =>
    rcases List.mem_append.1 mem with now | rest
    · obtain ⟨deed, listed, same⟩ := List.mem_map.1 now
      cases same
      exact Trial.permitted_deeds listed
    · exact ih rest

theorem drawn_history (master : Master) (trials : List Trial) :
    Deed.drawn (master.deeds trials)
      = master.desk.mint.take (Deed.drawn (master.deeds trials)).length := by
  induction trials generalizing master with
  | nil => rfl
  | cons trial later ih =>
    obtain ⟨first, mint⟩ := trial.drawn_deeds master
    have rest := ih (trial.answer master).2
    rw [mint] at rest
    have both : Deed.drawn (master.deeds (trial :: later))
        = Deed.drawn (trial.deeds master) ++ Deed.drawn ((trial.answer master).2.deeds later) := by
      rw [deeds_cons]
      exact List.filterMap_append
    rw [both, List.length_append, Mint.take_add, ← first, ← rest]

theorem created_history (master : Master) (trials : List Trial) :
    ((Deed.created (master.deeds trials)).map (·.id)).Sublist
      (Deed.drawn (master.deeds trials)) := by
  induction trials generalizing master with
  | nil => exact List.Sublist.refl _
  | cons trial later ih =>
    have created : Deed.created (master.deeds (trial :: later))
        = Deed.created (trial.deeds master)
          ++ Deed.created ((trial.answer master).2.deeds later) := by
      rw [deeds_cons]
      exact List.filterMap_append
    have drawn : Deed.drawn (master.deeds (trial :: later))
        = Deed.drawn (trial.deeds master) ++ Deed.drawn ((trial.answer master).2.deeds later) := by
      rw [deeds_cons]
      exact List.filterMap_append
    rw [created, drawn, List.map_append]
    exact (trial.created_deeds master).append (ih _)

theorem housed_tried {master : Master} (housed : master.ledger.Housed) (trials : List Trial) :
    (master.tried trials).ledger.Housed := by
  induction trials generalizing master with
  | nil => exact housed
  | cons trial later ih =>
    have armed : (trial.arm master).ledger.Housed := housed
    exact ih (follows_answer armed trial.now trial.call).1.housed

/-- However the calls of a master fail, every copy lives its life and lookups are exact.  The
history leads from an empty ledger to the ledger at hand, every query in it does what its call may
do, and as long as fewer than 2^64 identifiers are drawn no two copies are ever created under the
same one.  So a lookup that is free of outages answers the holder whose address has the least bytes,
or that there is none.

Queries are judged where they are posed and not by how the call ends, so a call that breaks off
needs no case of its own.  The bound is the range of the count in a mint: after 2^64 identifiers the
next one is the first again. -/
theorem copies_live (address label : String) (trials : List Trial) :
    let master := (start address label).tried trials
    let history := (start address label).history trials
    let deeds := (start address label).deeds trials
    Deed.Leads .empty deeds master.ledger
      ∧ (∀ call q before after, (call, .perform q before after) ∈ history →
          call.Permitted q before after)
      ∧ ((Deed.drawn deeds).length < 2 ^ 64 → ((Deed.created deeds).map (·.id)).Nodup)
      ∧ ∀ now blob answer, ((Trial.mk now (.locate blob) [] []).answer master).1 = answer
          ↔ master.ledger.Finds blob answer := by
  intro master history deeds
  refine ⟨(start address label).leads_history trials, fun _ _ _ _ => permitted_history,
    fun few => ?_, fun now blob answer => ?_⟩
  · have drawn : (Deed.drawn deeds).Nodup := by
      rw [drawn_history]
      exact Mint.nodup_take _ few.le
    exact drawn.sublist (created_history _ trials)
  · have empty : (start address label).ledger.Housed := Ledger.housed_empty
    have housed : master.ledger.Housed := housed_tried empty trials
    have calm : ((Trial.mk now (.locate blob) [] []).arm master).Calm := ⟨rfl, rfl⟩
    have finds : master.ledger.Finds blob ((Trial.mk now (.locate blob) [] []).answer master).1 :=
      calm.answer_of_meets now (.locate blob) (Placement.finds_locate housed blob)
    exact ⟨fun same => same ▸ finds, fun found => finds.unique found⟩

/-- Three workers register, a placement breaks off and is repeated, two of its copies are confirmed
and the confirmation of the third fails. -/
def interrupted : List Trial :=
  [⟨0, .register "c" 10, [], []⟩, ⟨0, .register "b" 10, [], []⟩, ⟨0, .register "a" 10, [], []⟩,
    ⟨1, .place "x" 1, [], [⟨.addCopy, ⟨.repository, "down"⟩, 1, 1⟩]⟩, ⟨2, .place "x" 1, [], []⟩,
    ⟨3, .confirm "x" "c", [], []⟩, ⟨4, .confirm "x" "b", [], []⟩,
    ⟨5, .confirm "x" "a", [], [⟨.updateCopy, ⟨.repository, "down"⟩, 0, 1⟩]⟩]

/-- The identifier that was drawn when the placement broke off is never used, and of the two
confirmed copies the one on the least address is found. -/
theorem copies_of_interrupted :
    let deeds := (start "m" "row").deeds interrupted
    (Deed.created deeds).map (·.id) = ["row-0", "row-2", "row-3"]
      ∧ ((Deed.created deeds).map (·.id)).Nodup
      ∧ ((start "m" "row").tried interrupted).ledger.Finds "x" (.ok "b") := by
  obtain ⟨-, -, distinct, finds⟩ := copies_live "m" "row" interrupted
  have drawn : (Deed.drawn ((start "m" "row").deeds interrupted)).length = 4 := by
    cbv
  have found : ((Trial.mk 6 (.locate "x") [] []).answer
      ((start "m" "row").tried interrupted)).1 = .ok "b" := by
    cbv
  refine ⟨by cbv, distinct ?_, (finds 6 "x" (.ok "b")).1 found⟩
  rw [drawn]
  decide

end Master

end BlobCluster
