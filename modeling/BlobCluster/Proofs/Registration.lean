import BlobCluster.Proofs.Retry
import BlobCluster.Registration

/-!
# Rounds of calls

A registration calls its masters one after the other, and each in a `Retry.Round`: again and again
while the failures may pass and attempts are left, up to an outcome that is final.  So the list of
its observed calls says which masters were called, how often, and in which order, whatever the calls
answer: it consists of rounds in the order of the masters, and `Ends` says which round is the last.
-/

namespace BlobCluster

variable {ι ρ σ τ α μ : Type}

/-! ## All masters -/

namespace Registration

open Retry

/-- The calls of one master, one after the other. -/
structure Turn (μ : Type) where
  master : μ
  /-- The outcomes after which it was called again. -/
  earlier : List (Except Failure Unit)
  last : Except Failure Unit

/-- The calls of a turn with their outcomes. -/
def Turn.calls (turn : Turn μ) : List (μ × Except Failure Unit) :=
  (turn.earlier ++ [turn.last]).map (turn.master, ·)

/-- Where the turns of the masters end.  Either every master has had its turn, in order, and has
accepted, or all that had theirs did but the last, whose failure is the outcome. -/
inductive Ends (masters : List μ) : List (Turn μ) → Except Failure Unit → Prop
  | accepted {turns : List (Turn μ)} (all : turns.map Turn.master = masters)
      (each : ∀ turn ∈ turns, turn.last = .ok ()) : Ends masters turns (.ok ())
  | refused {former : List (Turn μ)} {turn : Turn μ} {e : Failure}
      (first : (former ++ [turn]).map Turn.master <+: masters)
      (each : ∀ turn ∈ former, turn.last = .ok ()) (last : turn.last = .error e) :
      Ends masters (former ++ [turn]) (.error e)

variable {masters : List μ} {turns : List (Turn μ)} {outcome : Except Failure Unit}

/-- A turn that is accepted goes before those of the other masters. -/
theorem Ends.cons (ends : Ends masters turns outcome) {turn : Turn μ}
    (accepted : turn.last = .ok ()) : Ends (turn.master :: masters) (turn :: turns) outcome := by
  cases ends with
  | accepted all each =>
    exact .accepted (congrArg _ all) (List.forall_mem_cons.2 ⟨accepted, each⟩)
  | @refused former last e first each failed =>
    exact @Ends.refused _ _ (turn :: former) last e (List.cons_prefix_cons.2 ⟨rfl, first⟩)
      (List.forall_mem_cons.2 ⟨accepted, each⟩) failed

/-- All masters have accepted if and only if the outcome is a success. -/
theorem Ends.ok_iff (ends : Ends masters turns outcome) : outcome = .ok ()
    ↔ turns.map Turn.master = masters ∧ ∀ turn ∈ turns, turn.last = .ok () := by
  cases ends with
  | accepted all each => exact ⟨fun _ => ⟨all, each⟩, fun _ => rfl⟩
  | @refused former last e first each failed =>
    refine ⟨nofun, fun ⟨_, all⟩ => ?_⟩
    have accepted := all last (by simp)
    rw [failed] at accepted
    cases accepted

variable {call : μ → StateM σ (Except Failure Unit)} {attempts : Nat} {master : μ}
  {rest : List μ} {state after : σ}

theorem registerWith_of_ok (accepted : retry (call master) attempts state = (.ok (), after)) :
    registerWith call attempts (master :: rest) state = registerWith call attempts rest after := by
  show (retry (call master) attempts >>= _) state = _
  simp only [bind, StateT.bind, accepted]

theorem registerWith_of_error {e : Failure}
    (refused : retry (call master) attempts state = (.error e, after)) :
    registerWith call attempts (master :: rest) state = (.error e, after) := by
  show (retry (call master) attempts >>= _) state = _
  simp only [bind, StateT.bind, refused]
  rfl

/-- The calls of a registration are rounds, one for each master in order, up to the first that does
not end in a success.  The induction is on the masters and carries the list of what was seen, so the
calls of later masters come after those of earlier ones. -/
theorem turns_of_registerWith (call : μ → StateM σ (Except Failure Unit)) {attempts : Nat}
    (some_ : 1 ≤ attempts) (masters : List μ) (state : σ)
    (seen : List (μ × Except Failure Unit)) :
    ∃ turns outcome after,
      registerWith (observed call) attempts masters (state, seen)
        = (outcome, after, seen ++ turns.flatMap Turn.calls)
      ∧ (∀ turn ∈ turns, Round attempts turn.earlier turn.last)
      ∧ Ends masters turns outcome := by
  induction masters generalizing state seen with
  | nil => exact ⟨[], .ok (), state, by rw [List.flatMap_nil, List.append_nil]; rfl, nofun,
      .accepted rfl nofun⟩
  | cons master rest ih =>
    obtain ⟨earlier, last, after, round, made⟩ := round_of_retry call master some_ state seen
    cases last with
    | ok a =>
      obtain ⟨turns, outcome, after', run, rounds, ends⟩ :=
        ih after (seen ++ (earlier ++ [Except.ok ()]).map (master, ·))
      let turn : Turn μ := ⟨master, earlier, .ok ()⟩
      have accepted : turn.last = .ok () := rfl
      refine ⟨turn :: turns, outcome, after', ?_, List.forall_mem_cons.2 ⟨round, rounds⟩,
        ends.cons accepted⟩
      rw [registerWith_of_ok made, run, List.append_assoc]
      rfl
    | error e =>
      refine ⟨[⟨master, earlier, .error e⟩], .error e, after, ?_, ?_, ?_⟩
      · rw [registerWith_of_error made]
        simp [Turn.calls]
      · simpa using round
      · exact @Ends.refused _ _ [] _ e (List.cons_prefix_cons.2 ⟨rfl, List.nil_prefix⟩) nofun rfl

/-- A registration that succeeds has succeeded with its first master and then with the others. -/
theorem exists_of_registerWith_ok
    (accepted : registerWith call attempts (master :: rest) state = (.ok (), after)) :
    ∃ before between, call master before = (.ok (), between)
      ∧ registerWith call attempts rest between = (.ok (), after) := by
  cases made : retry (call master) attempts state with
  | mk outcome between =>
    cases outcome with
    | ok a =>
      rw [registerWith_of_ok made] at accepted
      obtain ⟨before, answered⟩ := exists_of_retry_ok made
      exact ⟨before, between, answered, accepted⟩
    | error e =>
      rw [registerWith_of_error made] at accepted
      cases accepted

theorem keeps_registerWith (inv : σ → Prop) (attempts : Nat) {masters : List μ}
    (step : ∀ master ∈ masters, ∀ state, inv state → inv (call master state).2) {state : σ}
    (here : inv state) : inv (registerWith call attempts masters state).2 := by
  induction masters generalizing state with
  | nil => exact here
  | cons master rest ih =>
    have kept := keeps_retry (step master (List.mem_cons_self ..)) attempts here
    cases made : retry (call master) attempts state with
    | mk outcome after =>
      rw [made] at kept
      cases outcome with
      | ok a =>
        rw [registerWith_of_ok made]
        exact ih (fun other mem => step other (List.mem_cons_of_mem _ mem)) kept
      | error e =>
        rw [registerWith_of_error made]
        exact kept

theorem mimicsOn_registerWith {view : τ → σ} {other : μ → StateM τ (Except Failure Unit)}
    (same : ∀ master, MimicsOn view (call master) (other master)) (attempts : Nat)
    (masters : List μ) :
    MimicsOn view (registerWith call attempts masters) (registerWith other attempts masters) := by
  induction masters with
  | nil => exact fun _ => rfl
  | cons master rest ih =>
    intro state
    have made := mimicsOn_retry (same master) attempts state
    cases other_ : retry (other master) attempts state with
    | mk outcome after =>
      rw [other_] at made
      cases outcome with
      | ok a =>
        rw [registerWith_of_ok made, registerWith_of_ok other_]
        exact ih after
      | error e => rw [registerWith_of_error made, registerWith_of_error other_]

end Registration

end BlobCluster
