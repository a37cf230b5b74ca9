import BlobCluster.Retry

/-!
# Attempts at a call

A call is made again and again while its failures may pass and attempts are left, up to an outcome
that is final: the attempts are a `Round`.  Calls that are `observed` are listed with what came of
them; nothing else of a run is changed by that.

Trying again is also a `loop` that counts its attempts and closes with a failure of its own when it
runs out of them (`retry_eq_loop`).  It never does if there is an attempt to begin with, and then it
makes no difference what it would close with (`loop_eq_retry`): the failure of the last attempt is
answered, even if it may pass.

Of a call whose outcomes are `scripted` it follows which of them is the answer and how many calls
are made (`retry_until_final`).
-/

namespace BlobCluster

variable {ι ρ σ τ α : Type}

theorem Failure.retryable_iff {e : Failure} :
    e.retryable = true ↔ e.kind = .http ∨ e.kind = .cancelled := by
  unfold retryable
  cases e.kind <;> decide

/-! ## Observed calls -/

/-- The action, with a list of everything that was asked and what was answered. -/
def observed (call : ι → StateM σ ρ) (asked : ι) : StateM (σ × List (ι × ρ)) ρ :=
  fun (state, seen) =>
    let (answer, after) := call asked state
    (answer, after, seen ++ [(asked, answer)])

/-- A call in one kind of state does what another does in another kind of state. -/
def MimicsOn (view : τ → σ) (call : StateM σ ρ) (other : StateM τ ρ) : Prop :=
  ∀ state, call (view state) = ((other state).1, view (other state).2)

theorem mimicsOn_observed (call : ι → StateM σ ρ) (asked : ι) :
    MimicsOn Prod.fst (call asked) (observed call asked) := fun _ => rfl

namespace Retry

/-! ## Rounds -/

/-- The outcomes of the attempts at one call: failures that may pass, and then one that is final. -/
structure Round (attempts : Nat) (earlier : List (Except Failure α)) (last : Except Failure α) :
    Prop where
  passing : ∀ outcome ∈ earlier, ∃ e, outcome = .error e ∧ e.retryable = true
  within : earlier.length + 1 ≤ attempts
  /-- Only for want of attempts can a failure that may pass be the last. -/
  final : ∀ e, last = .error e → e.retryable = true → earlier.length + 1 = attempts

/-- After a failure that may pass there is a round of one attempt less. -/
theorem Round.cons {attempts : Nat} {earlier : List (Except Failure α)} {last : Except Failure α}
    (round : Round attempts earlier last) {e : Failure} (passes : e.retryable = true) :
    Round (attempts + 1) (.error e :: earlier) last where
  passing outcome mem := by
    rcases List.mem_cons.1 mem with rfl | mem
    · exact ⟨e, rfl, passes⟩
    · exact round.passing outcome mem
  within := Nat.succ_le_succ round.within
  final e' is passes' := congrArg (· + 1) (round.final e' is passes')

theorem retry_of_ok {call : StateM σ (Except Failure α)} {state after : σ} {a : α}
    (answered : call state = (.ok a, after)) (attempts : Nat) :
    retry call (attempts + 1) state = (.ok a, after) := by
  cases attempts with
  | zero => exact answered
  | succ attempts =>
    show (call >>= _) state = _
    simp only [bind, StateT.bind, answered]
    rfl

/-- A failure is final if it does not pass or no attempt is left. -/
theorem retry_of_error {call : StateM σ (Except Failure α)} {state after : σ} {e : Failure}
    (failed : call state = (.error e, after)) (attempts : Nat) :
    retry call (attempts + 1) state
      = if e.retryable = true ∧ attempts ≠ 0 then retry call attempts after
        else (.error e, after) := by
  cases attempts with
  | zero =>
    rw [if_neg fun more => more.2 rfl]
    exact failed
  | succ attempts =>
    show (call >>= _) state = _
    simp only [bind, StateT.bind, failed]
    cases passes : e.retryable with
    | true => simp
    | false =>
      simp only [Bool.false_eq_true, false_and, if_false]
      rfl

/-- The attempts at a call are a round, which ends with the outcome.  The call is observed and
otherwise arbitrary: what it answers may depend on the state and on how often it was made. -/
theorem round_of_retry (call : ι → StateM σ (Except Failure α)) (asked : ι) {attempts : Nat}
    (some_ : 1 ≤ attempts) (state : σ) (seen : List (ι × Except Failure α)) :
    ∃ earlier last after, Round attempts earlier last
      ∧ retry (observed call asked) attempts (state, seen)
        = (last, after, seen ++ (earlier ++ [last]).map (asked, ·)) := by
  induction attempts generalizing state seen with
  | zero => exact absurd some_ (by omega)
  | succ attempts ih =>
    cases made : call asked state with
    | mk outcome after =>
      have answered : observed call asked (state, seen)
          = (outcome, after, seen ++ [(asked, outcome)]) := by
        unfold observed
        simp only [made]
      cases outcome with
      | ok a =>
        refine ⟨[], .ok a, after, ⟨nofun, Nat.succ_le_succ (Nat.zero_le _), nofun⟩, ?_⟩
        exact retry_of_ok answered attempts
      | error e =>
        rw [retry_of_error answered]
        by_cases more : e.retryable = true ∧ attempts ≠ 0
        · obtain ⟨earlier, last, after', round, rest⟩ :=
            ih (Nat.pos_of_ne_zero more.2) after (seen ++ [(asked, .error e)])
          refine ⟨.error e :: earlier, last, after', round.cons more.1, ?_⟩
          rw [if_pos more, rest]
          simp
        · refine ⟨[], .error e, after, ⟨nofun, Nat.succ_le_succ (Nat.zero_le _), ?_⟩, ?_⟩
          · rintro _ ⟨⟩ passes
            have none_ : attempts = 0 := Decidable.not_not.1 fun some_ => more ⟨passes, some_⟩
            rw [none_]
            rfl
          · rw [if_neg more]
            rfl

/-- A success is that of the last attempt. -/
theorem exists_of_retry_ok {call : StateM σ (Except Failure α)} {attempts : Nat} {state after : σ}
    {a : α} (answered : retry call attempts state = (.ok a, after)) :
    ∃ before, call before = (.ok a, after) := by
  induction attempts generalizing state with
  | zero => cases answered
  | succ attempts ih =>
    cases made : call state with
    | mk outcome between =>
      cases outcome with
      | ok b =>
        rw [retry_of_ok made] at answered
        exact ⟨state, made.trans answered⟩
      | error e =>
        rw [retry_of_error made] at answered
        split at answered
        · exact ih answered
        · cases answered

theorem keeps_retry {call : StateM σ (Except Failure α)} {inv : σ → Prop}
    (step : ∀ state, inv state → inv (call state).2) (attempts : Nat) {state : σ}
    (here : inv state) : inv (retry call attempts state).2 := by
  induction attempts generalizing state with
  | zero => exact here
  | succ attempts ih =>
    have kept := step state here
    cases made : call state with
    | mk outcome after =>
      rw [made] at kept
      cases outcome with
      | ok a =>
        rw [retry_of_ok made]
        exact kept
      | error e =>
        rw [retry_of_error made]
        split
        · exact ih kept
        · exact kept

theorem mimicsOn_retry {view : τ → σ} {call : StateM σ (Except Failure α)}
    {other : StateM τ (Except Failure α)} (same : MimicsOn view call other) (attempts : Nat) :
    MimicsOn view (retry call attempts) (retry other attempts) := by
  induction attempts with
  | zero => exact fun _ => rfl
  | succ attempts ih =>
    intro state
    have made := same state
    cases other_ : other state with
    | mk outcome after =>
      rw [other_] at made
      cases outcome with
      | ok a => rw [retry_of_ok made, retry_of_ok other_]
      | error e =>
        rw [retry_of_error made, retry_of_error other_]
        split
        · exact ih after
        · rfl

/-! ## Scripted calls -/

/-- A call whose outcomes are given, one for each time it is made.  Its state counts the calls. -/
def scripted (outcomes : Nat → Except Failure α) : StateM Nat (Except Failure α) :=
  fun made => (outcomes made, made + 1)

/-- No attempt is made after this outcome, whatever is allowed: a success, or a failure that does
not pass. -/
def Final : Except Failure α → Prop
  | .ok _ => True
  | .error e => e.retryable = false

theorem not_final_iff {outcome : Except Failure α} :
    ¬ Final outcome ↔ ∃ e, outcome = .error e ∧ e.retryable = true := by
  cases outcome with
  | ok a => simp [Final]
  | error e => simp [Final]

section Script

variable {outcomes : Nat → Except Failure α} {attempts last i : Nat}
  (round : Round attempts ((List.range last).map outcomes) (outcomes last))

include round

theorem Round.not_final (before : i < last) : ¬ Final (outcomes i) :=
  not_final_iff.2 (round.passing _ (List.mem_map_of_mem (List.mem_range.2 before)))

theorem Round.last_lt : last < attempts := by
  have within := round.within
  rwa [List.length_map, List.length_range] at within

/-- An attempt that is allowed is made unless an earlier one is final. -/
theorem Round.le_of_passing (allowed : i < attempts) (passing : ∀ k < i, ¬ Final (outcomes k)) :
    i ≤ last := by
  refine Nat.not_lt.1 fun before => ?_
  obtain ⟨e, failed, passes⟩ := not_final_iff.1 (passing last before)
  have used := round.final e failed passes
  rw [List.length_map, List.length_range] at used
  omega

/-- The last attempt is the first that is final, or the last that is allowed. -/
theorem Round.eq_min (final : Final (outcomes i)) (first : ∀ k < i, ¬ Final (outcomes k)) :
    last + 1 = min attempts (i + 1) := by
  have within := round.last_lt
  have early : last ≤ i := Nat.not_lt.1 fun before => round.not_final before final
  have late : min (attempts - 1) i ≤ last :=
    round.le_of_passing (by omega) fun k before => first k (by omega)
  omega

/-- A success is that of the last attempt if and only if all before it are failures that may
pass. -/
theorem Round.eq_iff_of_ok (allowed : i < attempts) {a : α} (success : outcomes i = .ok a) :
    last = i ↔ ∀ k < i, ¬ Final (outcomes k) := by
  refine ⟨fun same k before => round.not_final (same ▸ before), fun passing => ?_⟩
  have early : ¬ i < last := fun before => round.not_final before (success ▸ trivial)
  have late := round.le_of_passing allowed passing
  omega

end Script

/-- What has been observed of a scripted call is the script so far. -/
def Told (outcomes : Nat → Except Failure α)
    (state : Nat × List (Unit × Except Failure α)) : Prop :=
  state.2.map Prod.snd = (List.range state.1).map outcomes

theorem told_observed {outcomes : Nat → Except Failure α}
    (state : Nat × List (Unit × Except Failure α)) (here : Told outcomes state) :
    Told outcomes (observed (fun _ => scripted outcomes) () state).2 := by
  show (state.2 ++ [((), outcomes state.1)]).map Prod.snd
    = (List.range (state.1 + 1)).map outcomes
  rw [List.map_append, here, List.range_succ, List.map_append]
  rfl

/-- The attempts at a scripted call have the first outcomes of the script.  The state is the number
of calls made, so the last of them is known by its number. -/
theorem round_of_scripted (outcomes : Nat → Except Failure α) {attempts : Nat}
    (some_ : 1 ≤ attempts) :
    ∃ final, Round attempts ((List.range final).map outcomes) (outcomes final)
      ∧ retry (scripted outcomes) attempts 0 = (outcomes final, final + 1) := by
  obtain ⟨earlier, last, after, round, run⟩ :=
    round_of_retry (fun _ => scripted outcomes) () some_ 0 []
  have same := mimicsOn_retry (mimicsOn_observed (fun _ => scripted outcomes) ()) attempts (0, [])
  have start : Told outcomes (0, []) := rfl
  have told := keeps_retry told_observed attempts start
  rw [run] at same told
  have listed : earlier ++ [last] = (List.range after).map outcomes := by
    have seen : ((earlier ++ [last]).map ((), ·)).map Prod.snd
        = (List.range after).map outcomes := told
    rw [List.map_map] at seen
    exact (List.map_id _).symm.trans seen
  have count : after = earlier.length + 1 := by
    simpa using (congrArg List.length listed).symm
  rw [count, List.range_succ, List.map_append] at listed
  obtain ⟨before, only⟩ := List.append_inj' listed rfl
  have answer : last = outcomes earlier.length := (List.cons.inj only).1
  rw [before, answer] at round
  exact ⟨earlier.length, round, same.trans (by rw [count, answer])⟩

/-! ## Counted attempts -/

/-- The attempts in a loop that counts them.  After attempt number `made` comes the next if the
failure may pass and the next is still allowed.  A loop that has run out of attempts closes with a
failure of its own. -/
def loop (call : StateM σ (Except Failure α)) (allowed : Nat) (closing : Failure) (made : Nat) :
    StateM σ (Except Failure α) :=
  if made < allowed then do
    match ← call with
    | .ok a => pure (.ok a)
    | .error e =>
      if e.retryable && decide (made + 1 < allowed) then loop call allowed closing (made + 1)
      else pure (.error e)
  else pure (.error closing)
termination_by allowed - made

variable {call : StateM σ (Except Failure α)} {allowed made : Nat} {closing : Failure}
  {state after : σ}

theorem loop_of_ok {a : α} (below : made < allowed) (answered : call state = (.ok a, after)) :
    loop call allowed closing made state = (.ok a, after) := by
  rw [loop, if_pos below]
  show (call >>= _) state = _
  simp only [bind, StateT.bind, answered]
  rfl

theorem loop_of_error {e : Failure} (below : made < allowed)
    (failed : call state = (.error e, after)) :
    loop call allowed closing made state
      = if e.retryable = true ∧ made + 1 < allowed then loop call allowed closing (made + 1) after
        else (.error e, after) := by
  rw [loop, if_pos below]
  show (call >>= _) state = _
  simp only [bind, StateT.bind, failed, Bool.and_eq_true, decide_eq_true_eq]
  split <;> rfl

/-- With an attempt left the loop does what the attempts that are left do, whatever it would close
with: it goes on only to an attempt that is allowed. -/
theorem loop_eq_retry (call : StateM σ (Except Failure α)) (closing : Failure)
    (below : made < allowed) (state : σ) :
    loop call allowed closing made state = retry call (allowed - made) state := by
  obtain ⟨left, left_⟩ : ∃ left, allowed - made = left + 1 := ⟨allowed - made - 1, by omega⟩
  rw [left_]
  induction left generalizing made state with
  | zero =>
    cases answer : call state with
    | mk outcome after =>
      cases outcome with
      | ok a => rw [loop_of_ok below answer, retry_of_ok answer]
      | error e =>
        rw [loop_of_error below answer, retry_of_error answer, if_neg, if_neg]
        · exact fun more => more.2 rfl
        · omega
  | succ left ih =>
    cases answer : call state with
    | mk outcome after =>
      cases outcome with
      | ok a => rw [loop_of_ok below answer, retry_of_ok answer]
      | error e =>
        have next : made + 1 < allowed := by omega
        rw [loop_of_error below answer, retry_of_error answer, ih next after (by omega)]
        simp only [next, ne_eq, Nat.succ_ne_zero, not_false_eq_true]

/-- Trying again is the loop over all attempts that closes with the failure of having none.  The
loop counts up and compares with the bound, where the recursion counts down; they meet at the number
of attempts that are left. -/
theorem retry_eq_loop (call : StateM σ (Except Failure α)) (attempts : Nat) :
    retry call attempts = loop call attempts exhausted 0 := by
  cases attempts with
  | zero =>
    rw [loop, if_neg (Nat.lt_irrefl 0)]
    rfl
  | succ attempts =>
    funext state
    exact (loop_eq_retry call exhausted (Nat.succ_pos attempts) state).symm

/-! ## The answer -/

/-- What comes of a call that is tried again.  Without an attempt allowed nothing is called, and the
answer is a failure that says so.  Otherwise the answer is the outcome of the last call, which is
the first with a final outcome or the last that is allowed.  So a success is answered if and only if
nothing but failures that may pass precedes it, and the failure of having no attempt left is
answered only if a call itself ends in it. -/
theorem retry_until_final (outcomes : Nat → Except Failure α) :
    retry (scripted outcomes) 0 0 = (.error ⟨.internal, "Max retries exceeded"⟩, 0) ∧
    ∀ attempts, 1 ≤ attempts → ∃ calls,
      1 ≤ calls ∧ calls ≤ attempts
      ∧ retry (scripted outcomes) attempts 0 = (outcomes (calls - 1), calls)
      ∧ (∀ i, Final (outcomes i) → (∀ k < i, ¬ Final (outcomes k)) →
        calls = min attempts (i + 1))
      ∧ ((∀ i, ¬ Final (outcomes i)) → calls = attempts)
      ∧ (∀ i < attempts, ∀ a, outcomes i = .ok a →
        (retry (scripted outcomes) attempts 0 = (.ok a, i + 1)
          ↔ ∀ k < i, ∃ e, outcomes k = .error e ∧ (e.kind = .http ∨ e.kind = .cancelled)))
      -- The loop never runs out of attempts: what it would close with makes no difference.
      ∧ (∀ closing, loop (scripted outcomes) attempts closing 0 0
        = retry (scripted outcomes) attempts 0)
      ∧ ((∀ i < attempts, outcomes i ≠ .error exhausted) →
        (retry (scripted outcomes) attempts 0).1 ≠ .error exhausted) := by
  refine ⟨rfl, fun attempts some_ => ?_⟩
  obtain ⟨last, round, run⟩ := round_of_scripted outcomes some_
  have within := round.last_lt
  refine ⟨last + 1, by omega, within, run, fun i final first => round.eq_min final first,
    fun never => ?_, fun i allowed a success => ?_, fun closing => ?_, fun differs => ?_⟩
  · have late : attempts - 1 ≤ last := round.le_of_passing (by omega) fun k _ => never k
    omega
  · have passing : (∀ k < i, ¬ Final (outcomes k))
        ↔ ∀ k < i, ∃ e, outcomes k = .error e ∧ (e.kind = .http ∨ e.kind = .cancelled) := by
      simp only [not_final_iff, Failure.retryable_iff]
    rw [← passing, ← round.eq_iff_of_ok allowed success, run]
    refine ⟨fun same => Nat.succ.inj (congrArg Prod.snd same), ?_⟩
    rintro rfl
    rw [success]
  · exact loop_eq_retry _ closing some_ 0
  · rw [run]
    exact differs last within

/-- A script that fails twice in ways that may pass and then succeeds. -/
def thirdTime : Nat → Except Failure Nat
  | 0 => .error ⟨.http, "connection refused"⟩
  | 1 => .error ⟨.cancelled, "upload cancelled"⟩
  | _ => .ok 7

/-- Of five attempts allowed three are made until the success; of four at a call that always fails
all are made. -/
theorem retry_thirdTime :
    retry (scripted thirdTime) 5 0 = (.ok 7, 3)
      ∧ (let down : Nat → Except Failure Nat := fun _ => .error ⟨.http, "connection refused"⟩
        retry (scripted down) 4 0 = (down 3, 4)) := by
  constructor
  · obtain ⟨calls, -, -, run, first, -⟩ := (retry_until_final thirdTime).2 5 (by decide)
    have passing : ∀ k < 2, ¬ Final (thirdTime k) := by
      intro k before
      rcases Nat.lt_succ_iff_lt_or_eq.1 before with zero | rfl
      · cases Nat.lt_one_iff.1 zero
        exact nofun
      · exact nofun
    have three : calls = 3 := first 2 trivial passing
    rw [run, three]
    rfl
  · intro down
    obtain ⟨calls, -, -, run, -, never, -⟩ := (retry_until_final down).2 4 (by decide)
    have four : calls = 4 := never fun _ => nofun
    rw [run, four]

end Retry

end BlobCluster
