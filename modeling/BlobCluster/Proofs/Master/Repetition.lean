import Mathlib
import BlobCluster.Proofs.Ledger.Ranking
import BlobCluster.Proofs.Master.Books

/-!
# Placing a blob twice

A placement that is asked for again chooses again, by the space that is free by then.  What the
first one locked counts as taken, also for its own blob.  So the second placement may be refused, or
name other workers; but it locks nothing twice, since a worker that has a copy of the blob is passed
over.  It names the same workers and changes nothing exactly when they are still in the lead
(`placement_repeated`).  Of three workers with no more space than one copy takes none is left the
second time, and of four equal ones the second placement takes the fourth.
-/

namespace BlobCluster

open Placement (replication)

namespace Master

/-- How a placement ends on a ledger where the workers that are `named` have a pending copy of the
blob already, because it was placed on them before.  Every clause goes by the space that is free
now, which the first placement has made less on the workers it has named. -/
structure Repeated (blob : String) (size : UInt64) (named : List String) (before : Ledger)
    (r : Except Failure (List String)) (after : Ledger) : Prop where
  /-- It is refused if too few workers have the space free by now. -/
  refused : (before.workers.rows.filter (Selection.fits size)).length < replication →
    r = .error (Selection.shortage size replication
        (before.workers.rows.filter (Selection.fits size)).length)
      ∧ after = before
  /-- Otherwise those with the most space free by now are named and booked. -/
  chosen : replication ≤ (before.workers.rows.filter (Selection.fits size)).length → ∃ rows,
    Selection.roomiest before.workers.rows size replication = .ok rows
      ∧ r = .ok (rows.map (·.address)) ∧ Ledger.Booking blob size rows before after
  /-- Where there is a copy of the blob it stays, and nothing more is locked. -/
  kept : ∀ worker, (before.copy? blob worker).isSome →
    after.copy? blob worker = before.copy? blob worker
      ∧ after.worker? worker = before.worker? worker
  /-- The same workers are named exactly when they are in the lead. -/
  same : (∃ named', r = .ok named' ∧ named'.Perm named)
    ↔ Selection.Leading before.workers.rows size named
  /-- In this case nothing changes. -/
  unchanged : Selection.Leading before.workers.rows size named → after = before

/-- Where the workers that are named have a copy of the blob, and none is confirmed, its placement
ends like a repeated one. -/
theorem repeated_of_placed {before after : Ledger} {blob : String} {size : UInt64}
    {named : List String} {r : Except Failure (List String)}
    (placed : Placement.Placed blob size before r after) (valid : BlobId.Valid blob)
    (new : before.savedCopiesOf blob = [])
    (known : ∀ worker ∈ named, (before.copy? blob worker).isSome) (nodup : named.Nodup)
    (length : named.length = replication) : Repeated blob size named before r after := by
  have distinct := before.workers.nodup_keys
  have lead : (∃ chosen, Selection.roomiest before.workers.rows size replication = .ok chosen
        ∧ (chosen.map (·.address)).Perm named)
      ↔ Selection.Leading before.workers.rows size named :=
    Selection.roomiest_perm_iff distinct nodup length
  rcases placed.of_new valid new with ⟨e, short, rfl, rfl⟩ | ⟨rows, chosen, rfl, bookings⟩
  · obtain ⟨few, rfl⟩ := Selection.roomiest_eq_error_iff.1 short
    have behind : ¬ Selection.Leading after.workers.rows size named := by
      intro leading
      obtain ⟨rows, chosen, -⟩ := lead.2 leading
      cases short.symm.trans chosen
    constructor
    · exact fun _ => ⟨rfl, rfl⟩
    · exact fun many => absurd few (Nat.not_lt.2 many)
    · exact fun _ _ => ⟨rfl, rfl⟩
    · exact ⟨nofun, fun leading => absurd leading behind⟩
    · exact fun leading => absurd leading behind
  · obtain ⟨many, -⟩ := Selection.roomiest_eq_ok_iff.1 chosen
    have booking := bookings.booking (Selection.nodup_roomiest chosen distinct)
    have only : ∀ {rows'}, Selection.roomiest before.workers.rows size replication = .ok rows' →
        rows' = rows := fun chosen' => Except.ok.inj (chosen'.symm.trans chosen)
    constructor
    · exact fun few => absurd few (Nat.not_lt.2 many)
    · exact fun _ => ⟨rows, chosen, rfl, booking⟩
    · exact fun worker found => booking.kept (Ledger.worker?_of_roomiest chosen) found
    · refine Iff.trans ⟨?_, ?_⟩ lead
      · rintro ⟨_, ⟨⟩, same⟩
        exact ⟨rows, chosen, same⟩
      · rintro ⟨rows', chosen', same⟩
        obtain rfl := only chosen'
        exact ⟨_, rfl, same⟩
    · intro leading
      obtain ⟨rows', chosen', same⟩ := lead.2 leading
      obtain rfl := only chosen'
      exact bookings.eq_of_known fun row mem =>
        known _ (same.mem_iff.1 (List.mem_map_of_mem mem))

/-- A placement of a blob that nobody has confirmed, on any ledger that calls without outages lead
to, is asked for again at once.  The workers that were named have a pending copy each, and the
second placement goes by the space that is free now.

`new` excludes a blob with a confirmed copy, which is answered with its holders both times.  The
first placement has taken its size off the space of the workers it named, so the second may find
others that are roomier, or too few; the cases are those of `Repeated`. -/
theorem placement_repeated (address label : String) (calls : List (Int64 × MasterCall))
    {blob : String} {size : UInt64} {now later : Int64} {named : List String}
    {between after : Master} {r : Except Failure (List String)}
    (new : ∀ worker, ¬ ((start address label).after calls).ledger.Saved blob worker)
    (placed : ((start address label).after calls).answer now (.place blob size)
      = (.ok named, between))
    (again : between.answer later (.place blob size) = (r, after)) :
    (∀ worker ∈ named, ∃ copy, between.ledger.copy? blob worker = some copy
        ∧ copy.state = .duringCreation)
      ∧ Repeated blob size named between.ledger r after.ledger := by
  have calm := (calm_start address label).after calls
  have first := calm.placed placed
  have calm' := calm.answer now (.place blob size)
  rw [placed] at calm'
  have second := calm'.placed again
  obtain ⟨valid, rows, chosen, bookings, rfl⟩ :=
    first.booked_of_ok (Ledger.savedCopiesOf_eq_nil_iff.2 new)
  have distinct := Selection.nodup_roomiest chosen
    ((start address label).after calls).ledger.workers.nodup_keys
  have booking := bookings.booking distinct
  have pending : ∀ worker ∈ rows.map (·.address), ∃ copy,
      between.ledger.copy? blob worker = some copy ∧ copy.state = .duringCreation := by
    intro worker mem
    obtain ⟨row, listed, rfl⟩ := List.mem_map.1 mem
    exact booking.pending listed (new _)
  refine ⟨pending, repeated_of_placed second valid ?_ ?_ distinct ?_⟩
  · exact Ledger.savedCopiesOf_eq_nil_iff.2 fun worker => booking.not_saved (new worker)
  · intro worker mem
    obtain ⟨copy, found, -⟩ := pending worker mem
    rw [found]
    rfl
  · rw [List.length_map, Selection.length_roomiest chosen]

/-- A master that three workers have joined, each with space for ten copies. -/
def trioJoined : Master := (start "m" "row").after (joining 10 ["c", "b", "a"])

/-- Three workers with space for a second copy are named again, and nothing changes. -/
theorem repeated_on_three :
    let placed := trioJoined.answer 1 (.place "x" 1)
    let again := placed.2.answer 2 (.place "x" 1)
    again.1 = .ok ["a", "b", "c"] ∧ again.2.ledger = placed.2.ledger := by
  have new : ∀ worker, ¬ trioJoined.ledger.Saved "x" worker :=
    Ledger.savedCopiesOf_eq_nil_iff.1 (by decide +kernel)
  have named : (trioJoined.answer 1 (.place "x" 1)).1 = .ok ["a", "b", "c"] := by cbv
  have same : ((trioJoined.answer 1 (.place "x" 1)).2.answer 2 (.place "x" 1)).1
      = .ok ["a", "b", "c"] := by cbv
  obtain ⟨-, repeated⟩ := placement_repeated "m" "row" (joining 10 ["c", "b", "a"]) new
    (Prod.ext named rfl) (Prod.ext same rfl)
  exact ⟨same, repeated.unchanged (repeated.same.1 ⟨_, rfl, .refl _⟩)⟩

/-- Of three workers whose space one copy fills none is left for the second placement, and of four
equal workers the second placement names the one that was left, and books it. -/
theorem repeated_on_full_and_on_four :
    (let placed := ((start "m" "row").after (joining 1 ["c", "b", "a"])).answer 1 (.place "x" 1)
      let again := placed.2.answer 2 (.place "x" 1)
      placed.1 = .ok ["a", "b", "c"]
        ∧ again.1 = .error (Selection.shortage 1 replication 0))
      ∧ (let placed :=
          ((start "m" "row").after (joining 10 ["d", "c", "b", "a"])).answer 1 (.place "x" 1)
        let again := placed.2.answer 2 (.place "x" 1)
        placed.1 = .ok ["a", "b", "c"] ∧ again.1 = .ok ["d", "a", "b"]
          ∧ placed.2.ledger.copy? "x" "d" = none
          ∧ again.2.ledger.copy? "x" "d" = some ⟨"row-3", "x", "d", .duringCreation, 1⟩) := by
  refine ⟨⟨?_, ?_⟩, ?_, ?_, ?_, ?_⟩ <;> cbv

end Master

end BlobCluster
