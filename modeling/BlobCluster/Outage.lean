import BlobCluster.Failure

/-!
# Outages

A plan of which calls do not get through.  Of the outages planned for a kind of call the oldest
that is not over decides: it lets a number of calls pass, then fails a number of them.  Lists of
such outages express every pattern of failing and passing calls of each kind.
-/

namespace BlobCluster

/-- A planned run of failing calls of one kind.  Calls of other kinds do not count for it. -/
structure Outage (κ : Type) where
  kind : κ
  failure : Failure
  /-- Calls that pass first. -/
  skip : Nat
  /-- Calls that fail then. -/
  times : Nat
  deriving DecidableEq, Repr

abbrev Outages (κ : Type) := List (Outage κ)

namespace Outages

variable {κ : Type} [DecidableEq κ]

/-- Whether a call of this kind fails, and the plan after it. -/
def strike (kind : κ) : Outages κ → Option Failure × Outages κ
  | [] => (none, [])
  | outage :: rest =>
    if outage.kind = kind ∧ 0 < outage.times then
      if 0 < outage.skip then (none, { outage with skip := outage.skip - 1 } :: rest)
      else (some outage.failure, { outage with times := outage.times - 1 } :: rest)
    else
      let (failure?, rest) := strike kind rest
      (failure?, outage :: rest)

/-- Adds an outage as the latest. -/
def add (outages : Outages κ) (outage : Outage κ) : Outages κ := outages ++ [outage]

@[simp] theorem strike_nil (kind : κ) : strike kind ([] : Outages κ) = (none, []) := rfl

end Outages

end BlobCluster
