import BlobCluster.Ledger.Query
import BlobCluster.Mint

/-!
# Programs over a ledger

A master keeps nothing in mind between its calls: each call is a program that asks the ledger one
query after another and decides by the answers.  A `Program` is that tree of queries, so that the
programs of several calls can be run in any interleaving, query by query.  A query that is refused
or does not get through ends the program with that failure.
-/

namespace BlobCluster

/-- A program that answers an `α`: what a call of a master does, as the tree of the queries it
poses.  As queries and not as one function on ledgers, it can be struck at any of them and be
interleaved with the programs of other calls. -/
inductive Program (α : Type) where
  | done (a : α)
  | fail (e : Failure)
  | ask (q : Query) (next : q.Answer → Program α)
  | mint (next : String → Program α)
  /-- A sum left the range of its numbers. -/
  | overflow

namespace Program

variable {α β σ : Type}

/-! ## Composition -/

def bind : Program α → (α → Program β) → Program β
  | .done a, f => f a
  | .fail e, _ => .fail e
  | .ask q next, f => .ask q fun answer => (next answer).bind f
  | .mint next, f => .mint fun id => (next id).bind f
  | .overflow, _ => .overflow

instance : Monad Program where
  pure := .done
  bind := bind

def query (q : Query) : Program q.Answer := .ask q .done

def newId : Program String := .mint .done

/-- The sum of two amounts. -/
def sum (a b : UInt64) : Program UInt64 :=
  if a.toNat + b.toNat < UInt64.size then .done (a + b) else .overflow

/-- A result that may be a failure. -/
def ofExcept : Except Failure α → Program α
  | .ok a => .done a
  | .error e => .fail e

@[simp] theorem bind_done (a : α) (f : α → Program β) : (done a).bind f = f a := rfl
@[simp] theorem bind_fail (e : Failure) (f : α → Program β) : (fail e).bind f = .fail e := rfl

theorem bind_assoc {γ : Type} (p : Program α) (f : α → Program β) (g : β → Program γ) :
    (p.bind f).bind g = p.bind fun a => (f a).bind g := by
  induction p with
  | done | fail | overflow => rfl
  | ask q next ih => simp only [bind, ih]
  | mint next ih => simp only [bind, ih]

/-! ## Running -/

/-- What a program works on: the ledger, the source of identifiers, and the state of the gate
that its queries have to pass. -/
structure Desk (σ : Type) where
  ledger : Ledger
  mint : Mint
  gate : σ
  deriving DecidableEq

/-- Decides of each query whether it gets through. -/
abbrev Gate (σ : Type) := Query.Kind → σ → Option Failure × σ

/-- Poses one query: it passes the gate and is performed, or the ledger stays as it is. -/
def pose (gate : Gate σ) (desk : Desk σ) (q : Query) : Except Failure q.Answer × Desk σ :=
  match gate q.kind desk.gate with
  | (some e, state) => (.error e, { desk with gate := state })
  | (none, state) =>
    match q.perform desk.ledger with
    | .error e => (.error e, { desk with gate := state })
    | .ok (answer, ledger) => (.ok answer, { desk with ledger, gate := state })

/-- How a sum out of range shows itself. -/
def overflowFailure : Failure := ⟨.internal, "a sum is out of range"⟩

def run (gate : Gate σ) : Program α → Desk σ → Except Failure α × Desk σ
  | .done a, desk => (.ok a, desk)
  | .fail e, desk => (.error e, desk)
  | .overflow, desk => (.error overflowFailure, desk)
  | .mint next, desk =>
    let drawn := desk.mint.next
    (next drawn.1).run gate { desk with mint := drawn.2 }
  | .ask q next, desk =>
    match pose gate desk q with
    | (.error e, desk) => (.error e, desk)
    | (.ok answer, desk) => (next answer).run gate desk

/-- Runs a program until it has asked a query of this kind, and gives what remains of it. -/
def runPast (gate : Gate σ) (kind : Query.Kind) : Program α → Desk σ → Program α × Desk σ
  | .mint next, desk =>
    let drawn := desk.mint.next
    (next drawn.1).runPast gate kind { desk with mint := drawn.2 }
  | .ask q next, desk =>
    match pose gate desk q with
    | (.error e, desk) => (.fail e, desk)
    | (.ok answer, desk) =>
      if q.kind = kind then (next answer, desk) else (next answer).runPast gate kind desk
  | ended, desk => (ended, desk)

end Program

end BlobCluster
