import BlobCluster.Outage
import BlobCluster.Placement

/-!
# Masters

A master answers six calls, each by one program over its ledger.  Outages may be planned for the
calls themselves and for the queries of their programs.
-/

namespace BlobCluster

inductive MasterCall where
  | health
  | place (blob : String) (size : UInt64)
  | locate (blob : String)
  | confirm (blob worker : String)
  | register (address : String) (available : UInt64)
  | forget (blob : String)
  deriving DecidableEq, Repr

inductive MasterCall.Kind where
  | health
  | place
  | locate
  | confirm
  | register
  | forget
  deriving DecidableEq, Repr

namespace MasterCall

def kind : MasterCall → Kind
  | .health => .health
  | .place _ _ => .place
  | .locate _ => .locate
  | .confirm _ _ => .confirm
  | .register _ _ => .register
  | .forget _ => .forget

@[reducible] def Answer : MasterCall → Type
  | .place _ _ | .forget _ => List String
  | .locate _ => String
  | .health | .confirm _ _ | .register _ _ => Unit

/-- The program of a call at a time. -/
def program (now : Int64) : (call : MasterCall) → Program call.Answer
  | .health => return ()
  | .place blob size => Placement.place blob size
  | .locate blob => Placement.locate blob
  | .confirm blob worker => Placement.confirm blob worker
  | .register address available => Placement.register address available now
  | .forget blob => Placement.forget blob

end MasterCall

structure Master where
  /-- Under which address the master is reached. -/
  address : String
  desk : Program.Desk (Outages Query.Kind)
  outages : Outages MasterCall.Kind
  deriving DecidableEq

namespace Master

/-- A master without workers. -/
def start (address label : String) : Master := ⟨address, ⟨.empty, .fresh label, []⟩, []⟩

def ledger (master : Master) : Ledger := master.desk.ledger

def run {α : Type} (master : Master) (program : Program α) : Except Failure α × Master :=
  let (answer, desk) := program.run Outages.strike master.desk
  (answer, { master with desk })

/-- Answers a call at a time. -/
def answer (now : Int64) (master : Master) (call : MasterCall) :
    Except Failure call.Answer × Master :=
  match master.outages.strike call.kind with
  | (some e, outages) => (.error e, { master with outages })
  | (none, outages) => { master with outages }.run (call.program now)

/-- Runs two programs in lockstep: each asks for the roomiest workers before either goes on, then
the second runs to its end, then the first.  It is the schedule in which both decide by the same
ledger. -/
def lockstep {α β : Type} (master : Master) (first : Program α) (second : Program β) :
    (Except Failure α × Except Failure β) × Master :=
  let (first, desk) := first.runPast Outages.strike .roomiest master.desk
  let (second, desk) := second.runPast Outages.strike .roomiest desk
  let (right, desk) := second.run Outages.strike desk
  let (left, desk) := first.run Outages.strike desk
  ((left, right), { master with desk })

end Master

end BlobCluster
