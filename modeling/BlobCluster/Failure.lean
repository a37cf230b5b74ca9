/-!
# Failures

What a call of any node can end in besides an answer: a kind and a text.  Nodes pass failures to
each other as a code and a message; several kinds share a code, so a failure that has crossed the
wire comes back as the kind that stands for its code.
-/

namespace BlobCluster

/-- The kinds of failure in the build whose ledger is kept in memory.  The build with the ledger on
disk has one more, the refusal of its database engine, which crosses the wire as a failure of the
repository; here nothing can raise it. -/
inductive Failure.Kind where
  | invalidArgument
  | notFound
  | cancelled
  | resourceExhausted
  | storage
  | io
  | repository
  | http
  | invalidConfig
  | internal
  deriving DecidableEq, Repr

structure Failure where
  kind : Failure.Kind
  text : String
  deriving DecidableEq, Repr

/-- The codes that stand for failures on the wire.  They are fewer than the kinds, so several kinds
are sent as one code. -/
inductive WireCode where
  | invalidArgument
  | notFound
  | cancelled
  | resourceExhausted
  | storage
  | repository
  | internal
  deriving DecidableEq, Repr

namespace WireCode

def all : List WireCode :=
  [invalidArgument, notFound, cancelled, resourceExhausted, storage, repository, internal]

def name : WireCode → String
  | invalidArgument => "INVALID_ARGUMENT"
  | notFound => "NOT_FOUND"
  | cancelled => "CANCELLED"
  | resourceExhausted => "RESOURCE_EXHAUSTED"
  | storage => "STORAGE"
  | repository => "REPOSITORY"
  | internal => "INTERNAL"

def ofName? (text : String) : Option WireCode := all.find? (·.name == text)

/-- The kind a code is read as. -/
def kind : WireCode → Failure.Kind
  | invalidArgument => .invalidArgument
  | notFound => .notFound
  | cancelled => .cancelled
  | resourceExhausted => .resourceExhausted
  | storage => .storage
  | repository => .repository
  | internal => .internal

/-- The response status a code is sent with. -/
def status : WireCode → Nat
  | invalidArgument => 400
  | notFound => 404
  | cancelled => 502
  | resourceExhausted => 507
  | storage => 500
  | repository => 500
  | internal => 500

end WireCode

namespace Failure

namespace Kind

/-- How a shown failure of this kind begins. -/
def heading : Kind → String
  | invalidArgument => "Invalid argument: "
  | notFound => "Not found: "
  | cancelled => "Cancelled: "
  | resourceExhausted => "Resource exhausted: "
  | storage => "Storage error: "
  | io => "I/O error: "
  | repository => "Repository error: "
  | http => "HTTP error: "
  | invalidConfig => "Invalid configuration: "
  | internal => "Internal error: "

/-- The code a kind is sent as. -/
def code : Kind → WireCode
  | invalidArgument => .invalidArgument
  | notFound => .notFound
  | cancelled => .cancelled
  | http => .cancelled
  | resourceExhausted => .resourceExhausted
  | storage => .storage
  | io => .storage
  | repository => .repository
  | invalidConfig => .internal
  | internal => .internal

end Kind

/-- The text with the heading of its kind, as it stands in a message about another failure. -/
def display (e : Failure) : String := e.kind.heading ++ e.text

/-- The message sent on the wire.  A failure of the system underneath keeps its heading, since
its kind has no code of its own. -/
def message (e : Failure) : String :=
  match e.kind with
  | .io => e.display
  | _ => e.text

/-- The code sent on the wire. -/
def code (e : Failure) : WireCode := e.kind.code

/-- The failure that a code and a message stand for. -/
def ofWire (code : WireCode) (message : String) : Failure := ⟨code.kind, message⟩

/-- Trying again may help: the call did not get through. -/
def retryable (e : Failure) : Bool :=
  match e.kind with
  | .http | .cancelled => true
  | _ => false

/-- The response status a failure is sent with. -/
def status (e : Failure) : Nat := e.code.status

end Failure

end BlobCluster
