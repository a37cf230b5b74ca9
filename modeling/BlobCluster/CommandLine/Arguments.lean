/-!
# Arguments of the command line

The command line names a gateway, a command and what the command works on.  `parse` reads the
arguments from left to right: the first request for help or the version is answered at once, and
the first argument that does not fit is an error.
-/

namespace BlobCluster.CommandLine

def programName : String := "triblob"

def version : String := "0.3.0"

/-- Where the gateway is if nothing else is said. -/
def defaultGateway : String := "http://localhost:50041"

inductive Command where
  | ping
  | upload (file : String)
  | get (blob output : String)
  | delete (blob : String)
  | demo
  deriving DecidableEq, Repr

/-- A reading of the arguments. -/
inductive Invocation where
  | run (gateway : String) (command : Command)
  | help
  | version
  /-- The arguments do not fit. -/
  | misuse
  deriving DecidableEq, Repr

/-! ## Words -/

/-- The word is an option rather than a value. -/
def isOption (word : String) : Bool := word.startsWith "-" && word != "-"

/-- The value in a word of the form `name=value`. -/
def inlineValue? (name word : String) : Option String :=
  if word.startsWith (name ++ "=") then some (word.drop (name.length + 1)).toString else none

/-- Short options in one word; the first decides. -/
def shortOptions (withVersion : Bool) (word : String) : Invocation :=
  match word.toList with
  | _ :: 'h' :: _ => .help
  | _ :: 'V' :: _ => if withVersion then .version else .misuse
  | _ => .misuse

/-! ## Commands -/

/-- Values of a command as far as they are read. -/
structure Values where
  positional : List String
  output : Option String

/-- Reads the arguments of a command with so many values, each of which `fits`, and perhaps an
output. -/
def readValues (count : Nat) (fits : String → Bool) (withOutput : Bool)
    (finish : Values → Invocation) : Values → List String → Invocation
  | values, [] => if values.positional.length = count then finish values else .misuse
  | values, "--" :: rest =>
    if values.positional.length + rest.length = count && rest.all fits then
      finish { values with positional := values.positional ++ rest }
    else .misuse
  | values, word :: rest =>
    if word == "--help" then .help
    else if withOutput && word == "--output" then
      match rest with
      | value :: rest =>
        if isOption value || value.isEmpty || values.output.isSome then .misuse
        else readValues count fits withOutput finish { values with output := some value } rest
      | [] => .misuse
    else if isOption word then
      match inlineValue? "--output" word with
      | some value =>
        if !withOutput || value.isEmpty || values.output.isSome then .misuse
        else readValues count fits withOutput finish { values with output := some value } rest
      | none => if word.startsWith "--" then .misuse else shortOptions false word
    else if values.positional.length < count && fits word then
      readValues count fits withOutput finish
        { values with positional := values.positional ++ [word] } rest
    else .misuse
termination_by _ words => words.length

/-- The command that a word starts. -/
def readCommand (gateway word : String) (rest : List String) : Invocation :=
  let start : Values := ⟨[], none⟩
  match word with
  | "ping" => readValues 0 (fun _ => true) false (fun _ => .run gateway .ping) start rest
  | "demo" => readValues 0 (fun _ => true) false (fun _ => .run gateway .demo) start rest
  | "upload" => readValues 1 (!·.isEmpty) false (fun values =>
      match values.positional with
      | [file] => .run gateway (.upload file)
      | _ => .misuse) start rest
  | "delete" => readValues 1 (fun _ => true) false (fun values =>
      match values.positional with
      | [blob] => .run gateway (.delete blob)
      | _ => .misuse) start rest
  | "get" => readValues 1 (fun _ => true) true (fun values =>
      match values.positional, values.output with
      | [blob], some output => .run gateway (.get blob output)
      | _, _ => .misuse) start rest
  | "help" =>
    match rest with
    | [] => .help
    | [about] =>
      if ["ping", "demo", "upload", "delete", "get", "help"].contains about then .help else .misuse
    | _ => .misuse
  | _ => .misuse

/-- Reads the arguments, with the gateway that was named so far. -/
def parseFrom (gateway : Option String) : List String → Invocation
  | [] => .misuse
  | word :: rest =>
    if word == "--help" then .help
    else if word == "--version" then .version
    else if word == "--frontend" then
      match rest with
      | value :: rest =>
        if isOption value || gateway.isSome then .misuse else parseFrom (some value) rest
      | [] => .misuse
    else if isOption word then
      match inlineValue? "--frontend" word with
      | some value => if gateway.isSome then .misuse else parseFrom (some value) rest
      | none => if word.startsWith "--" then .misuse else shortOptions true word
    else readCommand (gateway.getD defaultGateway) word rest
termination_by words => words.length

def parse (arguments : List String) : Invocation := parseFrom none arguments

def helpText : String :=
  programName ++ " distributed blob store CLI\n\nUsage: " ++ programName
    ++ " [OPTIONS] <COMMAND>\n\nCommands:\n"
    ++ "  ping    Check that the frontend is up\n"
    ++ "  upload  Upload a file, printing its hash\n"
    ++ "  get     Download a blob\n"
    ++ "  delete  Delete a blob\n"
    ++ "  demo    Upload \"ABRAKADABRA\", read it back, verify, delete\n"
    ++ "  help    Print this message or the help of the given subcommand(s)\n\nOptions:\n"
    ++ "      --frontend <FRONTEND>  Frontend URL [default: " ++ defaultGateway ++ "]\n"
    ++ "  -h, --help                 Print help\n"
    ++ "  -V, --version              Print version\n"

end BlobCluster.CommandLine
