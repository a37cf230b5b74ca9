import BlobCluster.Cluster.Endpoint
import BlobCluster.CommandLine.Arguments
import BlobCluster.Http.Link

/-!
# Running a command

A command reads and writes files of the folder it is run in and calls a gateway over a link.  What
it has to say is gathered in a report: the text for the reader, or the trouble with its causes.
-/

namespace BlobCluster.CommandLine

open Http Wire

/-! ## Reports -/

/-- Why a command failed, with what caused it. -/
structure Trouble where
  text : String
  causes : List String := []
  deriving DecidableEq, Repr

/-- What a run of the program leaves for its reader. -/
structure Report where
  exitCode : Nat
  output : String
  errors : String
  deriving DecidableEq, Repr

/-- Causes on lines of their own, numbered if there are several. -/
def showCauses : List String → String
  | [] => ""
  | [cause] => "\nCaused by:\n    " ++ cause ++ "\n"
  | causes =>
    "\nCaused by:\n" ++ String.join (causes.zipIdx.map fun (cause, i) =>
      "    " ++ toString i ++ ": " ++ cause ++ "\n")

def Report.ofOutcome : Except Trouble String → Report
  | .ok output => ⟨0, output, ""⟩
  | .error trouble => ⟨1, "", "Error: " ++ trouble.text ++ "\n" ++ showCauses trouble.causes⟩

/-! ## Calling the gateway -/

/-- The host is known without asking for its name: an address, or the own computer. -/
def isKnownHost (host : String) : Bool :=
  host == "localhost" || host.startsWith "[" || Host.endsInNumber host.toList

/-- Why a link that is down did not take a request for a host. -/
def unreachable (host : String) : List String :=
  "client error (Connect)" ::
    if isKnownHost host then ["tcp connect error", "Network is unreachable (os error 101)"]
    else
      ["dns error", "failed to lookup address information: Temporary failure in name resolution"]

/-- What commands work with: the files of their folder and whoever serves the gateway. -/
structure Surroundings (σ : Type) where
  link : Link
  serve : Request → StateM σ Response
  /-- The folder that files are named in. -/
  folder : String

/-- Something a command does on the files and on the state of the server. -/
abbrev Running (σ : Type) := ExceptT Trouble (StateM (Volume × σ))

variable {σ : Type}

/-- Sends a request and takes a successful response. -/
def exchange (around : Surroundings σ) (draft : Draft) : Running σ Response := fun (volume, s) =>
  match Address.parse draft.address with
  | .error fault => (.error ⟨badAddress.text, [fault.text]⟩, volume, s)
  | .ok address =>
    if !address.isTarget then
      (.error ⟨(badTarget address).text, ["Parsed Url is not a valid Uri"]⟩, volume, s)
    else match around.link with
      | .down => (.error ⟨(notSent address).text, unreachable address.host⟩, volume, s)
      | .up =>
        let (response, s) := around.serve (draft.request address) s
        match response.check with
        | .error e => (.error ⟨e.display, []⟩, volume, s)
        | .ok response => (.ok response, volume, s)

def formOf {α : Type} (reading : Json.Reading α) (response : Response) : Except Trouble α :=
  (readResponse reading response).mapError fun e => ⟨e.text, []⟩

def bytesOf (response : Response) : Except Trouble Bytes :=
  response.bytes.mapError fun e => ⟨e.text, []⟩

/-- Uploads pieces of so many bytes in all. -/
def uploadPieces (around : Surroundings σ) (base : String) (size : Nat) (pieces : List Bytes) :
    Running σ String := do
  let response ← exchange around {
    method := "POST", address := base ++ "/blob"
    headers := [(Cluster.sizeHeader, Bytes.toUtf8 (toString size))]
    body := pieces.map .ok }
  return (← (formOf ReceiptForm.read response : Except Trouble ReceiptForm)).blob

def fetch (around : Surroundings σ) (base blob : String) : Running σ Response :=
  exchange around { method := "GET", address := base ++ "/blob/" ++ blob }

def erase (around : Surroundings σ) (base blob : String) : Running σ Response :=
  exchange around { method := "DELETE", address := base ++ "/blob/" ++ blob }

/-! ## Commands -/

def filePath (around : Surroundings σ) (file : String) : Path :=
  if file.startsWith "/" then Path.ofText file else Path.ofText (around.folder ++ "/" ++ file)

def runUpload (around : Surroundings σ) (base file : String) : Running σ String := do
  let path := filePath around file
  match (← get).1.find path with
  | .error e => throw ⟨"reading " ++ file, [e.text]⟩
  | .ok _ =>
    let content := ((← get).1.bytes? path).getD []
    let blob ← uploadPieces around base content.length [content]
    return "✓ Uploaded " ++ file ++ " (" ++ Text.showSize content.length ++ ")\n" ++ blob ++ "\n"

def writeFile (around : Surroundings σ) (file : String) (bytes : Bytes) : Running σ Unit :=
  fun (volume, s) =>
    match volume.write (filePath around file) bytes with
    | .error e => (.error ⟨"creating " ++ file, [e.text]⟩, volume, s)
    | .ok volume => (.ok (), volume, s)

/-- Downloads a blob into a file, which is made once the blob was found.  A download that breaks off
leaves an empty file. -/
def runGet (around : Surroundings σ) (base blob output : String) : Running σ String := do
  let response ← fetch around base blob
  writeFile around output []
  let bytes ← (bytesOf response : Except Trouble Bytes)
  writeFile around output bytes
  return "✓ Wrote " ++ Text.showSize bytes.length ++ " to " ++ output ++ "\n"

/-- What the demonstration stores. -/
def demoText : String := "ABRAKADABRA"

/-- Stores a text, reads it back and deletes it. -/
def runDemo (around : Surroundings σ) (base : String) : Running σ String := do
  let data := Bytes.toUtf8 demoText
  let blob ← uploadPieces around base data.length [data.take 4, data.drop 4]
  let back ← (bytesOf (← fetch around base blob) : Except Trouble Bytes)
  if back = data then
    let _ ← erase around base blob
    return "Uploaded " ++ demoText ++ " as " ++ blob ++ "\nRead back " ++ toString back.length
      ++ " bytes, content matches\n✓ Demo finished, " ++ blob ++ " deleted\n"
  else
    throw ⟨"read back " ++ Text.quoted (Bytes.lossyUtf8 back) ++ ", expected "
      ++ Text.quoted demoText, []⟩

def runCommand (around : Surroundings σ) (gateway : String) : Command → Running σ String
  | .ping => do
    let _ ← exchange around { method := "GET", address := baseOf gateway ++ "/health" }
    return "✓ " ++ gateway ++ " is healthy\n"
  | .upload file => runUpload around (baseOf gateway) file
  | .get blob output => runGet around (baseOf gateway) blob output
  | .delete blob => do
    let body ← (bytesOf (← erase around (baseOf gateway) blob) : Except Trouble Bytes)
    return "✓ Deleted " ++ blob ++ ": " ++ Bytes.lossyUtf8 body ++ "\n"
  | .demo => runDemo around (baseOf gateway)

def run (around : Surroundings σ) (arguments : List String) : StateM (Volume × σ) Report :=
  match parse arguments with
  | .misuse => pure ⟨2, "", helpText⟩
  | .help => pure ⟨0, helpText, ""⟩
  | .version => pure ⟨0, programName ++ " " ++ version ++ "\n", ""⟩
  | .run gateway command => do
    return .ofOutcome (← (runCommand around gateway command).run)

end BlobCluster.CommandLine
