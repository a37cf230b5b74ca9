import BlobCluster.Cluster.Blobs

/-!
# The endpoints of a gateway

How clients call a cluster.  An upload tells its size in a header and sends the bytes as the body
of the request; a download streams them back.
-/

namespace BlobCluster.Cluster

open Http Wire

def sizeHeader : String := "x-blob-size"

def missingSize : Failure := ⟨.invalidArgument, "missing " ++ sizeHeader ++ " header"⟩

def malformedSize : Failure := ⟨.invalidArgument, "malformed " ++ sizeHeader ++ " header"⟩

def trimBlanks (bytes : Bytes) : Bytes :=
  let blank (b : UInt8) : Bool := b == 0x20 || b == 0x09
  ((bytes.dropWhile blank).reverse.dropWhile blank).reverse

/-- The size that a request tells. -/
def declaredSize (request : Request) : Except Failure UInt64 :=
  match request.header? sizeHeader with
  | none => .error missingSize
  | some value =>
    match readLength? (trimBlanks value) with
    | some n => .ok (UInt64.ofNat n)
    | none => .error malformedSize

def respondMaster (i : Nat) (request : Request) : StateM Cluster Response := fun cluster =>
  match cluster.masters[i]? with
  | none => (notFound, cluster)
  | some master =>
    let (response, master) := Master.respond cluster.clock request master
    (response, { cluster with masters := cluster.masters.set i master })

/-- What the paths of a gateway stand for. -/
inductive ClientEndpoint where
  | health
  | blobs
  | blob (segment : String)
  deriving DecidableEq, Repr

def ClientEndpoint.of? : List String → Option ClientEndpoint
  | ["", "health"] => some .health
  | ["", "blob"] => some .blobs
  | ["", "blob", segment] => if segment.isEmpty then none else some (.blob segment)
  | _ => none

def uploadRequest (request : Request) : Acting String := do
  let size ← (declaredSize request : Except Failure UInt64)
  upload (uploadMessages size (bodyChunks request))

/-- What a client is told about a delete. -/
def reportJson (report : DeleteReport) : Json :=
  Json.record [("copies", Json.nat report.copies.toNat), ("delete_result", Json.text "ok"),
    ("purged", Json.nat report.purged.toNat)]

/-- The response of a relayed stream; it is relayed only if its body was asked for. -/
def relaying (request : Request) (blob : String) : StateM Cluster Response := do
  match ← (openBlob blob).run with
  | .error e => return .ofFailure e
  | .ok relay =>
    if request.method == "HEAD" then return .octets ⟨[], none⟩
    else return .octets (← pullRelay relay)

def serveClient (request : Request) : ClientEndpoint → StateM Cluster Response
  | .health => pure (if isGet request then Master.wellResponse "frontend" else wrongMethod)
  | .blobs =>
    if request.method == "POST" then
      responding (uploadRequest request) fun blob => .json 200 (ReceiptForm.toJson ⟨blob⟩)
    else pure wrongMethod
  | .blob segment =>
    if isGet request then withSegment segment fun blob => relaying request blob
    else if request.method == "DELETE" then withSegment segment fun blob =>
      responding (delete blob) fun report => .json 200 (reportJson report)
    else pure wrongMethod

def respond (request : Request) : StateM Cluster Response := do
  match ClientEndpoint.of? (segments request.target) with
  | none => return notFound
  | some endpoint => return forMethod request (← serveClient request endpoint)

end BlobCluster.Cluster
