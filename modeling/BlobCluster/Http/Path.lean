import BlobCluster.Http.Percent

/-!
# Paths of requests

A request names a resource by the path of its target; what follows a question mark or a number
sign does not count.  A path is a list of segments between slashes.  Segments are compared as they
are sent and decoded only when a segment stands for a value.
-/

namespace BlobCluster.Http

def dropHost (target : List Char) : List Char :=
  match target with
  | '/' :: _ => target
  | _ =>
    match (String.ofList target).splitOn "://" with
    | _ :: rest@(_ :: _) =>
      (String.intercalate "://" rest).toList.dropWhile fun c => c != '/' && c != '?' && c != '#'
    | _ => target

def pathOf (target : String) : List Char :=
  let path := (dropHost target.toList).takeWhile fun c => c != '?' && c != '#'
  if path.isEmpty then ['/'] else path

/-- The segments of a target's path, an empty one before the first slash. -/
def segments (target : String) : List String := ((pathOf target).splitOn '/').map String.ofList

/-- The value that a segment stands for, unless its bytes are no text. -/
def segmentValue? (segment : String) : Option String :=
  Bytes.ofUtf8? (Percent.decode (Bytes.toUtf8 segment))

end BlobCluster.Http
