import BlobCluster.CommandLine.Run

/-!
# The program

Runs a command of the command line.  Files named by the arguments are taken from the folder the
program is started in.  The program has no way to other nodes of its own, so its link is down.
-/

namespace BlobCluster

/-- Puts the file of an upload on the volume that the command sees. -/
def loadFile (volume : Volume) (file : String) : IO Volume := do
  match ← (IO.FS.readBinFile file).toBaseIO with
  | .error _ => return volume
  | .ok content =>
    let (_, volume) := volume.makeFolders (Path.ofText file).dropLast
    return (volume.write (Path.ofText file) content.toList).toOption.getD volume

/-- The volume that a command needs. -/
def surroundingFiles : CommandLine.Invocation → IO Volume
  | .run _ (.upload file) => loadFile .blank file
  | _ => return .blank

end BlobCluster

open BlobCluster in
/-- Runs the arguments and prints the report. -/
def main (arguments : List String) : IO UInt32 := do
  let volume ← surroundingFiles (CommandLine.parse arguments)
  let around : CommandLine.Surroundings Unit := ⟨.down, fun _ => pure Http.notFound, "."⟩
  let (report, _) := CommandLine.run around arguments (volume, ())
  IO.print report.output
  IO.eprint report.errors
  return UInt32.ofNat report.exitCode
