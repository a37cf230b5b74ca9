import BlobCluster.Digest.Xxh64
import BlobCluster.Digest.Blake3

/-!
# Content digests

The identity of a blob is the lowercase hexadecimal digest of its bytes.  `Algorithm.digest`
gives the digest of a whole byte string; a `Hasher` takes the bytes in chunks and gives the same
text whatever the chunks are.
-/

namespace BlobCluster.Digest

/-- How blob identities are computed; all nodes of a cluster have to agree on it. -/
inductive Algorithm where
  | xxh64
  | blake3
  deriving DecidableEq, Repr

namespace Algorithm

def name : Algorithm → String
  | xxh64 => "xxh64"
  | blake3 => "blake3"

def ofName? (text : String) : Option Algorithm := [xxh64, blake3].find? (·.name == text)

/-- Digest bytes of a whole byte string; the 64-bit digest is written most significant byte
first. -/
def hash : Algorithm → Bytes → Bytes
  | xxh64, bytes => Bytes.ofNatBE 8 (Xxh64.hash bytes).toNat
  | blake3, bytes => Blake3.hash bytes

/-- The identity of a blob with these bytes. -/
def digest (algorithm : Algorithm) (bytes : Bytes) : String := (algorithm.hash bytes).toHex

end Algorithm

inductive Hasher where
  | xxh64 (state : Xxh64.State)
  | blake3 (state : Blake3.State)
  deriving DecidableEq, Repr

namespace Hasher

def start : Algorithm → Hasher
  | .xxh64 => .xxh64 .start
  | .blake3 => .blake3 .start

def addChunk : Hasher → Bytes → Hasher
  | .xxh64 state, chunk => .xxh64 (state.write chunk)
  | .blake3 state, chunk => .blake3 (state.write chunk)

/-- The lowercase hexadecimal digest of all chunks. -/
def finish : Hasher → String
  | .xxh64 state => Bytes.toHex (Bytes.ofNatBE 8 state.finish.toNat)
  | .blake3 state => Bytes.toHex state.finish

/-- How a hasher shows itself in a trace. -/
def label : Hasher → String
  | .xxh64 _ => "IncrementalHasher(xxh64)"
  | .blake3 _ => "IncrementalHasher(blake3)"

end Hasher

/-- The digest of a list of chunks, taken one by one. -/
def ofChunks (algorithm : Algorithm) (chunks : List Bytes) : String :=
  (chunks.foldl Hasher.addChunk (Hasher.start algorithm)).finish

end BlobCluster.Digest
