import BlobCluster.Settings.Basic
import BlobCluster.Settings.Tree

/-!
# Settings from trees

Files and variables say things in their own types, and a setting takes what can stand for its own:
a scalar where a text is wanted, a text or a fraction where a number is wanted, words where a truth
value is wanted.  A record is a table, or a list of its fields in order; what it does not know is
ignored, and what it does not say has its default.
-/

namespace BlobCluster.Settings

/-! ## Scalars -/

/-- The truth value that a word of any case stands for. -/
def truthOfWord? (word : String) : Option Bool :=
  if ["true", "on", "yes"].contains word.toLower then some true
  else if ["false", "off", "no"].contains word.toLower then some false
  else none

/-- The number below 2^64 with these decimal digits, a plus before them at most. -/
def wordOfDigits? (digits : List Char) : Option UInt64 :=
  let digits := match digits with
    | '+' :: rest => rest
    | other => other
  if digits.isEmpty || !digits.all Char.isDigit then none
  else
    let n := digits.foldl (fun n c => 10 * n + (c.toNat - 48)) 0
    if n < UInt64.size then some (UInt64.ofNat n) else none

namespace Tree

def asText? : Tree → Option String
  | text s => some s
  | bool b => some (if b then "true" else "false")
  | integer i => some (toString i)
  | real r => some r.render
  | _ => none

/-- A natural number below 2^64: of a fraction the nearest. -/
def asWord? : Tree → Option UInt64
  | integer i => if 0 ≤ i then some (UInt64.ofNat i.toNat) else none
  | real r => some r.toWord
  | bool b => some (if b then 1 else 0)
  | text s =>
    match truthOfWord? s with
    | some b => some (if b then 1 else 0)
    | none => wordOfDigits? s.toList
  | _ => none

def asBool? : Tree → Option Bool
  | bool b => some b
  | integer i => some (i != 0)
  | real r => some !r.isZero
  | text s =>
    if s = "1" then some true
    else if s = "0" then some false
    else truthOfWord? s
  | _ => none

def asTexts? : Tree → Option (List String)
  | list items => items.mapM asText?
  | _ => none

def asAddress? (tree : Tree) : Option SocketAddress := do SocketAddress.parse? (← tree.asText?)

/-- One of several names, alone or as the only member of a table. -/
def asName? {α : Type} (ofName? : String → Option α) : Tree → Option α
  | text name => ofName? name
  | table [(name, _)] => ofName? name
  | _ => none

/-! ## Records -/

/-- The fields that a record says. -/
def fields? (names : List String) : Tree → Option (List (String × Tree))
  | table members => some members
  | list items => some (names.zip items)
  | _ => none

end Tree

/-- The value of a field, or its default where the record does not say it. -/
def fieldD {α : Type} (said : List (String × Tree)) (name : String) (read : Tree → Option α)
    (default : α) : Option α :=
  match said.lookup name with
  | some tree => read tree
  | none => some default

def Master.ofTree? (tree : Tree) : Option Master := do
  let said ← tree.fields? (Master.fields.map (·.name))
  let defaults : Master := {}
  return {
    bindAddr := ← fieldD said "bind_addr" Tree.asAddress? defaults.bindAddr
    dbPath := ← fieldD said "db_path" Tree.asText? defaults.dbPath
    backend := ← fieldD said "backend" (Tree.asName? Backend.ofName?) defaults.backend }

def Worker.ofTree? (tree : Tree) : Option Worker := do
  let said ← tree.fields? (Worker.fields.map (·.name))
  let defaults : Worker := {}
  return {
    bindAddr := ← fieldD said "bind_addr" Tree.asAddress? defaults.bindAddr
    advertiseAddr := ← fieldD said "advertise_addr" Tree.asText? defaults.advertiseAddr
    masters := ← fieldD said "masters" Tree.asTexts? defaults.masters
    blobRoot := ← fieldD said "blob_root" Tree.asText? defaults.blobRoot
    chunkSize := ← fieldD said "chunk_size" Tree.asWord? defaults.chunkSize
    hashAlgorithm :=
      ← fieldD said "hash_algorithm" (Tree.asName? Digest.Algorithm.ofName?) defaults.hashAlgorithm
    registerRetries := ← fieldD said "register_retries" Tree.asWord? defaults.registerRetries
    registerDelayMs := ← fieldD said "register_delay_ms" Tree.asWord? defaults.registerDelayMs }

def Gateway.ofTree? (tree : Tree) : Option Gateway := do
  let said ← tree.fields? (Gateway.fields.map (·.name))
  let defaults : Gateway := {}
  return {
    bindAddr := ← fieldD said "bind_addr" Tree.asAddress? defaults.bindAddr
    masters := ← fieldD said "masters" Tree.asTexts? defaults.masters
    scratchRoot := ← fieldD said "scratch_root" Tree.asText? defaults.scratchRoot
    chunkSize := ← fieldD said "chunk_size" Tree.asWord? defaults.chunkSize
    hashAlgorithm :=
      ← fieldD said "hash_algorithm" (Tree.asName? Digest.Algorithm.ofName?) defaults.hashAlgorithm
    purgeWorkerCopies :=
      ← fieldD said "purge_worker_copies" Tree.asBool? defaults.purgeWorkerCopies }

/-- The settings that a tree says. -/
def ofTree? (tree : Tree) : Option Settings := do
  let said ← tree.fields? (fields.map (·.name))
  let defaults : Settings := {}
  return {
    master := ← fieldD said "master" Master.ofTree? defaults.master
    worker := ← fieldD said "worker" Worker.ofTree? defaults.worker
    gateway := ← fieldD said "frontend" Gateway.ofTree? defaults.gateway
    logLevel := ← fieldD said "log_level" Tree.asText? defaults.logLevel }

end BlobCluster.Settings
