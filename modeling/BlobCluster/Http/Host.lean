import BlobCluster.Http.Name
import BlobCluster.Http.Percent
import BlobCluster.SocketAddress

/-!
# Hosts

The host of an address in its one written form: a name in lowercase ASCII, four octets of an
internet address that may have been written as numbers of several bases, or eight groups in
brackets.
-/

namespace BlobCluster.Http

/-- Why an address is refused. -/
inductive AddressFault where
  | emptyHost
  | badName
  | badPort
  | badV4
  | badV6
  deriving DecidableEq, Repr

def AddressFault.text : AddressFault → String
  | emptyHost => "empty host"
  | badName => "invalid international domain name"
  | badPort => "invalid port number"
  | badV4 => "invalid IPv4 address"
  | badV6 => "invalid IPv6 address"

namespace Host

/-! ## Octets -/

/-- The value of a digit below a base. -/
def digits? (base : Nat) (text : List Char) : Option Nat :=
  let (digits, rest) := SocketAddress.spanDigits base text
  if rest.isEmpty then some (digits.foldl (fun acc d => base * acc + d) 0) else none

/-- A number in the base that its first characters tell; nothing after `0x` counts as zero. -/
def number? : List Char → Option Nat
  | [] => none
  | '0' :: 'x' :: rest | '0' :: 'X' :: rest => digits? 16 rest
  | '0' :: rest => if rest.isEmpty then some 0 else digits? 8 rest
  | text => digits? 10 text

def isDecimal (text : List Char) : Bool := !text.isEmpty && text.all Char.isDigit

/-- The pieces of a name; an empty last one does not count. -/
def pieces (name : List Char) : List (List Char) :=
  let all := name.splitOn '.'
  if all.getLast? == some [] && 1 < all.length then all.dropLast else all

/-- The last piece is a number, so the name is meant as an internet address. -/
def endsInNumber (name : List Char) : Bool :=
  match (pieces name).getLast? with
  | none => false
  | some last => isDecimal last || ((last.take 2 == ['0', 'x'] || last.take 2 == ['0', 'X']) && (number? last).isSome)

/-- The address of up to four numbers; the last one fills the octets that are left. -/
def joinNumbers (numbers : List Nat) : Option Nat :=
  let head := numbers.dropLast
  let last := numbers.getLastD 0
  if 4 < numbers.length || head.any (255 < ·) || Nat.pow 256 (4 - head.length) ≤ last then none
  else
    some (last + (head.zipIdx.map fun (n, i) => n * Nat.pow 256 (3 - i)).foldl (· + ·) 0)

/-- A name that is meant as an internet address, in four octets. -/
def v4? (name : List Char) : Option String := do
  let numbers ← (pieces name).mapM number?
  let n ← joinNumbers numbers
  return SocketAddress.renderOctets (n / 16777216) (n / 65536 % 256) (n / 256 % 256) (n % 256)

/-! ## Groups -/

/-- Eight groups in brackets. -/
def v6? (text : List Char) : Option String :=
  match SocketAddress.readGroups8? text with
  | some (groups, []) => some ("[" ++ SocketAddress.renderRuns groups.toList ++ "]")
  | _ => none

/-! ## Names -/

/-- A character that no name may hold. -/
def isForbidden (c : Char) : Bool :=
  c.toNat ≤ 0x20 || c.toNat == 0x7F || "#%/:<>?@[\\]^|".toList.contains c

/-- The written form of a host. -/
def parse (text : List Char) : Except AddressFault String :=
  match text with
  | '[' :: rest =>
    if rest.getLast? == some ']' then
      match v6? rest.dropLast with
      | some host => .ok host
      | none => .error .badV6
    else .error .badV6
  | text =>
    match (Bytes.ofUtf8? (Percent.decode (Bytes.toUtf8 (String.ofList text)))).bind
        (Name.ascii? ·.toList) with
    | none => .error .badName
    | some name =>
      if name.isEmpty then .error .emptyHost
      else if name.any isForbidden then .error .badName
      else if endsInNumber name then
        match v4? name with
        | some host => .ok host
        | none => .error .badV4
      else .ok (String.ofList name)

end Host

end BlobCluster.Http
