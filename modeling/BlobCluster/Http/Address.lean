import BlobCluster.Http.Host
import BlobCluster.Text.Trim

/-!
# Addresses of resources

The address of a node or of something on it, as `http://host/path?query#fragment`.  `baseOf` makes
the base of a node from what its settings say; `Address.parse` brings any text to the written form
that requests are sent to and that messages show: the port of the scheme is left out, dot
segments are resolved, and bytes that may not stand in a place are percent-encoded.  A name and a
password before the host are taken out of the address and sent on their own.
-/

namespace BlobCluster.Http

/-! ## Bases -/

/-- The base address of a node: without slashes at the end, and with a scheme. -/
def baseOf (address : String) : String :=
  let trimmed := Text.dropSlashes address
  if trimmed.startsWith "http://" || trimmed.startsWith "https://" then trimmed
  else "http://" ++ trimmed

/-! ## Written addresses -/

/-- An address in its written form. -/
structure Address where
  secure : Bool
  /-- What could not be taken out before the host, with its at sign. -/
  user : String
  host : String
  /-- The port, unless it is that of the scheme. -/
  port : Option Nat
  /-- The path with its slashes. -/
  path : String
  query : Option String
  fragment : Option String
  deriving DecidableEq, Repr

namespace Address

def text (address : Address) : String :=
  (if address.secure then "https://" else "http://") ++ address.user ++ address.host
    ++ (match address.port with | some port => ":" ++ toString port | none => "")
    ++ address.path
    ++ (match address.query with | some query => "?" ++ query | none => "")
    ++ (match address.fragment with | some fragment => "#" ++ fragment | none => "")

/-- What a request for an address asks of its host. -/
def target (address : Address) : String :=
  address.path ++ (match address.query with | some query => "?" ++ query | none => "")

/-- Longest address to which a request can be sent, in bytes. -/
def longest : Nat := 65534

/-- A request can be sent to the address: it is not too long, and its host has no quotes or braces,
which a host may hold but a target may not. -/
def isTarget (address : Address) : Bool :=
  address.text.utf8ByteSize ≤ longest &&
    !address.host.toList.any ['"', '\x60', '\x7b', '\x7d'].contains

/-! ## Reading -/

/-- A slash of either kind. -/
def isSlash (c : Char) : Bool := c == '/' || c == '\\'

/-- Controls and blanks around a text, and line breaks and tabs in it, do not count. -/
def clean (text : String) : List Char :=
  let edge (c : Char) : Bool := c.toNat ≤ 0x20
  let trimmed := ((text.toList.dropWhile edge).reverse.dropWhile edge).reverse
  trimmed.filter fun c => !(c == '\t' || c == '\n' || c == '\r')

/-- A port after its colon; none if nothing follows, or if it is the scheme's own. -/
def port? (secure : Bool) (text : List Char) : Except AddressFault (Option Nat) :=
  if text.isEmpty then .ok none
  else if text.all Char.isDigit then
    let port := text.foldl (fun acc c => 10 * acc + (c.toNat - 48)) 0
    if UInt16.size ≤ port then .error .badPort
    else if port = (if secure then 443 else 80) then .ok none
    else .ok (some port)
  else .error .badPort

/-- Host and port texts of an authority: the colon inside brackets does not count. -/
def splitPort (authority : List Char) : List Char × List Char :=
  let rec go (depth : Bool) (host : List Char) : List Char → List Char × List Char
    | [] => (host.reverse, [])
    | c :: rest =>
      if c == ':' && !depth then (host.reverse, rest)
      else go (if c == '[' then true else if c == ']' then false else depth) (c :: host) rest
  go false [] authority

/-- A segment that stands for the folder it is in. -/
def isDot (segment : String) : Bool := [".", "%2e"].contains segment.toLower

/-- A segment that stands for the folder above. -/
def isDoubleDot (segment : String) : Bool :=
  ["..", ".%2e", "%2e.", "%2e%2e"].contains segment.toLower

/-- Characters of a path that are percent-encoded. -/
def pathEncoded : List Char := [' ', '"', '<', '>', '\x60', '#', '?', '\x7b', '\x7d']

/-- A segment that names a drive: a letter with a colon or a bar. -/
def isDrive (segment : String) : Bool :=
  match segment.toList with
  | [letter, mark] => letter.isAlpha && (mark == ':' || mark == '|')
  | _ => false

/-- The segments above, of which the latest comes first.  There is nothing above a drive. -/
def above : List String → List String
  | [] => []
  | segment :: rest => if isDrive segment then segment :: rest else rest

/-- Resolves dot segments; the result so far has the latest segment first. -/
def resolve (done : List String) : List String → List String
  | [] => done.reverse
  | segment :: rest =>
    let last := rest.isEmpty
    if isDoubleDot segment then resolve (if last then "" :: above done else above done) rest
    else if isDot segment then resolve (if last then "" :: done else done) rest
    else resolve (Percent.encodeText pathEncoded segment :: done) rest

def readPath (text : List Char) : String :=
  let text := text.map fun c => if c == '\\' then '/' else c
  let segments := (text.splitOn '/').map String.ofList
  let segments := if segments.head? == some "" then segments.drop 1 else segments
  "/" ++ String.intercalate "/" (resolve [] segments)

/-- Text before and after the first place of a character. -/
def cutAt (c : Char) (text : List Char) : List Char × Option (List Char) :=
  match text.span (· != c) with
  | (before, _ :: after) => (before, some after)
  | (before, []) => (before, none)

/-- Characters of a name or a password that are percent-encoded. -/
def userEncoded : List Char := pathEncoded ++ ['/', ':', ';', '=', '@', '[', '\\', ']', '^', '|']

/-- The bytes behind percent signs are a text. -/
def isDecodable (text : List Char) : Bool :=
  (Bytes.ofUtf8? (Percent.decode (Bytes.toUtf8 (String.ofList text)))).isSome

/-- What stays of a name and a password before the host.  They are taken out if there is a name or
else a password, but one that is no text does not count as a password and keeps a name in its
place. -/
def keptUser (text : List Char) : String :=
  let (name, password) := cutAt ':' text
  let password := password.filter (!·.isEmpty)
  let encode (text : List Char) : String := Percent.encodeText userEncoded (String.ofList text)
  if isDecodable name && (!name.isEmpty || password.all isDecodable) then ""
  else encode name ++ (match password with | some p => ":" ++ encode p | none => "") ++ "@"

/-- What stands before the last at sign of an authority, and what stands after it. -/
def splitUser (authority : List Char) : List Char × List Char :=
  let host := (authority.reverse.takeWhile (· != '@')).reverse
  (authority.take (authority.length - host.length - 1), host)

def readRest (secure : Bool) (text : List Char) : Except AddressFault Address := do
  let text := text.dropWhile isSlash
  let (authority, rest) := text.span fun c => !(isSlash c || c == '?' || c == '#')
  let (user, authority) := splitUser authority
  let (hostText, portText) := splitPort authority
  if hostText.isEmpty then throw .emptyHost
  let host ← Host.parse hostText
  let port ← port? secure portText
  let (rest, fragment) := cutAt '#' rest
  let (path, query) := cutAt '?' rest
  return {
    secure
    user := keptUser user
    host
    port
    path := readPath path
    query := query.map fun q =>
      Percent.encodeText [' ', '"', '#', '<', '>', '\''] (String.ofList q)
    fragment := fragment.map fun f =>
      Percent.encodeText [' ', '"', '<', '>', '\x60'] (String.ofList f) }

def parse (text : String) : Except AddressFault Address :=
  match clean text with
  | 'h' :: 't' :: 't' :: 'p' :: 's' :: ':' :: rest => readRest true rest
  | 'h' :: 't' :: 't' :: 'p' :: ':' :: rest => readRest false rest
  | _ => .error .emptyHost

end Address

end BlobCluster.Http
