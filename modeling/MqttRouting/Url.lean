import MqttRouting.Url.Domain
import MqttRouting.Url.Ipv4

/-!
URLs, as far as connections need them: scheme, host, port and the entries of the query.
User, path and fragment are passed over. The schemes of the web have rules of their own
for slashes and hosts.
-/

namespace MqttRouting

inductive UrlError where
  | noBase
  | emptyHost
  | invalidPort
  | invalidIpv4
  | invalidIpv6
  | invalidHost
  | invalidDomain
  deriving DecidableEq, Repr

def UrlError.message : UrlError → String
  | .noBase => "relative URL without a base"
  | .emptyHost => "empty host"
  | .invalidPort => "invalid port number"
  | .invalidIpv4 => "invalid IPv4 address"
  | .invalidIpv6 => "invalid IPv6 address"
  | .invalidHost => "invalid domain character"
  | .invalidDomain => "invalid international domain name"

structure Url where
  scheme : String
  host : String := ""
  port : Option Nat := none
  /-- The query as it is written. -/
  query : List Char := []

namespace Url

/-! Lexical parts. -/

def isPadding (c : Char) : Bool := c.toNat ≤ 0x20

def isIgnored (c : Char) : Bool := c == '\t' || c == '\n' || c == '\r'

/-- Without padding at the ends, and without line breaks and tabs anywhere. -/
def clean (text : List Char) : List Char :=
  (((text.dropWhile isPadding).reverse.dropWhile isPadding).reverse).filter (!isIgnored ·)

def isSchemeChar (c : Char) : Bool := c.isAlphanum || c == '+' || c == '-' || c == '.'

def splitScheme? (text : List Char) : Option (String × List Char) :=
  let scheme := text.takeWhile isSchemeChar
  match scheme, text.dropWhile isSchemeChar with
  | c :: _, ':' :: rest =>
    if c.isAlpha then some (String.ofList (scheme.map Char.toLower), rest) else none
  | _, _ => none

/-- Schemes with a host that is a domain. -/
def isWebScheme (scheme : String) : Bool := ["http", "https", "ws", "wss", "ftp"].contains scheme

/-- What ends the part between the double slash and the path. -/
def endsAuthority (web : Bool) (c : Char) : Bool :=
  c == '/' || c == '?' || c == '#' || (web && c == '\\')

/-- The query in what follows the host. -/
def queryIn (rest : List Char) : List Char :=
  match rest.dropWhile (fun c => c != '?' && c != '#') with
  | '?' :: query => query.takeWhile (· != '#')
  | _ => []

/-! Hosts. -/

/-- Takes the host, up to a colon outside of brackets. -/
def splitHost (web inBrackets : Bool) : List Char → List Char × List Char
  | [] => ([], [])
  | c :: rest =>
    if endsAuthority web c || (c == ':' && !inBrackets) then ([], c :: rest)
    else
      let inBrackets := if c = '[' then true else if c = ']' then false else inBrackets
      let (host, rest) := splitHost web inBrackets rest
      (c :: host, rest)

def isForbidden (c : Char) : Bool := "\x00\t\n\r #/:<>?@[\\]^|".toList.contains c

def isPlain (c : Char) : Bool := 0x20 ≤ c.toNat && c.toNat < 0x7F

/-- A host that is taken as it is, with all but printable ASCII escaped. -/
def opaqueHost (text : List Char) : Except UrlError String :=
  if text.any isForbidden then .error .invalidHost
  else
    .ok <| String.ofList <| text.flatMap fun c =>
      if isPlain c then [c] else (Text.Utf8.encode [c]).flatMap percentEncoded

/-- A host by its name, or by an address that its name ends like. -/
def namedHost (text : List Char) : Except UrlError String :=
  match Domain.normalize? text with
  | none => .error .invalidDomain
  | some name =>
    if name.isEmpty then .error .emptyHost
    else if Ipv4.endsInNumber name then
      match Ipv4.parse? name with
      | some address => .ok (Ipv4.toText address)
      | none => .error .invalidIpv4
    else .ok (String.ofList name)

def parseHost (web : Bool) (text : List Char) : Except UrlError String :=
  match text with
  | '[' :: inner =>
    if inner.getLast? != some ']' then .error .invalidIpv6
    else
      match Ipv6.parse? inner.dropLast with
      | some pieces => .ok ("[" ++ Ipv6.toText pieces ++ "]")
      | none => .error .invalidIpv6
  | text =>
    if web then if text.isEmpty then .error .emptyHost else namedHost text
    else opaqueHost text

/-! Ports. -/

def maxPort : Nat := 65535

def decimal (digits : List Char) : Nat :=
  digits.foldl (fun n c => n * 10 + (c.toNat - '0'.toNat)) 0

/-- An empty port is none. -/
def parsePort (text : List Char) : Except UrlError (Option Nat × List Char) :=
  let digits := text.takeWhile Char.isDigit
  let rest := text.dropWhile Char.isDigit
  let port := if digits.isEmpty then none else some (decimal digits)
  if maxPort < decimal digits then .error .invalidPort
  else if (rest.head?.map (endsAuthority true)).getD true then .ok (port, rest)
  else .error .invalidPort

/-! The whole. -/

/-- What stands before the last `@`, if there is one, and what follows it. -/
def splitUser (web : Bool) (text : List Char) : Option (List Char) × List Char :=
  let authority := text.takeWhile (!endsAuthority web ·)
  let behind := text.dropWhile (!endsAuthority web ·)
  let hostReversed := authority.reverse.takeWhile (· != '@')
  match authority.reverse.dropWhile (· != '@') with
  | '@' :: user => (some user.reverse, hostReversed.reverse ++ behind)
  | _ => (none, text)

/-- An empty host is no host, which a port or a user cannot go with. -/
def parseAuthority (scheme : String) (text : List Char) : Except UrlError Url := do
  let web := isWebScheme scheme
  let (user, rest) := splitUser web text
  if user == some [] && (rest.head?.map (endsAuthority web)).getD false then
    throw .emptyHost
  let (hostText, rest) := splitHost web false rest
  let host ← parseHost web hostText
  let (port, rest) ←
    match rest with
    | ':' :: rest => if host.isEmpty then .error .emptyHost else parsePort rest
    | rest => .ok (none, rest)
  let named := user.isSome && user != some [] && user != some [':']
  if host.isEmpty && named then throw .emptyHost
  return { scheme, host, port, query := queryIn rest }

/-- A letter for a drive, which is the start of a path and no host. -/
def isDrive : List Char → Bool
  | [letter, mark] => letter.isAlpha && (mark == ':' || mark == '|')
  | _ => false

def isSlash (c : Char) : Bool := c == '/' || c == '\\'

/-- The host of a file, which may be left out. -/
def parseFile (scheme : String) (text : List Char) : Except UrlError Url := do
  match text with
  | first :: second :: rest =>
    if isSlash first && isSlash second then
      let hostText := rest.takeWhile (!endsAuthority true ·)
      let host ← if hostText.isEmpty || isDrive hostText then .ok "" else parseHost true hostText
      return { scheme, host, query := queryIn rest }
    else return { scheme, query := queryIn text }
  | text => return { scheme, query := queryIn text }

def parse (text : String) : Except UrlError Url :=
  match splitScheme? (clean text.toList) with
  | none => .error .noBase
  | some (scheme, rest) =>
    if isWebScheme scheme then parseAuthority scheme (rest.dropWhile isSlash)
    else if scheme = "file" then parseFile scheme rest
    else
      match rest with
      | '/' :: '/' :: rest => parseAuthority scheme rest
      | rest => .ok { scheme, query := queryIn rest }

/-! Queries. -/

/-- A name or value of a query; a plus sign is a blank. -/
def decodeField (text : List Char) : String :=
  let spaced := text.map fun c => if c = '+' then ' ' else c
  String.ofList (Text.Utf8.decodeLossy (percentDecode (Text.Utf8.encode spaced)))

/-- The entries of the query in their order. -/
def entries (url : Url) : List (String × String) :=
  ((Ipv6.splitAt '&' url.query).filter (!·.isEmpty)).map fun field =>
    (decodeField (field.takeWhile (· != '=')), decodeField ((field.dropWhile (· != '=')).drop 1))

end Url
end MqttRouting
