/-
Absolute web addresses.

An address names its scheme first. The schemes of the web need a host, that of files may have one,
and all others take whatever follows as it is, unless two slashes announce a host. Only hosts,
ports and what comes before them can be wrong: every path, query and fragment is fine.
-/
import TripCards.Address.Domain

namespace TripCards
namespace Address

inductive Scheme where
  | web
  | file
  | other
deriving DecidableEq, Repr

def Scheme.ofName (name : List Char) : Scheme :=
  match String.ofList name with
  | "http" | "https" | "ws" | "wss" | "ftp" => web
  | "file" => file
  | _ => other

def isIgnoredAtEnds (c : Char) : Bool :=
  c.toNat ≤ 0x20

/-- Tabs and line ends are ignored wherever they stand. -/
def isIgnored (c : Char) : Bool :=
  c == '\t' || c == '\n' || c == '\r'

def cleaned (text : List Char) : List Char :=
  let text := text.dropWhile isIgnoredAtEnds
  let text := (text.reverse.dropWhile isIgnoredAtEnds).reverse
  text.filter (!isIgnored ·)

def isSchemeChar (c : Char) : Bool :=
  c.isAlphanum || c == '+' || c == '-' || c == '.'

/-- The scheme in small letters, and what follows its colon. -/
def splitScheme? (text : List Char) : Option (List Char × List Char) :=
  match text with
  | [] => none
  | c :: _ =>
    if !c.isAlpha then none
    else
      match text.dropWhile isSchemeChar with
      | ':' :: rest => some ((text.takeWhile isSchemeChar).map Char.toLower, rest)
      | _ => none

def isSlash (c : Char) : Bool :=
  c == '/' || c == '\\'

/-- The characters that end what comes before the path. -/
def endsAuthority (scheme : Scheme) (c : Char) : Bool :=
  c == '/' || c == '?' || c == '#' || (c == '\\' && scheme != .other)

/-- What stands before and behind the last `@`. -/
def splitUser (authority : List Char) : Option (List Char) × List Char :=
  if authority.contains '@' then
    let host := (authority.reverse.takeWhile (· != '@')).reverse
    (some (authority.take (authority.length - host.length - 1)), host)
  else (none, authority)

/-- The host, and what follows the colon behind it. A colon between brackets is not that colon. -/
def splitPort (bracketed : Bool) : List Char → List Char × Option (List Char)
  | [] => ([], none)
  | c :: s =>
    if c = ':' ∧ !bracketed then ([], some s)
    else
      let bracketed := if c = '[' then true else if c = ']' then false else bracketed
      let (host, port) := splitPort bracketed s
      (c :: host, port)

def isPort (text : List Char) : Bool :=
  let digits := text.takeWhile (· != '\\')
  digits.all Char.isDigit && (Text.number? 10 digits).any (· < 65536)

/-- The host of a scheme that is not known to need one: any text without these characters. -/
def isOpaqueHost (text : List Char) : Bool :=
  match text with
  | '[' :: s => s.getLast? == some ']' && Ipv6.isValid s.dropLast
  | _ =>
    !text.any fun c => ['\x00', '\t', '\n', '\r', ' ', '#', '/', ':', '<', '>', '?', '@', '[', '\\',
      ']', '^', '|'].contains c

/-- Whether what follows the slashes begins with a valid host, with a user before it and a port
behind it where those are given. A user and a port need a host that is not empty. -/
def hasValidAuthority (scheme : Scheme) (text : List Char) : Bool :=
  let authority := text.takeWhile (!endsAuthority scheme ·)
  let more := text.dropWhile (!endsAuthority scheme ·)
  let (user, hostAndPort) := splitUser authority
  let (host, port) := splitPort false hostAndPort
  let namesUser := match user with
    | none => false
    | some [] => hostAndPort.isEmpty && !more.isEmpty
    | some user => user != [':']
  let validHost := if scheme == .web then !host.isEmpty && isHost host else isOpaqueHost host
  validHost && port.all isPort && !(host.isEmpty && (namesUser || port.isSome))

/-- A drive letter is the beginning of a path. -/
def isDriveLetter (text : List Char) : Bool :=
  match text with
  | [c, d] => c.isAlpha && (d == ':' || d == '|')
  | _ => false

def isValidFile (text : List Char) : Bool :=
  match text with
  | a :: b :: rest =>
    if isSlash a && isSlash b then
      let host := rest.takeWhile (!endsAuthority .file ·)
      host.isEmpty || isDriveLetter host || isHost host
    else true
  | _ => true

def isValidText (text : List Char) : Bool :=
  match splitScheme? (cleaned text) with
  | none => false
  | some (name, rest) =>
    match Scheme.ofName name with
    | .web => hasValidAuthority .web (rest.dropWhile isSlash)
    | .file => isValidFile rest
    | .other =>
      match rest with
      | '/' :: '/' :: text => hasValidAuthority .other text
      | _ => true

def isValid (text : String) : Bool :=
  isValidText text.toList

end Address
end TripCards
