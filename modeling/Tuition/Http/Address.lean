/-
# Addresses

A request is sent to an address: a scheme, a host with a port, a path and a query, of which
most can be missing. An address without a scheme and a host is one at the service itself, and
its path starts there whatever slashes it starts with. Points in a path are followed when it
is known where it starts.
-/

import Tuition.Http.Host
import Tuition.Text.Octets
import Tuition.Text.Quoted
import Tuition.Text.WholeNumber

namespace Tuition.Http

/-- Why a text is no address. -/
inductive AddressFault where
  | tooLong
  | partTooLong (part : String)
  | unprintable (c : Char) (place : Nat)
  | wrongPort (port : String)
  | wrongIpv4 (host : String)
  | wrongIpv6 (host : String)
  | doubleSlash
  | leadingColon
  deriving DecidableEq, Repr

/-- How a fault is reported. -/
def AddressFault.message : AddressFault → String
  | .tooLong => "URL too long"
  | .partTooLong part => "URL component '" ++ part ++ "' too long"
  | .unprintable c place =>
    "Invalid non-printable ASCII character in URL, " ++ Text.quoted (String.singleton c) ++
      " at position " ++ Text.digits place ++ "."
  | .wrongPort port => "Invalid port: " ++ Text.quoted port
  | .wrongIpv4 host => "Invalid IPv4 address: " ++ Text.quoted host
  | .wrongIpv6 host => "Invalid IPv6 address: " ++ Text.quoted host
  | .doubleSlash => "Relative URLs cannot have a path starting with '//'"
  | .leadingColon => "Relative URLs cannot have a path starting with ':'"

/-- The longest address and the longest part of one. -/
def addressLimit : Nat := 65536

/-- A path with the text of its query, if there is one. -/
structure Resource where
  path : List Char
  query : Option (List Char)
  deriving DecidableEq, Repr

/-! ## The parts of an address -/

/-- Split a scheme off an address: whether there is one, even an empty one, and the rest. -/
def splitScheme (text : List Char) : List Char × List Char :=
  let belongs (c : Char) : Bool := c.isAlphanum || c == '+' || c == '.' || c == '-'
  let scheme := if text.head?.any Char.isAlpha then text.takeWhile belongs else []
  match text.drop scheme.length with
  | ':' :: rest => (scheme, rest)
  | _ => ([], text)

/-- Split a host with what belongs to it off the rest of an address. -/
def splitAuthority (text : List Char) : List Char × List Char :=
  match text with
  | '/' :: '/' :: rest =>
    let authority := rest.takeWhile fun c => c != '/' && c != '?' && c != '#'
    (authority, rest.drop authority.length)
  | _ => ([], text)

/-- The path and the query at the front of a text. What follows a number sign is not sent. -/
def Resource.ofText (text : List Char) : Resource :=
  let sent := text.takeWhile (· ≠ '#')
  let path := sent.takeWhile (· ≠ '?')
  ⟨path, if (sent.drop path.length).isEmpty then none else some (sent.drop (path.length + 1))⟩

/-- Split what belongs to a host into the text before the last at sign, the host and the port. -/
def splitHost (authority : List Char) : List Char × List Char × List Char :=
  let behindAt := (authority.reverse.takeWhile (· ≠ '@')).reverse
  let user := authority.take (authority.length - behindAt.length - 1)
  let bracketed := (behindAt.reverse.dropWhile (· ≠ ']')).reverse
  let host :=
    if behindAt.head? = some '[' ∧ !bracketed.isEmpty then bracketed
    else behindAt.takeWhile (· ≠ ':')
  let rest := behindAt.drop host.length
  (user, host, if rest.head? = some ':' then rest.drop 1 else rest)

/-- The port of a scheme. -/
def schemePort? (scheme : String) : Option Int :=
  match scheme with
  | "ftp" => some 21
  | "http" => some 80
  | "https" => some 443
  | "ws" => some 80
  | "wss" => some 443
  | _ => none

/-- Whether a port is named that is not the one of the scheme. -/
def namesPort (scheme : String) (port : List Char) : Except AddressFault Bool :=
  if port.isEmpty then .ok false
  else
    match Text.readInteger? (String.ofList port) with
    | some n => .ok (some n != schemePort? scheme)
    | none => .error (.wrongPort (String.ofList port))

/-- Refuse a host that looks like a number and is none. -/
def requireHost (host : List Char) : Except AddressFault Unit :=
  if looksLikeIpv4 host then
    if isIpv4 host then .ok () else .error (.wrongIpv4 (String.ofList host))
  else if looksLikeIpv6 host then
    if isIpv6 (host.drop 1).dropLast then .ok () else .error (.wrongIpv6 (String.ofList host))
  else .ok ()

/-! ## Paths -/

/-- Follow a part of a path: a single point leads nowhere else, and two take back the part before,
though not the start of the path. -/
def followPart (place : List (List Char)) (part : List Char) : List (List Char) :=
  if part = ['.'] then place
  else if part = ['.', '.'] then if place = [[]] then place else place.dropLast
  else place ++ [part]

/-- A path in which the parts of one or two points have been followed. -/
def followPoints (path : List Char) : List Char :=
  ['/'].intercalate ((Text.split (· = '/') path).foldl followPart [])

/-- Whether a character is sent as it is in a query. -/
def isQueryLetter (c : Char) : Bool :=
  ' ' < c && c ≤ '~' && !"\"#<>".toList.contains c

/-- Whether a character is sent as it is in a path. -/
def isPathLetter (c : Char) : Bool :=
  isQueryLetter c && !"?\x60\x7b\x7d".toList.contains c

/-- How many characters a text takes when all but some are sent as percent signs with two
digits for each octet. -/
def sentLength (asIs : Char → Bool) (text : List Char) : Nat :=
  ((Text.lettersOf text).map fun letter =>
    match letter with
    | .char c => if asIs c then 1 else 3 * (Text.codeOctets c.toNat).length
    | .unpaired _ => 9).foldr (· + ·) 0

/-- Refuse a path or a query that is too long when it is sent. -/
def Resource.requireShort (place : Resource) : Except AddressFault Unit :=
  if addressLimit < sentLength isPathLetter place.path then .error (.partTooLong "path")
  else if addressLimit < sentLength isQueryLetter (place.query.getD []) then
    .error (.partTooLong "query")
  else .ok ()

/-- The place at the service that a path and a query without a host lead to. -/
def Resource.atService (place : Resource) : Except AddressFault Resource := do
  let path := place.path.dropWhile (· = '/')
  let rooted : Resource := { place with path := '/' :: path }
  rooted.requireShort
  return { rooted with path := followPoints rooted.path }

/-- The path and the query that an address leads to. -/
def Resource.ofAddress (text : String) : Except AddressFault Resource := do
  let letters := Text.letters text
  if addressLimit < letters.length then throw .tooLong
  let isHidden (c : Char) : Bool := c.toNat < 0x20 || c.toNat == 0x7F
  if let some c := text.toList.find? isHidden then
    throw (.unprintable c (letters.takeWhile (· ≠ .char c)).length)
  let (schemeText, behind) := splitScheme text.toList
  let scheme := (String.ofList schemeText).toLower
  let (authority, rest) := splitAuthority behind
  let (user, host, port) := splitHost authority
  requireHost host
  let hasPort ← namesPort scheme port
  let place := Resource.ofText rest
  if scheme.isEmpty && user.isEmpty && host.isEmpty && !hasPort then
    if ['/', '/'].isPrefixOf place.path then throw .doubleSlash
    if place.path.head? = some ':' then throw .leadingColon
    place.atService
  else
    let followed := { place with path := followPoints place.path }
    if scheme.isEmpty || host.isEmpty then followed.atService
    else if followed.path.isEmpty then return { followed with path := ['/'] }
    else return followed

end Tuition.Http
