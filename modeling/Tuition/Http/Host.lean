/-
# Names of hosts

A host is named by a word, or by a number in the form of IPv4 or of IPv6. A name that looks like
such a number has to be one.
-/

import Tuition.Json.Reader
import Tuition.Text.Split

namespace Tuition.Http

/-- Whether a name looks like a number of IPv4: four numbers, between each two of which stands one
character. -/
def looksLikeIpv4 (host : List Char) : Bool :=
  let runs := Text.split (!Char.isDigit ·) host
  let hidden := (runs.map fun run => (run.length - 1) / 2).foldr (· + ·) 0
  runs.all (!·.isEmpty) && runs.length ≤ 4 && 4 ≤ runs.length + hidden

/-- Whether a text is a number of one octet, without zeros before it. -/
def isOctet (text : List Char) : Bool :=
  text.length ≤ 3 && (text.head? != some '0' || text.length == 1) &&
    (Text.asciiNumeral? text).any (· ≤ 255)

/-- Whether a name is a number of IPv4. -/
def isIpv4 (host : List Char) : Bool :=
  let parts := Text.split (· = '.') host
  parts.length == 4 && parts.all isOctet

/-- Whether a name looks like a number of IPv6, which stands in brackets. -/
def looksLikeIpv6 (host : List Char) : Bool :=
  2 ≤ host.length && host.head? == some '[' && host.getLast? == some ']'

/-- Whether a text is one of the numbers of two octets that make up a number of IPv6. -/
def isGroup (text : List Char) : Bool :=
  !text.isEmpty && text.length ≤ 4 && text.all fun c => (Json.hexDigit? c).isSome

/-- The groups of a number of IPv6; a number of IPv4 at its end stands for two of them. -/
def groupsOf (text : List Char) : List (List Char) :=
  let parts := Text.split (· = ':') text
  match parts.getLast? with
  | some last => if isIpv4 last then parts.dropLast ++ [['0'], ['0']] else parts
  | none => parts

/-- Whether groups are those of a number of IPv6: eight, or fewer around one gap. At an end of the
number the gap takes up two places. -/
def areGroups (parts : List (List Char)) : Bool :=
  let inner := (parts.drop 1).dropLast
  if 3 ≤ parts.length && parts.length ≤ 9 && (inner.filter List.isEmpty).length == 1 then
    let before := parts.takeWhile (!·.isEmpty)
    let skipped := if parts.head? == some [] then 1 else before.length
    let first := parts.take skipped
    let last := parts.drop (skipped + 1)
    let kept := (if first == [[]] then [] else first) ++ (if last == [[]] then [] else last)
    kept.all isGroup && kept.length < 8
  else parts.length == 8 && parts.all isGroup

/-- Whether a text is a number of IPv6, which a percent sign and the name of a zone may follow. -/
def isIpv6 (text : List Char) : Bool :=
  let number := text.takeWhile (· ≠ '%')
  let zone := text.drop number.length
  areGroups (groupsOf number) &&
    (zone.isEmpty || (zone.length ≥ 2 && !(zone.drop 1).contains '%'))

end Tuition.Http
