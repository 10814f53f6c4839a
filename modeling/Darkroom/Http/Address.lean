import Darkroom.Bytes
import Darkroom.Failure
import Darkroom.Text.Number
/-!
# Addresses

An address names a host behind its scheme, and then a path that ends where a query or a fragment
begins. The path is known only if the host makes sense as far as it is looked at: brackets come in
pairs and hold the address of a host in numbers, and no character stands for one that ends a host.
-/

namespace Darkroom

namespace Http

namespace Address

/-! ## Hosts in numbers -/

/-- A number up to 255 without a zero in front. -/
def isOctet (cs : List Char) : Bool :=
  cs == ['0'] || cs.all Char.isDigit && cs.head?.any (· != '0') && Text.decimal cs ≤ 255

/-- Up to four hexadecimal digits. -/
def isHextet (cs : List Char) : Bool :=
  !cs.isEmpty && cs.length ≤ 4 && cs.all fun c => (Bytes.hexValue? c).isSome

def isVersionFour (cs : List Char) : Bool :=
  let octets := cs.splitOn '.'
  octets.length == 4 && octets.all isOctet

/-- The last part may be an address of version four, which takes the place of two hextets. -/
def inHextets? (parts : List (List Char)) : Option (List (List Char)) :=
  match parts.getLast? with
  | some last =>
    if !last.contains '.' then some parts
    else if isVersionFour last then some (parts.dropLast ++ [['0'], ['0']])
    else none
  | none => none

/-- The number of hextets on one side of a gap. -/
def besideGap? (parts : List (List Char)) : Option Nat :=
  if parts == [[]] then some 0
  else if parts.all isHextet then some parts.length
  else none

/-- Eight hextets, or fewer with a gap between two colons. -/
def areEightHextets : List (List Char) → Bool
  | [] => false
  | first :: others =>
    match others.dropLast.findIdx? List.isEmpty with
    | none => others.length == 7 && (first :: others).all isHextet
    | some gap =>
      match besideGap? (first :: others.take gap), besideGap? (others.drop (gap + 1)) with
      | some before, some behind => before + behind ≤ 7
      | _, _ => false

/-- A zone may follow a percent sign. -/
def isVersionSix (cs : List Char) : Bool :=
  let zoneEnds := match cs.dropWhile (· != '%') with
    | [] => true
    | _ :: zone => !zone.isEmpty && !zone.contains '%'
  zoneEnds && (inHextets? ((cs.takeWhile (· != '%')).splitOn ':')).any areEightHextets

/-- The letter `v`, the version in hexadecimal digits, a full stop and something behind it. -/
def isVersionToCome (cs : List Char) : Bool :=
  let version := (cs.drop 1).takeWhile fun c => (Bytes.hexValue? c).isSome
  match cs.drop (1 + version.length) with
  | '.' :: _ :: _ => !version.isEmpty
  | _ => false

/-! ## Hosts -/

def checkNumbers (cs : List Char) : Except Failure Unit :=
  if cs.head? = some 'v' then
    if isVersionToCome cs then .ok () else .error (.value "IPvFuture address is invalid")
  else if isVersionFour cs then .error (.value "An IPv4 address cannot be in brackets")
  else if isVersionSix cs then .ok ()
  else
    .error (.value s!"{Text.quoted (String.ofList cs)} does not appear to be an IPv4 or IPv6 address")

/-- Only what follows the first bracket is looked at. -/
def checkBrackets (host : List Char) : Except Failure Unit :=
  match host.contains '[', host.contains ']' with
  | false, false => .ok ()
  | true, true => checkNumbers (((host.dropWhile (· != '[')).drop 1).takeWhile (· != ']'))
  | _, _ => .error (.value "Invalid IPv6 URL")

/-- The characters that stand for others among which is one that ends a host or a part of it. -/
def equivocal : List Char :=
  ['\u2047', '\u2048', '\u2049', '\u2100', '\u2101', '\u2105', '\u2106', '\u2a74', '\ufe13', '\ufe16',
    '\ufe55', '\ufe56', '\ufe5f', '\ufe6b', '\uff03', '\uff0f', '\uff1a', '\uff1f', '\uff20']

def checkHost (host : List Char) : Except Failure Unit := do
  checkBrackets host
  if host.any (equivocal.contains ·) then
    throw (.value (s!"netloc '{String.ofList host}' contains invalid characters under NFKC " ++
      "normalization"))

/-! ## Paths -/

/-- Tabulators and ends of lines are dropped wherever they stand. -/
def isDropped (c : Char) : Bool := c == '\t' || c == '\n' || c == '\r'

def endsPath (c : Char) : Bool := c == '?' || c == '#'

def endsHost (c : Char) : Bool := c == '/' || endsPath c

/-- The path of an address, given what stands behind its scheme. -/
def path (address : String) : Except Failure String := do
  let (host, rest) := (address.toList.filter (!isDropped ·)).span (!endsHost ·)
  checkHost host
  return String.ofList (rest.takeWhile (!endsPath ·))

end Address

end Http

end Darkroom
