import AccessFix.Endpoint.Authority
import AccessFix.Host.Label

/-! The address that a request goes to: the one that was set, with scheme and host in lower case, dot segments of its path
followed, and everything that may not stand in an address escaped octet by octet. Hosts are names, or numeric addresses of
version 6 in brackets. -/
namespace AccessFix

inductive EndpointFault where
  | noScheme (address : Letters)
  | noHost (address : Letters)
  | unreadable (address : Letters)
  | badLabel
  | unencodable (fault : Text.Unencodable)
  | noTransport (address : Letters)
  deriving DecidableEq, Repr

def EndpointFault.kind : EndpointFault → String
  | .noScheme _ => "MissingSchema"
  | .noTransport _ => "InvalidSchema"
  | _ => "InvalidURL"

def EndpointFault.message : EndpointFault → Letters
  | .noScheme s =>
    "Invalid URL " ++ Text.quoted s ++ ": No scheme supplied. Perhaps you meant https://" ++ s ++ "?"
  | .noHost s => "Invalid URL " ++ Text.quoted s ++ ": No host supplied"
  | .unreadable s => "Failed to parse: " ++ s
  | .badLabel => "URL has an invalid label."
  | .unencodable f => Text.Codec.utf8.message f
  | .noTransport s => "No connection adapters were found for " ++ Text.quoted s

namespace Endpoint

open Letter (char)
open Text (isAsciiDigit)

def followSegments (segments : List Letters) : List Letters :=
  segments.foldl (fun out s => if s = [char '.'] then out else if s = [char '.', char '.'] then out.dropLast else out ++ [s]) []

def endsWith (cs ending : Letters) : Bool := ending.reverse.isPrefixOf cs.reverse

def removeDots (path : Letters) : Letters :=
  let out := followSegments (path.splitOn (char '/'))
  let out := if path.head? = some (char '/') && (out.isEmpty || out.head? ≠ some []) then [] :: out else out
  let out := if endsWith path (letters "/.") || endsWith path (letters "/..") then out ++ [([] : Letters)] else out
  List.intercalate [char '/'] out

def isPlainSchemeChar (c : Char) : Bool := isAsciiLetter c || isAsciiDigit c

def splitScheme (withDots : Bool) (cs : Letters) : Option (Letters × Letters) :=
  let name := cs.takeWhile fun c : Letter => c.holds isPlainSchemeChar || c = '+' || c = '-' || (withDots && c = '.')
  match cs.drop name.length with
  | ':' :: rest => if name.head?.any (Letter.holds isAsciiLetter) then some (name, rest) else none
  | _ => none

structure Parts where
  scheme : Option (Letters)
  authority : Option (Letters)
  path : Letters
  query : Letters
  fragment : Letters
  deriving Repr

def splitParts (cs : Letters) : Parts :=
  let (scheme, rest) := match splitScheme true cs with
    | some (name, rest) => (some (lower name), rest)
    | none => (none, cs)
  let (authority, rest) := match rest with
    | '/' :: '/' :: r =>
      let a := r.takeWhile fun c => !(letters "\\/?#").contains c
      (some a, r.drop a.length)
    | r => (none, r)
  let path := rest.takeWhile fun c : Letter => c ≠ '?' && c ≠ '#'
  let rest := rest.drop path.length
  let (query, rest) := match rest with
    | '?' :: r => (r.takeWhile (· ≠ char '#'), r.dropWhile (· ≠ char '#'))
    | r => ([], r)
  ⟨scheme, authority, path, query, rest.drop 1⟩

def readPort (cs : Letters) : Option (Option Nat) :=
  if cs.isEmpty then some none
  else if !cs.all (Letter.holds isAsciiDigit) then none
  else
    let ds := cs.dropWhile (· = char '0')
    let n := Text.natOf (Letters.chars ds)
    if 5 < ds.length ∨ 65535 < n then none else some (some n)

def isHostName : Letters → Bool
  | '%' :: a :: b :: rest => a.holds isHexDigit && b.holds isHexDigit && isHostName rest
  | c :: rest => !(letters "[]%:/?#").contains c && isHostName rest
  | [] => true

def isDottedQuad (cs : Letters) : Bool :=
  let parts := cs.splitOn (char '.')
  parts.length = 4 && parts.all fun p => 1 ≤ p.length && p.length ≤ 3 && p.all (Letter.holds isAsciiDigit)

def countGroups (quadAtEnd : Bool) (cs : Letters) : Option Nat :=
  if cs.isEmpty then some 0
  else
    let parts := cs.splitOn (char ':')
    let isGroup (p : Letters) : Bool := 1 ≤ p.length && p.length ≤ 4 && p.all (Letter.holds isHexDigit)
    match parts.getLast? with
    | some last =>
      if quadAtEnd && isDottedQuad last && parts.dropLast.all isGroup then some (parts.length + 1)
      else if parts.all isGroup then some parts.length
      else none
    | none => some 0

def splitGap : Letters → Letters → Option (Letters × Letters)
  | seen, ':' :: ':' :: rest => some (seen.reverse, rest)
  | seen, c :: rest => splitGap (c :: seen) rest
  | _, [] => none

def isNumericHost (cs : Letters) : Bool :=
  match splitGap [] cs with
  | some (before, after) =>
    match countGroups false before, countGroups true after with
    | some m, some n => m + n ≤ 7
    | _, _ => false
  | none => countGroups true cs = some 8

def isZone (cs : Letters) : Bool :=
  let rec allFit : Letters → Bool
    | '%' :: a :: b :: rest => a.holds isHexDigit && b.holds isHexDigit && allFit rest
    | c :: rest => c.holds isUnreserved && allFit rest
    | [] => true
  match cs with
  | '%' :: c :: rest => allFit (c :: rest)
  | _ => false

def isBracketedHost (cs : Letters) : Bool :=
  let inside := (cs.drop 1).dropLast
  let address := inside.takeWhile (· ≠ char '%')
  let zone := inside.drop address.length
  cs.head? = some (char '[') && isNumericHost address && (zone.isEmpty || isZone zone)

def dropFinalBreak (cs : Letters) : Letters := if cs.getLast? = some (char '\n') then cs.dropLast else cs

def readHostPort (cs : Letters) : Option (Letters × Option Nat) := do
  let bracketed : Bool := cs.head? = some (char '[')
  let host := if bracketed then cs.takeWhile (· ≠ char ']') ++ [char ']'] else cs.takeWhile (· ≠ char ':')
  if !(if bracketed then isBracketedHost host else isHostName host) || !host.isPrefixOf cs then none
  let port ← match dropFinalBreak (cs.drop host.length) with
    | [] => some none
    | ':' :: ds => readPort ds
    | _ => none
  return (host, port)

def splitUser (authority : Letters) : Option Letters × Letters :=
  let hostPort := (authority.reverse.takeWhile (· ≠ char '@')).reverse
  if hostPort.length = authority.length then (none, authority)
  else
    let user := authority.take (authority.length - hostPort.length - 1)
    (if user.isEmpty then none else some user, hostPort)

def normalZone (zone : Letters) : Letters :=
  let escaped : Bool := (letters "%25").isPrefixOf zone && zone.length ≠ 3
  '%' :: escape isUnreserved (zone.drop (if escaped then 3 else 1))

def nameBy? (ascii? : List Char → Option (List Char)) (host : Letters) : Option Letters :=
  (host.chars?.bind ascii?).map .ofChars

def webHost? (host : Letters) : Option Letters :=
  if isBracketedHost host then
    let address := host.takeWhile (· ≠ char '%')
    let zone := (host.drop address.length).dropLast
    some (if zone.isEmpty then lower host else lower address ++ normalZone zone ++ [char ']'])
  else nameBy? Host.webName? host

def isWebScheme (scheme : Option Letters) : Bool := scheme.all fun s => s = letters "http" || s = letters "https"

def assemble (scheme : Letters) (web : Bool) (user : Option Letters) (host : Letters) (port : Option Nat)
    (parts : Parts) : Letters :=
  let norm (allowed : Char → Bool) (cs : Letters) : Letters := if web then escape allowed cs else cs
  let user : Letters := match user with
    | some u => norm isUserChar u ++ [char '@']
    | none => []
  let port : Letters := match port with
    | some n => if n = 0 then [] else ":" ++ toString n
    | none => []
  let path := norm isPathChar (if web then removeDots parts.path else parts.path)
  let path := if path.head? = some (char '/') then path else '/' :: path
  let query := norm isQueryChar parts.query
  let fragment := norm isQueryChar parts.fragment
  scheme ++ "://" ++ user ++ host ++ port ++ path
    ++ (if query.isEmpty then [] else char '?' :: query) ++ (if fragment.isEmpty then [] else char '#' :: fragment)

def finished (whole : Letters) : Except EndpointFault Letters :=
  let opened := unescape? whole
  let keep (c : Char) : Bool := isAddressChar c && (opened.isSome || c ≠ '%')
  let cs := opened.getD whole
  match Text.Codec.utf8.refusal? cs with
  | some fault => .error (.unencodable fault)
  | none => .ok (cs.flatMap fun c => if c.holds keep then [c] else escapeLetter c)

def prepareWeb (address : Letters) : Except EndpointFault Letters := do
  let rooted := if address.head? = some (char '/') || (splitScheme false address).isSome then address
    else '/' :: '/' :: address
  let parts := splitParts rooted
  let web := isWebScheme parts.scheme
  let (user, host, port) ← match parts.authority with
    | none | some [] => pure (none, [], none)
    | some authority =>
      let (user, hostPort) := splitUser authority
      match readHostPort hostPort with
      | some (host, port) => pure (user, host, port)
      | none => throw (.unreadable address)
  let host ← match if web then webHost? host else some host with
    | some host => pure host
    | none => throw (.unreadable address)
  match parts.scheme with
  | none => throw (.noScheme address)
  | some scheme =>
    if host.isEmpty then throw (.noHost address)
    let host ← match if host.all (Letter.holds Host.isAscii) then some host else nameBy? Host.asciiName? host with
      | some host => pure host
      | none => throw .badLabel
    if host.head? = some (char '*') || host.head? = some (char '.') then throw .badLabel
    finished (assemble scheme web user host port parts)

def startsLikeWeb (cs : Letters) : Bool := (letters "http").isPrefixOf (lower cs)

def prepare (endpoint : Letters) : Except EndpointFault Letters :=
  let cs := Text.trimLeft endpoint
  if cs.contains ':' && !startsLikeWeb cs then .ok cs
  else if cs.isEmpty then .error (.noScheme "")
  else prepareWeb cs

def isReachable (address : Letters) : Bool :=
  let cs := lower address
  (letters "http://").isPrefixOf cs || (letters "https://").isPrefixOf cs

end Endpoint

end AccessFix
