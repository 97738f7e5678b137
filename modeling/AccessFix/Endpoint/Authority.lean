import AccessFix.Endpoint.Escape
import AccessFix.Text.Base64
import AccessFix.Text.Encoding

/-! The authority of an address: the part after two slashes that names the host, and a user and a password before it. A
host in brackets has to be a numeric address of version 6, or one of a later version. -/
namespace AccessFix

inductive AuthorityFault where
  | brackets
  | notNumeric (host : Letters)
  | numbersInBrackets
  | laterVersion
  | hiddenDelimiter (authority : Letters)
  deriving DecidableEq, Repr

def AuthorityFault.message : AuthorityFault → Letters
  | .brackets => "Invalid IPv6 URL"
  | .notNumeric host => Text.quoted host ++ " does not appear to be an IPv4 or IPv6 address"
  | .numbersInBrackets => "An IPv4 address cannot be in brackets"
  | .laterVersion => "IPvFuture address is invalid"
  | .hiddenDelimiter authority =>
    "netloc '" ++ authority ++ "' contains invalid characters under NFKC normalization"

namespace Authority

open Text (isAsciiDigit)
open Endpoint (isAsciiLetter isHexDigit)

def splitAt? (c : Letter) (cs : Letters) : Letters × Option (Letters) :=
  let before := cs.takeWhile (· ≠ c)
  (before, if before.length < cs.length then some (cs.drop (before.length + 1)) else none)

def splitAtLast? (c : Letter) (cs : Letters) : Option (Letters) × Letters :=
  match splitAt? c cs.reverse with
  | (after, some before) => (some before.reverse, after.reverse)
  | (after, none) => (none, after.reverse)

def isSchemeChar (c : Char) : Bool := isAsciiLetter c || isAsciiDigit c || "+-.".toList.contains c

def afterScheme (cs : Letters) : Letters :=
  match splitAt? ':' cs with
  | (name, some rest) =>
    if name.head?.any (Letter.holds isAsciiLetter) && name.all (Letter.holds isSchemeChar) then rest
    else cs
  | (_, none) => cs

def isDropped (c : Letter) : Bool := c = '\t' || c = '\n' || c = '\r'

def ofAddress (cs : Letters) : Letters :=
  match afterScheme ((cs.dropWhile fun c => c.code ≤ 32).filter fun c => !isDropped c) with
  | '/' :: '/' :: rest => rest.takeWhile fun c => !(letters "/?#").contains c
  | _ => []

def isOctet (cs : Letters) : Bool :=
  cs ≠ [] && cs.length ≤ 3 && cs.all (Letter.holds isAsciiDigit) && (cs = [.char '0'] || cs.head? ≠ some (.char '0'))
    && Text.natOf cs.chars ≤ 255

def isVersion4 (cs : Letters) : Bool :=
  let parts := cs.splitOn (.char '.')
  parts.length = 4 && parts.all isOctet

def isGroup (cs : Letters) : Bool := cs ≠ [] && cs.length ≤ 4 && cs.all (Letter.holds isHexDigit)

def groups? (cs : Letters) : Option (List Letters) :=
  let parts := cs.splitOn (.char ':')
  let last := parts.getLast?.getD []
  if parts.length < 3 then none
  else if last.contains '.' then
    if isVersion4 last then some (parts.dropLast ++ [[.char '0'], [.char '0']]) else none
  else some parts

def areGroups (parts : List Letters) : Bool :=
  let inner := (parts.drop 1).dropLast
  if inner.contains [] then
    let gap := 1 + (inner.takeWhile (· ≠ [])).length
    let before := parts.take gap
    let after := parts.drop (gap + 1)
    let before := if before = [[]] then [] else before
    let after := if after = [[]] then [] else after
    before.all isGroup && after.all isGroup && before.length + after.length ≤ 7 && parts.length ≤ 9
  else parts.length = 8 && parts.all isGroup

def isVersion6 (cs : Letters) : Bool :=
  let (address, zone) := splitAt? '%' cs
  !cs.contains '/' && zone.all (fun z => z ≠ [] && !z.contains (.char '%')) && (groups? address).any areGroups

def isLaterVersion (cs : Letters) : Bool :=
  match splitAt? '.' (cs.drop 1) with
  | (version, some (c :: rest)) => version ≠ [] && version.all (Letter.holds isHexDigit) && (c :: rest).all (· ≠ .char '\n')
  | _ => false

def checkNumericHost (host : Letters) : Except AuthorityFault Unit :=
  if host.head? = some (.char 'v') then if isLaterVersion host then .ok () else .error .laterVersion
  else if isVersion4 host then .error .numbersInBrackets
  else if isVersion6 host then .ok ()
  else .error (.notNumeric host)

def checkBracketed (authority : Letters) : Except AuthorityFault Unit :=
  let hostPort := (splitAtLast? '@' authority).2
  match splitAt? '[' hostPort with
  | (before, some inside) =>
    let (host, after) := splitAt? ']' inside
    if before ≠ [] || (after.getD []).head?.any (· ≠ .char ':') then .error .brackets else checkNumericHost host
  | (_, none) => checkNumericHost (splitAt? ':' hostPort).1

def hidesDelimiter (c : Letter) : Bool :=
  [0x2047, 0x2048, 0x2049, 0x2100, 0x2101, 0x2105, 0x2106, 0x2A74, 0xFE13, 0xFE16, 0xFE55, 0xFE56, 0xFE5F, 0xFE6B,
    0xFF03, 0xFF0F, 0xFF1A, 0xFF1F, 0xFF20].contains c.code

def check (address : Letters) : Except AuthorityFault Unit := do
  let authority := ofAddress address
  if authority.contains '[' != authority.contains ']' then throw .brackets
  if authority.contains '[' then checkBracketed authority
  if authority.any hidesDelimiter then throw (.hiddenDelimiter authority)

def credentials? (address : Letters) : Option (Letters × Letters) := do
  let userPart ← (splitAtLast? '@' (ofAddress address)).1
  let (user, password) := splitAt? ':' userPart
  let user := Endpoint.unescapeText user
  let password := Endpoint.unescapeText (← password)
  if user = [] && password = [] then none else some (user, password)

def basicHeader (user password : Letters) : Except Text.Unencodable String := do
  let user ← Text.Codec.latin.encode user
  let password ← Text.Codec.latin.encode password
  return "Basic " ++ String.ofList (Text.Base64.encode (user ++ 58 :: password))

end Authority

end AccessFix
