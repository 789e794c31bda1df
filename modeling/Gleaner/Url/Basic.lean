import Gleaner.Text.Lower
import Gleaner.Text.Quoted
import Gleaner.Text.Ranges
import Gleaner.Url.Address

/-!
Addresses of pages: taken apart into scheme, authority, path, parameters, query and fragment, and
put together again.
-/

namespace Gleaner

structure Url where
  scheme : List Char
  authority : List Char
  path : List Char
  params : List Char
  query : List Char
  fragment : List Char
  deriving DecidableEq, Inhabited

namespace Url

inductive Fault where
  /-- A bracket without its partner in the authority. -/
  | brackets
  /-- What stands in brackets is no numeric address. -/
  | notAddress (host : String)
  /-- Brackets are not for an address of four octets. -/
  | shortAddress
  | futureAddress
  /-- A character that is a delimiter in another form. -/
  | disguised (authority : String)
  /-- A named value that has no octets to escape. -/
  | stray (s : Text.Stray)
  deriving DecidableEq

def Fault.message : Fault → String
  | brackets => "Invalid IPv6 URL"
  | notAddress host => s!"{Text.quoted host} does not appear to be an IPv4 or IPv6 address"
  | shortAddress => "An IPv4 address cannot be in brackets"
  | futureAddress => "IPvFuture address is invalid"
  | disguised authority =>
    s!"netloc '{authority}' contains invalid characters under NFKC normalization"
  | stray s => s.message

/-- Schemes whose addresses have an authority. -/
def withAuthority : List String := ["ftp", "http", "gopher", "nntp", "telnet", "imap", "wais",
  "file", "mms", "https", "shttp", "snews", "prospero", "rtsp", "rtsps", "rtspu", "rsync", "svn",
  "svn+ssh", "sftp", "nfs", "git", "git+ssh", "ws", "wss"]

/-- Schemes whose paths end in parameters after a semicolon. -/
def withParams : List String := ["", "ftp", "hdl", "prospero", "http", "imap", "https", "shttp",
  "rtsp", "rtsps", "rtspu", "sip", "sips", "mms", "sftp", "tel"]

def isSchemeChar (c : Char) : Bool := c.isAlphanum || c = '+' || c = '-' || c = '.'

/-- Characters whose compatibility form holds one of the delimiters of an authority. -/
def disguises : List (Nat × Nat) := [(0x2047, 0x2049), (0x2100, 0x2101), (0x2105, 0x2106),
  (0x2A74, 0x2A74), (0xFE13, 0xFE13), (0xFE16, 0xFE16), (0xFE55, 0xFE56), (0xFE5F, 0xFE5F),
  (0xFE6B, 0xFE6B), (0xFF03, 0xFF03), (0xFF0F, 0xFF0F), (0xFF1A, 0xFF1A), (0xFF1F, 0xFF20)]

/-- What is left of a text for reading: leading control characters and blanks are dropped, line
breaks and tabs everywhere. -/
def clean (cs : List Char) : List Char :=
  (cs.dropWhile fun c => c.toNat ≤ 32).filter fun c => c ≠ '\t' && c ≠ '\r' && c ≠ '\n'

/-- The scheme, and what follows its colon. -/
def cutScheme (cs : List Char) : List Char × List Char :=
  match Text.cutAt? ':' cs with
  | some (scheme, rest) =>
    if (scheme.head?.map Char.isAlpha).getD false && scheme.all isSchemeChar then
      (scheme.map Char.toLower, rest)
    else ([], cs)
  | none => ([], cs)

/-- What stands before and after the first occurrence of a character, if there is one. -/
def cutOff (c : Char) (cs : List Char) : List Char × List Char := (Text.cutAt? c cs).getD (cs, [])

def isDelimiter (c : Char) : Bool := c = '/' || c = '?' || c = '#'

/-- The authority after two slashes, and what follows it. -/
def cutAuthority : List Char → List Char × List Char
  | '/' :: '/' :: cs => (cs.takeWhile (!isDelimiter ·), cs.dropWhile (!isDelimiter ·))
  | cs => ([], cs)

/-- The path without its parameters, which follow the first semicolon of the last segment. -/
def cutParams (cs : List Char) : List Char × List Char :=
  match Text.cutAtLast? '/' cs with
  | some (before, last) => match Text.cutAt? ';' last with
    | some (segment, params) => (before ++ '/' :: segment, params)
    | none => (cs, [])
  | none => cutOff ';' cs

/-- The text in the first brackets. -/
def bracketed (authority : List Char) : List Char :=
  (cutOff ']' ((Text.cutAt? '[' authority).map (·.2) |>.getD [])).1

/-- What is wrong with an authority. -/
def authorityFault? (authority : List Char) : Option Fault :=
  let left := authority.contains '['
  let right := authority.contains ']'
  if left != right then some .brackets
  else if left then
    let host := bracketed authority
    if host.head? = some 'v' then if isFuture host then none else some .futureAddress
    else if isV4 host then some .shortAddress
    else if isV6 host then none
    else some (.notAddress (String.ofList host))
  else none

def disguiseFault? (authority : List Char) : Option Fault :=
  if authority.any (Text.inRanges disguises) then some (.disguised (String.ofList authority))
  else none

/-- Takes an address apart. -/
def parse (s : String) : Except Fault Url :=
  let (scheme, rest) := cutScheme (clean s.toList)
  let (authority, rest) := cutAuthority rest
  let (rest, fragment) := cutOff '#' rest
  let (path, query) := cutOff '?' rest
  match (authorityFault? authority).orElse fun _ => disguiseFault? authority with
  | some f => .error f
  | none =>
    let (path, params) :=
      if withParams.contains (String.ofList scheme) then cutParams path else (path, [])
    .ok { scheme, authority, path, params, query, fragment }

/-- A part after its mark, unless it is empty. -/
def marked (mark : Char) (cs : List Char) : List Char := if cs.isEmpty then [] else mark :: cs

/-- Puts an address together. -/
def renderChars (u : Url) : List Char :=
  let path := u.path ++ marked ';' u.params
  let path :=
    if !u.authority.isEmpty || withAuthority.contains (String.ofList u.scheme) ||
        path.take 2 = ['/', '/'] then
      '/' :: '/' :: u.authority ++
        (if path.isEmpty || path.head? = some '/' then path else '/' :: path)
    else path
  (if u.scheme.isEmpty then path else u.scheme ++ ':' :: path) ++ marked '?' u.query ++
    marked '#' u.fragment

def render (u : Url) : String := String.ofList u.renderChars

/-- The name of the host, in small letters up to the name of a zone. -/
def host (u : Url) : String :=
  let info := match Text.cutAtLast? '@' u.authority with
    | some (_, info) => info
    | none => u.authority
  let name := match Text.cutAt? '[' info with
    | some (_, inner) => (cutOff ']' inner).1
    | none => (cutOff ':' info).1
  match Text.cutAt? '%' name with
  | some (n, zone) => Text.lower (String.ofList n) ++ "%" ++ String.ofList zone
  | none => Text.lower (String.ofList name)

/-- The host that an address belongs to, without a leading `www.`. -/
def domain (u : Url) : String :=
  match Text.after? "www.".toList u.host.toList with
  | some rest => String.ofList rest
  | none => u.host

end Url

end Gleaner
