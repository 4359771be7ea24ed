import StyleBuild.Url.Percent
import StyleBuild.Url.Host
import StyleBuild.Value.Literal

/-!
# Splitting a URL

A reference is split into scheme, authority and path. White space and controls in front are dropped, and
tabs and line ends everywhere. Query and fragment are cut off, and for schemes that know them the
parameters of the last path segment too.
-/

set_option autoImplicit false

namespace StyleBuild

/-- The parts of a URL that resolution looks at. -/
structure Url where
  scheme : List Char
  path : List Char
  deriving DecidableEq, Repr

namespace Url

open Text (cutAt afterLast)

inductive Malformed where
  /-- Brackets in the authority that do not enclose a whole host. -/
  | brackets
  | notAddress (host : String)
  | dotted
  | version
  /-- A character in the authority that normalises to a delimiter. -/
  | delimiter (authority : String)
  deriving DecidableEq, Repr

def Malformed.message : Malformed → String
  | .brackets => "Invalid IPv6 URL"
  | .notAddress host => Literal.ofText host ++ " does not appear to be an IPv4 or IPv6 address"
  | .dotted => "An IPv4 address cannot be in brackets"
  | .version => "IPvFuture address is invalid"
  | .delimiter authority =>
    "netloc '" ++ authority ++ "' contains invalid characters under NFKC normalization"

/-- Characters outside ASCII whose compatibility form holds one of `/ ? # @ :`. -/
def delimiterForms : List Nat :=
  [0x2047, 0x2048, 0x2049, 0x2100, 0x2101, 0x2105, 0x2106, 0x2a74, 0xfe13, 0xfe16, 0xfe55, 0xfe56,
   0xfe5f, 0xfe6b, 0xff03, 0xff0f, 0xff1a, 0xff1f, 0xff20]

def isSchemeChar (c : Char) : Bool := c.isAlphanum || c == '+' || c == '-' || c == '.'

/-- A reference without leading blanks and controls, and without tabs and line ends. -/
def clean (cs : List Char) : List Char :=
  (cs.dropWhile fun c => c.toNat ≤ 0x20).filter fun c => c != '\t' && c != '\r' && c != '\n'

/-- The scheme in small letters and what follows its colon; no scheme leaves the text whole. -/
def splitScheme (cs : List Char) : List Char × List Char :=
  match cutAt ':' cs with
  | some (s, rest) =>
    match s with
    | c :: _ => if c.isAlpha && s.all isSchemeChar then (s.map Char.toLower, rest) else ([], cs)
    | [] => ([], cs)
  | none => ([], cs)

/-- The authority after two slashes and the rest; without them there is none. -/
def splitAuthority : List Char → List Char × List Char
  | '/' :: '/' :: rest =>
    let inside := fun c => c != '/' && c != '?' && c != '#'
    (rest.takeWhile inside, rest.dropWhile inside)
  | cs => ([], cs)

def checkBrackets (authority : List Char) : Except Malformed Unit :=
  match authority.contains '[', authority.contains ']' with
  | false, false => .ok ()
  | true, true =>
    let site := afterLast '@' authority
    let check (host : List Char) : Except Malformed Unit :=
      if host.head? == some 'v' then
        if isVersioned host then .ok () else .error .version
      else if isIpv4 host then .error .dotted
      else if isIpv6 host then .ok ()
      else .error (.notAddress (String.ofList host))
    match cutAt '[' site with
    | some (before, inner) =>
      if !before.isEmpty then .error .brackets
      else
        let (host, port) := (cutAt ']' inner).getD (inner, [])
        if !port.isEmpty && port.head? != some ':' then .error .brackets else check host
    | none => check (site.takeWhile (· != ':'))
  | _, _ => .error .brackets

def checkDelimiters (authority : List Char) : Except Malformed Unit :=
  if authority.any fun c => delimiterForms.contains c.toNat then
    .error (.delimiter (String.ofList authority))
  else .ok ()

/-- Schemes whose last path segment may carry parameters. -/
def withParameters : List String :=
  ["", "ftp", "hdl", "prospero", "http", "imap", "https", "shttp", "rtsp", "rtspu", "sip", "sips",
   "mms", "sftp", "tel"]

def dropParameters (cs : List Char) : List Char :=
  let last := afterLast '/' cs
  cs.take (cs.length - last.length) ++ last.takeWhile (· != ';')

def split (s : String) : Except Malformed Url := do
  let (scheme, rest) := splitScheme (clean s.toList)
  let (authority, rest) := splitAuthority rest
  checkBrackets authority
  let path := (rest.takeWhile (· != '#')).takeWhile (· != '?')
  checkDelimiters authority
  pure ⟨scheme, if withParameters.contains (String.ofList scheme) then dropParameters path else path⟩

end Url

end StyleBuild
