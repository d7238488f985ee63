/-
  Where requests go.

  A `Url` is an address made ready for requests.  Its scheme is in lower case.  Its host is empty,
  an address of the fourth or sixth version, or a name in ASCII; a name in other letters is written
  as a domain name.  A port that goes without saying for the scheme is left out.  If there is a
  scheme or an authority, the path is free of dots.  All parts are in percent coding.

  A text that cannot be made ready is refused: one that is too long or holds control characters, one
  whose host or port is none, and one whose path would be taken for something else.

  `below` appends a path.  What comes out is made ready again, part by part, so the path may take
  segments of the base along with its dots.  If the base has a query, the path is appended to that.
-/
import DocStore.DomainName.Ascii
import DocStore.Http.Address
import DocStore.Http.Path
import DocStore.Text.Numeral

namespace DocStore.Http

/-! ## Parts as they are written -/

/-- The parts of an address as they are written. -/
structure UrlParts where
  scheme : List Char
  authority : List Char
  path : List Char
  query : Option (List Char)
  fragment : Option (List Char)
  deriving DecidableEq, Repr, Inhabited

namespace UrlParts

/-- The parts of a text.  A colon in front counts as one behind an empty scheme. -/
def ofText (cs : List Char) : UrlParts :=
  let (scheme, rest) :=
    match cut ':' cs with
    | (before, some behind) =>
      if before.isEmpty || isScheme before then (before, behind) else ([], cs)
    | (_, none) => ([], cs)
  let (authority, rest) := takeAuthority rest
  let (path, query, fragment) := takePath rest
  ⟨scheme, authority, path, query, fragment⟩

/-- The user, the host with its brackets, and the text of the port. -/
def parties (p : UrlParts) : List Char × List Char × List Char :=
  let (user, rest) := cutLast '@' p.authority
  let (host, behind) :=
    match rest with
    | '[' :: inside =>
      match cutLast ']' inside with
      | (some host, behind) => ('[' :: (host ++ [']']), behind)
      | (none, _) => breakAt (· = ':') rest
    | _ => breakAt (· = ':') rest
  (user.getD [], host, if behind.head? = some ':' then behind.tail else behind)

/-- The length of the longest part. -/
def longest (p : UrlParts) : Nat :=
  [p.scheme, p.authority, p.path, p.query.getD [], p.fragment.getD []].foldl
    (fun n part => max n part.length) 0

end UrlParts

/-! ## Hosts and ports -/

/-- Whether a host is four rows of digits with a point between each two.  Such a host is meant as an
    address of the fourth version, and no other is. -/
def isNumeric (host : List Char) : Bool :=
  let rows := Text.splitAt '.' host
  rows.length = 4 && rows.all fun row => !row.isEmpty && row.all Char.isDigit

example : isNumeric "1.2.3.400".toList = true := by decide +kernel
example : isNumeric "1.2.3.4.5".toList = false := by decide +kernel

/-- Whether a host is an address of the fourth version. -/
def isFourthVersion (host : List Char) : Bool :=
  let bytes := Text.splitAt '.' host
  bytes.length = 4 && bytes.all isByteNumber

/-- The host of a `Url`.  Brackets are not part of it. -/
def readHost (host : List Char) : Except Failure (List Char) :=
  if host.isEmpty then .ok []
  else if isNumeric host then if isFourthVersion host then .ok host else .error .badAddress
  else if host.head? = some '[' ∧ host.getLast? = some ']' then
    let inside := host.tail.dropLast
    if isScoped inside then .ok inside else .error .badAddress
  else if host.all fun c => c.toNat < 128 then .ok (encodePart isHostByte (host.map Char.toLower))
  else
    match DomainName.encode (Text.lower host) with
    | .ok name => .ok name
    | .error _ => .error .badAddress

/-- The port that a scheme stands for. -/
def defaultPort? (scheme : List Char) : Option Int :=
  [("ftp".toList, 21), ("http".toList, 80), ("https".toList, 443), ("ws".toList, 80),
    ("wss".toList, 443)].lookup scheme

/-- The port of a `Url`; none if it goes without saying. -/
def readPort (scheme port : List Char) : Except Failure (Option Int) :=
  if port.isEmpty then .ok none
  else
    match Text.readInt? (String.ofList port) with
    | some n => .ok (if some n = defaultPort? scheme then none else some n)
    | none => .error .badAddress

/-! ## Urls -/

/-- Where a request goes. -/
structure Url where
  scheme : List Char
  user : List Char
  host : List Char
  port : Option Int
  path : List Char
  query : Option (List Char)
  fragment : Option (List Char)
  deriving DecidableEq, Repr, Inhabited

namespace Url

/-- The greatest length of an address, and of each part of one that is made ready again. -/
def lengthLimit : Nat := 65536

/-- Whether a character may not stand in an address: the control characters of ASCII. -/
def isControl (c : Char) : Bool := c.toNat < 32 || c.toNat = 127

/-- Whether a path would be taken for something else.  Behind an authority it has to begin with a
    slash; without scheme and authority it must not begin with two slashes or a colon. -/
def isMisleading (hasScheme hasAuthority : Bool) (path : List Char) : Bool :=
  if hasAuthority then !path.isEmpty && path.head? ≠ some '/'
  else !hasScheme && (path.take 2 = ['/', '/'] || path.head? = some ':')

/-- Makes the parts of an address ready. -/
def ofParts (p : UrlParts) : Except Failure Url := do
  let (user, hostText, portText) := p.parties
  let host ← readHost hostText
  let port ← readPort p.scheme portText
  let hasScheme := !p.scheme.isEmpty
  let hasAuthority := !user.isEmpty || !host.isEmpty || port.isSome
  if isMisleading hasScheme hasAuthority p.path then throw .badAddress
  let path := if hasScheme || hasAuthority then normalizePath p.path else p.path
  return ⟨p.scheme.map Char.toLower, encodePart isUserByte user, host, port,
    encodePart isPathByte path, p.query.map (encodePart isQueryByte),
    p.fragment.map (encodePart isFragmentByte)⟩

/-- Makes an address given as text ready. -/
def ofText (cs : List Char) : Except Failure Url :=
  if lengthLimit < cs.length || cs.any isControl then .error .badAddress
  else ofParts (.ofText cs)

/-- The host as it stands in an address, and the port. -/
def place (u : Url) : List Char :=
  Address.bracketed u.host ++
    match u.port with
    | some n => ':' :: (toString n).toList
    | none => []

/-- User, host and port. -/
def authority (u : Url) : List Char :=
  (if u.user.isEmpty then [] else u.user ++ ['@']) ++ u.place

/-- The parts of a `Url`. -/
def parts (u : Url) : UrlParts := ⟨u.scheme, u.authority, u.path, u.query, u.fragment⟩

/-- The whole as text. -/
def text (u : Url) : List Char :=
  (if u.scheme.isEmpty then [] else u.scheme ++ [':']) ++
    (if u.authority.isEmpty then [] else '/' :: '/' :: u.authority) ++ u.path ++
    (u.query.elim [] ('?' :: ·)) ++ (u.fragment.elim [] ('#' :: ·))

/-- Makes parts ready again, after some have been replaced. -/
def again (p : UrlParts) : Except Failure Url :=
  if lengthLimit < p.longest then .error .badAddress else ofParts p

/-- The path and the query, as a request names them.  The path is never empty there. -/
def target (u : Url) : List Char :=
  (if u.path.isEmpty then ['/'] else u.path) ++ u.query.elim [] ('?' :: ·)

/-- A `Url` with another path and query. -/
def withTarget (u : Url) (target : List Char) : Except Failure Url :=
  let (path, query) := cut '?' target
  again { u.parts with path := path, query := query }

/-- A `Url` with another query. -/
def withQuery (u : Url) (query : List Char) : Except Failure Url :=
  again { u.parts with query := some query }

/-- The base of requests: an address whose path and query end in a slash. -/
def base (text : String) : Except Failure Url := do
  let u ← ofText text.toList
  if u.target.getLast? = some '/' then return u else u.withTarget (u.target ++ ['/'])

/-- The `Url` at a path below a base.  The path is read like an address of its own, and the slashes
    in front of it are dropped. -/
def below (base : Url) (path : List Char) : Except Failure Url := do
  let relative ← ofText path
  base.withTarget (base.target ++ relative.target.dropWhile (· = '/'))

/-! ## What the other end is told -/

/-- The path as messages show it. -/
def readablePath (u : Url) : String :=
  String.ofList (percentDecode (if u.path.isEmpty then ['/'] else u.path))

/-- The credentials in an address, if there are any. -/
def credentials? (u : Url) : Option Credentials :=
  let (user, password) := cut ':' u.user
  let password := password.getD []
  if user.isEmpty && password.isEmpty then none
  else some ⟨percentDecode user, percentDecode password⟩

/-- The host as the other end is told it; none if there is no host.  A name in the written form of a
    domain name has to be one, and a zone has to be in ASCII. -/
def hostHeader (u : Url) : Except Failure (Option String) :=
  if u.host.isEmpty then .ok none
  else
    match if DomainName.marker.isPrefixOf u.host then DomainName.decode u.host else .ok [] with
    | .error fault => .error (.domainName fault)
    | .ok _ =>
      if u.place.all fun c => c.toNat < 128 then .ok (some (String.ofList u.place))
      else .error .hostNotAscii

/-- Whether a text begins with something that ends in a colon and holds no slash. -/
def namesScheme (cs : List Char) : Bool :=
  match breakAt (fun c => c = ':' || c = '/') cs with
  | (_ :: _, ':' :: _) => true
  | _ => false

/-- Whether a reply can be taken from here.  Its cookies belong to an address that is read off the
    text once more, not counting a fragment and the word `URL:` in front; so the text has to name a
    scheme, and it must be possible to take it apart. -/
def ownsCookies (u : Url) : Bool :=
  let text := if "URL:".toList.isPrefixOf u.text then u.text.drop 4 else u.text
  let named := match cutLast '#' text with
    | (some before, _) => before
    | (none, _) => text
  namesScheme named && (Address.split (String.ofList text)).toOption.isSome

end Url

end DocStore.Http
