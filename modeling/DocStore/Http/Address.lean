/-
  Addresses of servers, and the credentials in them.

  An address is a scheme, an authority, a path, a query and a fragment, each of which may be absent.
  The authority names a host and possibly a port, and before the last `@` there may be a user with a
  password.  `split` takes a text apart; it fails only when square brackets do not enclose an
  address of the sixth or a later version of the protocol that is the whole host, or when a
  character in the authority could be taken for a delimiter that it is not.

  `separate` moves the credentials out of an address.  Without a user there is nothing to move and
  the text stays as it is; with one, the address is put together again from the host in lower case
  and the port.  Slashes at the end are dropped in both cases.
-/
import DocStore.Http.Base64
import DocStore.Http.Percent
import DocStore.Failure
import DocStore.Text.Blank
import DocStore.Text.Lowercase
import DocStore.Text.Split

namespace DocStore.Http

/-! ## Splitting -/

/-- Splits at the first character that satisfies `p`: what is before it, and what is from it on. -/
def breakAt (p : Char → Bool) (cs : List Char) : List Char × List Char :=
  (cs.takeWhile fun c => !p c, cs.dropWhile fun c => !p c)

/-- Splits at the first occurrence of a character: what is before it, and what is behind it if it
    occurs. -/
def cut (sep : Char) (cs : List Char) : List Char × Option (List Char) :=
  match breakAt (· = sep) cs with
  | (before, _ :: behind) => (before, some behind)
  | (before, []) => (before, none)

/-- Splits at the last occurrence of a character: what is before it if it occurs, and what is behind
    it. -/
def cutLast (sep : Char) (cs : List Char) : Option (List Char) × List Char :=
  match cut sep cs.reverse with
  | (behind, some before) => (some before.reverse, behind.reverse)
  | (behind, none) => (none, behind.reverse)

/-- An address taken apart.  Scheme, query and fragment are empty when they are absent. -/
structure Address where
  scheme : List Char
  authority : List Char
  path : List Char
  query : List Char
  fragment : List Char
  deriving DecidableEq, Repr, Inhabited

/-- Whether a row of characters can be a scheme. -/
def isScheme : List Char → Bool
  | [] => false
  | c :: rest =>
    c.isAlpha && rest.all fun d => d.isAlphanum || d = '+' || d = '-' || d = '.'

/-- Whether a row of characters is a group of an address of the sixth version. -/
def isHexGroup (cs : List Char) : Bool :=
  !cs.isEmpty && cs.length ≤ 4 && cs.all fun c => (Json.hexValue? c).isSome

/-- Whether a row of characters is a part of an address of the fourth version. -/
def isByteNumber (cs : List Char) : Bool :=
  !cs.isEmpty && cs.length ≤ 3 && cs.all Char.isDigit && (cs.length = 1 || cs.head? ≠ some '0') &&
    (Nat.ofDigitChars 10 cs 0) ≤ 255

/-- The number of groups that a row of parts makes, the last of which may be four byte numbers. -/
def groupCount? : List (List Char) → Option Nat
  | [] => some 0
  | [last] =>
    if isHexGroup last then some 1
    else
      let bytes := Text.splitAt '.' last
      if bytes.length = 4 ∧ bytes.all isByteNumber then some 2 else none
  | g :: rest => if isHexGroup g then (groupCount? rest).map (· + 1) else none

/-- Splits at a double colon, if there is one. -/
def splitGap : List Char → Option (List Char × List Char)
  | ':' :: ':' :: rest => some ([], rest)
  | c :: rest => (splitGap rest).map fun (before, behind) => (c :: before, behind)
  | [] => none

/-- The number of groups before a double colon. -/
def countBefore? (cs : List Char) : Option Nat :=
  if cs.isEmpty then some 0
  else if (Text.splitAt ':' cs).all isHexGroup then some (Text.splitAt ':' cs).length
  else none

/-- The number of groups behind a double colon. -/
def countBehind? (cs : List Char) : Option Nat :=
  if cs.isEmpty then some 0 else groupCount? (Text.splitAt ':' cs)

/-- Whether a row of characters is an address of the sixth version without a zone: eight groups, or
    fewer and one double colon for those left out. -/
def isSixthVersion (cs : List Char) : Bool :=
  match splitGap cs with
  | none => groupCount? (Text.splitAt ':' cs) = some 8
  | some (before, behind) =>
    match countBefore? before, countBehind? behind with
    | some m, some n => m + n ≤ 7 && !(behind.take 1 = [':'])
    | _, _ => false

/-- Whether a row of characters is an address of the sixth version, with a zone or without. -/
def isScoped (cs : List Char) : Bool :=
  match cut '%' cs with
  | (host, none) => isSixthVersion host
  | (host, some zone) => isSixthVersion host && !zone.isEmpty && !zone.contains '%'

/-- Whether a row of characters is an address of a later version: the letter `v`, the version, a
    point, and anything. -/
def isLaterVersion : List Char → Bool
  | 'v' :: rest =>
    match cut '.' rest with
    | (version, some (_ :: _)) =>
      !version.isEmpty && version.all fun c => (Json.hexValue? c).isSome
    | _ => false
  | _ => false

/-- Whether a row of characters may stand in square brackets. -/
def isBracketable (host : List Char) : Bool := isScoped host || isLaterVersion host

/-- Whether square brackets in an authority are in order.  If there are any, there are both, and the
    host has to be one that may stand in them.  A bracket opens only at the beginning of the host;
    what follows the closing one is a port or nothing. -/
def bracketsInOrder (authority : List Char) : Bool :=
  if '[' ∈ authority ∨ ']' ∈ authority then
    ('[' ∈ authority && ']' ∈ authority) &&
      match cut '[' (cutLast '@' authority).2 with
      | ([], some inside) =>
        match cut ']' inside with
        | (host, some (c :: _)) => c = ':' && isBracketable host
        | (host, _) => isBracketable host
      | (_, some _) => false
      | (host, none) => isBracketable (cut ':' host).1
  else true

/-- The characters outside ASCII that stand for a delimiter or for a text with one in it. -/
def disguisedDelimiters : List Nat :=
  [0x2047, 0x2048, 0x2049, 0x2100, 0x2101, 0x2105, 0x2106, 0x2A74, 0xFE13, 0xFE16, 0xFE55, 0xFE56,
    0xFE5F, 0xFE6B, 0xFF03, 0xFF0F, 0xFF1A, 0xFF1F, 0xFF20]

/-- Whether an authority is free of disguised delimiters. -/
def isUndisguised (authority : List Char) : Bool :=
  authority.all fun c => !disguisedDelimiters.contains c.toNat

/-- The schemes whose addresses name a host. -/
def hostSchemes : List String :=
  ["ftp", "http", "gopher", "nntp", "telnet", "imap", "wais", "file", "mms", "https", "shttp",
   "snews", "prospero", "rtsp", "rtspu", "rsync", "svn", "svn+ssh", "sftp", "nfs", "git", "git+ssh",
   "ws", "wss"]

/-- The authority at the beginning of a text, behind two slashes, and the rest. -/
def takeAuthority : List Char → List Char × List Char
  | '/' :: '/' :: rest => breakAt (fun c => c = '/' || c = '?' || c = '#') rest
  | cs => ([], cs)

/-- The path, the query and the fragment of a text that has nothing else. -/
def takePath (cs : List Char) : List Char × Option (List Char) × Option (List Char) :=
  let (rest, fragment) := cut '#' cs
  let (path, query) := cut '?' rest
  (path, query, fragment)

namespace Address

/-- Takes a text apart.  Control characters and spaces in front, and line ends and tabulators
    anywhere, do not count. -/
def split (text : String) : Except Failure Address :=
  let cs := (text.toList.dropWhile fun c => c.toNat ≤ 32).filter fun c =>
    c ≠ '\t' && c ≠ '\r' && c ≠ '\n'
  let (scheme, rest) :=
    match cut ':' cs with
    | (before, some behind) =>
      if isScheme before then (before.map Char.toLower, behind) else ([], cs)
    | (_, none) => ([], cs)
  let (authority, rest) := takeAuthority rest
  if bracketsInOrder authority && isUndisguised authority then
    let (path, query, fragment) := takePath rest
    .ok ⟨scheme, authority, path, query.getD [], fragment.getD []⟩
  else .error .badText

/-- Puts an address together.  Two slashes show where the authority is; without one they are there
    if the scheme names a host, unless the path has two slashes itself. -/
def join (a : Address) : List Char :=
  let located :=
    if !a.authority.isEmpty ||
        (hostSchemes.contains (String.ofList a.scheme) && a.path.take 2 ≠ ['/', '/']) then
      '/' :: '/' :: (a.authority ++
        (if a.path.isEmpty || a.path.head? = some '/' then a.path else '/' :: a.path))
    else a.path
  (if a.scheme.isEmpty then [] else a.scheme ++ [':']) ++ located ++
    (if a.query.isEmpty then [] else '?' :: a.query) ++
    (if a.fragment.isEmpty then [] else '#' :: a.fragment)

/-- What stands before the last `@` of the authority, and what behind it. -/
def parties (a : Address) : Option (List Char) × List Char := cutLast '@' a.authority

/-- The user and the password, both still in percent coding. -/
def userAndPassword (a : Address) : List Char × List Char :=
  let (user, password) := cut ':' (a.parties.1.getD [])
  (user, password.getD [])

/-- The host without brackets and the text of the port. -/
def hostAndPort (a : Address) : List Char × List Char :=
  match cut '[' a.parties.2 with
  | (_, some inside) =>
    let (host, behind) := cut ']' inside
    (host, ((cut ':' (behind.getD [])).2).getD [])
  | (_, none) =>
    let (host, port) := cut ':' a.parties.2
    (host, port.getD [])

/-- The host in lower case, but for a zone. -/
def host (a : Address) : List Char :=
  match cut '%' a.hostAndPort.1 with
  | (name, some zone) => Text.lower name ++ '%' :: zone
  | (name, none) => Text.lower name

/-- The port, if one is given. -/
def port? (a : Address) : Except Failure (Option Nat) :=
  let digits := a.hostAndPort.2
  if digits.isEmpty then .ok none
  else if digits.all Char.isDigit then
    let n := Nat.ofDigitChars 10 digits 0
    if n ≤ 65535 then .ok (some n) else .error .badText
  else .error .badText

/-- A host as it stands in an authority. -/
def bracketed (host : List Char) : List Char :=
  if ':' ∈ host then '[' :: (host ++ [']']) else host

end Address

/-! ## Credentials -/

/-- A user and a password. -/
structure Credentials where
  user : List Char
  password : List Char
  deriving DecidableEq, Repr, Inhabited

/-- The header that proves who is asking. -/
def Credentials.header (c : Credentials) : String :=
  "Basic " ++ String.ofList (base64 (Text.Utf8.encode (c.user ++ ':' :: c.password)))

/-- A text without slashes at its end. -/
def dropSlashes (cs : List Char) : List Char := Text.trimEnd (· = '/') cs

/-- Moves the credentials out of an address.  A port of zero counts as none. -/
def separate (text : String) : Except Failure (String × Option Credentials) := do
  let a ← Address.split text
  let (user, password) := a.userAndPassword
  if user.isEmpty then return (String.ofList (dropSlashes text.toList), none)
  else
    let authority :=
      match ← a.port? with
      | some (n + 1) => Address.bracketed a.host ++ ':' :: (toString (n + 1)).toList
      | _ => Address.bracketed a.host
    return (String.ofList (dropSlashes { a with authority := authority }.join),
      some ⟨percentDecode user, percentDecode password⟩)

end DocStore.Http
