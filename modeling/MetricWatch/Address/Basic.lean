import MetricWatch.Address.Host
import MetricWatch.Address.Path

/-!
Web addresses, and the one way in which each is written: scheme and host in lower case, no default
port, no dot segments, and characters that an address may not hold escaped.
-/

namespace MetricWatch

/-- A user name and a password, as they are written. -/
structure Credentials where
  user : List Char
  password : Option (List Char)
  deriving DecidableEq

/-- Who is meant by an address. The host is absent where it is left empty. -/
structure Authority where
  credentials : Option Credentials := none
  host : Option Address.Host
  port : Option Nat := none
  deriving DecidableEq

/-- A web address. The authority is absent where the address has no place for one. -/
structure Address where
  scheme : List Char
  authority : Option Authority
  path : List Char
  query : Option (List Char)
  fragment : Option (List Char)
  deriving DecidableEq

namespace Address

/-! ### Parts of a text -/

/-- Characters that have no place at the ends of an address. -/
def isMargin (c : Char) : Bool := c.toNat ≤ 0x20

/-- An address without the characters at its ends that have no place there. -/
def trim (cs : List Char) : List Char :=
  ((cs.dropWhile isMargin).reverse.dropWhile isMargin).reverse

/-- Splits a text at the first mark, which is left out. -/
def splitMark (mark : Char) (cs : List Char) : List Char × Option (List Char) :=
  match cs.span (· ≠ mark) with
  | (before, []) => (before, none)
  | (before, _ :: after) => (before, some after)

/-- Splits a text at the last mark, which is left out. -/
def splitLastMark (mark : Char) (cs : List Char) : Option (List Char) × List Char :=
  match splitMark mark cs.reverse with
  | (after, before) => (before.map List.reverse, after.reverse)

/-- The scheme of an address, and what follows its colon. -/
def scheme? (cs : List Char) : Option (List Char × List Char) :=
  match splitMark ':' cs with
  | (_, none) => none
  | (scheme, some rest) =>
    let scheme := unbroken scheme
    let allowed := scheme.all fun c => c.isAlphanum || c = '+' || c = '-' || c = '.'
    if allowed && scheme.head?.any Char.isAlpha then some (scheme.map Char.toLower, rest)
    else none

/-! ### Authorities -/

/-- User name and password of a text before the last at sign; none if both are empty. -/
def credentials? (cs : List Char) : Option Credentials :=
  let (user, password) := splitMark ':' cs
  let password := password.filter (!·.isEmpty)
  if user.isEmpty && password.isNone then none
  else some {
    user := escape credentialReserved user
    password := password.map (escape credentialReserved) }

/-- Splits a text behind a host: at the first colon outside brackets. -/
def splitHost (inBrackets : Bool) : List Char → List Char × List Char
  | [] => ([], [])
  | c :: rest =>
    if c = ':' && !inBrackets then ([], c :: rest)
    else
      let (host, after) := splitHost (c = '[' || (inBrackets && c ≠ ']')) rest
      (c :: host, after)

/-- A port that is no default one, and what follows its digits, if that begins a path. -/
def port? (default : Option Nat) (cs : List Char) : Option (Option Nat × List Char) :=
  let (digits, rest) := cs.span Char.isDigit
  let port := digits.foldl (fun n c => 10 * n + (c.toNat - '0'.toNat)) 0
  if UInt16.size ≤ port || rest.head?.any (!isSlash ·) then none
  else some (if digits.isEmpty || default = some port then none else some port, rest)

/-- Host and port behind the credentials, and what follows the port, if that begins a path. The host
of a known scheme is given by its default port. -/
def place? (defaultPort : Option Nat) (cs : List Char) :
    Option (Option Host × Option Nat × List Char) := do
  let (name, rest) := splitHost false cs
  let host ←
    if name.isEmpty then (if defaultPort.isNone && rest.isEmpty then some none else none)
    else some <$> (if defaultPort.isSome then Host.known? name else Host.unknown? name)
  let (port, rest) ← port? defaultPort (rest.drop 1)
  some (host, port, rest)

/-- The authority that a text names, and what follows it, if that begins a path. `isLast` says that
nothing comes behind the text. -/
def authority? (defaultPort : Option Nat) (isLast : Bool) (cs : List Char) :
    Option (Authority × List Char) := do
  let (before, place) := splitLastMark '@' cs
  if before = some [] && place.isEmpty && !isLast then none
  let credentials := before.bind credentials?
  let (host, port, rest) ← place? defaultPort place
  if credentials.isSome && host.isNone then none
  some ({ credentials, host, port }, rest)

/-! ### Addresses -/

/-- The known schemes that always have a host, with their default ports. -/
def defaultPorts : List (List Char × Nat) := [
  ("http".toList, 80), ("https".toList, 443), ("ws".toList, 80), ("wss".toList, 443),
  ("ftp".toList, 21)]

/-- The scheme of files. -/
def fileScheme : List Char := "file".toList

/-- A path without the slash that it begins with. -/
def behindSlash : List Char → List Char
  | [] => []
  | c :: rest => if isSlash c then rest else c :: rest

/-- Authority and path of an address with a known scheme. -/
def known? (defaultPort : Nat) (cs : List Char) : Option (Authority × List Char) := do
  let (authority, path) := (cs.dropWhile isSlash).span (!isSlash ·)
  let (authority, _) ← authority? (some defaultPort) path.isEmpty authority
  some (authority, pathChars .known (behindSlash path))

/-- The host that holds a file; none if it is this one. -/
def fileHost? (cs : List Char) : Option (Option Host) :=
  if cs.isEmpty then some none
  else (Host.known? cs).map fun host =>
    if host = .domain "localhost".toList then none else some host

/-- What follows a slash that comes next, breaks aside. -/
def afterSlash? (cs : List Char) : Option (List Char) :=
  match cs.dropWhile isBreak with
  | [] => none
  | c :: rest => if isSlash c then some rest else none

/-- Authority and path of the address of a file. Before a path that leads over a drive there is no
host. -/
def file? (cs : List Char) : Option (Authority × List Char) :=
  let path := (afterSlash? cs).getD cs
  match afterSlash? path with
  | none => some ({ host := none }, pathChars .file path)
  | some rest => do
    let (name, path) := rest.span (!isSlash ·)
    if isDrive (unbroken name) then some ({ host := none }, pathChars .file rest)
    else
      match ← fileHost? (unbroken name) with
      | none => some ({ host := none }, pathChars .file path)
      | some host =>
        let path := behindSlash path
        some ({ host := if leadsOverDrive path then none else some host }, pathChars .file path)

/-- The path of an address with an unknown scheme, behind its authority. -/
def unknownPath : List Char → List Char
  | [] => []
  | '/' :: rest => pathChars .unknown rest
  | rest => pathChars .unknown rest

/-- Authority and path of an address with an unknown scheme. Without a slash, the path is a text
without meaning. -/
def unknown? (isLast : Bool) : List Char → Option (Option Authority × List Char)
  | '/' :: '/' :: rest => do
    let (authority, path) := rest.span (· ≠ '/')
    let (authority, between) ← authority? none (isLast && path.isEmpty) authority
    some (some authority, unknownPath (between ++ path))
  | '/' :: rest => some (none, pathChars .unknown rest)
  | rest => some (none, escape [] rest)

/-- The address that a text names, if it names a complete one. -/
def parse? (s : String) : Option Address := do
  let (scheme, rest) ← scheme? (trim s.toList)
  let (rest, fragment) := splitMark '#' rest
  let (rest, query) := splitMark '?' rest
  let fragment := fragment.map (escape fragmentReserved ∘ unbroken)
  let query := query.map unbroken
  match defaultPorts.lookup scheme with
  | some port =>
    let (authority, path) ← known? port (unbroken rest)
    let query := query.map (escape specialQueryReserved)
    some { scheme, authority, path, query, fragment }
  | none =>
    if scheme = fileScheme then
      let (authority, path) ← file? rest
      let query := query.map (escape specialQueryReserved)
      some { scheme, authority, path, query, fragment }
    else
      let (authority, path) ← unknown? (query.isNone && fragment.isNone) (unbroken rest)
      let query := query.map (escape queryReserved)
      some { scheme, authority, path, query, fragment }

/-- Credentials as they are written, before the host. -/
def credentialChars (c : Credentials) : List Char :=
  c.user ++ (c.password.map (':' :: ·)).getD [] ++ ['@']

/-- An authority as it is written. -/
def authorityChars (a : Authority) : List Char :=
  (a.credentials.map credentialChars).getD [] ++ (a.host.map Host.chars).getD [] ++
    (a.port.map fun port => ':' :: Nat.toDigits 10 port).getD []

/-- What stands between the scheme and the path. A path that begins with two slashes could be taken
for an authority. -/
def beforePath (a : Address) : List Char :=
  match a.authority with
  | some authority => '/' :: '/' :: authorityChars authority
  | none => if ['/', '/'].isPrefixOf a.path then ['/', '.'] else []

/-- An address as it is written. -/
def chars (a : Address) : List Char :=
  a.scheme ++ ':' :: (a.beforePath ++ a.path ++ (a.query.map ('?' :: ·)).getD [] ++
    (a.fragment.map ('#' :: ·)).getD [])

/-- An address as it is written. -/
def text (a : Address) : String := String.ofList a.chars

/-! ### Requests -/

/-- Whether credentials are texts, so that a request can state them apart from its address. -/
def areTexts (c : Credentials) : Bool :=
  (unescape? c.user).isSome && (!c.user.isEmpty || (c.password.bind unescape?).isSome)

/-- An address without credentials, where these can be stated apart. -/
def withoutCredentials (a : Address) : Address :=
  { a with authority := a.authority.map fun authority =>
      { authority with credentials := authority.credentials.filter (!areTexts ·) } }

/-- Whether an address has a scheme that requests are posted with. -/
def isWeb (a : Address) : Bool := a.scheme = "http".toList || a.scheme = "https".toList

/-- Characters of host names that no request can be posted to. -/
def unpostable : List Char := ['"', '\x60', '\x7b', '\x7d']

/-- The longest address that a request can be posted to. -/
def maxLength : Nat := 65534

/-- Whether requests can be posted to an address. -/
def isPostable (a : Address) : Bool :=
  a.isWeb && !((a.authority.bind (·.host)).map Host.chars).any (·.any unpostable.contains) &&
    a.chars.length ≤ maxLength

end Address

end MetricWatch
