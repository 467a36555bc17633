import FleetWatch.Url.Host

/-!
# Web addresses

Reads an absolute address: scheme, authority, path, query and fragment.  Control characters and
spaces around the text do not count, and neither do tabs and line ends inside it.  Only the scheme
and the authority can be at fault.
-/

namespace FleetWatch

structure Url where
  scheme : String
  host : Option Host
  port : Option Nat
  path : String
  query : Option String
  fragment : Option String
deriving DecidableEq, Repr

namespace Url

inductive SchemeKind where
  /-- Hosts are domain names or addresses, and a backslash is a slash. -/
  | special
  | file
  | plain
deriving DecidableEq, Repr

def schemeKind (scheme : String) : SchemeKind :=
  if ["http", "https", "ws", "wss", "ftp"].contains scheme then .special
  else if scheme = "file" then .file
  else .plain

def SchemeKind.isSpecial : SchemeKind → Bool
  | plain => false
  | _ => true

def defaultPort : String → Option Nat
  | "http" | "ws" => some 80
  | "https" | "wss" => some 443
  | "ftp" => some 21
  | _ => none

/-! ## The text and its scheme -/

def clean (s : String) : List Char :=
  let isEdge (c : Char) := c.toNat ≤ 0x20
  let trimmed := ((s.toList.dropWhile isEdge).reverse.dropWhile isEdge).reverse
  trimmed.filter fun c => c != '\t' && c != '\n' && c != '\r'

def isSchemeChar (c : Char) : Bool := c.isAlphanum || c == '+' || c == '-' || c == '.'

def splitScheme (cs : List Char) : Option (String × List Char) :=
  match cs with
  | c :: _ =>
    if c.isAlpha then
      match cs.dropWhile isSchemeChar with
      | ':' :: rest =>
        some (String.ofList ((cs.takeWhile isSchemeChar).map Char.toLower), rest)
      | _ => none
    else none
  | [] => none

/-! ## The authority -/

def endsAuthority (special : Bool) (c : Char) : Bool :=
  c == '/' || c == '?' || c == '#' || (special && c == '\\')

def afterUserInfo (special : Bool) (cs : List Char) : List Char :=
  let authority := cs.takeWhile (!endsAuthority special ·)
  if authority.contains '@' then
    (authority.reverse.takeWhile (· != '@')).reverse ++ cs.dropWhile (!endsAuthority special ·)
  else cs

def hasUser (special : Bool) (cs : List Char) : Bool :=
  let authority := cs.takeWhile (!endsAuthority special ·)
  let userInfo := (authority.reverse.dropWhile (· != '@')).drop 1
  userInfo.any (· != ':') || 1 < userInfo.length

/-- The authority is a lone `@` with something behind it. -/
def isBareAt (special : Bool) : List Char → Bool
  | '@' :: c :: _ => endsAuthority special c
  | _ => false

/-- The length of the host at the front: up to a colon outside of brackets. -/
def hostLength (special : Bool) : (bracket : Bool) → List Char → Nat
  | _, [] => 0
  | bracket, c :: cs =>
    if (c == ':' && !bracket) || endsAuthority special c then 0
    else hostLength special ((bracket || c == '[') && c != ']') cs + 1

def readPort : (value : Nat) → (seen : Bool) → List Char →
    Except UrlError (Option Nat × List Char)
  | value, seen, [] => .ok (if seen then some value else none, [])
  | value, seen, c :: cs =>
    if c.isDigit then
      let value := value * 10 + (c.toNat - '0'.toNat)
      if 65535 < value then .error .invalidPort else readPort value true cs
    else if endsAuthority true c then .ok (if seen then some value else none, c :: cs)
    else .error .invalidPort

def readHostPort (kind : SchemeKind) (cs : List Char) :
    Except UrlError (Option Host × Option Nat × List Char) := do
  let n := hostLength kind.isSpecial false cs
  let (text, rest) := (cs.take n, cs.drop n)
  if text.isEmpty && (kind.isSpecial || rest.head? == some ':') then .error .emptyHost
  else
    let host ←
      if text.isEmpty then .ok none
      else if kind.isSpecial then (Host.parse text).map some
      else (Host.parseOpaque text).map some
    match rest with
    | ':' :: rest => do
      let (port, rest) ← readPort 0 false rest
      .ok (host, port, rest)
    | rest => .ok (host, none, rest)

def readAuthority (kind : SchemeKind) (cs : List Char) :
    Except UrlError (Option Host × Option Nat × List Char) := do
  let (host, port, rest) ← readHostPort kind (afterUserInfo kind.isSpecial cs)
  if host.isNone && (hasUser kind.isSpecial cs || isBareAt kind.isSpecial cs) then
    .error .emptyHost
  else .ok (host, port, rest)

/-! ## Path, query and fragment -/

def isSingleDot (segment : List Char) : Bool :=
  [".", "%2e"].contains (String.ofList (segment.map Char.toLower))

def isDoubleDot (segment : List Char) : Bool :=
  ["..", ".%2e", "%2e.", "%2e%2e"].contains (String.ofList (segment.map Char.toLower))

/-- Resolves the dot segments; `kept` are the segments before, the last one first. -/
def resolveDots (kept : List (List Char)) : List (List Char) → List (List Char)
  | [] => kept.reverse
  | [s] =>
    if isDoubleDot s then ([] :: kept.drop 1).reverse
    else if isSingleDot s then ([] :: kept).reverse
    else (s :: kept).reverse
  | s :: rest =>
    if isDoubleDot s then resolveDots (kept.drop 1) rest
    else if isSingleDot s then resolveDots kept rest
    else resolveDots (s :: kept) rest

def escapedInPath (c : Char) : Bool := " \"#<>?^`\x7b\x7d".toList.contains c
def escapedInQuery (c : Char) : Bool := " \"#<>".toList.contains c
def escapedInFragment (c : Char) : Bool := " \"<>`".toList.contains c

def readPath (special : Bool) (cs : List Char) : String :=
  let text := cs.takeWhile fun c => c != '?' && c != '#'
  let text := if special then text.map fun c => if c == '\\' then '/' else c else text
  let text := match text with
    | '/' :: rest => rest
    | text => text
  let segments := (resolveDots [] (splitAtChar '/' text)).map (Percent.encode escapedInPath)
  String.ofList ('/' :: ['/'].intercalate segments)

def readQuery (special : Bool) (cs : List Char) : Option String :=
  match (cs.takeWhile (· != '#')).dropWhile (· != '?') with
  | '?' :: query =>
    some (String.ofList
      (Percent.encode (fun c => escapedInQuery c || (special && c == '\'')) query))
  | _ => none

def readFragment (cs : List Char) : Option String :=
  match cs.dropWhile (· != '#') with
  | '#' :: fragment => some (String.ofList (Percent.encode escapedInFragment fragment))
  | _ => none

def assemble (scheme : String) (host : Option Host) (port : Option Nat) (path : String)
    (rest : List Char) : Url :=
  { scheme := scheme
    host := host
    port := if port == defaultPort scheme then none else port
    path := path
    query := readQuery (schemeKind scheme).isSpecial rest
    fragment := readFragment rest }

/-! ## Addresses -/

def isSlash (c : Char) : Bool := c == '/' || c == '\\'

def isDriveLetter : List Char → Bool
  | [c, d] => c.isAlpha && (d == ':' || d == '|')
  | _ => false

/-- Reads the host of a file address behind its slashes; nothing and `localhost` are the same. -/
def readFileHost (cs : List Char) : Except UrlError (Option Host × List Char) :=
  let text := cs.takeWhile (!endsAuthority true ·)
  if isDriveLetter text then .ok (none, cs)
  else
    let rest := cs.dropWhile (!endsAuthority true ·)
    if text.isEmpty then .ok (none, rest)
    else
      (Host.parse text).map fun host =>
        (if host = .domain "localhost" then none else some host, rest)

def readAfterScheme (scheme : String) (cs : List Char) : Except UrlError Url :=
  match schemeKind scheme with
  | .special => do
    let (host, port, rest) ← readAuthority .special (cs.dropWhile isSlash)
    .ok (assemble scheme host port (readPath true rest) rest)
  | .file => do
    let (host, rest) ← match cs with
      | a :: b :: rest => if isSlash a && isSlash b then readFileHost rest else .ok (none, cs)
      | _ => .ok (none, cs)
    .ok (assemble scheme host none (readPath true rest) rest)
  | .plain =>
    match cs with
    | '/' :: '/' :: rest => do
      let (host, port, rest) ← readAuthority .plain rest
      let path := match rest with
        | '/' :: _ => readPath false rest
        | _ => ""
      .ok (assemble scheme host port path rest)
    | '/' :: _ => .ok (assemble scheme none none (readPath false cs) cs)
    | _ =>
      let path := cs.takeWhile fun c => c != '?' && c != '#'
      .ok (assemble scheme none none
        (String.ofList (Percent.encode (fun _ => false) path)) cs)

def parse (s : String) : Except UrlError Url :=
  match splitScheme (clean s) with
  | none => .error .relativeWithoutBase
  | some (scheme, rest) => readAfterScheme scheme rest

def requestTarget (u : Url) : String :=
  u.path ++ match u.query with
    | some q => "?" ++ q
    | none => ""

end Url
end FleetWatch
