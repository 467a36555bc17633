import FleetWatch.Url.Address

/-!
# Written addresses

The text of an address, and what a reference found at an address leads to.
-/

namespace FleetWatch

namespace Ipv6

def zeros (pieces : List Nat) : Nat := (pieces.takeWhile (· == 0)).length

/-- Begin and length of the first of the longest runs of zero pieces. -/
def longestRun (pieces : List Nat) : Nat × Nat :=
  (List.range pieces.length).foldl
    (fun best i => if best.2 < zeros (pieces.drop i) then (i, zeros (pieces.drop i)) else best)
    (0, 0)

def joined (pieces : List Nat) : String :=
  String.intercalate ":" (pieces.map fun p => String.ofList (Nat.toDigits 16 p))

/-- The pieces in hexadecimal; two colons stand for the longest run of two or more zeros. -/
def text (pieces : List Nat) : String :=
  let (start, length) := longestRun pieces
  if length < 2 then joined pieces
  else joined (pieces.take start) ++ "::" ++ joined (pieces.drop (start + length))

end Ipv6

namespace Ipv4

def text (address : Nat) : String :=
  String.intercalate "."
    ([0x1000000, 0x10000, 0x100, 1].map fun unit => toString (address / unit % 256))

end Ipv4

def Host.text : Host → String
  | domain name => name
  | ipv4 address => Ipv4.text address
  | ipv6 pieces => "[" ++ Ipv6.text pieces ++ "]"
  | opaqueText name => name

namespace Url

def origin (u : Url) : String :=
  u.scheme ++ ":" ++
    (match u.host with
      | some host => "//" ++ host.text
      | none => "") ++
    match u.port with
    | some port => ":" ++ toString port
    | none => ""

def text (u : Url) : String :=
  u.origin ++ u.requestTarget ++
    match u.fragment with
    | some fragment => "#" ++ fragment
    | none => ""

def withPath (u : Url) (cs : List Char) : Url :=
  let special := (schemeKind u.scheme).isSpecial
  { u with path := readPath special cs, query := readQuery special cs, fragment := readFragment cs }

def folderOf (path : String) : List Char :=
  (path.toList.reverse.dropWhile (· != '/')).reverse

def follow (u : Url) (reference : String) : Except UrlError Url :=
  let cs := clean reference
  match splitScheme cs with
  | some _ => parse reference
  | none =>
    match cs with
    | [] => .ok { u with fragment := none }
    | '#' :: _ => .ok { u with fragment := readFragment cs }
    | '?' :: _ => .ok (u.withPath (u.path.toList ++ cs))
    | a :: b :: _ =>
      if isSlash a && isSlash b then parse (u.scheme ++ ":" ++ String.ofList cs)
      else if isSlash a then .ok (u.withPath cs)
      else .ok (u.withPath (folderOf u.path ++ cs))
    | [a] =>
      if isSlash a then .ok (u.withPath cs) else .ok (u.withPath (folderOf u.path ++ cs))

end Url
end FleetWatch
