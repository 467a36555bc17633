/-!
# White space

The characters with the Unicode property White_Space, and texts without it at their ends.
-/

namespace FleetWatch

def isBlank (c : Char) : Bool :=
  let n := c.toNat
  (9 ≤ n && n ≤ 13) || n == 0x20 || n == 0x85 || n == 0xA0 || n == 0x1680 ||
    (0x2000 ≤ n && n ≤ 0x200A) || n == 0x2028 || n == 0x2029 || n == 0x202F || n == 0x205F ||
    n == 0x3000

def dropWhileEnd (p : Char → Bool) (cs : List Char) : List Char :=
  (cs.reverse.dropWhile p).reverse

def trimBlanks (s : String) : String :=
  String.ofList (dropWhileEnd isBlank (s.toList.dropWhile isBlank))

end FleetWatch
