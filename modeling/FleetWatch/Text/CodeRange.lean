import FleetWatch.Text.Split

/-!
# Character properties written as text

Readers for property data: numbers in hexadecimal, and ranges of code points with a class.
-/

namespace FleetWatch

def hexDigitValue (c : Char) : Nat :=
  if c.isDigit then c.toNat - '0'.toNat else c.toNat - 'a'.toNat + 10

def hexNat (cs : List Char) : Nat := cs.foldl (fun n c => n * 16 + hexDigitValue c) 0

def tokens (text : String) : List (List Char) :=
  (splitAtChar ' ' (text.toList.map fun c => if c = '\n' then ' ' else c)).filter (!·.isEmpty)

structure CodeRange where
  first : Nat
  last : Nat
  kind : List Char

namespace CodeRange

/-- Reads `first-last:class`; the end and the class may be missing. -/
def parse (token : List Char) : CodeRange :=
  let bounds := token.takeWhile (· != ':')
  let first := bounds.takeWhile (· != '-')
  let last := (bounds.dropWhile (· != '-')).drop 1
  ⟨hexNat first, if last.isEmpty then hexNat first else hexNat last,
    (token.dropWhile (· != ':')).drop 1⟩

def parseAll (text : String) : List CodeRange := (tokens text).map parse

def classIn (ranges : List CodeRange) (c : Char) : Option (List Char) :=
  (ranges.find? fun r => r.first ≤ c.toNat && c.toNat ≤ r.last).map (·.kind)

end CodeRange
end FleetWatch
