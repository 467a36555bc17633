import FleetWatch.Url.Idna.Composition
import FleetWatch.Url.Idna.DirectionData
import FleetWatch.Url.Idna.JoiningData
import FleetWatch.Url.Idna.Mapping
import FleetWatch.Url.Idna.MarkData

/-!
# Labels of a host name

What the characters of one label must satisfy: no mark in front, joiners only where a script uses
them, and one direction.
-/

namespace FleetWatch.Idna

def markRanges : List CodeRange := CodeRange.parseAll markText

def isMark (c : Char) : Bool := (CodeRange.classIn markRanges c).isSome

/-! ## Joiners -/

inductive Joining where
  | left
  | right
  | dual
  | transparent
  | other
deriving DecidableEq

def joiningRanges : List CodeRange := CodeRange.parseAll joiningText

def joining (c : Char) : Joining :=
  match CodeRange.classIn joiningRanges c with
  | some ['l'] => .left
  | some ['r'] => .right
  | some ['d'] => .dual
  | some ['t'] => .transparent
  | _ => .other

def nonJoiner : Char := '\u200c'
def joiner : Char := '\u200d'

/-- The combining class of a virama, which asks for a joined form. -/
def viramaClass : Nat := 9

def joinsTowards (side : Joining) (cs : List Char) : Bool :=
  match cs.dropWhile (joining · == .transparent) with
  | [] => false
  | c :: _ => joining c == side || joining c == .dual

/-- A joiner stands behind a virama; a non-joiner may also stand between joining characters. -/
def joinersAllowed : (before : List Char) → List Char → Bool
  | _, [] => true
  | before, c :: cs =>
    let afterVirama := match before with
      | b :: _ => combiningClass b == viramaClass
      | [] => false
    (if c = joiner then afterVirama
      else if c = nonJoiner then
        afterVirama || (joinsTowards .left before && joinsTowards .right cs)
      else true) && joinersAllowed (c :: before) cs

/-! ## Direction -/

inductive Direction where
  | left
  | right
  | arabicLetter
  | arabicNumber
  | european
  | separator
  | terminator
  | common
  | neutral
  | boundary
  | mark
  | unusual
deriving DecidableEq

def directionRanges : List CodeRange := CodeRange.parseAll directionText

def direction (c : Char) : Direction :=
  match CodeRange.classIn directionRanges c with
  | none => .left
  | some ['r'] => .right
  | some ['a'] => .arabicLetter
  | some ['n'] => .arabicNumber
  | some ['e'] => .european
  | some ['s'] => .separator
  | some ['t'] => .terminator
  | some ['c'] => .common
  | some ['o'] => .neutral
  | some ['b'] => .boundary
  | some ['m'] => .mark
  | some _ => .unusual

def isRightToLeft (c : Char) : Bool :=
  match direction c with
  | .right | .arabicLetter | .arabicNumber => true
  | _ => false

def isWeak : Direction → Bool
  | .european | .separator | .terminator | .common | .neutral | .boundary | .mark => true
  | _ => false

/-- The label reads in one direction, as host names with right-to-left characters must. -/
def directionAllowed (label : List Char) : Bool :=
  let classes := label.map direction
  let last := (classes.reverse.dropWhile (· == .mark)).head?
  match classes with
  | [] => true
  | .left :: _ =>
    classes.all (fun d => d == .left || isWeak d) &&
      (last == some .left || last == some .european)
  | .right :: _ | .arabicLetter :: _ =>
    classes.all (fun d =>
      d == .right || d == .arabicLetter || d == .arabicNumber || isWeak d) &&
      (last == some .right || last == some .arabicLetter || last == some .european ||
        last == some .arabicNumber) &&
      !(classes.contains .european && classes.contains .arabicNumber)
  | _ => false

/-! ## Labels -/

def isAscii (c : Char) : Bool := c.toNat < 0x80

def asciiPrefix : List Char := ['x', 'n', '-', '-']

def labelAllowed (label : List Char) : Bool :=
  label.all isValid && normalize label == label && !(label.headD 'a' |> isMark) &&
    !asciiPrefix.isPrefixOf label && joinersAllowed [] label

end FleetWatch.Idna
