import FleetWatch.Url.Idna.ClassData
import FleetWatch.Url.Idna.CompositionData
import FleetWatch.Text.CodeRange

/-!
# Canonical composition

The composed normal form of a text: characters are taken apart, marks are put into canonical
order, and what can be composed is composed again.
-/

namespace FleetWatch.Idna

structure Composition where
  whole : Nat
  first : Nat
  second : Nat

def Composition.parse (token : List Char) : Composition :=
  let parts := (token.dropWhile (· != ':')).drop 1
  ⟨hexNat (token.takeWhile (· != ':')), hexNat (parts.takeWhile (· != '.')),
    hexNat ((parts.dropWhile (· != '.')).drop 1)⟩

def compositions : List Composition := (tokens compositionText).map Composition.parse

def classRanges : List CodeRange := CodeRange.parseAll classText

/-- The canonical combining class: zero for a starter. -/
def combiningClass (c : Char) : Nat :=
  match CodeRange.classIn classRanges c with
  | some digits => Nat.ofDigitChars 10 digits 0
  | none => 0

/-! ## Hangul syllables, which are composed by rule -/

def hangulBase : Nat := 0xAC00
def leadBase : Nat := 0x1100
def vowelBase : Nat := 0x1161
def tailBase : Nat := 0x11A7
def leadCount : Nat := 19
def vowelCount : Nat := 21
def tailCount : Nat := 28

def isSyllable (n : Nat) : Bool :=
  hangulBase ≤ n && n < hangulBase + leadCount * vowelCount * tailCount

def decomposeSyllable (n : Nat) : List Nat :=
  let i := n - hangulBase
  let tail := i % tailCount
  [leadBase + i / (vowelCount * tailCount), vowelBase + i / tailCount % vowelCount] ++
    if tail = 0 then [] else [tailBase + tail]

def composeSyllable (first second : Nat) : Option Nat :=
  if leadBase ≤ first && first < leadBase + leadCount &&
      vowelBase ≤ second && second < vowelBase + vowelCount then
    some (hangulBase + ((first - leadBase) * vowelCount + (second - vowelBase)) * tailCount)
  else if isSyllable first && (first - hangulBase) % tailCount = 0 &&
      tailBase < second && second < tailBase + tailCount then
    some (first + (second - tailBase))
  else none

/-! ## The normal form -/

/-- Takes a character apart; a part may be composed again, at most `depth` times. -/
def decompose : Nat → Nat → List Nat
  | 0, n => [n]
  | depth + 1, n =>
    if isSyllable n then decomposeSyllable n
    else
      (compositions.find? (·.whole == n)).elim [n] fun c => decompose depth c.first ++ [c.second]

/-- Puts a mark before the marks of a higher class that end the reversed text. -/
def insertMark (c : Char) : List Char → List Char
  | [] => [c]
  | d :: reversed =>
    if combiningClass c < combiningClass d then d :: insertMark c reversed else c :: d :: reversed

def orderMarks (cs : List Char) : List Char :=
  (cs.foldl
    (fun reversed c => if combiningClass c = 0 then c :: reversed else insertMark c reversed)
    []).reverse

def compose? (first second : Char) : Option Char :=
  match composeSyllable first.toNat second.toNat with
  | some n => some (Char.ofNat n)
  | none =>
    (compositions.find? fun c => c.first == first.toNat && c.second == second.toNat).map
      fun c => Char.ofNat c.whole

/-- Composes behind a starter; `marks` are those behind it that stay, the last one first. -/
def composeBehind (starter : Char) (marks : List Char) : List Char → List Char
  | [] => starter :: marks.reverse
  | c :: cs =>
    let blocked := marks.head?.any (combiningClass c ≤ combiningClass ·)
    (if blocked then none else compose? starter c).elim
      (if combiningClass c = 0 then starter :: marks.reverse ++ composeBehind c [] cs
      else composeBehind starter (c :: marks) cs)
      (composeBehind · marks cs)

def composeAll : List Char → List Char
  | [] => []
  | c :: cs => if combiningClass c = 0 then composeBehind c [] cs else c :: composeAll cs

def normalize (cs : List Char) : List Char :=
  composeAll (orderMarks (cs.flatMap fun c => (decompose 4 c.toNat).map Char.ofNat))

end FleetWatch.Idna
