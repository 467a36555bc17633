import FleetWatch.Url.Idna.MappingData
import FleetWatch.Text.CodeRange

/-!
# The mapping of host names

Every code point of a host name stands for itself, stands for other ones, is ignored, or may not
occur.
-/

namespace FleetWatch.Idna

inductive MappingKind where
  /-- Letter `v`: they stand for themselves. -/
  | valid
  /-- Letter `x`: they may not occur. -/
  | disallowed
  /-- Letter `i`: they are left out. -/
  | ignored
  /-- Letter `p`: of each two, the first becomes the second. -/
  | pairs
  /-- Letter `o`: they become the code points from `target` on. -/
  | shifted (target : Nat)
  /-- Letter `s`: each becomes the same text. -/
  | same (target : List Nat)

structure MappingRun where
  count : Nat
  kind : MappingKind

def MappingRun.parse (token : List Char) : MappingRun :=
  let isHex (c : Char) := c.isDigit || ('a' ≤ c && c ≤ 'f')
  let count := hexNat (token.takeWhile isHex)
  let argument := (token.dropWhile isHex).drop 1
  let targets := if argument.isEmpty then [] else (splitAtChar '.' argument).map hexNat
  ⟨count,
    match (token.dropWhile isHex).head? with
    | some 'v' => .valid
    | some 'i' => .ignored
    | some 'p' => .pairs
    | some 'o' => .shifted (targets.headD 0)
    | some 's' => .same targets
    | _ => .disallowed⟩

def mappingRuns : List MappingRun := (tokens mappingText).map MappingRun.parse

def MappingKind.apply (kind : MappingKind) (i code : Nat) : Option (List Nat) :=
  match kind with
  | valid => some [code]
  | disallowed => none
  | ignored => some []
  | pairs => some [if i % 2 = 0 then code + 1 else code]
  | shifted target => some [target + i]
  | same target => some target

def mapIn (code : Nat) : List MappingRun → Nat → Option (List Nat)
  | [], _ => none
  | run :: runs, i =>
    if i < run.count then run.kind.apply i code else mapIn code runs (i - run.count)

def mapChar (c : Char) : Option (List Char) :=
  (mapIn c.toNat mappingRuns c.toNat).map (·.map Char.ofNat)

def isValid (c : Char) : Bool := mapChar c == some [c]

end FleetWatch.Idna
