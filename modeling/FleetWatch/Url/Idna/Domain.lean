import FleetWatch.Text.Utf8
import FleetWatch.Url.Idna.Label
import FleetWatch.Url.Idna.Punycode

/-!
# Domain names

A domain name in its ASCII form: mapped, normalized, checked label by label, and every label with
other characters in its ASCII form.
-/

namespace FleetWatch.Idna

/-- The longest label that is encoded, and the longest ASCII form that is decoded. -/
def maxEncoded : Nat := 1000
def maxDecoded : Nat := 2000

def isForbidden (c : Char) : Bool :=
  c.toNat ≤ 0x20 || c.toNat == 0x7F || "%#/:<>?@[\\]^|".toList.contains c

/-- The characters of a mapped label: itself, or what its ASCII form stands for.

None if it is no ASCII form of a label that would have needed one, or breaks a rule. -/
def readLabel (label : List Char) : Option (List Char) :=
  if asciiPrefix.isPrefixOf label then
    let form := label.drop asciiPrefix.length
    if !label.all isAscii || maxDecoded < form.length then none
    else
      match Punycode.decode form with
      | none => none
      | some decoded =>
        if decoded.all isAscii || form.getLast? == some '-' || !labelAllowed decoded then none
        else some decoded
  else if label.all isAscii || labelAllowed label then some label
  else none

def writeLabel (label : List Char) : Option (List Char) :=
  if label.all isAscii then some label
  else if maxEncoded < label.length then none
  else some (asciiPrefix ++ Punycode.encode label)

def asciiDomain (cs : List Char) : Option (List Char) := do
  let mapped ← cs.mapM mapChar
  let labels ← (splitAtChar '.' (normalize mapped.flatten)).mapM readLabel
  if labels.any (·.any isRightToLeft) && !labels.all directionAllowed then none
  else
    let written ← labels.mapM writeLabel
    some (['.'].intercalate written)

def hasAsciiForm (cs : List Char) : Bool := (splitAtChar '.' cs).any asciiPrefix.isPrefixOf

def toAscii (host : Bytes) : Option (List Char) := do
  let text ← Utf8.decode? host
  let domain ←
    if text.toList.all isAscii && !hasAsciiForm (text.toList.map Char.toLower) then
      some (text.toList.map Char.toLower)
    else asciiDomain text.toList
  if domain.any isForbidden then none else some domain

end FleetWatch.Idna
