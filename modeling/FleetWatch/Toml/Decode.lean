import FleetWatch.Number.Positional
import FleetWatch.Text.Quoted
import FleetWatch.Toml.Value

/-!
# Decoding TOML values

A decoder takes a value of the tree to a value of the program, or tells what it found and what it
expected.  A record is decoded from a table, key by key in the order of the text, or from an array
of its fields; what is missing keeps its default and what is unknown is passed over.
-/

namespace FleetWatch.Toml

structure TypeFault where
  span : Option Span
  outOfRange : Bool
  found : String
  expected : String
deriving DecidableEq, Repr

def TypeFault.message (e : TypeFault) : String :=
  (if e.outOfRange then "invalid value: " else "invalid type: ") ++ e.found ++ ", expected " ++
    e.expected

def TypeFault.orAt (span : Span) (e : TypeFault) : TypeFault :=
  { e with span := e.span.or (some span) }

abbrev Decoder (α : Type) := Toml → Except TypeFault α

def describe : Toml → String
  | .scalar _ (.string s) => "string " ++ quoted s
  | .scalar _ (.integer i) => "integer `" ++ toString i ++ "`"
  | .scalar _ (.float x) => "floating point `" ++ positionalText x ++ "`"
  | .scalar _ (.boolean b) => "boolean `" ++ (if b then "true" else "false") ++ "`"
  | .scalar _ .dateTime => "map"
  | .array .. => "sequence"
  | .tables _ => "sequence"
  | .table .. => "map"

def mistyped (expected : String) (v : Toml) : TypeFault := ⟨v.span?, false, describe v, expected⟩

/-! ## Scalars -/

def decodeString : Decoder String
  | .scalar _ (.string s) => .ok s
  | v => .error (mistyped "a string" v)

def decodeBool : Decoder Bool
  | .scalar _ (.boolean b) => .ok b
  | v => .error (mistyped "a boolean" v)

def decodeNat (bound : Nat) (expected : String) : Decoder Nat
  | .scalar span (.integer i) =>
    if 0 ≤ i ∧ i < bound then .ok i.toNat
    else .error ⟨some span, true, describe (.scalar span (.integer i)), expected⟩
  | v => .error (mistyped expected v)

def decodeUInt64 : Decoder UInt64 := fun v => (decodeNat UInt64.size "u64" v).map UInt64.ofNat

def decodeUInt16 : Decoder UInt16 := fun v => (decodeNat UInt16.size "u16" v).map UInt16.ofNat

/-! ## Sequences and records -/

def decodeList (decode : Decoder α) : Decoder (List α)
  | .array _ items => items.mapM decode
  | .tables items => items.mapM decode
  | v => .error (mistyped "a sequence" v)

/-- A setting of a record: its key, and what a value does to the record. -/
structure Setting (α : Type) where
  name : String
  set : Toml → α → Except TypeFault α

def Setting.of (name : String) (decode : Decoder β) (update : β → α → α) : Setting α :=
  ⟨name, fun v a => (decode v).map (update · a)⟩

def setMember (settings : List (Setting α)) (a : α) (member : Key × Toml) : Except TypeFault α :=
  match settings.find? (·.name == member.1.name) with
  | some setting => (setting.set member.2 a).mapError (·.orAt member.1.span)
  | none => .ok a

/-- Overlays a record with the members of a table, in their order. -/
def overlay (settings : List (Setting α)) (members : Members) (a : α) : Except TypeFault α :=
  members.foldlM (setMember settings) a

def overlayInOrder (settings : List (Setting α)) (items : List Toml) (a : α) : Except TypeFault α :=
  (settings.zip items).foldlM (fun a (setting, v) => setting.set v a) a

/-- A record from a table or from an array; a moment is a table without known keys. -/
def decodeRecord (name : String) (settings : List (Setting α)) (default : α) : Decoder α
  | .table _ _ members => overlay settings members default
  | .array _ items => overlayInOrder settings items default
  | .tables items => overlayInOrder settings items default
  | .scalar _ .dateTime => .ok default
  | v => .error (mistyped ("struct " ++ name) v)

end FleetWatch.Toml
