import FleetWatch.Number.Binary64

/-!
# TOML documents as trees

Every value knows where it stands in its text, and every table how it came to be, which decides
whether it may be extended.
-/

namespace FleetWatch.Toml

/-- A stretch of a text, by the counts of characters left where it begins and where it ends. -/
structure Span where
  before : Nat
  after : Nat
deriving DecidableEq, Repr, Inhabited

inductive Scalar where
  | string (s : String)
  | integer (i : Int)
  | float (x : Binary64)
  | boolean (b : Bool)
  | dateTime
deriving DecidableEq, Inhabited

inductive Origin where
  /-- Written between braces; it is complete. -/
  | inline
  /-- Named by a header of its own. -/
  | header
  /-- Named in the header of a table inside it. -/
  | implied
  /-- Named in a dotted key. -/
  | dotted
deriving DecidableEq, Repr, Inhabited

structure Key where
  name : String
  span : Span
deriving DecidableEq, Repr, Inhabited

end Toml

inductive Toml where
  | scalar (span : Toml.Span) (value : Toml.Scalar)
  | array (span : Toml.Span) (items : List Toml)
  | table (origin : Toml.Origin) (span : Option Toml.Span) (members : List (Toml.Key × Toml))
  | tables (items : List Toml)
deriving Inhabited

namespace Toml

abbrev Members := List (Key × Toml)

def Span.join (first last : Span) : Span := ⟨first.before, last.after⟩

mutual

/-- Where a value stands; a table that no text spells out stands nowhere. -/
def span? : Toml → Option Span
  | scalar span _ => some span
  | array span _ => some span
  | table _ span _ => span
  | tables items => spanOfItems items

def spanOfItems : List Toml → Option Span
  | [] => none
  | [t] => t.span?
  | t :: ts =>
    match t.span?, spanOfItems ts with
    | some first, some last => some (first.join last)
    | _, _ => none

end

end Toml
end FleetWatch
