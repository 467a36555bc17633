import FleetWatch.Toml.Statement

/-!
# Documents of a TOML text

The statements of a text build one tree.  A header opens a table that must be new, or known only
as a step towards another header; the pairs behind it go into that table.
-/

namespace FleetWatch.Toml

/-- The tree so far, and the way to the table that is open. -/
structure Draft where
  root : Table
  current : List Key

def Draft.empty : Draft := ⟨⟨.header, none, []⟩, []⟩

def take (name : String) : Members → Option Toml × Members
  | [] => (none, [])
  | (k, v) :: rest =>
    if k.name = name then (some v, rest)
    else
      let (found, rest) := take name rest
      (found, (k, v) :: rest)

def openTable (key : Key) (span : Span) (parent : Table) : Option Table :=
  match take key.name parent.members with
  | (none, members) =>
    some { parent with members := members ++ [(key, .table .header (some span) [])] }
  | (some (.table .implied _ inner), members) =>
    some { parent with members := members ++ [(key, .table .header (some span) inner)] }
  | _ => none

def openItem (key : Key) (span : Span) (parent : Table) : Option Table :=
  let item : Toml := .table .header (some span) []
  (alter key
    (fun found =>
      match found with
      | none => some (.tables [item])
      | some (.tables items) => some (.tables (items ++ [item]))
      | some _ => none)
    parent.members).map fun members => { parent with members }

def extend (path : Path) (value : Toml) (t : Table) : Option Table :=
  (addPair t path value).map fun t =>
    match t.span, value.span? with
    | some first, some last => { t with span := some (first.join last) }
    | _, _ => t

def Draft.apply (d : Draft) : Statement → Option Draft
  | .header path span =>
    (descend false (openTable path.last span) path.through d.root).map fun root =>
      ⟨root, path.through ++ [path.last]⟩
  | .arrayHeader path span =>
    (descend false (openItem path.last span) path.through d.root).map fun root =>
      ⟨root, path.through ++ [path.last]⟩
  | .pair path value =>
    (descend false (extend path value) d.current d.root).map fun root => { d with root }

/-- The members of a document; a byte order mark in front does not belong to it. -/
def parse? (text : String) : Option Members :=
  let cs := match text.toList with
    | '\ufeff' :: cs => cs
    | cs => cs
  match readStatements (cs.length + 1) cs with
  | none => none
  | some statements =>
    (statements.foldlM Draft.apply Draft.empty).map fun d => d.root.members

end FleetWatch.Toml
