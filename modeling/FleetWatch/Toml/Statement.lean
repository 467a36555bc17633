import FleetWatch.Toml.Number

/-!
# Statements of a TOML text

A text is a sequence of lines: headers, and keys with values.  Values nest at most
`maxDepth` deep, and so many parts a dotted key may have.
-/

namespace FleetWatch.Toml

structure Path where
  through : List Key
  last : Key
deriving Inhabited

inductive Statement where
  | header (path : Path) (span : Span)
  | arrayHeader (path : Path) (span : Span)
  | pair (path : Path) (value : Toml)

def maxDepth : Nat := 79

/-! ## Keys -/

def isBareKeyChar (c : Char) : Bool := c.isAlphanum || c == '-' || c == '_'

def readKeyPart : Reader Key := fun cs =>
  let name : Option (String × List Char) := match cs with
    | '"' :: rest => (readShort '"' rest).map fun (ds, rest) => (String.ofList ds, rest)
    | '\'' :: rest => (readShort '\'' rest).map fun (ds, rest) => (String.ofList ds, rest)
    | _ =>
      let bare := cs.takeWhile isBareKeyChar
      if bare.isEmpty then none else some (String.ofList bare, cs.dropWhile isBareKeyChar)
  name.map fun (name, rest) => (⟨name, ⟨cs.length, rest.length⟩⟩, rest)

def readPath : (parts : Nat) → Reader Path
  | 0, _ => none
  | parts + 1, cs =>
    match readKeyPart (skipBlanks cs) with
    | none => none
    | some (key, rest) =>
      match skipBlanks rest with
      | '.' :: rest =>
        (readPath parts rest).map fun (path, rest) => (⟨key :: path.through, path.last⟩, rest)
      | rest => some (⟨[], key⟩, rest)

/-! ## Building tables -/

structure Table where
  origin : Origin
  span : Option Span
  members : Members

def Table.toToml (t : Table) : Toml := .table t.origin t.span t.members

/-- Changes the value of a name, or adds it at the end; the change sees what there was. -/
def alter (key : Key) (f : Option Toml → Option Toml) : Members → Option Members
  | [] => (f none).map fun v => [(key, v)]
  | (k, v) :: rest =>
    if k.name = key.name then (f (some v)).map fun v => (k, v) :: rest
    else (alter key f rest).map ((k, v) :: ·)

def alterLast (f : Toml → Option Toml) : List Toml → Option (List Toml)
  | [] => none
  | [t] => (f t).map ([·])
  | t :: ts => (alterLast f ts).map (t :: ·)

/-- Goes through tables by name and changes the one at the end of the way.

On the way of a dotted key a new table is dotted, and one with a header of its own may not be
entered; on the way of a header a new table is implied.  Values are never entered. -/
def descend (dotted : Bool) (f : Table → Option Table) : List Key → Table → Option Table
  | [], t => f t
  | key :: path, t =>
    let enter (t : Table) := (descend dotted f path t).map Table.toToml
    let step (found : Option Toml) : Option Toml :=
      match found with
      | none => enter ⟨if dotted then .dotted else .implied, none, []⟩
      | some (.table origin span members) =>
        if origin = .inline || (dotted && origin = .header) then none
        else enter ⟨origin, span, members⟩
      | some (.tables items) =>
        (alterLast (fun last =>
          match last with
          | .table origin span members => enter ⟨origin, span, members⟩
          | _ => none) items).map Toml.tables
      | some _ => none
    (alter key step t.members).map fun members => { t with members }

/-- Gives a new name in a table a value; `through` is the way of dots that led there. -/
def define (through : List Key) (last : Key) (value : Toml) (t : Table) : Option Table :=
  if !through.isEmpty && t.origin ≠ .dotted then none
  else
    (alter last (fun found => if found.isNone then some value else none) t.members).map
      fun members => { t with members }

def addPair (t : Table) (path : Path) (value : Toml) : Option Table :=
  descend true (define path.through path.last value) path.through t

/-! ## Values -/

def readItems (item : Reader Toml) : Nat → Reader (List Toml)
  | 0, _ => none
  | fuel + 1, cs =>
    match skipLines cs.length cs with
    | ']' :: rest => some ([], rest)
    | cs =>
      match item cs with
      | none => none
      | some (x, rest) =>
        match skipLines rest.length rest with
        | ']' :: rest => some ([x], rest)
        | ',' :: rest => (readItems item fuel rest).map fun (xs, rest) => (x :: xs, rest)
        | _ => none

def readPair (item : Reader Toml) : Reader (Path × Toml) := fun cs =>
  match readPath maxDepth cs with
  | some (path, '=' :: rest) => (item (skipBlanks rest)).map fun (v, rest) => ((path, v), rest)
  | _ => none

def readPairs (item : Reader Toml) : Nat → Reader (List (Path × Toml))
  | 0, _ => none
  | fuel + 1, cs =>
    match readPair item cs with
    | none => none
    | some (p, rest) =>
      match skipBlanks rest with
      | '\x7d' :: rest => some ([p], rest)
      | ',' :: rest => (readPairs item fuel rest).map fun (ps, rest) => (p :: ps, rest)
      | _ => none

def readInline (item : Reader Toml) : Reader Members := fun cs =>
  let pairs : Option (List (Path × Toml) × List Char) := match skipBlanks cs with
    | '\x7d' :: rest => some ([], rest)
    | _ => readPairs item (cs.length + 1) cs
  match pairs with
  | none => none
  | some (ps, rest) =>
    let table := ps.foldlM (fun t (p : Path × Toml) => addPair t p.1 p.2)
      (⟨.inline, none, []⟩ : Table)
    table.map fun t => (t.members, rest)

def readValue : (depth : Nat) → Reader Toml
  | depth, cs =>
    let spanTo (rest : List Char) : Span := ⟨cs.length, rest.length⟩
    match cs with
    | [] => none
    | c :: behind =>
      if c = '"' || c = '\'' then
        (readString c cs).map fun (s, rest) => (.scalar (spanTo rest) (.string s), rest)
      else if c = '[' then
        match depth with
        | 0 => none
        | depth + 1 =>
          (readItems (readValue depth) (behind.length + 1) behind).map fun (items, rest) =>
            (.array (spanTo rest) items, rest)
      else if c = '\x7b' then
        match depth with
        | 0 => none
        | depth + 1 =>
          (readInline (readValue depth) behind).map fun (members, rest) =>
            (.table .inline (some (spanTo rest)) members, rest)
      else
        let (word, rest) := splitWord cs
        (wordValue? word).map fun v => (.scalar (spanTo rest) v, rest)

/-! ## Lines -/

def readHeader (start : Nat) : Reader Statement
  | '[' :: cs =>
    match readPath maxDepth cs with
    | some (path, ']' :: ']' :: rest) => some (.arrayHeader path ⟨start, rest.length⟩, rest)
    | _ => none
  | cs =>
    match readPath maxDepth cs with
    | some (path, ']' :: rest) => some (.header path ⟨start, rest.length⟩, rest)
    | _ => none

def readStatement : Reader Statement := fun cs =>
  let statement : Option (Statement × List Char) := match cs with
    | '[' :: behind => readHeader cs.length behind
    | _ => (readPair (readValue maxDepth) cs).map fun ((path, v), rest) => (.pair path v, rest)
  match statement with
  | none => none
  | some (s, rest) => (endLine rest).map (s, ·)

def readStatements : Nat → List Char → Option (List Statement)
  | 0, cs => if cs.isEmpty then some [] else none
  | fuel + 1, cs =>
    match skipLines cs.length cs with
    | [] => some []
    | cs =>
      match readStatement cs with
      | none => none
      | some (s, rest) => (readStatements fuel rest).map (s :: ·)

end FleetWatch.Toml
