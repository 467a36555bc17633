import FleetWatch.Toml.Document
import Mathlib.Data.List.Nodup

/-!
# What a TOML text gives

A text that defines a key twice is refused, so the tables of its tree have each key once, at any
depth and however a table came to be; and the integers of a tree fit into 64 bits.

* `names_alter`: a change of one name keeps the others in their places.
* `Table.Keeps.descend`: what is done at the end of a way keeps the tree well formed.
* `parse?_wellFormed`: every tree that is read from a text is well formed.
-/

namespace FleetWatch.Toml

/-- Each key once in every table, and every integer of 64 bits. -/
inductive WellFormed : Toml → Prop
  | scalar {span : Span} {value : Scalar}
      (fits : ∀ i, value = .integer i → Int64.minValue.toInt ≤ i ∧ i ≤ Int64.maxValue.toInt) :
      WellFormed (.scalar span value)
  | array {span : Span} {items : List Toml} (all : ∀ t ∈ items, WellFormed t) :
      WellFormed (.array span items)
  | table {origin : Origin} {span : Option Span} {members : List (Key × Toml)}
      (distinct : (members.map (·.1.name)).Nodup) (all : ∀ m ∈ members, WellFormed m.2) :
      WellFormed (.table origin span members)
  | tables {items : List Toml} (all : ∀ t ∈ items, WellFormed t) : WellFormed (.tables items)

structure Members.WellFormed (members : Members) : Prop where
  distinct : (members.map (·.1.name)).Nodup
  all : ∀ m ∈ members, m.2.WellFormed

theorem Members.wellFormed_nil : WellFormed [] := ⟨List.nodup_nil, by simp⟩

theorem Members.WellFormed.concat {members : Members} (wellFormed : WellFormed members) {key : Key}
    (fresh : key.name ∉ members.map (·.1.name)) {value : Toml} (here : value.WellFormed) :
    WellFormed (members ++ [(key, value)]) := by
  constructor
  · rw [List.map_append, List.map_singleton, ← List.concat_eq_append]
    exact wellFormed.distinct.concat fresh
  · intro m member
    rcases List.mem_append.1 member with old | new
    · exact wellFormed.all m old
    · rw [List.mem_singleton.1 new]
      exact here

theorem wellFormed_table {origin : Origin} {span : Option Span} {members : Members} :
    WellFormed (.table origin span members) ↔ Members.WellFormed members := by
  constructor
  · intro wellFormed
    cases wellFormed with
    | table distinct all => exact ⟨distinct, all⟩
  · exact fun wellFormed => .table wellFormed.distinct wellFormed.all

/-! ## Changing one name -/

theorem names_alter {key : Key} {f : Option Toml → Option Toml} {members members' : Members}
    (altered : alter key f members = some members') :
    members'.map (·.1.name) =
      if key.name ∈ members.map (·.1.name) then members.map (·.1.name)
      else members.map (·.1.name) ++ [key.name] := by
  induction members generalizing members' with
  | nil =>
    obtain ⟨v, -, rfl⟩ := Option.map_eq_some_iff.1 altered
    rfl
  | cons m members ih =>
    obtain ⟨k, u⟩ := m
    rw [alter] at altered
    split at altered
    next here =>
      obtain ⟨v, -, rfl⟩ := Option.map_eq_some_iff.1 altered
      simp [here]
    next other =>
      obtain ⟨rest, later, rfl⟩ := Option.map_eq_some_iff.1 altered
      have apart : ¬key.name = k.name := fun same => other same.symm
      simp only [List.map_cons, List.mem_cons, apart, false_or, ih later]
      split <;> rfl

theorem all_alter {key : Key} {f : Option Toml → Option Toml} {members members' : Members}
    (altered : alter key f members = some members') (all : ∀ m ∈ members, m.2.WellFormed)
    (keeps : ∀ found v, (∀ u, found = some u → u.WellFormed) → f found = some v → v.WellFormed) :
    ∀ m ∈ members', m.2.WellFormed := by
  induction members generalizing members' with
  | nil =>
    obtain ⟨v, here, rfl⟩ := Option.map_eq_some_iff.1 altered
    simpa using keeps none v (by simp) here
  | cons m members ih =>
    obtain ⟨first, others⟩ := List.forall_mem_cons.1 all
    rw [alter] at altered
    split at altered
    · obtain ⟨v, here, rfl⟩ := Option.map_eq_some_iff.1 altered
      exact List.forall_mem_cons.2 ⟨keeps _ v (by simpa using first) here, others⟩
    · obtain ⟨rest, later, rfl⟩ := Option.map_eq_some_iff.1 altered
      exact List.forall_mem_cons.2 ⟨first, ih later others⟩

theorem Members.WellFormed.alter {key : Key} {f : Option Toml → Option Toml}
    {members members' : Members} (wellFormed : WellFormed members)
    (altered : alter key f members = some members')
    (keeps : ∀ found v, (∀ u, found = some u → u.WellFormed) → f found = some v → v.WellFormed) :
    WellFormed members' := by
  refine ⟨?_, all_alter altered wellFormed.all keeps⟩
  rw [names_alter altered]
  split
  · exact wellFormed.distinct
  · next fresh =>
    rw [← List.concat_eq_append]
    exact wellFormed.distinct.concat fresh

theorem all_alterLast {f : Toml → Option Toml} {ts ts' : List Toml}
    (altered : alterLast f ts = some ts') (all : ∀ t ∈ ts, t.WellFormed)
    (keeps : ∀ t t', t.WellFormed → f t = some t' → t'.WellFormed) : ∀ t ∈ ts', t.WellFormed := by
  induction ts generalizing ts' with
  | nil => cases altered
  | cons t ts ih =>
    obtain ⟨first, others⟩ := List.forall_mem_cons.1 all
    cases ts with
    | nil =>
      obtain ⟨t', here, rfl⟩ := Option.map_eq_some_iff.1 altered
      simpa using keeps t t' first here
    | cons t₁ ts =>
      obtain ⟨rest, later, rfl⟩ := Option.map_eq_some_iff.1 altered
      exact List.forall_mem_cons.2 ⟨first, ih later others⟩

/-! ## Changing a table on a way -/

def Table.WellFormed (t : Table) : Prop := Members.WellFormed t.members

theorem Table.wellFormed_empty (origin : Origin) (span : Option Span) :
    Table.WellFormed ⟨origin, span, []⟩ := Members.wellFormed_nil

/-- The change makes well-formed tables of such. -/
def Table.Keeps (f : Table → Option Table) : Prop :=
  ∀ t t', t.WellFormed → f t = some t' → t'.WellFormed

theorem Table.WellFormed.toToml {t : Table} (wellFormed : t.WellFormed) : t.toToml.WellFormed :=
  wellFormed_table.2 wellFormed

theorem Table.Keeps.descend {f : Table → Option Table} (keeps : Keeps f) (dotted : Bool)
    (path : List Key) : Keeps (descend dotted f path) := by
  induction path with
  | nil => exact keeps
  | cons key path ih =>
    intro t t' wellFormed changed
    rw [Toml.descend] at changed
    obtain ⟨members, altered, rfl⟩ := Option.map_eq_some_iff.1 changed
    have enter {t : Table} {v : Toml} (wellFormed : t.WellFormed)
        (entered : (Toml.descend dotted f path t).map Table.toToml = some v) : v.WellFormed := by
      obtain ⟨t', changed, rfl⟩ := Option.map_eq_some_iff.1 entered
      exact (ih t t' wellFormed changed).toToml
    refine Members.WellFormed.alter wellFormed altered fun found v all step => ?_
    split at step
    next => exact enter (Table.wellFormed_empty _ _) step
    next origin span inner =>
      split at step
      · cases step
      · exact enter (wellFormed_table.1 (all _ rfl)) step
    next items =>
      obtain ⟨items', last, rfl⟩ := Option.map_eq_some_iff.1 step
      cases all _ rfl with
      | tables each =>
        refine .tables (all_alterLast last each fun t t' wellFormed step => ?_)
        split at step
        · exact enter (wellFormed_table.1 wellFormed) step
        · cases step
    next => cases step

theorem keeps_define (through : List Key) (last : Key) {value : Toml} (here : value.WellFormed) :
    Table.Keeps (define through last value) := by
  intro t t' wellFormed defined
  unfold define at defined
  split at defined
  · cases defined
  · obtain ⟨members, altered, rfl⟩ := Option.map_eq_some_iff.1 defined
    refine Members.WellFormed.alter wellFormed altered fun found v _ step => ?_
    split at step
    · cases step
      exact here
    · cases step

theorem wellFormed_addPair {t t' : Table} {path : Path} {value : Toml} (wellFormed : t.WellFormed)
    (here : value.WellFormed) (added : addPair t path value = some t') : t'.WellFormed :=
  (keeps_define path.through path.last here).descend true path.through t t' wellFormed added

theorem take_eq {name : String} {members rest : Members} {found : Option Toml}
    (taken : take name members = (found, rest)) :
    rest.Sublist members ∧ (∀ v, found = some v → ∃ k, (k, v) ∈ members) ∧
      ((members.map (·.1.name)).Nodup → name ∉ rest.map (·.1.name)) := by
  induction members generalizing rest found with
  | nil =>
    cases taken
    simp
  | cons m members ih =>
    obtain ⟨k, u⟩ := m
    rw [take] at taken
    split at taken
    next here =>
      cases taken
      refine ⟨List.sublist_cons_self _ _, fun v found => ⟨k, by simp_all⟩, fun distinct => ?_⟩
      rw [← here]
      exact (List.nodup_cons.1 distinct).1
    next other =>
      obtain ⟨sub, from', absent⟩ :=
        ih (show take name members = ((take name members).1, (take name members).2) from rfl)
      cases taken
      refine ⟨sub.cons_cons _, fun v found => ?_, fun distinct => ?_⟩
      · obtain ⟨k', member⟩ := from' v found
        exact ⟨k', List.mem_cons_of_mem _ member⟩
      · have later := absent (List.nodup_cons.1 distinct).2
        simpa using ⟨Ne.symm other, by simpa using later⟩

theorem keeps_openTable (key : Key) (span : Span) : Table.Keeps (openTable key span) := by
  intro t t' wellFormed opened
  unfold openTable at opened
  have all {rest : Members} (sub : rest.Sublist t.members) : Members.WellFormed rest :=
    ⟨wellFormed.distinct.sublist (sub.map _), fun m member => wellFormed.all m (sub.subset member)⟩
  split at opened
  next members taken =>
    cases opened
    obtain ⟨sub, -, absent⟩ := take_eq taken
    exact (all sub).concat (absent wellFormed.distinct) (wellFormed_table.2 Members.wellFormed_nil)
  next span' inner members taken =>
    cases opened
    obtain ⟨sub, from', absent⟩ := take_eq taken
    obtain ⟨k, member⟩ := from' _ rfl
    have inner : Members.WellFormed inner := wellFormed_table.1 (wellFormed.all _ member)
    exact (all sub).concat (absent wellFormed.distinct) (wellFormed_table.2 inner)
  next => cases opened

theorem keeps_openItem (key : Key) (span : Span) : Table.Keeps (openItem key span) := by
  intro t t' wellFormed opened
  obtain ⟨members, altered, rfl⟩ := Option.map_eq_some_iff.1 opened
  have item : WellFormed (.table .header (some span) []) :=
    wellFormed_table.2 Members.wellFormed_nil
  refine Members.WellFormed.alter wellFormed altered fun found v all step => ?_
  split at step
  · cases step
    exact .tables (by simpa using item)
  · cases step
    cases all _ rfl with
    | tables each =>
      refine .tables fun t member => ?_
      rcases List.mem_append.1 member with old | new
      · exact each t old
      · rw [List.mem_singleton.1 new]
        exact item
  · cases step

theorem keeps_extend (path : Path) {value : Toml} (here : value.WellFormed) :
    Table.Keeps (extend path value) := by
  intro t t' wellFormed extended
  obtain ⟨t₁, added, rfl⟩ := Option.map_eq_some_iff.1 extended
  have added := wellFormed_addPair wellFormed here added
  split <;> exact added

/-! ## Statements -/

def Statement.WellFormed : Statement → Prop
  | .pair _ value => value.WellFormed
  | _ => True

theorem foldlM_keeps {σ α : Type} {P : σ → Prop} {Q : α → Prop} {f : σ → α → Option σ}
    (step : ∀ s a s', P s → Q a → f s a = some s' → P s') {xs : List α} {s t : σ}
    (all : ∀ a ∈ xs, Q a) (start : P s) (folded : xs.foldlM f s = some t) : P t := by
  induction xs generalizing s with
  | nil =>
    cases folded
    exact start
  | cons a xs ih =>
    rw [List.foldlM_cons] at folded
    obtain ⟨s', first, rest⟩ := Option.bind_eq_some_iff.1 folded
    obtain ⟨here, others⟩ := List.forall_mem_cons.1 all
    exact ih others (step s a s' start here first) rest

theorem wellFormed_apply {d d' : Draft} {statement : Statement} (wellFormed : d.root.WellFormed)
    (here : statement.WellFormed) (applied : d.apply statement = some d') : d'.root.WellFormed := by
  cases statement with
  | header path span =>
    obtain ⟨root, changed, rfl⟩ := Option.map_eq_some_iff.1 applied
    exact (keeps_openTable path.last span).descend false path.through _ _ wellFormed changed
  | arrayHeader path span =>
    obtain ⟨root, changed, rfl⟩ := Option.map_eq_some_iff.1 applied
    exact (keeps_openItem path.last span).descend false path.through _ _ wellFormed changed
  | pair path value =>
    obtain ⟨root, changed, rfl⟩ := Option.map_eq_some_iff.1 applied
    exact (keeps_extend path here).descend false d.current _ _ wellFormed changed

/-! ## Readers -/

def Gives (property : α → Prop) (reader : Reader α) : Prop :=
  ∀ cs a rest, reader cs = some (a, rest) → property a

theorem fits_of_integer? {word : List Char} {i : Int} (read : integer? word = some i) :
    Int64.minValue.toInt ≤ i ∧ i ≤ Int64.maxValue.toInt := by
  have fits {x : Option Nat} {g : Nat → Int}
      (read : (x.bind fun n => inRange (g n)) = some i) :
      Int64.minValue.toInt ≤ i ∧ i ≤ Int64.maxValue.toInt := by
    obtain ⟨n, -, read⟩ := Option.bind_eq_some_iff.1 read
    unfold inRange at read
    split at read
    next bounds =>
      cases read
      exact bounds
    next => cases read
  unfold integer? at read
  split at read <;> exact fits read

theorem wellFormed_word {word : List Char} {value : Scalar} (read : wordValue? word = some value)
    (span : Span) : WellFormed (.scalar span value) := by
  refine .scalar fun i whole => ?_
  subst whole
  unfold wordValue? at read
  split at read
  · cases read
  split at read
  · cases read
  split at read
  · cases read
  split at read
  next integer =>
    cases read
    exact fits_of_integer? integer
  next => cases read
  next => cases read

section
variable {item : Reader Toml} (gives : Gives WellFormed item)
include gives

theorem gives_readItems (fuel : Nat) : Gives (fun items => ∀ t ∈ items, t.WellFormed)
    (readItems item fuel) := by
  induction fuel with
  | zero => exact fun cs items rest read => by cases read
  | succ fuel ih =>
    intro cs items rest read
    rw [readItems] at read
    split at read
    · cases read
      simp
    split at read
    · cases read
    next here =>
      split at read
      · cases read
        simpa using gives _ _ _ here
      · obtain ⟨⟨others, rest'⟩, later, read⟩ := Option.map_eq_some_iff.1 read
        cases read
        exact List.forall_mem_cons.2 ⟨gives _ _ _ here, ih _ _ _ later⟩
      · cases read

theorem gives_readPair : Gives (fun p => p.2.WellFormed) (readPair item) := by
  intro cs p rest read
  unfold readPair at read
  split at read
  · obtain ⟨⟨v, rest'⟩, here, read⟩ := Option.map_eq_some_iff.1 read
    cases read
    exact gives _ _ _ here
  · cases read

theorem gives_readPairs (fuel : Nat) : Gives (fun ps => ∀ p ∈ ps, p.2.WellFormed)
    (readPairs item fuel) := by
  induction fuel with
  | zero => exact fun cs ps rest read => by cases read
  | succ fuel ih =>
    intro cs ps rest read
    rw [readPairs] at read
    split at read
    · cases read
    next here =>
      have first := gives_readPair gives _ _ _ here
      split at read
      · cases read
        simpa using first
      · obtain ⟨⟨others, rest'⟩, later, read⟩ := Option.map_eq_some_iff.1 read
        cases read
        exact List.forall_mem_cons.2 ⟨first, ih _ _ _ later⟩
      · cases read

theorem gives_readInline : Gives Members.WellFormed (readInline item) := by
  intro cs members rest read
  unfold readInline at read
  simp only at read
  split at read
  · cases read
  next ps rest' pairs =>
    obtain ⟨t, folded, read⟩ := Option.map_eq_some_iff.1 read
    cases read
    have all : ∀ p ∈ ps, p.2.WellFormed := by
      split at pairs
      · cases pairs
        simp
      · exact gives_readPairs gives _ _ _ _ pairs
    exact foldlM_keeps (P := Table.WellFormed)
      (fun t p t' wellFormed here added => wellFormed_addPair wellFormed here added)
      all (Table.wellFormed_empty _ _) folded

end

theorem gives_readValue (depth : Nat) : Gives WellFormed (readValue depth) := by
  induction depth using Nat.strongRecOn with
  | ind depth ih =>
    intro cs v rest read
    rw [readValue.eq_def] at read
    simp only at read
    split at read
    · cases read
    split at read
    · obtain ⟨⟨s, rest'⟩, -, read⟩ := Option.map_eq_some_iff.1 read
      cases read
      exact .scalar (by simp)
    -- Only the brackets open a level.
    split at read
    · cases depth with
      | zero => cases read
      | succ depth =>
        obtain ⟨⟨items, rest'⟩, array, read⟩ := Option.map_eq_some_iff.1 read
        cases read
        exact .array (gives_readItems (ih depth (Nat.lt_succ_self depth)) _ _ _ _ array)
    split at read
    · cases depth with
      | zero => cases read
      | succ depth =>
        obtain ⟨⟨members, rest'⟩, inline, read⟩ := Option.map_eq_some_iff.1 read
        cases read
        exact wellFormed_table.2 (gives_readInline (ih depth (Nat.lt_succ_self depth)) _ _ _ inline)
    · obtain ⟨value, word, read⟩ := Option.map_eq_some_iff.1 read
      cases read
      exact wellFormed_word word _

theorem gives_readHeader (start : Nat) : Gives Statement.WellFormed (readHeader start) := by
  intro cs statement rest read
  unfold readHeader at read
  split at read
  · split at read
    · cases read
      trivial
    · cases read
  · split at read
    · cases read
      trivial
    · cases read

theorem gives_readStatement : Gives Statement.WellFormed readStatement := by
  intro cs statement rest read
  unfold readStatement at read
  simp only at read
  split at read
  · cases read
  next s rest' line =>
    obtain ⟨rest'', -, read⟩ := Option.map_eq_some_iff.1 read
    cases read
    split at line
    · exact gives_readHeader _ _ _ _ line
    · obtain ⟨⟨⟨path, v⟩, rest''⟩, pair, line⟩ := Option.map_eq_some_iff.1 line
      cases line
      exact gives_readPair (gives_readValue maxDepth) _ _ _ pair

theorem wellFormed_of_readStatements {fuel : Nat} {cs : List Char} {statements : List Statement}
    (read : readStatements fuel cs = some statements) : ∀ s ∈ statements, s.WellFormed := by
  induction fuel generalizing cs statements with
  | zero =>
    rw [readStatements] at read
    split at read
    · cases read
      simp
    · cases read
  | succ fuel ih =>
    rw [readStatements] at read
    split at read
    · cases read
      simp
    split at read
    · cases read
    next here =>
      obtain ⟨others, later, rfl⟩ := Option.map_eq_some_iff.1 read
      exact List.forall_mem_cons.2 ⟨gives_readStatement _ _ _ here, ih later⟩

theorem parse?_wellFormed {text : String} {members : Members} (read : parse? text = some members) :
    members.WellFormed := by
  unfold parse? at read
  simp only at read
  split at read
  · cases read
  next statements lines =>
    obtain ⟨d, folded, rfl⟩ := Option.map_eq_some_iff.1 read
    exact foldlM_keeps (P := fun d : Draft => d.root.WellFormed)
      (fun d s d' wellFormed here applied => wellFormed_apply wellFormed here applied)
      (wellFormed_of_readStatements lines) (Table.wellFormed_empty _ _) folded

end FleetWatch.Toml
