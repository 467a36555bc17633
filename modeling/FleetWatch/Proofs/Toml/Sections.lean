import FleetWatch.Proofs.Pointwise
import FleetWatch.Proofs.Toml.Record
import FleetWatch.Proofs.Toml.Spelling
import FleetWatch.Toml.Document
import Mathlib.Data.List.Induction

/-!
# Documents of sections

A section is a header and the pairs behind it.  A text of sections is read as a document with a
table for each header of a table, and with the array of its tables, in order, for those of items.

* `alter_eq_some`: the change of a member, seen by names.
* `apply_section`: what a section does to a draft.
* `parse?_sections`: the document of a text of sections.
-/

namespace FleetWatch.Toml

/-! ## Members by name, changed -/

/-- The members hold a value at a name, and else what others hold. -/
def Updates (name : String) (value : Toml) (members members' : Members) : Prop :=
  ∀ n, member? n members' = if name = n then some value else member? n members

section
variable {name : String} {value : Toml} {members members' : Members}

theorem Updates.here (updates : Updates name value members members') :
    member? name members' = some value := by
  rw [updates name, if_pos rfl]

theorem Updates.elsewhere (updates : Updates name value members members') {n : String}
    (other : n ≠ name) : member? n members' = member? n members := by
  rw [updates n, if_neg (Ne.symm other)]

theorem alter_eq_some {key : Key} {f : Option Toml → Option Toml}
    (changed : f (member? key.name members) = some value) :
    ∃ members', alter key f members = some members' ∧ Updates key.name value members members' := by
  induction members with
  | nil =>
    have here : f none = some value := changed
    refine ⟨[(key, value)], by rw [alter, here, Option.map_some], fun n => ?_⟩
    rw [member?_cons]
  | cons m members ih =>
    obtain ⟨k, u⟩ := m
    rw [member?_cons] at changed
    rw [alter]
    split at changed
    next same =>
      refine ⟨(k, value) :: members, by rw [if_pos same, changed, Option.map_some], fun n => ?_⟩
      rw [member?_cons, member?_cons, ← same]
      split <;> rfl
    next other =>
      obtain ⟨members', altered, updates⟩ := ih changed
      refine ⟨(k, u) :: members', by rw [if_neg other, altered, Option.map_some], fun n => ?_⟩
      rw [member?_cons, member?_cons, updates n]
      split
      next here => rw [if_neg fun same => other (here.trans same.symm)]
      next => rfl

theorem alter_place {key : Key} {f : Option Toml → Option Toml} {t : Table}
    (changed : f (member? key.name t.members) = some value) :
    ∃ members', (alter key f t.members).map (fun members => { t with members }) =
      some { t with members := members' } ∧ Updates key.name value t.members members' := by
  obtain ⟨members', altered, updates⟩ := alter_eq_some changed
  exact ⟨members', by rw [altered, Option.map_some], updates⟩

theorem take_of_absent (absent : member? name members = none) :
    take name members = (none, members) := by
  induction members with
  | nil => rfl
  | cons m members ih =>
    obtain ⟨k, u⟩ := m
    rw [member?_cons] at absent
    split at absent
    next => cases absent
    next other => rw [take, if_neg other, ih absent]

theorem updates_concat {key : Key} (absent : member? key.name members = none) (value : Toml) :
    Updates key.name value members (members ++ [(key, value)]) := by
  intro n
  induction members with
  | nil => rw [List.nil_append, member?_cons]
  | cons m members ih =>
    obtain ⟨k, u⟩ := m
    rw [member?_cons] at absent
    split at absent
    next => cases absent
    next other =>
      rw [List.cons_append, member?_cons, member?_cons, ih absent]
      split
      next here => rw [if_neg fun same => other (here.trans same.symm)]
      next => rfl

end

/-! ## The open table -/

/-- The members are the entries, wherever they stand. -/
structure HasEntries (entries : List (String × Plain)) (members : Members) : Prop where
  entry : ∀ p ∈ entries, ∃ span, member? p.1 members = some (.scalar span p.2.scalar)
  absent : ∀ name ∉ entries.map (·.1), member? name members = none

/-- A table with a header of its own, and the entries. -/
def TableOf (entries : List (String × Plain)) (v : Toml) : Prop :=
  ∃ span members, v = .table .header span members ∧ HasEntries entries members

/-- Where a header opens a table: at its name, or behind the items that are there. -/
def place : Option (List Toml) → Toml → Toml
  | none, v => v
  | some items, v => .tables (items ++ [v])

theorem hasEntries_nil : HasEntries [] [] :=
  ⟨fun _ member => absurd member List.not_mem_nil, fun _ _ => rfl⟩

theorem HasEntries.update {entries : List (String × Plain)} {members members' : Members}
    (holds : HasEntries entries members) {name : String} {span : Span} {x : Plain}
    (fresh : name ∉ entries.map (·.1))
    (updates : Updates name (.scalar span x.scalar) members members') :
    HasEntries (entries ++ [(name, x)]) members' where
  entry p member := by
    rcases List.mem_append.1 member with old | new
    · obtain ⟨span', here⟩ := holds.entry p old
      have other : p.1 ≠ name := fun same => fresh (same ▸ List.mem_map_of_mem old)
      exact ⟨span', by rw [updates.elsewhere other, here]⟩
    · cases List.mem_singleton.1 new
      exact ⟨span, updates.here⟩
  absent n outside := by
    rw [List.map_append, List.mem_append, not_or] at outside
    have other : n ≠ name := fun same => outside.2 (by simp [same])
    rw [updates.elsewhere other, holds.absent n outside.1]

theorem alterLast_concat {f : Toml → Option Toml} {v v' : Toml} (changed : f v = some v')
    (items : List Toml) : alterLast f (items ++ [v]) = some (items ++ [v']) := by
  induction items with
  | nil => simp [alterLast, changed]
  | cons t items ih =>
    cases items with
    | nil => simp [alterLast, changed]
    | cons u items => simpa [alterLast] using ih

theorem extend_fresh (key : Key) {t : Table} (absent : member? key.name t.members = none)
    (value : Toml) : ∃ t', extend ⟨[], key⟩ value t = some t' ∧ t'.origin = t.origin ∧
      Updates key.name value t.members t'.members := by
  have fresh : (if (member? key.name t.members).isNone then some value else none) = some value := by
    rw [absent]
    rfl
  obtain ⟨members, altered, updates⟩ :=
    alter_eq_some (f := fun found => if found.isNone then some value else none) fresh
  have added : addPair t ⟨[], key⟩ value = some { t with members } := by
    rw [addPair, descend, define, if_neg (by simp), altered, Option.map_some]
  rw [extend, added, Option.map_some]
  split
  · exact ⟨_, rfl, rfl, updates⟩
  · exact ⟨_, rfl, rfl, updates⟩

theorem descend_place {f : Table → Option Table} {key : Key} {root t t' : Table}
    {before : Option (List Toml)} (origin : t.origin ≠ .inline)
    (here : member? key.name root.members = some (place before t.toToml))
    (changed : f t = some t') :
    ∃ members, descend false f [key] root = some { root with members } ∧
      Updates key.name (place before t'.toToml) root.members members := by
  refine alter_place ?_
  rw [here]
  cases before with
  | none => simp [place, Table.toToml, descend, origin, changed]
  | some items =>
    simp only [place, descend, Option.map_eq_some_iff, Toml.tables.injEq, exists_eq_right]
    exact alterLast_concat (by simp [Table.toToml, changed]) items

/-- The table that is open stands at a name and has the entries. -/
structure Draft.Opened (d : Draft) (key : Key) (before : Option (List Toml))
    (entries : List (String × Plain)) : Prop where
  current : d.current = [key]
  holds : ∃ v, TableOf entries v ∧ member? key.name d.root.members = some (place before v)

/-- What a draft has at other names than one. -/
def Draft.SameElsewhere (name : String) (d d' : Draft) : Prop :=
  ∀ n ≠ name, member? n d'.root.members = member? n d.root.members

theorem Draft.Opened.entry {d : Draft} {key : Key} {before : Option (List Toml)}
    {entries : List (String × Plain)} (opened : d.Opened key before entries) {name : String}
    {x : Plain} (fresh : name ∉ entries.map (·.1)) {s : Statement}
    (tells : (Line.pair name x).Tells s) :
    ∃ d', d.apply s = some d' ∧ d'.Opened key before (entries ++ [(name, x)]) ∧
      d.SameElsewhere key.name d' := by
  obtain ⟨current, v, ⟨span, members, rfl, holds⟩, here⟩ := opened
  cases tells with
  | pair place' span' =>
    obtain ⟨⟨origin, span'', members'⟩, extended, rfl, updates⟩ :=
      extend_fresh ⟨name, place'⟩ (t := ⟨.header, span, members⟩)
        (holds.absent name fresh) (.scalar span' x.scalar)
    obtain ⟨others, descended, updates'⟩ := descend_place (by simp) here extended
    refine ⟨⟨{ d.root with members := others }, d.current⟩, ?_, ⟨current, ?_⟩, ?_⟩
    · rw [Draft.apply, current, descended, Option.map_some]
    · exact ⟨_, ⟨span'', members', rfl, holds.update fresh updates⟩, updates'.here⟩
    · exact fun n other => updates'.elsewhere other

theorem Draft.Opened.entries {rest : List (String × Plain)} {d : Draft} {key : Key}
    {before : Option (List Toml)} {entries : List (String × Plain)}
    (opened : d.Opened key before entries)
    (distinct : ((entries ++ rest).map (·.1)).Nodup) {statements : List Statement}
    (tell : List.Forall₂ Line.Tells (rest.map fun p => .pair p.1 p.2) statements) :
    ∃ d', statements.foldlM Draft.apply d = some d' ∧ d'.Opened key before (entries ++ rest) ∧
      d.SameElsewhere key.name d' := by
  induction rest generalizing d entries statements with
  | nil =>
    cases tell
    exact ⟨d, rfl, by simpa using opened, fun _ _ => rfl⟩
  | cons p rest ih =>
    obtain ⟨name, x⟩ := p
    cases tell with
    | @cons _ s _ statements first others =>
      have fresh : name ∉ entries.map (·.1) := fun member => by
        rw [List.map_append, List.nodup_append] at distinct
        exact distinct.2.2 _ member _ List.mem_cons_self rfl
      obtain ⟨d₁, applied, opened₁, same₁⟩ := opened.entry fresh first
      obtain ⟨d₂, folded, opened₂, same₂⟩ := ih opened₁ (by simpa using distinct) others
      refine ⟨d₂, ?_, by simpa using opened₂, fun n other => (same₂ n other).trans (same₁ n other)⟩
      rw [List.foldlM_cons, applied]
      exact folded

/-! ## Sections -/

/-- A header, of a table or of an item of an array, and the pairs behind it. -/
structure Section where
  name : String
  isItem : Bool
  entries : List (String × Plain)

def Section.header (s : Section) : Line := if s.isItem then .item s.name else .table s.name

def Section.lines (s : Section) : List Line :=
  s.header :: s.entries.map fun p => .pair p.1 p.2

theorem Section.bare_lines {s : Section} (name : IsBare s.name)
    (keys : ∀ key ∈ s.entries.map (·.1), IsBare key) : ∀ line ∈ s.lines, IsBare line.name := by
  refine List.forall_mem_cons.2 ⟨?_, List.forall_mem_map.2 (List.forall_mem_map.1 keys)⟩
  rw [Section.header]
  split <;> exact name

/-- What may be there when a header opens its table, and where it does. -/
inductive Section.Opens (s : Section) : Option Toml → Option (List Toml) → Prop
  | table (isTable : s.isItem = false) : Opens s none none
  | item {found : Option Toml} {items : List Toml} (isItem : s.isItem = true)
      (there : found = none ∧ items = [] ∨ found = some (.tables items)) :
      Opens s found (some items)

theorem openTable_place (key : Key) {t : Table} (absent : member? key.name t.members = none)
    (span : Span) : ∃ members, openTable key span t = some { t with members } ∧
      Updates key.name (place none (.table .header (some span) [])) t.members members :=
  ⟨_, by rw [openTable, take_of_absent absent]; rfl, updates_concat absent _⟩

theorem openItem_place (key : Key) {t : Table} {items : List Toml}
    (there : member? key.name t.members = none ∧ items = [] ∨
      member? key.name t.members = some (.tables items)) (span : Span) :
    ∃ members, openItem key span t = some { t with members } ∧
      Updates key.name (place (some items) (.table .header (some span) [])) t.members members := by
  refine alter_place ?_
  rcases there with ⟨none, rfl⟩ | found
  · rw [none]
    rfl
  · rw [found]
    rfl

theorem Section.Opens.header {s : Section} {d : Draft} {before : Option (List Toml)}
    (opens : s.Opens (member? s.name d.root.members) before) {statement : Statement}
    (tells : s.header.Tells statement) :
    ∃ d' span, d.apply statement = some d' ∧ d'.Opened ⟨s.name, span⟩ before [] ∧
      d.SameElsewhere s.name d' := by
  -- Both kinds of headers put an empty table in its place.
  have placed {key span : Span} {members : Members} (updates : Updates s.name
      (place before (.table .header (some span) [])) d.root.members members) :
      Draft.Opened ⟨{ d.root with members }, [⟨s.name, key⟩]⟩ ⟨s.name, key⟩ before [] ∧
        d.SameElsewhere s.name ⟨{ d.root with members }, [⟨s.name, key⟩]⟩ :=
    ⟨⟨rfl, _, ⟨_, [], rfl, hasEntries_nil⟩, updates.here⟩, fun n other => updates.elsewhere other⟩
  rw [Section.header] at tells
  generalize found : member? s.name d.root.members = f at opens
  cases opens with
  | table isTable =>
    rw [isTable] at tells
    cases tells with
    | table key span =>
      obtain ⟨members, opened, updates⟩ := openTable_place ⟨s.name, key⟩ found span
      exact ⟨_, key, by rw [Draft.apply, descend, opened]; rfl, placed updates⟩
  | item isItem there =>
    rw [isItem] at tells
    cases tells with
    | item key span =>
      subst found
      obtain ⟨members, opened, updates⟩ := openItem_place ⟨s.name, key⟩ there span
      exact ⟨_, key, by rw [Draft.apply, descend, opened]; rfl, placed updates⟩

theorem apply_section {s : Section} (distinct : (s.entries.map (·.1)).Nodup) {d : Draft}
    {before : Option (List Toml)} (opens : s.Opens (member? s.name d.root.members) before)
    {statements : List Statement} (tell : List.Forall₂ Line.Tells s.lines statements) :
    ∃ d', statements.foldlM Draft.apply d = some d' ∧
      (∃ v, TableOf s.entries v ∧ member? s.name d'.root.members = some (place before v)) ∧
        d.SameElsewhere s.name d' := by
  cases tell with
  | cons first others =>
    obtain ⟨d₁, span, applied, opened₁, same₁⟩ := opens.header first
    obtain ⟨d₂, folded, opened₂, same₂⟩ := opened₁.entries distinct others
    refine ⟨d₂, ?_, opened₂.holds, fun n other => (same₂ n other).trans (same₁ n other)⟩
    rw [List.foldlM_cons, applied]
    exact folded

/-- The entries of the items of an array. -/
def itemsAt (name : String) (sections : List Section) : List (List (String × Plain)) :=
  (sections.filter fun s => s.isItem && s.name == name).map (·.entries)

/-- Only items of one array have the same name. -/
def Apart (a b : Section) : Prop := a.name = b.name → a.isItem = true ∧ b.isItem = true

/-- Members have the tables and the arrays of sections, and else what was there. -/
structure Outlines (sections : List Section) (start members : Members) : Prop where
  table : ∀ s ∈ sections, s.isItem = false → ∃ v, TableOf s.entries v ∧
    member? s.name members = some v
  items : ∀ name, itemsAt name sections ≠ [] → ∃ vs,
    List.Forall₂ TableOf (itemsAt name sections) vs ∧ member? name members = some (.tables vs)
  others : ∀ name ∉ sections.map (·.name), member? name members = member? name start

theorem itemsAt_eq_nil {name : String} {sections : List Section} :
    itemsAt name sections = [] ↔ ∀ s ∈ sections, s.isItem = true → s.name ≠ name := by
  simp [itemsAt]

theorem itemsAt_concat (name : String) (sections : List Section) (s : Section) :
    itemsAt name (sections ++ [s]) =
      itemsAt name sections ++ if s.isItem && s.name == name then [s.entries] else [] := by
  cases named : s.isItem && s.name == name <;>
    simp [itemsAt, List.filter_append, named]

theorem Outlines.concat_table {sections : List Section} {s : Section} {start members : Members}
    (outlines : Outlines sections start members) (apart : ∀ t ∈ sections, t.name ≠ s.name)
    (isTable : s.isItem = false) {v : Toml} (table : TableOf s.entries v) {members' : Members}
    (here : member? s.name members' = some v)
    (same : ∀ n ≠ s.name, member? n members' = member? n members) :
    Outlines (sections ++ [s]) start members' where
  table t member isTable' := by
    rcases List.mem_append.1 member with old | new
    · obtain ⟨w, table', there⟩ := outlines.table t old isTable'
      exact ⟨w, table', by rw [same _ (apart t old), there]⟩
    · cases List.mem_singleton.1 new
      exact ⟨v, table, here⟩
  items name nonempty := by
    rw [itemsAt_concat, isTable] at nonempty ⊢
    simp only [Bool.false_and, Bool.false_eq_true, if_false, List.append_nil] at nonempty ⊢
    have other : name ≠ s.name := by
      rintro rfl
      exact nonempty (itemsAt_eq_nil.2 fun t member _ => apart t member)
    obtain ⟨vs, tables, there⟩ := outlines.items name nonempty
    exact ⟨vs, tables, by rw [same _ other, there]⟩
  others name outside := by
    rw [List.map_append, List.mem_append, not_or] at outside
    have other : name ≠ s.name := fun same => outside.2 (by simp [same])
    rw [same _ other, outlines.others name outside.1]

theorem Outlines.concat_item {sections : List Section} {s : Section} {start members : Members}
    (outlines : Outlines sections start members) (apart : ∀ t ∈ sections, Apart t s)
    (isItem : s.isItem = true) {v : Toml} (table : TableOf s.entries v) {vs : List Toml}
    (tables : List.Forall₂ TableOf (itemsAt s.name sections) vs) {members' : Members}
    (here : member? s.name members' = some (.tables (vs ++ [v])))
    (same : ∀ n ≠ s.name, member? n members' = member? n members) :
    Outlines (sections ++ [s]) start members' where
  table t member isTable := by
    rcases List.mem_append.1 member with old | new
    · have other : t.name ≠ s.name := fun named => by
        rw [(apart t old named).1] at isTable
        cases isTable
      obtain ⟨w, table', there⟩ := outlines.table t old isTable
      exact ⟨w, table', by rw [same _ other, there]⟩
    · cases List.mem_singleton.1 new
      rw [isItem] at isTable
      cases isTable
  items name nonempty := by
    rw [itemsAt_concat, isItem] at nonempty ⊢
    by_cases named : s.name = name
    · subst named
      refine ⟨vs ++ [v], ?_, here⟩
      simpa using List.rel_append tables (.cons table .nil)
    · simp only [Bool.true_and, beq_iff_eq, named, if_false, List.append_nil] at nonempty ⊢
      obtain ⟨ws, tables', there⟩ := outlines.items name nonempty
      exact ⟨ws, tables', by rw [same _ (Ne.symm named), there]⟩
  others name outside := by
    rw [List.map_append, List.mem_append, not_or] at outside
    have other : name ≠ s.name := fun same => outside.2 (by simp [same])
    rw [same _ other, outlines.others name outside.1]

theorem Outlines.concat {sections : List Section} {s : Section} {start : Members} {d : Draft}
    (outlines : Outlines sections start d.root.members) (apart : ∀ t ∈ sections, Apart t s)
    (fresh : member? s.name start = none) (distinct : (s.entries.map (·.1)).Nodup)
    {statements : List Statement} (tell : List.Forall₂ Line.Tells s.lines statements) :
    ∃ d', statements.foldlM Draft.apply d = some d' ∧
      Outlines (sections ++ [s]) start d'.root.members := by
  have absent (unnamed : ∀ t ∈ sections, t.name ≠ s.name) :
      member? s.name d.root.members = none := by
    rw [outlines.others, fresh]
    simpa using unnamed
  cases kind : s.isItem with
  | false =>
    have unnamed : ∀ t ∈ sections, t.name ≠ s.name := fun t member named => by
      rw [(apart t member named).2] at kind
      cases kind
    have opens : s.Opens (member? s.name d.root.members) none := by
      rw [absent unnamed]
      exact .table kind
    obtain ⟨d', folded, ⟨v, table, here⟩, same⟩ := apply_section distinct opens tell
    exact ⟨d', folded, outlines.concat_table unnamed kind table here same⟩
  | true =>
    -- The first item opens the array; every other finds the items before it there.
    obtain ⟨vs, tables, there⟩ : ∃ vs, List.Forall₂ TableOf (itemsAt s.name sections) vs ∧
        (member? s.name d.root.members = none ∧ vs = [] ∨
          member? s.name d.root.members = some (.tables vs)) := by
      by_cases first : itemsAt s.name sections = []
      · rw [first]
        refine ⟨[], .nil, .inl ⟨absent fun t member named => ?_, rfl⟩⟩
        exact itemsAt_eq_nil.1 first t member (apart t member named).1 named
      · obtain ⟨vs, tables, there⟩ := outlines.items s.name first
        exact ⟨vs, tables, .inr there⟩
    obtain ⟨d', folded, ⟨v, table, here⟩, same⟩ :=
      apply_section distinct (.item kind there) tell
    exact ⟨d', folded, outlines.concat_item apart kind table tables here same⟩

theorem apply_sections {sections : List Section} (apart : sections.Pairwise Apart)
    (distinct : ∀ s ∈ sections, (s.entries.map (·.1)).Nodup) {d : Draft}
    (fresh : ∀ s ∈ sections, member? s.name d.root.members = none) {statements : List Statement}
    (tell : List.Forall₂ Line.Tells (sections.flatMap Section.lines) statements) :
    ∃ d', statements.foldlM Draft.apply d = some d' ∧
      Outlines sections d.root.members d'.root.members := by
  induction sections using List.reverseRecOn generalizing statements with
  | nil =>
    cases tell
    exact ⟨d, rfl, by simp, fun name nonempty => absurd rfl nonempty, fun _ _ => rfl⟩
  | append_singleton sections s ih =>
    rw [List.flatMap_append, List.flatMap_singleton] at tell
    obtain ⟨before, behind, rfl, told, tells⟩ := exists_of_forall₂_append tell
    obtain ⟨apart, -, last⟩ := List.pairwise_append.1 apart
    obtain ⟨distinct, distinctLast⟩ := List.forall_mem_append.1 distinct
    obtain ⟨fresh, freshLast⟩ := List.forall_mem_append.1 fresh
    obtain ⟨d', folded, outlines⟩ := ih apart distinct fresh told
    obtain ⟨d'', foldedLast, outlines'⟩ := outlines.concat
      (fun t member => last t member s (List.mem_singleton_self s)) (freshLast s (by simp))
      (distinctLast s (by simp)) tells
    refine ⟨d'', ?_, outlines'⟩
    rw [List.foldlM_append, folded]
    exact foldedLast

/-! ## Texts of sections -/

theorem parse?_lines {text : String} {lines : List Line} (writes : WritesLines text.toList lines)
    (fits : ∀ line ∈ lines, line.Fits) :
    ∃ statements, List.Forall₂ Line.Tells lines statements ∧
      parse? text = (statements.foldlM Draft.apply Draft.empty).map fun d => d.root.members := by
  have enough : lines.length < text.toList.length + 1 :=
    Nat.lt_succ_of_le (length_le_of_writesLines writes)
  obtain ⟨statements, read, told⟩ := readStatements_text writes fits enough
  refine ⟨statements, told, ?_⟩
  have unmarked := not_marked_of_writesLines writes
  unfold parse?
  generalize text.toList = t at read unmarked
  have reads (cs : List Char) (same : cs = t) :
      readStatements (cs.length + 1) cs = some statements := by rw [same, read]
  simp only
  rw [reads]
  split
  next cs => exact absurd rfl unmarked
  next => rfl

/-- The members in front of all headers: one empty array, or none. -/
def Starts (top : Option String) (start : Members) : Prop :=
  (∀ name, top = some name → ∃ span, member? name start = some (.array span [])) ∧
    ∀ name, top ≠ some name → member? name start = none

theorem apply_top {top : Option String} {statements : List Statement}
    (tell : List.Forall₂ Line.Tells (top.toList.map .emptyArray) statements) :
    ∃ d, statements.foldlM Draft.apply Draft.empty = some d ∧ Starts top d.root.members := by
  cases top with
  | none =>
    cases tell
    exact ⟨_, rfl, fun _ same => absurd same (by simp), fun _ _ => rfl⟩
  | some name =>
    cases tell with
    | cons first others =>
      cases first with
      | emptyArray key span =>
        cases others
        obtain ⟨root, extended, -, updates⟩ := extend_fresh ⟨name, key⟩
          (t := Draft.empty.root) rfl (.array span [])
        refine ⟨⟨root, []⟩, ?_, fun n same => ?_, fun n other => ?_⟩
        · have applied : Draft.empty.apply (.pair ⟨[], name, key⟩ (.array span [])) =
              some ⟨root, []⟩ := by
            rw [Draft.apply, Draft.empty, descend]
            exact congrArg (Option.map _) extended
          rw [List.foldlM_cons, applied]
          rfl
        · cases same
          exact ⟨span, updates.here⟩
        · exact updates.elsewhere fun same => other (congrArg some same.symm)

theorem parse?_sections {text : String} {top : Option String} {sections : List Section}
    (writes : WritesLines text.toList
      (top.toList.map .emptyArray ++ sections.flatMap Section.lines))
    (fits : ∀ s ∈ sections, ∀ p ∈ s.entries, p.2.Fits) (apart : sections.Pairwise Apart)
    (distinct : ∀ s ∈ sections, (s.entries.map (·.1)).Nodup)
    (fresh : ∀ s ∈ sections, top ≠ some s.name) :
    ∃ start members, parse? text = some members ∧ Starts top start ∧
      Outlines sections start members := by
  have all : ∀ line ∈ top.toList.map .emptyArray ++ sections.flatMap Section.lines, line.Fits := by
    refine List.forall_mem_append.2 ⟨fun line member => ?_, fun line member => ?_⟩
    · obtain ⟨name, -, rfl⟩ := List.mem_map.1 member
      trivial
    · obtain ⟨s, known, member⟩ := List.mem_flatMap.1 member
      rcases List.mem_cons.1 member with rfl | pair
      · rw [Section.header]
        split <;> trivial
      · obtain ⟨p, entry, rfl⟩ := List.mem_map.1 pair
        exact fits s known p entry
  obtain ⟨statements, told, read⟩ := parse?_lines writes all
  obtain ⟨before, behind, rfl, told, tells⟩ := exists_of_forall₂_append told
  obtain ⟨d, folded, starts⟩ := apply_top told
  obtain ⟨d', foldedLast, outlines⟩ := apply_sections apart distinct
    (fun s member => starts.2 s.name (fresh s member)) tells
  refine ⟨d.root.members, d'.root.members, ?_, starts, outlines⟩
  rw [read, List.foldlM_append, folded]
  exact (congrArg _ foldedLast).trans rfl

end FleetWatch.Toml
