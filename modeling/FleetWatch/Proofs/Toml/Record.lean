import FleetWatch.Proofs.Json.WellFormed
import FleetWatch.Proofs.Toml.WellFormed
import FleetWatch.Toml.Decode
import Mathlib.Data.List.Perm.Basic

/-!
# Records overlaid by tables

A record is what its fields hold.  A table overlays it: a field whose key is there gets what is
written, every other keeps what it had; neither the order of the keys nor those of no field matter.

* `overlay_eq_ok_iff`: the overlaid record, field by field.
* `exists_overlay_iff`: a table overlays a record if every key of a field has a value for it.
* `Restated.rel`: a table with the same known keys in another order says the same.
-/

namespace FleetWatch.Toml

/-! ## Members by name -/

def member? (name : String) (members : Members) : Option Toml :=
  (members.find? (·.1.name = name)).map (·.2)

section
variable {name : String} {members : Members}

theorem member?_cons (key : Key) (value : Toml) :
    member? name ((key, value) :: members) =
      if key.name = name then some value else member? name members := by
  unfold member?
  by_cases here : key.name = name <;> simp [here]

theorem member?_eq_none (absent : name ∉ members.map (·.1.name)) : member? name members = none := by
  have none : members.find? (·.1.name = name) = none := by
    refine List.find?_eq_none.2 fun m member => ?_
    simpa using fun same : m.1.name = name => absent (same ▸ List.mem_map_of_mem member)
  rw [member?, none, Option.map_none]

theorem mem_of_member? {value : Toml} (found : member? name members = some value) :
    ∃ key : Key, key.name = name ∧ (key, value) ∈ members := by
  obtain ⟨⟨key, v⟩, first, rfl⟩ := Option.map_eq_some_iff.1 found
  exact ⟨key, by simpa using List.find?_some first, List.mem_of_find?_eq_some first⟩

theorem member?_of_mem (distinct : (members.map (·.1.name)).Nodup) {key : Key} {value : Toml}
    (member : (key, value) ∈ members) : member? key.name members = some value := by
  induction members with
  | nil => cases member
  | cons m members ih =>
    obtain ⟨k, v⟩ := m
    obtain ⟨fresh, distinct⟩ := List.nodup_cons.1 distinct
    rw [member?_cons]
    rcases List.mem_cons.1 member with same | later
    · cases same
      rw [if_pos rfl]
    · have apart : k.name ≠ key.name := fun same =>
        fresh (show k.name ∈ _ from same ▸ List.mem_map_of_mem later)
      rw [if_neg apart]
      exact ih distinct later

end

/-! ## Fields -/

/-- A field of a record: its key, what a value does to it and what it holds; then what a value of a
document has to do with it: what it writes, whether it has the right type, and when two of them are
alike. -/
structure RecordField (α : Type) where
  Value : Type
  name : String
  decode : Decoder Value
  update : Value → α → α
  get : α → Value
  Writes : Toml → Value → Prop
  Fits : Toml → Prop
  Alike : Toml → Toml → Prop

def RecordField.setting (f : RecordField α) : Setting α := .of f.name f.decode f.update

/-- A record is what its fields hold, and each of them by itself. -/
structure Lawful (fields : List (RecordField α)) : Prop where
  names : (fields.map (·.name)).Nodup
  get_update : ∀ f ∈ fields, ∀ y a, f.get (f.update y a) = y
  apart : ∀ f ∈ fields, ∀ g ∈ fields, f.name ≠ g.name → ∀ y a, f.get (g.update y a) = f.get a
  ext : ∀ a b, (∀ f ∈ fields, f.get a = f.get b) → a = b

/-- A value at the key of a field is decoded as what it writes, and writes something if it fits. -/
def Faithful (fields : List (RecordField α)) (members : Members) : Prop :=
  ∀ f ∈ fields, ∀ v, member? f.name members = some v →
    (∀ y, f.decode v = .ok y ↔ f.Writes v y) ∧ ((∃ y, f.Writes v y) ↔ f.Fits v)

/-- What is at a key overlays what was there. -/
def Overlaid (writes : Toml → α → Prop) (default : α) : Option Toml → α → Prop
  | none, a => a = default
  | some v, a => writes v a

/-- The record keeps its defaults but for the keys that are there. -/
def Overlays (fields : List (RecordField α)) (default : α) (members : Members) (a : α) : Prop :=
  ∀ f ∈ fields, Overlaid f.Writes (f.get default) (member? f.name members) (f.get a)

/-- The keys that are there have values of their types. -/
def Typed (fields : List (RecordField α)) (members : Members) : Prop :=
  ∀ f ∈ fields, ∀ v, member? f.name members = some v → f.Fits v

section
variable {α : Type} {fields : List (RecordField α)}

theorem find?_setting (name : String) :
    (fields.map RecordField.setting).find? (·.name == name) =
      (fields.find? (·.name == name)).map RecordField.setting := by
  rw [List.find?_map]
  rfl

theorem setMember_of_known (lawful : Lawful fields) {f : RecordField α}
    (known : f ∈ fields) {key : Key} (same : f.name = key.name) (value : Toml) (a b : α) :
    setMember (fields.map RecordField.setting) a (key, value) = .ok b ↔
      ∃ y, f.decode value = .ok y ∧ f.update y a = b := by
  have found : fields.find? (·.name == key.name) = some f := by
    cases first : fields.find? (·.name == key.name) with
    | none => exact absurd same (by simpa using List.find?_eq_none.1 first f known)
    | some g =>
      have named : g.name = key.name := by simpa using List.find?_some first
      rw [List.inj_on_of_nodup_map lawful.names (List.mem_of_find?_eq_some first) known
        (named.trans same.symm)]
  simp only [setMember, find?_setting, found, Option.map_some, RecordField.setting, Setting.of]
  cases f.decode value with
  | error e => simp [Except.map, Except.mapError]
  | ok y => simp [Except.map, Except.mapError]

theorem setMember_of_unknown {key : Key} (unknown : ∀ f ∈ fields, f.name ≠ key.name) (value : Toml)
    (a : α) : setMember (fields.map RecordField.setting) a (key, value) = .ok a := by
  have none : fields.find? (·.name == key.name) = none :=
    List.find?_eq_none.2 fun f member => by simpa using unknown f member
  rw [setMember, find?_setting, none, Option.map_none]

theorem overlay_cons (settings : List (Setting α)) (m : Key × Toml) (members : Members) (a b : α) :
    overlay settings (m :: members) a = .ok b ↔
      ∃ a', setMember settings a m = .ok a' ∧ overlay settings members a' = .ok b := by
  rw [overlay, List.foldlM_cons, bind_eq_ok]
  rfl

theorem Faithful.tail {key : Key} {value : Toml} {members : Members}
    (faithful : Faithful fields ((key, value) :: members))
    (fresh : key.name ∉ members.map (·.1.name)) : Faithful fields members := by
  intro f known v found
  refine faithful f known v ?_
  obtain ⟨k, named, member⟩ := mem_of_member? found
  rw [member?_cons, if_neg fun same => fresh ?_]
  · exact found
  · rw [same, ← named]
    exact List.mem_map_of_mem member

theorem overlay_eq_ok_iff (lawful : Lawful fields) {members : Members}
    (distinct : (members.map (·.1.name)).Nodup) (faithful : Faithful fields members) (a b : α) :
    overlay (fields.map RecordField.setting) members a = .ok b ↔ Overlays fields a members b := by
  induction members generalizing a with
  | nil =>
    constructor
    · intro same f known
      cases same
      rfl
    · intro same
      exact congrArg Except.ok (lawful.ext a b fun f known => (same f known).symm)
  | cons m members ih =>
    obtain ⟨key, value⟩ := m
    obtain ⟨fresh, distinct⟩ := List.nodup_cons.1 distinct
    have ih := ih distinct (faithful.tail fresh)
    rw [overlay_cons]
    by_cases known : ∃ f ∈ fields, f.name = key.name
    · obtain ⟨f, known, same⟩ := known
      have here : member? f.name ((key, value) :: members) = some value := by
        rw [member?_cons, if_pos same.symm]
      have absent : member? f.name members = none := member?_eq_none (same ▸ fresh)
      -- The key is that of one field, and the others do not see what is done to it.
      have others {g : RecordField α} (other : g ∈ fields) (apart : g.name ≠ f.name) :
          member? g.name ((key, value) :: members) = member? g.name members := by
        rw [member?_cons, if_neg fun named => apart (by rw [same, named])]
      constructor
      · rintro ⟨a', set, rest⟩ g other
        obtain ⟨y, decoded, rfl⟩ := (setMember_of_known lawful known same value a a').1 set
        have rest := (ih (f.update y a)).1 rest
        by_cases apart : g.name = f.name
        · cases List.inj_on_of_nodup_map lawful.names other known apart
          have kept := rest f known
          rw [absent] at kept
          rw [here, show f.get b = y from kept.trans (lawful.get_update f known y a)]
          exact ((faithful f known value here).1 y).1 decoded
        · have kept := rest g other
          rwa [lawful.apart g other f known apart, ← others other apart] at kept
      · intro all
        have written := all f known
        rw [here] at written
        refine ⟨f.update (f.get b) a, (setMember_of_known lawful known same value a _).2
          ⟨f.get b, ((faithful f known value here).1 _).2 written, rfl⟩, (ih _).2 fun g other => ?_⟩
        by_cases apart : g.name = f.name
        · cases List.inj_on_of_nodup_map lawful.names other known apart
          rw [absent]
          exact (lawful.get_update f known _ a).symm
        · rw [lawful.apart g other f known apart, ← others other apart]
          exact all g other
    · have unknown : ∀ f ∈ fields, f.name ≠ key.name := fun f member same => known ⟨f, member, same⟩
      have skips : ∀ f ∈ fields,
          member? f.name ((key, value) :: members) = member? f.name members := by
        intro f member
        rw [member?_cons, if_neg fun same => unknown f member same.symm]
      simp only [setMember_of_unknown unknown, Except.ok.injEq, exists_eq_left', ih]
      exact forall₂_congr fun f member => by rw [skips f member]

theorem exists_overlay_iff (lawful : Lawful fields) {members : Members}
    (distinct : (members.map (·.1.name)).Nodup) (faithful : Faithful fields members) (a : α) :
    (∃ b, overlay (fields.map RecordField.setting) members a = .ok b) ↔ Typed fields members := by
  induction members generalizing a with
  | nil => exact iff_of_true ⟨a, rfl⟩ fun f _ v found => by simp [member?] at found
  | cons m members ih =>
    obtain ⟨key, value⟩ := m
    obtain ⟨fresh, distinct⟩ := List.nodup_cons.1 distinct
    have ih := ih distinct (faithful.tail fresh)
    simp only [overlay_cons]
    by_cases known : ∃ f ∈ fields, f.name = key.name
    · obtain ⟨f, known, same⟩ := known
      have here : member? f.name ((key, value) :: members) = some value := by
        rw [member?_cons, if_pos same.symm]
      obtain ⟨writes, fits⟩ := faithful f known value here
      constructor
      · rintro ⟨b, a', set, rest⟩ g other v found
        obtain ⟨y, decoded, -⟩ := (setMember_of_known lawful known same value a a').1 set
        by_cases apart : g.name = f.name
        · cases List.inj_on_of_nodup_map lawful.names other known apart
          cases here.symm.trans found
          exact fits.1 ⟨y, (writes y).1 decoded⟩
        · rw [member?_cons, if_neg fun named => apart (by rw [same, named])] at found
          exact (ih a').1 ⟨b, rest⟩ g other v found
      · intro all
        obtain ⟨y, written⟩ := fits.2 (all f known value here)
        obtain ⟨b, rest⟩ := (ih (f.update y a)).2 fun g other v found => by
          refine all g other v ?_
          rw [member?_cons, if_neg fun named => ?_, found]
          rw [← named, member?_eq_none fresh] at found
          cases found
        exact ⟨b, _, (setMember_of_known lawful known same value a _).2
          ⟨y, (writes y).2 written, rfl⟩, rest⟩
    · have unknown : ∀ f ∈ fields, f.name ≠ key.name := fun f member same => known ⟨f, member, same⟩
      simp only [setMember_of_unknown unknown, Except.ok.injEq, exists_eq_left', ih]
      exact forall₂_congr fun f member => by
        rw [member?_cons, if_neg fun same => unknown f member same.symm]

end

/-! ## The same known keys -/

def isKnown (fields : List (RecordField α)) (m : Key × Toml) : Bool :=
  fields.any (·.name = m.1.name)

/-- The members of known keys are, in some order, one by one those of the other table, with values
that are alike; members of other keys are not looked at. -/
def Restated (fields : List (RecordField α)) (members others : Members) : Prop :=
  ∃ ordered : Members, ordered.Perm (members.filter (isKnown fields)) ∧
    List.Forall₂ (fun m o => m.1.name = o.1.name ∧
      ∀ f ∈ fields, f.name = m.1.name → f.Alike m.2 o.2) ordered (others.filter (isKnown fields))

section
variable {α : Type} {fields : List (RecordField α)} {members others : Members}

theorem member?_filter {f : RecordField α} (known : f ∈ fields) (members : Members) :
    member? f.name (members.filter (isKnown fields)) = member? f.name members := by
  unfold member?
  rw [List.find?_filter]
  congr 2
  funext m
  by_cases here : m.1.name = f.name
  · have knows : isKnown fields m = true := by
      simpa [isKnown] using ⟨f, known, here.symm⟩
    simp [here, knows]
  · simp [here]

theorem member?_perm (perm : members.Perm others) (distinct : (members.map (·.1.name)).Nodup)
    (name : String) : member? name members = member? name others := by
  have distinct' : (others.map (·.1.name)).Nodup := (perm.map _).nodup_iff.1 distinct
  cases found : member? name members with
  | some v =>
    obtain ⟨key, rfl, member⟩ := mem_of_member? found
    exact (member?_of_mem distinct' (perm.mem_iff.1 member)).symm
  | none =>
    cases found' : member? name others with
    | none => rfl
    | some v =>
      obtain ⟨key, rfl, member⟩ := mem_of_member? found'
      rw [member?_of_mem distinct (perm.mem_iff.2 member)] at found
      cases found

theorem member?_forall₂ {f : RecordField α} (known : f ∈ fields)
    (all : List.Forall₂ (fun m o => m.1.name = o.1.name ∧
      ∀ f ∈ fields, f.name = m.1.name → f.Alike m.2 o.2) members others) :
    Option.Rel f.Alike (member? f.name members) (member? f.name others) := by
  induction all with
  | nil => exact .none
  | @cons m o members others first _ ih =>
    obtain ⟨key, v⟩ := m
    obtain ⟨key', v'⟩ := o
    obtain ⟨same, alike⟩ := first
    rw [member?_cons, member?_cons, ← show key.name = key'.name from same]
    split
    next here => exact .some (alike f known here.symm)
    next => exact ih

theorem Restated.rel (restated : Restated fields members others)
    (distinct : (members.map (·.1.name)).Nodup) {f : RecordField α} (known : f ∈ fields) :
    Option.Rel f.Alike (member? f.name members) (member? f.name others) := by
  obtain ⟨ordered, perm, all⟩ := restated
  have kept : ((members.filter (isKnown fields)).map (·.1.name)).Nodup :=
    distinct.sublist (List.filter_sublist.map _)
  have rel := member?_forall₂ known all
  rwa [member?_perm perm ((perm.map _).nodup_iff.2 kept), member?_filter known,
    member?_filter known] at rel

/-- Tables that say the same of the known keys overlay a record alike. -/
theorem Restated.overlays_iff (restated : Restated fields members others)
    (distinct : (members.map (·.1.name)).Nodup)
    (alike : ∀ f ∈ fields, ∀ v w, member? f.name members = some v → f.Alike v w →
      ∀ y, f.Writes v y ↔ f.Writes w y) (default a : α) :
    Overlays fields default members a ↔ Overlays fields default others a := by
  refine forall₂_congr fun f known => ?_
  have rel := restated.rel distinct known
  cases found : member? f.name members with
  | none =>
    cases found' : member? f.name others with
    | none => rfl
    | some w =>
      rw [found, found'] at rel
      cases rel
  | some v =>
    cases found' : member? f.name others with
    | none =>
      rw [found, found'] at rel
      cases rel
    | some w =>
      rw [found, found'] at rel
      cases rel with
      | some goes => exact alike f known v w found goes (f.get a)

end

end FleetWatch.Toml
