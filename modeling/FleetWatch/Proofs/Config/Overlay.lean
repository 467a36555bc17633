import FleetWatch.Config.Document
import FleetWatch.Proofs.Pointwise
import FleetWatch.Proofs.Toml.Record

/-!
# The configuration overlays the defaults

A document overlays the default configuration with the keys that it has, each of them by itself;
keys of no setting and the order of keys do not matter.  A list of endpoints is taken as a whole.

* `decodeString_eq_ok` and its kind: what is decoded, by the shape of the value.
* `Config.faithful`: every setting of a document is decoded as what its value writes.
* `Config.parse_overlays`: when a document is a configuration, which one, and what does not matter.
-/

namespace FleetWatch

namespace Toml

/-! ## What a value writes -/

def scalar? : Toml → Option Scalar
  | .scalar _ x => some x
  | _ => none

def items? : Toml → Option (List Toml)
  | .array _ items => some items
  | .tables items => some items
  | _ => none

def WritesText (v : Toml) (s : String) : Prop := v.scalar? = some (.string s)

def WritesTruth (v : Toml) (b : Bool) : Prop := v.scalar? = some (.boolean b)

def WritesNat (v : Toml) (n : Nat) : Prop := v.scalar? = some (.integer n)

def WritesTable (overlays : Members → α → Prop) (v : Toml) (a : α) : Prop :=
  ∃ origin span members, v = .table origin span members ∧ overlays members a

def WritesList (writes : Toml → α → Prop) (v : Toml) (as : List α) : Prop :=
  ∃ items, v.items? = some items ∧ List.Forall₂ writes items as

def IsText (v : Toml) : Prop := ∃ s, v.scalar? = some (.string s)

def IsTruth (v : Toml) : Prop := ∃ b, v.scalar? = some (.boolean b)

def IsNatural (v : Toml) : Prop := ∃ i, v.scalar? = some (.integer i) ∧ 0 ≤ i

def IsPort (v : Toml) : Prop := ∃ i, v.scalar? = some (.integer i) ∧ 0 ≤ i ∧ i ≤ 65535

def IsTable (P : Members → Prop) (v : Toml) : Prop :=
  ∃ origin span members, v = .table origin span members ∧ P members

def IsList (P : Toml → Prop) (v : Toml) : Prop := ∃ items, v.items? = some items ∧ ∀ t ∈ items, P t

def AlikeScalars (v w : Toml) : Prop := v.scalar? = w.scalar?

def AlikeTables (fields : List (RecordField α)) (v w : Toml) : Prop :=
  ∃ origin span members origin' span' members', v = .table origin span members ∧
    w = .table origin' span' members' ∧ Restated fields members members'

def AlikeLists (alike : Toml → Toml → Prop) (v w : Toml) : Prop :=
  ∃ items items', v.items? = some items ∧ w.items? = some items' ∧ List.Forall₂ alike items items'

/-! ## Scalars -/

theorem map_eq_ok {ε α β : Type} {x : Except ε α} {f : α → β} {b : β} :
    x.map f = .ok b ↔ ∃ a, x = .ok a ∧ f a = b := by
  cases x with
  | error e => simp [Except.map]
  | ok a => simp [Except.map]

theorem toOption_eq_some {ε α : Type} {x : Except ε α} {a : α} :
    x.toOption = some a ↔ x = .ok a := by
  cases x <;> simp [Except.toOption]

theorem scalar?_eq_some {v : Toml} {x : Scalar} :
    v.scalar? = some x ↔ ∃ span, v = .scalar span x := by
  cases v <;> simp [scalar?]

theorem decodeString_eq_ok {v : Toml} {s : String} : decodeString v = .ok s ↔ WritesText v s := by
  rw [WritesText, scalar?_eq_some]
  unfold decodeString
  split
  next span t => simp
  next other => simpa using fun span same => other span s same

theorem decodeBool_eq_ok {v : Toml} {b : Bool} : decodeBool v = .ok b ↔ WritesTruth v b := by
  rw [WritesTruth, scalar?_eq_some]
  unfold decodeBool
  split
  next span t => simp
  next other => simpa using fun span same => other span b same

theorem decodeNat_eq_ok {bound : Nat} {expected : String} {v : Toml} {n : Nat} :
    decodeNat bound expected v = .ok n ↔ WritesNat v n ∧ n < bound := by
  rw [WritesNat, scalar?_eq_some]
  unfold decodeNat
  split
  next span i =>
    split
    next fits =>
      simp only [Except.ok.injEq, Toml.scalar.injEq, Scalar.integer.injEq, exists_eq_left']
      omega
    next outside =>
      simp only [reduceCtorEq, Toml.scalar.injEq, Scalar.integer.injEq, exists_eq_left', false_iff]
      omega
  next other => simpa using fun span same => absurd same (other span _)

theorem decodeUInt64_eq_ok {v : Toml} {n : UInt64} :
    decodeUInt64 v = .ok n ↔ WritesNat v n.toNat := by
  rw [decodeUInt64, map_eq_ok]
  constructor
  · rintro ⟨m, decoded, rfl⟩
    obtain ⟨writes, fits⟩ := decodeNat_eq_ok.1 decoded
    rwa [UInt64.toNat_ofNat_of_lt' fits]
  · exact fun writes => ⟨n.toNat, decodeNat_eq_ok.2 ⟨writes, n.toNat_lt⟩, UInt64.ofNat_toNat⟩

theorem decodeUInt16_eq_ok {v : Toml} {n : UInt16} :
    decodeUInt16 v = .ok n ↔ WritesNat v n.toNat := by
  rw [decodeUInt16, map_eq_ok]
  constructor
  · rintro ⟨m, decoded, rfl⟩
    obtain ⟨writes, fits⟩ := decodeNat_eq_ok.1 decoded
    rwa [UInt16.toNat_ofNat_of_lt' fits]
  · exact fun writes => ⟨n.toNat, decodeNat_eq_ok.2 ⟨writes, n.toNat_lt⟩, UInt16.ofNat_toNat⟩

/-- Every natural number of a text fits, since its integers have 64 bits. -/
theorem exists_writesNatural {v : Toml} (wellFormed : v.WellFormed) :
    (∃ n : UInt64, WritesNat v n.toNat) ↔ IsNatural v := by
  constructor
  · exact fun ⟨n, writes⟩ => ⟨_, writes, Int.natCast_nonneg _⟩
  · rintro ⟨i, whole, nonneg⟩
    obtain ⟨span, rfl⟩ := scalar?_eq_some.1 whole
    cases wellFormed with
    | scalar fits =>
      have most : i ≤ 9223372036854775807 := (fits i rfl).2
      have size : UInt64.size = 2 ^ 64 := rfl
      have small : i.toNat < UInt64.size := by omega
      refine ⟨UInt64.ofNat i.toNat, ?_⟩
      rw [WritesNat, UInt64.toNat_ofNat_of_lt' small, Int.toNat_of_nonneg nonneg]
      rfl

theorem exists_writesPort {v : Toml} : (∃ n : UInt16, WritesNat v n.toNat) ↔ IsPort v := by
  constructor
  · rintro ⟨n, writes⟩
    have fits := n.toNat_lt
    exact ⟨_, writes, by omega, by omega⟩
  · rintro ⟨i, whole, nonneg, most⟩
    have size : UInt16.size = 2 ^ 16 := rfl
    have small : i.toNat < UInt16.size := by omega
    refine ⟨UInt16.ofNat i.toNat, ?_⟩
    rw [WritesNat, UInt16.toNat_ofNat_of_lt' small, Int.toNat_of_nonneg nonneg]
    exact whole

/-! ## Tables and lists -/

theorem decodeRecord_table {fields : List (RecordField α)} (lawful : Lawful fields)
    (faithful : ∀ members : Members, members.WellFormed → Faithful fields members) (name : String)
    (default : α) {v : Toml} (wellFormed : v.WellFormed) (table : v.IsTable fun _ => True) :
    (∀ a, decodeRecord name (fields.map RecordField.setting) default v = .ok a ↔
      WritesTable (Overlays fields default) v a) ∧
    ((∃ a, WritesTable (Overlays fields default) v a) ↔ v.IsTable (Typed fields)) := by
  obtain ⟨origin, span, members, rfl, -⟩ := table
  have inner := wellFormed_table.1 wellFormed
  have reads := overlay_eq_ok_iff lawful inner.distinct (faithful members inner) default
  have exists' := exists_overlay_iff lawful inner.distinct (faithful members inner) default
  constructor
  · intro a
    rw [decodeRecord, reads]
    simp [WritesTable]
  · rw [← exists_congr fun a => (reads a).symm] at exists'
    simpa [WritesTable, IsTable] using exists'

theorem mapM_eq_ok {ε α β : Type} {f : α → Except ε β} {xs : List α} {ys : List β} :
    xs.mapM f = .ok ys ↔ List.Forall₂ (fun x y => f x = .ok y) xs ys := by
  induction xs generalizing ys with
  | nil => cases ys <;> simp [pure, Except.pure]
  | cons x xs ih =>
    rw [List.mapM_cons, bind_eq_ok]
    simp only [bind_eq_ok, ih]
    constructor
    · rintro ⟨y, first, ys', rest, same⟩
      cases same
      exact .cons first rest
    · rintro (_ | ⟨first, rest⟩)
      exact ⟨_, first, _, rest, rfl⟩

theorem decodeList_list {decode : Decoder α} {writes : Toml → α → Prop} {fits : Toml → Prop}
    {v : Toml} {items : List Toml} (list : v.items? = some items)
    (each : ∀ t ∈ items, (∀ a, decode t = .ok a ↔ writes t a) ∧ ((∃ a, writes t a) ↔ fits t)) :
    (∀ as, decodeList decode v = .ok as ↔ WritesList writes v as) ∧
      ((∃ as, WritesList writes v as) ↔ v.IsList fits) := by
  have decoded : decodeList decode v = items.mapM decode := by
    cases v with
    | array span items' =>
      cases list
      rfl
    | tables items' =>
      cases list
      rfl
    | scalar span x => cases list
    | table origin span members => cases list
  constructor
  · intro as
    rw [decoded, mapM_eq_ok, forall₂_congr_left (fun t member => (each t member).1)]
    simp [WritesList, list]
  · have all := exists_forall₂.trans (forall₂_congr fun t member => (each t member).2)
    simpa [WritesList, IsList, list] using all

/-! ## Values that are alike -/

/-- Values that are alike write the same. -/
def Coherent (fields : List (RecordField α)) : Prop :=
  ∀ f ∈ fields, ∀ v w, f.Alike v w → ∀ y, f.Writes v y ↔ f.Writes w y

theorem AlikeScalars.iff {v w : Toml} (goes : AlikeScalars v w) (x : Scalar) :
    v.scalar? = some x ↔ w.scalar? = some x := by
  rw [show v.scalar? = w.scalar? from goes]

theorem AlikeTables.writes_iff {fields : List (RecordField α)} {v w : Toml}
    (alike : AlikeTables fields v w) (wellFormed : v.WellFormed) (coherent : Coherent fields)
    (default a : α) :
    WritesTable (Overlays fields default) v a ↔ WritesTable (Overlays fields default) w a := by
  obtain ⟨origin, span, members, origin', span', members', rfl, rfl, restated⟩ := alike
  have same := restated.overlays_iff (wellFormed_table.1 wellFormed).distinct
    (fun f known v w _ goes => coherent f known v w goes) default a
  simpa [WritesTable] using same

theorem wellFormed_of_items? {v : Toml} (wellFormed : v.WellFormed) {items : List Toml}
    (list : v.items? = some items) : ∀ t ∈ items, t.WellFormed := by
  cases wellFormed with
  | array all =>
    cases list
    exact all
  | tables all =>
    cases list
    exact all
  | scalar fits => cases list
  | table distinct all => cases list

theorem AlikeLists.writes_iff {alike : Toml → Toml → Prop} {writes : Toml → α → Prop} {v w : Toml}
    (lists : AlikeLists alike v w) (wellFormed : v.WellFormed)
    (each : ∀ t u, t.WellFormed → alike t u → ∀ a, writes t a ↔ writes u a) (as : List α) :
    WritesList writes v as ↔ WritesList writes w as := by
  obtain ⟨items, items', list, list', goes⟩ := lists
  have all := wellFormed_of_items? wellFormed list
  simp only [WritesList, list, list', Option.some.injEq, exists_eq_left']
  clear list list'
  induction goes generalizing as with
  | nil => rfl
  | cons goes _ ih =>
    obtain ⟨first, others⟩ := List.forall_mem_cons.1 all
    cases as with
    | nil => simp
    | cons a as =>
      rw [List.forall₂_cons, List.forall₂_cons]
      exact and_congr (each _ _ first goes a) (ih as others)

end Toml

open Toml

/-! ## The records of a configuration -/

/-- A key with a natural number of 64 bits. -/
def naturalField (name : String) (update : UInt64 → α → α) (get : α → UInt64) : RecordField α :=
  ⟨_, name, decodeUInt64, update, get, fun v n => WritesNat v n.toNat, IsNatural, AlikeScalars⟩

def textField (name : String) (update : String → α → α) (get : α → String) : RecordField α :=
  ⟨_, name, decodeString, update, get, WritesText, IsText, AlikeScalars⟩

def Dashboard.record : List (RecordField Dashboard) :=
  [naturalField "refresh_interval_ms" (fun n d => { d with refreshIntervalMs := n })
      (·.refreshIntervalMs),
    naturalField "request_timeout_ms" (fun n d => { d with requestTimeoutMs := n })
      (·.requestTimeoutMs),
    textField "status_path" (fun s d => { d with statusPath := s }) (·.statusPath),
    textField "user_agent" (fun s d => { d with userAgent := s }) (·.userAgent)]

def Webserver.record : List (RecordField Webserver) :=
  [⟨_, "enabled", decodeBool, fun b w => { w with enabled := b }, (·.enabled), WritesTruth, IsTruth,
      AlikeScalars⟩,
    textField "host" (fun s w => { w with host := s }) (·.host),
    ⟨_, "port", decodeUInt16, fun n w => { w with port := n }, (·.port),
      fun v n => WritesNat v n.toNat, IsPort, AlikeScalars⟩]

def EndpointEntry.record : List (RecordField EndpointEntry) :=
  [textField "name" (fun s e => { e with name := s }) (·.name),
    textField "base_url" (fun s e => { e with baseUrl := s }) (·.baseUrl)]

def Config.record : List (RecordField Config) :=
  [⟨_, "dashboard", Dashboard.decode, fun d c => { c with dashboard := d }, (·.dashboard),
      WritesTable (Overlays Dashboard.record {}), IsTable (Typed Dashboard.record),
      AlikeTables Dashboard.record⟩,
    ⟨_, "webserver", Webserver.decode, fun w c => { c with webserver := w }, (·.webserver),
      WritesTable (Overlays Webserver.record {}), IsTable (Typed Webserver.record),
      AlikeTables Webserver.record⟩,
    ⟨_, "endpoints", decodeList EndpointEntry.decode, fun es c => { c with endpoints := es },
      (·.endpoints), WritesList (WritesTable (Overlays EndpointEntry.record ⟨"", ""⟩)),
      IsList (IsTable (Typed EndpointEntry.record)), AlikeLists (AlikeTables EndpointEntry.record)⟩]

theorem Dashboard.lawful : Lawful record where
  names := by decide
  get_update := by simp [record, naturalField, textField]
  apart := by simp [record, naturalField, textField]
  ext := by
    rintro ⟨_, _, _, _⟩ ⟨_, _, _, _⟩
    simp [record, naturalField, textField]

theorem Webserver.lawful : Lawful record where
  names := by decide
  get_update := by simp [record, textField]
  apart := by simp [record, textField]
  ext := by
    rintro ⟨_, _, _⟩ ⟨_, _, _⟩
    simp [record, textField]

theorem EndpointEntry.lawful : Lawful record where
  names := by decide
  get_update := by simp [record, textField]
  apart := by simp [record, textField]
  ext := by
    rintro ⟨_, _⟩ ⟨_, _⟩
    simp [record, textField]

theorem Config.lawful : Lawful record where
  names := by decide
  get_update := by simp [record]
  apart := by simp [record]
  ext := by
    rintro ⟨_, _, _⟩ ⟨_, _, _⟩
    simp [record]

theorem Dashboard.coherent : Coherent record := by
  simp only [Coherent, record, naturalField, textField, List.forall_mem_cons, List.not_mem_nil,
    false_implies, implies_true, and_true]
  exact ⟨fun _ _ goes _ => goes.iff _, fun _ _ goes _ => goes.iff _, fun _ _ goes _ => goes.iff _,
    fun _ _ goes _ => goes.iff _⟩

theorem Webserver.coherent : Coherent record := by
  simp only [Coherent, record, textField, List.forall_mem_cons, List.not_mem_nil, false_implies,
    implies_true, and_true]
  exact ⟨fun _ _ goes _ => goes.iff _, fun _ _ goes _ => goes.iff _, fun _ _ goes _ => goes.iff _⟩

theorem EndpointEntry.coherent : Coherent record := by
  simp only [Coherent, record, textField, List.forall_mem_cons, List.not_mem_nil, false_implies,
    implies_true, and_true]
  exact ⟨fun _ _ goes _ => goes.iff _, fun _ _ goes _ => goes.iff _⟩

/-! ## What is decoded -/

theorem faithful_natural {v : Toml} (wellFormed : v.WellFormed) :
    (∀ n, decodeUInt64 v = .ok n ↔ WritesNat v n.toNat) ∧
      ((∃ n : UInt64, WritesNat v n.toNat) ↔ IsNatural v) :=
  ⟨fun _ => decodeUInt64_eq_ok, exists_writesNatural wellFormed⟩

theorem faithful_text {v : Toml} :
    (∀ s, decodeString v = .ok s ↔ WritesText v s) ∧ ((∃ s, WritesText v s) ↔ IsText v) :=
  ⟨fun _ => decodeString_eq_ok, Iff.rfl⟩

theorem wellFormed_of_member? {members : Members} (wellFormed : members.WellFormed) {name : String}
    {v : Toml} (found : member? name members = some v) : v.WellFormed := by
  obtain ⟨key, -, member⟩ := mem_of_member? found
  exact wellFormed.all _ member

theorem Dashboard.faithful {members : Members} (wellFormed : members.WellFormed) :
    Faithful record members := by
  simp only [Faithful, record, List.forall_mem_cons, List.not_mem_nil, false_implies, implies_true,
    and_true]
  exact ⟨fun v found => faithful_natural (wellFormed_of_member? wellFormed found),
    fun v found => faithful_natural (wellFormed_of_member? wellFormed found),
    fun v _ => faithful_text, fun v _ => faithful_text⟩

theorem Webserver.faithful (members : Members) : Faithful record members := by
  simp only [Faithful, record, List.forall_mem_cons, List.not_mem_nil, false_implies, implies_true,
    and_true]
  exact ⟨fun v _ => ⟨fun _ => decodeBool_eq_ok, Iff.rfl⟩, fun v _ => faithful_text,
    fun v _ => ⟨fun _ => decodeUInt16_eq_ok, exists_writesPort⟩⟩

theorem EndpointEntry.faithful (members : Members) : Faithful record members := by
  simp only [Faithful, record, List.forall_mem_cons, List.not_mem_nil, false_implies, implies_true,
    and_true]
  exact ⟨fun v _ => faithful_text, fun v _ => faithful_text⟩

namespace Config

/-- The top-level keys that are there are tables and an array of tables. -/
structure Shaped (members : Members) : Prop where
  dashboard : ∀ v, member? "dashboard" members = some v → v.IsTable fun _ => True
  webserver : ∀ v, member? "webserver" members = some v → v.IsTable fun _ => True
  endpoints : ∀ v, member? "endpoints" members = some v → v.IsList (IsTable fun _ => True)

theorem faithful {members : Members} (wellFormed : members.WellFormed) (shaped : Shaped members) :
    Faithful record members := by
  simp only [Faithful, record, List.forall_mem_cons, List.not_mem_nil, false_implies, implies_true,
    and_true]
  refine ⟨fun v found => ?_, fun v found => ?_, fun v found => ?_⟩
  · exact decodeRecord_table Dashboard.lawful (fun _ inner => Dashboard.faithful inner) _ _
      (wellFormed_of_member? wellFormed found) (shaped.dashboard v found)
  · exact decodeRecord_table Webserver.lawful (fun _ _ => Webserver.faithful _) _ _
      (wellFormed_of_member? wellFormed found) (shaped.webserver v found)
  · obtain ⟨items, list, tables⟩ := shaped.endpoints v found
    refine decodeList_list list fun t member => ?_
    exact decodeRecord_table EndpointEntry.lawful (fun _ _ => EndpointEntry.faithful _) _ _
      (wellFormed_of_items? (wellFormed_of_member? wellFormed found) list t member)
      (tables t member)

theorem ofMembers_eq_ok {members : Members} (wellFormed : members.WellFormed)
    (shaped : Shaped members) {c : Config} :
    ofMembers members = .ok c ↔ Overlays record {} members c :=
  overlay_eq_ok_iff lawful wellFormed.distinct (faithful wellFormed shaped) {} c

theorem exists_ofMembers {members : Members} (wellFormed : members.WellFormed)
    (shaped : Shaped members) : (∃ c, ofMembers members = .ok c) ↔ Typed record members :=
  exists_overlay_iff lawful wellFormed.distinct (faithful wellFormed shaped) {}

theorem parse_eq_ok {text : String} {members : Members} (document : Toml.parse? text = some members)
    {c : Config} : parse text = .ok c ↔ ofMembers members = .ok c := by
  simp only [parse, document]
  cases ofMembers members <;> simp [Except.mapError]

theorem shaped_of_restated {members others : Members} (wellFormed : members.WellFormed)
    (restated : Restated record members others) : Shaped others := by
  have alike {f : RecordField Config} (known : f ∈ record) {w : Toml}
      (found : member? f.name others = some w) : ∃ v, f.Alike v w := by
    have rel := restated.rel wellFormed.distinct known
    rw [found] at rel
    cases before : member? f.name members with
    | none =>
      rw [before] at rel
      cases rel
    | some v =>
      rw [before] at rel
      cases rel with
      | some goes => exact ⟨v, goes⟩
  refine ⟨fun w found => ?_, fun w found => ?_, fun w found => ?_⟩
  · obtain ⟨v, _, _, _, origin, span, inner, -, rfl, -⟩ :=
      alike (f := record[0]) (List.getElem_mem _) found
    exact ⟨origin, span, inner, rfl, trivial⟩
  · obtain ⟨v, _, _, _, origin, span, inner, -, rfl, -⟩ :=
      alike (f := record[1]) (List.getElem_mem _) found
    exact ⟨origin, span, inner, rfl, trivial⟩
  · obtain ⟨v, items, items', -, list, goes⟩ := alike (f := record[2]) (List.getElem_mem _) found
    refine ⟨items', list, forall_mem_of_forall₂ goes.flip ?_⟩
    rintro w v ⟨_, _, _, origin, span, inner, -, rfl, -⟩
    exact ⟨origin, span, inner, rfl, trivial⟩

theorem overlays_of_restated {members others : Members} (wellFormed : members.WellFormed)
    (restated : Restated record members others) (c : Config) :
    Overlays record {} members c ↔ Overlays record {} others c := by
  refine restated.overlays_iff wellFormed.distinct ?_ {} c
  simp only [record, List.forall_mem_cons, List.not_mem_nil, false_implies, implies_true, and_true]
  refine ⟨fun v w found goes y => ?_, fun v w found goes y => ?_, fun v w found goes ys => ?_⟩
  · exact goes.writes_iff (wellFormed_of_member? wellFormed found) Dashboard.coherent {} y
  · exact goes.writes_iff (wellFormed_of_member? wellFormed found) Webserver.coherent {} y
  · exact goes.writes_iff (wellFormed_of_member? wellFormed found)
      (fun t u inner goes e => goes.writes_iff inner EndpointEntry.coherent _ e) ys

/-- A document whose top-level keys are tables and an array of tables is a configuration if its
known keys have values of their types.  It overlays the defaults with these keys, one by one; their
order and all other keys do not matter. -/
theorem parse_overlays {text : String} {members : Members}
    (document : Toml.parse? text = some members) (shaped : Shaped members) :
    ((∃ c, parse text = .ok c) ↔ Typed record members) ∧
      (∀ c, parse text = .ok c ↔ Overlays record {} members c) ∧
        ∀ text' members', Toml.parse? text' = some members' → Restated record members members' →
          (parse text').toOption = (parse text).toOption := by
  have wellFormed := parse?_wellFormed document
  have reads (c : Config) : parse text = .ok c ↔ Overlays record {} members c :=
    (parse_eq_ok document).trans (ofMembers_eq_ok wellFormed shaped)
  refine ⟨?_, reads, fun text' members' document' restated => Option.ext fun c => ?_⟩
  · simp only [parse_eq_ok document]
    exact exists_ofMembers wellFormed shaped
  · have others : parse text' = .ok c ↔ Overlays record {} members' c :=
      (parse_eq_ok document').trans
        (ofMembers_eq_ok (parse?_wellFormed document') (shaped_of_restated wellFormed restated))
    rw [toOption_eq_some, toOption_eq_some, reads, others]
    exact (overlays_of_restated wellFormed restated c).symm

def portTable (table : Option Span) (port value : Span) : Toml :=
  .table .header table [(⟨"port", port⟩, .scalar value (.integer 80))]

/-- The members of a text that sets the port to 80 and nothing else, wherever they stand in it. -/
def portMembers (key : Span) (table : Option Span) (port value : Span) : Members :=
  [(⟨"webserver", key⟩, portTable table port value)]

def isPort : Members → Bool
  | [(⟨"webserver", _⟩, .table .header _ [(⟨"port", _⟩, .scalar _ (.integer 80))])] => true
  | _ => false

/-- The first member is a number under a key of no setting. -/
def isZonedPort : Members → Bool
  | (⟨"zone", _⟩, .scalar _ (.integer 1)) :: members => isPort members
  | _ => false

theorem exists_of_isPort {members : Members} (is : isPort members = true) :
    ∃ key table port value, members = portMembers key table port value := by
  unfold isPort at is
  split at is
  · exact ⟨_, _, _, _, rfl⟩
  · cases is

theorem exists_of_isZonedPort {members : Members} (is : isZonedPort members = true) :
    ∃ zone one key table port value, members =
      (⟨"zone", zone⟩, .scalar one (.integer 1)) :: portMembers key table port value := by
  unfold isZonedPort at is
  split at is
  · obtain ⟨key, table, port, value, rfl⟩ := exists_of_isPort is
    exact ⟨_, _, key, table, port, value, rfl⟩
  · cases is

theorem parse_overlays_port : ∃ members others,
    Toml.parse? "[webserver]\nport = 80\n" = some members ∧ Shaped members ∧
      Toml.parse? "zone = 1\n[webserver]\nport = +80\n" = some others ∧
        Restated record members others ∧
          parse "[webserver]\nport = 80\n" = .ok { webserver := { port := 80 } } ∧
            (parse "zone = 1\n[webserver]\nport = +80\n").toOption =
              some { webserver := { port := 80 } } := by
  obtain ⟨members, document, is⟩ := (Option.any_eq_true _ _).1
    (show (Toml.parse? "[webserver]\nport = 80\n").any isPort = true by decide +kernel)
  obtain ⟨others, document', zoned⟩ := (Option.any_eq_true _ _).1
    (show (Toml.parse? "zone = 1\n[webserver]\nport = +80\n").any isZonedPort = true by
      decide +kernel)
  obtain ⟨key, table, port, value, rfl⟩ := exists_of_isPort is
  obtain ⟨zone, one, key', table', port', value', rfl⟩ := exists_of_isZonedPort zoned
  have shaped : Shaped (portMembers key table port value) := by
    constructor <;> simp [portMembers, portTable, member?, IsTable]
  have alike : AlikeTables Webserver.record (portTable table port value)
      (portTable table' port' value') :=
    ⟨_, _, _, _, _, _, rfl, rfl, _, .refl _, .cons
      ⟨rfl, by simp [Webserver.record, textField, AlikeScalars, scalar?]⟩ .nil⟩
  have restated : Restated record (portMembers key table port value)
      ((⟨"zone", zone⟩, .scalar one (.integer 1)) :: portMembers key' table' port' value') := by
    refine ⟨_, .refl _, .cons ⟨rfl, ?_⟩ .nil⟩
    simp only [record, List.forall_mem_cons]
    exact ⟨by simp, fun _ => alike, by simp, by simp⟩
  obtain ⟨-, reads, same⟩ := parse_overlays document shaped
  have read : parse "[webserver]\nport = 80\n" = .ok { webserver := { port := 80 } } := by
    rw [reads]
    simp [Overlays, record, portMembers, portTable, Overlaid, WritesTable, Webserver.record, textField,
      member?, WritesNat, scalar?]
  refine ⟨_, _, document, shaped, document', restated, read, ?_⟩
  rw [same _ _ document' restated, read]
  rfl

end Config
end FleetWatch
