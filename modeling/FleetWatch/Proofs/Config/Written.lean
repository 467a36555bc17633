import FleetWatch.Proofs.Config.Overlay
import FleetWatch.Proofs.Toml.Sections

/-!
# Written configurations

A configuration is written as a document with its two tables, in either order, and with a table for
each endpoint.  Such a document is read as the configuration it was written from.

* `Config.Writes`: the texts of a configuration, for every way to escape its strings.
* `Stands.overlays`: the members of such a text overlay the defaults with the configuration.
* `Config.parse_written`: what is written is read back.
-/

namespace FleetWatch
open Toml

/-! ## Entries -/

def Dashboard.entries (d : Dashboard) : List (String × Plain) :=
  [("refresh_interval_ms", .number d.refreshIntervalMs.toNat),
    ("request_timeout_ms", .number d.requestTimeoutMs.toNat), ("status_path", .text d.statusPath),
    ("user_agent", .text d.userAgent)]

def Webserver.entries (w : Webserver) : List (String × Plain) :=
  [("enabled", .truth w.enabled), ("host", .text w.host), ("port", .number w.port.toNat)]

def EndpointEntry.entries (e : EndpointEntry) : List (String × Plain) :=
  [("name", .text e.name), ("base_url", .text e.baseUrl)]

/-- A record with an entry for each of its fields overlays any other. -/
theorem overlays_of_entries {fields : List (RecordField α)} {entries : List (String × Plain)}
    {members : Members} {a : α} (holds : HasEntries entries members)
    (each : ∀ f ∈ fields, ∃ x, (f.name, x) ∈ entries ∧
      ∀ span, f.Writes (.scalar span x.scalar) (f.get a)) (default : α) :
    Overlays fields default members a := by
  intro f known
  obtain ⟨x, entry, writes⟩ := each f known
  obtain ⟨span, found⟩ := holds.entry _ entry
  rw [found]
  exact writes span

theorem Dashboard.overlays {d : Dashboard} {members : Members}
    (holds : HasEntries d.entries members) (default : Dashboard) : Overlays record default members d := by
  refine overlays_of_entries holds ?_ default
  simp [record, naturalField, textField, entries, WritesNat, WritesText, scalar?, Plain.scalar]

theorem Webserver.overlays {w : Webserver} {members : Members}
    (holds : HasEntries w.entries members) (default : Webserver) : Overlays record default members w := by
  refine overlays_of_entries holds ?_ default
  simp [record, textField, entries, WritesNat, WritesText, WritesTruth, scalar?, Plain.scalar]

theorem EndpointEntry.overlays {e : EndpointEntry} {members : Members}
    (holds : HasEntries e.entries members) (default : EndpointEntry) :
    Overlays record default members e := by
  refine overlays_of_entries holds ?_ default
  simp [record, textField, entries, WritesText, scalar?, Plain.scalar]

namespace Config

/-! ## Parts -/

inductive Part where
  | dashboard
  | webserver
  | endpoint (entry : EndpointEntry)

def Part.endpoint? : Part → Option EndpointEntry
  | endpoint e => some e
  | _ => none

def Part.written (c : Config) : Part → Section
  | dashboard => ⟨"dashboard", false, c.dashboard.entries⟩
  | webserver => ⟨"webserver", false, c.webserver.entries⟩
  | endpoint e => ⟨"endpoints", true, e.entries⟩

/-- All parts of a configuration, with the endpoints in their order. -/
structure Arranges (c : Config) (parts : List Part) : Prop where
  all : parts.Perm (.dashboard :: .webserver :: c.endpoints.map .endpoint)
  ordered : parts.filterMap Part.endpoint? = c.endpoints

/-- A list without endpoints is written in front of the tables. -/
def top (c : Config) : Option String := if c.endpoints = [] then some "endpoints" else none

def lines (c : Config) (parts : List Part) : List Line :=
  c.top.toList.map .emptyArray ++ (parts.map (Part.written c)).flatMap Section.lines

/-- The texts that write a configuration. -/
def Writes (c : Config) (text : String) : Prop :=
  ∃ parts, c.Arranges parts ∧ WritesLines text.toList (c.lines parts)

/-- A configuration in plain lines, with its parts in some order. -/
def text (c : Config) (parts : List Part) : String :=
  String.ofList ((c.lines parts).flatMap Line.chars)

/-! ## Members -/

/-- Members have the tables of a configuration. -/
structure Stands (c : Config) (members : Members) : Prop where
  dashboard : ∃ v, TableOf c.dashboard.entries v ∧ member? "dashboard" members = some v
  webserver : ∃ v, TableOf c.webserver.entries v ∧ member? "webserver" members = some v
  endpoints : ∃ v vs, member? "endpoints" members = some v ∧ v.items? = some vs ∧
    List.Forall₂ (fun t e => TableOf e.entries t) vs c.endpoints

theorem isTable_of_tableOf {entries : List (String × Plain)} {v : Toml}
    (table : TableOf entries v) : v.IsTable fun _ => True := by
  obtain ⟨span, members, rfl, -⟩ := table
  exact ⟨_, _, _, rfl, trivial⟩

theorem Stands.shaped {c : Config} {members : Members} (stands : Stands c members) :
    Shaped members := by
  obtain ⟨⟨d, dashboard, hereD⟩, ⟨w, webserver, hereW⟩, ⟨es, vs, hereE, list, tables⟩⟩ := stands
  refine ⟨fun v found => ?_, fun v found => ?_, fun v found => ?_⟩
  · cases hereD.symm.trans found
    exact isTable_of_tableOf dashboard
  · cases hereW.symm.trans found
    exact isTable_of_tableOf webserver
  · cases hereE.symm.trans found
    exact ⟨vs, list, forall_mem_of_forall₂ tables fun _ _ => isTable_of_tableOf⟩

theorem Stands.overlays {c : Config} {members : Members} (stands : Stands c members)
    (default : Config) : Overlays record default members c := by
  obtain ⟨⟨d, ⟨_, _, rfl, dashboard⟩, hereD⟩, ⟨w, ⟨_, _, rfl, webserver⟩, hereW⟩,
    ⟨es, vs, hereE, list, tables⟩⟩ := stands
  simp only [Overlays, record, List.forall_mem_cons, List.not_mem_nil, false_implies, implies_true,
    and_true, hereD, hereW, hereE]
  refine ⟨⟨_, _, _, rfl, Dashboard.overlays dashboard _⟩,
    ⟨_, _, _, rfl, Webserver.overlays webserver _⟩, vs, list, tables.imp ?_⟩
  rintro t e ⟨span, inner, rfl, holds⟩
  exact ⟨_, _, _, rfl, EndpointEntry.overlays holds _⟩

/-! ## Sections -/

theorem fits_of_mem {c : Config} (refresh : c.dashboard.refreshIntervalMs.toNat ≤ 2 ^ 63 - 1)
    (timeout : c.dashboard.requestTimeoutMs.toNat ≤ 2 ^ 63 - 1) (part : Part) :
    ∀ p ∈ (part.written c).entries, p.2.Fits := by
  have port := c.webserver.port.toNat_lt
  cases part with
  | dashboard =>
    simp [Part.written, Dashboard.entries, Plain.Fits]
    omega
  | webserver =>
    simp [Part.written, Webserver.entries, Plain.Fits]
    omega
  | endpoint e => simp [Part.written, EndpointEntry.entries, Plain.Fits]

theorem distinct_entries (c : Config) (part : Part) :
    ((part.written c).entries.map (·.1)).Nodup := by
  cases part with
  | dashboard => simp [Part.written, Dashboard.entries]
  | webserver => simp [Part.written, Webserver.entries]
  | endpoint e => simp [Part.written, EndpointEntry.entries]

theorem Arranges.apart {c : Config} {parts : List Part} (arranges : c.Arranges parts) :
    (parts.map (Part.written c)).Pairwise Apart := by
  have symm {a b : Section} (apart : Apart a b) : Apart b a := fun same =>
    (apart same.symm).symm
  refine ((arranges.all.map (Part.written c)).pairwise_iff symm).2 ?_
  have items : ((c.endpoints.map Part.endpoint).map (Part.written c)).Pairwise Apart := by
    rw [List.map_map, List.pairwise_map]
    exact List.pairwise_of_forall fun a b _ => ⟨rfl, rfl⟩
  simp only [List.map_cons, List.pairwise_cons, List.forall_mem_cons, List.map_map,
    List.forall_mem_map]
  rw [List.map_map] at items
  refine ⟨⟨?_, fun e _ => ?_⟩, fun e _ => ?_, items⟩ <;> simp [Apart, Part.written]

theorem itemsAt_endpoints (c : Config) (parts : List Part) :
    itemsAt "endpoints" (parts.map (Part.written c)) =
      (parts.filterMap Part.endpoint?).map EndpointEntry.entries := by
  induction parts with
  | nil => rfl
  | cons part parts ih =>
    cases part <;> simpa [itemsAt, Part.written, Part.endpoint?, List.filterMap_cons] using ih

theorem Arranges.unnamed {c : Config} {parts : List Part} (arranges : c.Arranges parts)
    (none : c.endpoints = []) {part : Part} (member : part ∈ parts) :
    (part.written c).name ≠ "endpoints" := by
  have known := arranges.all.mem_iff.1 member
  rw [none] at known
  rcases List.mem_cons.1 known with rfl | known
  · exact ne_of_beq_false rfl
  · rcases List.mem_cons.1 known with rfl | known
    · exact ne_of_beq_false rfl
    · cases known

theorem Arranges.fresh {c : Config} {parts : List Part} (arranges : c.Arranges parts) {part : Part}
    (member : part ∈ parts) : c.top ≠ some (part.written c).name := by
  unfold top
  split
  next none => exact fun same => arranges.unnamed none member (Option.some.inj same).symm
  next => simp

theorem Arranges.stands {c : Config} {parts : List Part} (arranges : c.Arranges parts)
    {start members : Members} (starts : Starts c.top start)
    (outlines : Outlines (parts.map (Part.written c)) start members) : Stands c members := by
  have table {part : Part} (known : part = .dashboard ∨ part = .webserver) :
      part.written c ∈ parts.map (Part.written c) := by
    refine List.mem_map_of_mem (arranges.all.mem_iff.2 ?_)
    rcases known with rfl | rfl <;> simp
  refine ⟨outlines.table _ (table (.inl rfl)) rfl, outlines.table _ (table (.inr rfl)) rfl, ?_⟩
  by_cases none : c.endpoints = []
  -- The empty array stands in front, and no header has its name.
  · obtain ⟨span, here⟩ := starts.1 "endpoints" (if_pos none)
    rw [none]
    refine ⟨_, [], (outlines.others _ ?_).trans here, rfl, .nil⟩
    simpa using fun part member => arranges.unnamed none member
  · obtain ⟨vs, tables, here⟩ := outlines.items "endpoints" (by
      simpa [itemsAt_endpoints, arranges.ordered] using none)
    rw [itemsAt_endpoints, arranges.ordered, List.forall₂_map_left_iff] at tables
    exact ⟨_, vs, here, rfl, tables.flip⟩

/-! ## Reading what is written -/

theorem parse_of_writes {c : Config} (refresh : c.dashboard.refreshIntervalMs.toNat ≤ 2 ^ 63 - 1)
    (timeout : c.dashboard.requestTimeoutMs.toNat ≤ 2 ^ 63 - 1) {text : String}
    (writes : c.Writes text) : parse text = .ok c := by
  obtain ⟨parts, arranges, lines⟩ := writes
  obtain ⟨start, members, document, starts, outlines⟩ := parse?_sections lines
    (List.forall_mem_map.2 fun part _ => fits_of_mem refresh timeout part) arranges.apart
    (List.forall_mem_map.2 fun part _ => distinct_entries c part)
    (List.forall_mem_map.2 fun part member => arranges.fresh member)
  have stands := arranges.stands starts outlines
  rw [parse_eq_ok document, ofMembers_eq_ok (parse?_wellFormed document) stands.shaped]
  exact stands.overlays {}

theorem bare_written (c : Config) (part : Part) : IsBare (part.written c).name ∧
    ∀ key ∈ (part.written c).entries.map (·.1), IsBare key := by
  cases part with
  | dashboard =>
    simp only [Part.written, Dashboard.entries, List.map_cons, List.forall_mem_cons]
    decide
  | webserver =>
    simp only [Part.written, Webserver.entries, List.map_cons, List.forall_mem_cons]
    decide
  | endpoint e =>
    simp only [Part.written, EndpointEntry.entries, List.map_cons, List.forall_mem_cons]
    decide

theorem bare_lines (c : Config) (parts : List Part) :
    ∀ line ∈ c.lines parts, IsBare line.name := by
  refine List.forall_mem_append.2 ⟨?_, ?_⟩
  · unfold top
    split
    · exact List.forall_mem_singleton.2 (by decide)
    · simp
  · refine List.forall_mem_flatMap.2 (List.forall_mem_map.2 fun part _ => ?_)
    obtain ⟨name, keys⟩ := bare_written c part
    exact Section.bare_lines name keys

theorem writes_text {c : Config} {parts : List Part} (arranges : c.Arranges parts) :
    c.Writes (c.text parts) := by
  refine ⟨parts, arranges, ?_⟩
  rw [text, String.toList_ofList]
  exact writesLines_chars (bare_lines c parts)

/-- Every configuration whose numbers fit is read back from each text that writes it, and it has
such texts, with its tables in either order. -/
theorem parse_written {c : Config} (refresh : c.dashboard.refreshIntervalMs.toNat ≤ 2 ^ 63 - 1)
    (timeout : c.dashboard.requestTimeoutMs.toNat ≤ 2 ^ 63 - 1) :
    (∀ text, c.Writes text → parse text = .ok c) ∧
      (∀ parts, c.Arranges parts → c.Writes (c.text parts)) ∧
        c.Arranges (.dashboard :: .webserver :: c.endpoints.map .endpoint) ∧
          c.Arranges (.webserver :: .dashboard :: c.endpoints.map .endpoint) := by
  have ordered : (c.endpoints.map Part.endpoint).filterMap Part.endpoint? = c.endpoints := by
    rw [List.filterMap_map]
    exact List.filterMap_some
  refine ⟨fun text => parse_of_writes refresh timeout, fun parts => writes_text, ⟨.refl _, ?_⟩,
    ⟨.swap _ _ _, ?_⟩⟩
  · exact ordered
  · exact ordered

/-- The greatest number, characters that have to be escaped, and no endpoints. -/
theorem parse_written_quoted :
    let c : Config := { dashboard := ⟨9223372036854775807, 0, "\"\\", "\x00é\n"⟩,
                        webserver := ⟨false, "", 65535⟩, endpoints := [] }
    c.text [.webserver, .dashboard] = "endpoints = []
[webserver]\nenabled = false\nhost = \"\"\nport = 65535
[dashboard]\nrefresh_interval_ms = 9223372036854775807\nrequest_timeout_ms = 0
status_path = \"\\\"\\\\\"\nuser_agent = \"\\u0000é\\n\"\n" ∧
      parse (c.text [.webserver, .dashboard]) = .ok c := by
  intro c
  obtain ⟨reads, writes, -, turned⟩ := parse_written (c := c) (by decide) (by decide)
  exact ⟨by decide +kernel, reads _ (writes _ turned)⟩

end Config
end FleetWatch
