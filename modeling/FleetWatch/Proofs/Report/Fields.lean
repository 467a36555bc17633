import FleetWatch.Fleet.Report
import FleetWatch.Proofs.Json.WellFormed
import FleetWatch.Proofs.Number.Value
import Mathlib.Data.List.Forall2

/-!
# Reading reports field by field

What a report and its probes hold, said of each field by the value under its key alone.  Numbers are
compared by their exact values, whether they are written as whole numbers or as doubles.

* `Json.whole?_eq_some`: a number is read as the whole number that it is, or not at all.
* `Probe.decode_reads`: no object is left out of the probes.
* `Report.ofJson_reads_fields`: what a report holds, and what each of its fields depends on.
-/

namespace FleetWatch

/-- The exact value of a number; an infinity or a NaN has none. -/
def JsonNumber.value? : JsonNumber → Option ℚ
  | .integer i => some i
  | .float x => if x.isFinite then some x.toRat else none

namespace Json

/-! ## What stands under a key -/

def IsWhole (v : Option Json) (n : Nat) : Prop := ∃ x, v = some (number x) ∧ x.value? = some (n : ℚ)

def IsText (v : Option Json) (s : String) : Prop := v = some (string s)

def IsLatency (v : Option Json) (x : Binary64) : Prop :=
  ∃ w, v = some w ∧ w.double? = some x ∧ x.isFinite = true ∧ 0 ≤ x.toRat

def entries : Option Json → List Json
  | some (array items) => items.filter isObject
  | _ => []

theorem WellFormed.entry {v : Json} (wellFormed : v.WellFormed) {key : String} {entry : Json}
    (member : entry ∈ entries (v.member? key)) : entry.isObject = true ∧ entry.WellFormed := by
  cases found : v.member? key with
  | none => simp [found, entries] at member
  | some w =>
    rw [found] at member
    cases wellFormed.member found with
    | array all =>
      obtain ⟨member, object⟩ := List.mem_filter.1 member
      exact ⟨object, all entry member⟩
    | _ => cases member

theorem probes_eq (v : Option Json) :
    (v.bind fun w => some w.probes).getD [] = (entries v).filterMap Probe.ofJson? := by
  cases v with
  | none => rfl
  | some w => cases w <;> rfl

/-! ## Scalars -/

theorem isUnsigned_ofInt {i : Int} (outside : ¬ (0 ≤ i ∧ i < UInt64.size)) :
    (Binary64.ofInt i).isUnsigned = false := by
  have unit : (0 : Int) < Binary64.unitsOfOne := Int.natCast_pos.2 Binary64.unitsOfOne_pos
  cases unsigned : (Binary64.ofInt i).isUnsigned with
  | false => rfl
  | true =>
    obtain ⟨finite, n, bounded, multiple⟩ := (Binary64.isUnsigned_iff _).1 unsigned
    by_cases negative : i < 0
    · have below := Binary64.scaled_ofInt_neg negative
      have nonneg : 0 ≤ (n : Int) * Binary64.unitsOfOne :=
        Int.mul_nonneg (Int.natCast_nonneg n) unit.le
      omega
    · have large : ((2 ^ 64 : Nat) : Int) ≤ i := by
        have size : UInt64.size = 2 ^ 64 := rfl
        omega
      have above := Binary64.le_scaled_ofInt (by decide) large
      rw [multiple, Int.natCast_mul] at above
      have absurd := Int.le_of_mul_le_mul_right above unit
      have size : UInt64.size = 2 ^ 64 := rfl
      omega

theorem whole?_integer (i : Int) (n : UInt64) :
    (number (.integer i)).whole? = some n ↔ i = n.toNat := by
  have bounded := n.toNat_lt_size
  by_cases inside : 0 ≤ i ∧ i < UInt64.size
  · simp only [whole?, unsigned?, if_pos inside, Option.some_or, Option.some.injEq]
    constructor
    · rintro rfl
      rw [UInt64.toNat_ofNat_of_lt' (by omega)]
      omega
    · rintro rfl
      rw [Int.toNat_natCast, UInt64.ofNat_toNat]
  · have outside := isUnsigned_ofInt inside
    simp only [whole?, unsigned?, if_neg inside, double?, Option.none_or, Option.filter_some,
      outside, Bool.false_eq_true, if_false, Option.map_none]
    constructor
    · intro none
      cases none
    · rintro rfl
      exact absurd ⟨Int.natCast_nonneg _, Int.ofNat_lt.2 bounded⟩ inside

theorem whole?_float (x : Binary64) (n : UInt64) :
    (number (.float x)).whole? = some n ↔ x.isFinite = true ∧ x.toRat = n.toNat := by
  simp only [whole?, unsigned?, double?, Option.none_or, Option.map_eq_some_iff,
    Option.filter_eq_some_iff, Option.some.injEq, Binary64.toRat_eq_nat_iff]
  constructor
  · rintro ⟨_, ⟨rfl, unsigned⟩, rfl⟩
    obtain ⟨finite, m, bounded, multiple⟩ := (Binary64.isUnsigned_iff _).1 unsigned
    rw [Binary64.toNat_toUInt64 finite bounded multiple]
    exact ⟨finite, multiple⟩
  · rintro ⟨finite, multiple⟩
    have bounded := n.toNat_lt_size
    refine ⟨x, ⟨rfl, (Binary64.isUnsigned_iff x).2 ⟨finite, _, bounded, multiple⟩⟩, ?_⟩
    exact UInt64.toNat_inj.1 (Binary64.toNat_toUInt64 finite bounded multiple)

theorem isWhole_integer (i : Int) (n : Nat) :
    IsWhole (some (number (.integer i))) n ↔ i = n := by
  constructor
  · rintro ⟨x, found, value⟩
    cases found
    exact_mod_cast Option.some.inj value
  · rintro rfl
    exact ⟨.integer n, rfl, by simp [JsonNumber.value?]⟩

theorem isWhole_float (x : Binary64) (n : Nat) :
    IsWhole (some (number (.float x))) n ↔ x.isFinite = true ∧ x.toRat = n := by
  constructor
  · rintro ⟨y, found, value⟩
    cases found
    simpa [JsonNumber.value?] using value
  · rintro ⟨finite, value⟩
    exact ⟨.float x, rfl, by simp [JsonNumber.value?, finite, value]⟩

theorem whole?_eq_some (v : Json) (n : UInt64) :
    v.whole? = some n ↔ IsWhole (some v) n.toNat := by
  cases v with
  | number x =>
    cases x with
    | integer i => rw [whole?_integer, isWhole_integer]
    | float x => rw [whole?_float, isWhole_float]
  | _ => simp [IsWhole, whole?, unsigned?, double?]

theorem port?_eq_some (v : Json) (n : UInt16) :
    v.port? = some n ↔ IsWhole (some v) n.toNat := by
  simp only [port?, Option.bind_eq_some_iff]
  constructor
  · rintro ⟨whole, read, port⟩
    split at port
    · next bounded =>
      have number := (whole?_eq_some v whole).1 read
      cases port
      rwa [UInt64.toNat_toUInt16, Nat.mod_eq_of_lt bounded]
    · cases port
  · intro number
    have bounded : n.toNat < UInt16.size := n.toNat_lt_size
    have size : UInt16.size < UInt64.size := by decide
    have same : (UInt64.ofNat n.toNat).toNat = n.toNat :=
      UInt64.toNat_ofNat_of_lt' (by omega)
    refine ⟨UInt64.ofNat n.toNat, (whole?_eq_some v _).2 (by rwa [same]), ?_⟩
    rw [if_pos (by rwa [same])]
    have port : (UInt64.ofNat n.toNat).toUInt16.toNat = n.toNat := by
      rw [UInt64.toNat_toUInt16, same, Nat.mod_eq_of_lt bounded]
    exact congrArg some (UInt16.toNat_inj.1 port)

theorem latency?_eq_some (v : Json) (x : Binary64) :
    v.latency? = some x ↔ IsLatency (some v) x := by
  simp only [latency?, Option.filter_eq_some_iff, Latency.isShown, Bool.and_eq_true]
  constructor
  · rintro ⟨double, finite, nonneg⟩
    refine ⟨v, rfl, double, finite, ?_⟩
    exact (Binary64.toRat_nonneg_iff x).2 ((Binary64.zero_le_iff finite).1 nonneg)
  · rintro ⟨w, found, double, finite, nonneg⟩
    cases found
    refine ⟨double, finite, ?_⟩
    exact (Binary64.zero_le_iff finite).2 ((Binary64.toRat_nonneg_iff x).1 nonneg)

theorem string?_eq_some (v : Json) (s : String) : v.string? = some s ↔ IsText (some v) s := by
  cases v <;> simp [string?, IsText]

end Json

/-! ## Fields -/

section Fields

variable {is : α → Prop} {default : α}

/-- An optional field is whatever its key says, and absent if it says nothing. -/
def Holds (is : α → Prop) (field : Option α) : Prop := ∀ a, field = some a ↔ is a

structure HoldsOr (is : α → Prop) (default field : α) : Prop where
  present : ∀ a, is a → field = a
  absent : (∀ a, ¬ is a) → field = default

theorem Holds.unique {first second : Option α} (one : Holds is first) (other : Holds is second) :
    first = second :=
  Option.ext fun a => (one a).trans (other a).symm

theorem Holds.getD {field : Option α} (holds : Holds is field) (default : α) :
    HoldsOr is default (field.getD default) := by
  constructor
  · intro a here
    rw [(holds a).2 here, Option.getD_some]
  · intro nothing
    cases found : field with
    | none => rfl
    | some a => exact absurd ((holds a).1 found) (nothing a)

theorem HoldsOr.unique {first second : α} (one : HoldsOr is default first)
    (other : HoldsOr is default second) : first = second := by
  by_cases here : ∃ a, is a
  · obtain ⟨a, here⟩ := here
    rw [one.present a here, other.present a here]
  · rw [not_exists] at here
    rw [one.absent here, other.absent here]

theorem holds_bind {read : Json → Option α} (is : Option Json → α → Prop)
    (reads : ∀ v a, read v = some a ↔ is (some v) a) (nothing : ∀ a, ¬ is none a)
    (v : Option Json) : Holds (is v) (v.bind read) := by
  intro a
  cases v with
  | none => simpa using nothing a
  | some v => exact reads v a

end Fields

namespace Json

theorem holds_whole (v : Option Json) :
    Holds (fun n : UInt64 => IsWhole v n.toNat) (v.bind whole?) := by
  refine holds_bind (fun v (n : UInt64) => IsWhole v n.toNat) whole?_eq_some ?_ v
  rintro n ⟨x, found, _⟩
  cases found

theorem holds_port (v : Option Json) :
    Holds (fun n : UInt16 => IsWhole v n.toNat) (v.bind port?) := by
  refine holds_bind (fun v (n : UInt16) => IsWhole v n.toNat) port?_eq_some ?_ v
  rintro n ⟨x, found, _⟩
  cases found

theorem holds_latency (v : Option Json) : Holds (IsLatency v) (v.bind latency?) := by
  refine holds_bind IsLatency latency?_eq_some ?_ v
  rintro x ⟨w, found, _⟩
  cases found

theorem holds_text (v : Option Json) : Holds (IsText v) (v.bind string?) := by
  refine holds_bind IsText string?_eq_some ?_ v
  intro s found
  cases found

end Json

/-! ## Probes -/

structure Probe.Reads (entry : Json) (p : Probe) : Prop where
  label : HoldsOr (Json.IsText (entry.member? "label")) "" p.label
  host : HoldsOr (Json.IsText (entry.member? "host")) "" p.host
  port : Holds (fun n : UInt16 => Json.IsWhole (entry.member? "port") n.toNat) p.port
  last : Holds (Json.IsLatency (entry.member? "last_ms")) p.last
  p50 : Holds (Json.IsLatency (entry.member? "p50_ms")) p.p50
  p95 : Holds (Json.IsLatency (entry.member? "p95_ms")) p.p95
  samples : HoldsOr (fun n : UInt64 => Json.IsWhole (entry.member? "samples") n.toNat) 0 p.samples

def Probe.keys : List String := ["label", "host", "port", "last_ms", "p50_ms", "p95_ms", "samples"]

def Json.SameUnder (keys : List String) (v w : Json) : Prop :=
  ∀ key ∈ keys, v.member? key = w.member? key

namespace Probe

theorem Reads.unique {entry : Json} {p q : Probe} (one : Reads entry p) (other : Reads entry q) :
    p = q := by
  cases p
  cases q
  congr 1
  · exact one.label.unique other.label
  · exact one.host.unique other.host
  · exact one.port.unique other.port
  · exact one.last.unique other.last
  · exact one.p50.unique other.p50
  · exact one.p95.unique other.p95
  · exact one.samples.unique other.samples

theorem Reads.of_same {v w : Json} {p : Probe} (same : Json.SameUnder keys v w)
    (reads : Reads v p) : Reads w p := by
  simp only [Json.SameUnder, keys, List.forall_mem_cons] at same
  obtain ⟨label, host, port, last, p50, p95, samples, -⟩ := same
  constructor
  · exact label ▸ reads.label
  · exact host ▸ reads.host
  · exact port ▸ reads.port
  · exact last ▸ reads.last
  · exact p50 ▸ reads.p50
  · exact p95 ▸ reads.p95
  · exact samples ▸ reads.samples

theorem decode_reads {members : Json.Members} (distinct : (members.map (·.1)).Nodup) :
    ∃ p, decode members = .ok p ∧ Reads (.object members) p := by
  refine ⟨_, by simp only [decode, Json.field?_eq _ _ distinct]; rfl, ?_⟩
  constructor
  · exact (Json.holds_text _).getD ""
  · exact (Json.holds_text _).getD ""
  · exact Json.holds_port _
  · exact Json.holds_latency _
  · exact Json.holds_latency _
  · exact Json.holds_latency _
  · exact (Json.holds_whole _).getD 0

theorem ofJson?_reads {entry : Json} (wellFormed : entry.WellFormed)
    (object : entry.isObject = true) : ∃ p, ofJson? entry = some p ∧ Reads entry p := by
  cases wellFormed with
  | object distinct all =>
    obtain ⟨p, decoded, reads⟩ := decode_reads distinct
    exact ⟨p, by rw [ofJson?, decoded]; rfl, reads⟩
  | _ => cases object

theorem reads_entries {entries : List Json}
    (objects : ∀ entry ∈ entries, entry.isObject = true ∧ entry.WellFormed) :
    List.Forall₂ Reads entries (entries.filterMap ofJson?) := by
  induction entries with
  | nil => exact .nil
  | cons entry entries ih =>
    obtain ⟨object, wellFormed⟩ := objects entry List.mem_cons_self
    obtain ⟨p, read, reads⟩ := ofJson?_reads wellFormed object
    rw [List.filterMap_cons_some read]
    exact .cons reads (ih fun other member => objects other (List.mem_cons_of_mem _ member))

end Probe

/-! ## Reports -/

structure Report.Reads (v : Json) (r : Report) : Prop where
  uptime : Holds (fun n : UInt64 => Json.IsWhole (v.member? "uptime_s") n.toNat) r.uptime
  port : Holds (fun n : UInt16 => Json.IsWhole (v.member? "listen_port") n.toNat) r.port
  probes : List.Forall₂ Probe.Reads (Json.entries (v.member? "probes")) r.probes

namespace Report

theorem probes_unique {entries : List Json} {ps qs : List Probe}
    (one : List.Forall₂ Probe.Reads entries ps) (other : List.Forall₂ Probe.Reads entries qs) :
    ps = qs := by
  induction one generalizing qs with
  | nil =>
    cases other
    rfl
  | cons reads _ ih =>
    cases other with
    | cons reads' rest => rw [reads.unique reads', ih rest]

theorem probes_of_same {entries others : List Json} {ps : List Probe}
    (same : List.Forall₂ (Json.SameUnder Probe.keys) entries others)
    (reads : List.Forall₂ Probe.Reads entries ps) : List.Forall₂ Probe.Reads others ps := by
  induction same generalizing ps with
  | nil =>
    cases reads
    exact .nil
  | cons same _ ih =>
    cases reads with
    | cons here rest => exact .cons (here.of_same same) (ih rest)

theorem Reads.unique {v : Json} {r s : Report} (one : Reads v r) (other : Reads v s) : r = s := by
  cases r
  cases s
  congr 1
  · exact one.uptime.unique other.uptime
  · exact one.port.unique other.port
  · exact probes_unique one.probes other.probes

theorem decode_reads {members : Json.Members} (wellFormed : (Json.object members).WellFormed) :
    ∃ r, decode members = .ok r ∧ Reads (.object members) r := by
  cases wellFormed with
  | object distinct all =>
    refine ⟨_, by simp only [decode, Json.field?_eq _ _ distinct]; rfl, ?_⟩
    constructor
    · exact Json.holds_whole _
    · exact Json.holds_port _
    · rw [Json.probes_eq]
      exact Probe.reads_entries fun entry member => (Json.WellFormed.object distinct all).entry member

theorem ofJson_of_decode {members : Json.Members} {r : Report} (decoded : decode members = .ok r) :
    ofJson (.object members) = r := by
  simp only [ofJson, decoded]

/-- A report of an object is read without a fault, and so is each of its probes.  It holds what its
keys say, and each field depends on its own key alone. -/
theorem ofJson_reads_fields {members : Json.Members}
    (wellFormed : (Json.object members).WellFormed) :
    decode members = .ok (ofJson (.object members)) ∧
    (∀ entry ∈ Json.entries (Json.find? "probes" members), ∃ p, Probe.ofJson? entry = some p) ∧
    (∀ r, Reads (.object members) r ↔ r = ofJson (.object members)) ∧
    ∀ others : Json.Members, (Json.object others).WellFormed →
      (Json.find? "uptime_s" members = Json.find? "uptime_s" others →
        (ofJson (.object members)).uptime = (ofJson (.object others)).uptime) ∧
      (Json.find? "listen_port" members = Json.find? "listen_port" others →
        (ofJson (.object members)).port = (ofJson (.object others)).port) ∧
      (List.Forall₂ (Json.SameUnder Probe.keys) (Json.entries (Json.find? "probes" members))
          (Json.entries (Json.find? "probes" others)) →
        (ofJson (.object members)).probes = (ofJson (.object others)).probes) := by
  obtain ⟨report, decoded, reads⟩ := decode_reads wellFormed
  rw [ofJson_of_decode decoded]
  refine ⟨decoded, ?_, fun r => ⟨fun other => other.unique reads, fun same => same ▸ reads⟩, ?_⟩
  · intro entry member
    obtain ⟨object, wellFormed⟩ := wellFormed.entry member
    obtain ⟨p, read, -⟩ := Probe.ofJson?_reads wellFormed object
    exact ⟨p, read⟩
  · intro others wellFormed'
    obtain ⟨report', decoded', reads'⟩ := decode_reads wellFormed'
    rw [ofJson_of_decode decoded']
    refine ⟨fun same => ?_, fun same => ?_, fun same => ?_⟩
    · have uptime := reads'.uptime
      simp only [Json.member?, ← same] at uptime
      exact reads.uptime.unique uptime
    · have port := reads'.port
      simp only [Json.member?, ← same] at port
      exact reads.port.unique port
    · exact probes_unique (probes_of_same same reads.probes) reads'.probes

/-- A port out of range, a count of seconds with a point, and probes among other things. -/
def mixed : Json.Members :=
  [("uptime_s", .number (.float (Binary64.ofNat 100))), ("listen_port", .number (.integer 65536)),
    ("note", .array [.null]),
    ("probes", .array [.null,
      .object [("label", .string "a"), ("port", .string "80"), ("p50_ms", .number (.integer (-1))),
        ("last_ms", .number (.integer 3)), ("samples", .number (.integer 7)), ("color", .bool true)],
      .number (.integer 5), .object []])]

theorem ofJson_reads_fields_mixed :
    (Json.object mixed).WellFormed ∧
    Reads (.object mixed) ⟨some 100, none,
      [⟨"a", "", none, some (Binary64.ofNat 3), none, none, 7⟩,
        ⟨"", "", none, none, none, none, 0⟩]⟩ := by
  have wellFormed : (Json.object mixed).WellFormed := by simp [mixed]
  obtain ⟨-, -, reads, -⟩ := ofJson_reads_fields wellFormed
  exact ⟨wellFormed, (reads _).2 (by decide +kernel)⟩

end Report
end FleetWatch
