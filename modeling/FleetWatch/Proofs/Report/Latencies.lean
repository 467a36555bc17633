import FleetWatch.Api.Body
import FleetWatch.Console.Render
import FleetWatch.Proofs.Json.Places
import FleetWatch.Proofs.Json.Vanishing
import FleetWatch.Proofs.Pointwise
import FleetWatch.Proofs.Report.Accepted
import FleetWatch.Proofs.Report.Fields

/-!
# The latencies of a report as they are shown

A negative latency means that there is none, and it is read as absent unless it is so small that its
double is a zero.  That zero has its sign, is not below zero, and is shown as `-0.00ms`, and no other
text has a sign.

* `Json.latency?_of_negative`: what a literal with a minus sign gives.
* `Report.ProbeText.exists_probe`: the latency that is written in a body for a probe.
* `Report.latency_shown`: the texts of all latencies, and those that literals give.
-/

namespace FleetWatch

/-! ## The latency of a literal -/

namespace Json

theorem latency?_integer_of_neg {i : Int} (below : i < 0) : (number (.integer i)).latency? = none := by
  have scaled := Binary64.scaled_ofInt_neg below
  refine Option.eq_none_iff_forall_ne_some.2 fun x given => ?_
  obtain ⟨w, same, double, -, nonneg⟩ := (latency?_eq_some _ x).1 given
  cases same
  cases double
  exact absurd ((Binary64.toRat_nonneg_iff _).1 nonneg) (not_le.2 scaled)

theorem latency?_neg {y : Binary64} (positive : y.isNegative = false) :
    (number (.float y.neg)).latency? = if y.units = 0 then some Binary64.zero.neg else none := by
  have sign : y.neg.isNegative = true := by rw [Binary64.isNegative_neg, positive]; rfl
  split
  next none =>
    have zero : y = Binary64.zero :=
      Binary64.eq_of_fields (positive.trans (by decide))
        (((Binary64.units_eq_zero_iff y).1 none).trans (by decide))
    rw [zero]
    decide +kernel
  next some =>
    refine Option.eq_none_iff_forall_ne_some.2 fun x given => ?_
    obtain ⟨w, same, double, -, nonneg⟩ := (latency?_eq_some _ x).1 given
    cases same
    cases double
    rw [Binary64.toRat_nonneg_iff, Binary64.scaled, if_pos sign, Binary64.units_neg] at nonneg
    omega

variable {n : JsonNumber.Literal} {x : JsonNumber}

/-- The sentinel for an absent latency, and where it is missed. -/
theorem latency?_of_negative (denotes : n.Denotes x) (negative : n.negative = true) :
    ((number x).latency? = none ∨ (number x).latency? = some Binary64.zero.neg) ∧
      (n.toRat ≤ 10 ^ (-324 : ℤ) → (number x).latency? = some Binary64.zero.neg) ∧
      (n.Counted → 10 ^ (-323 : ℤ) ≤ n.toRat → (number x).latency? = none) := by
  rcases JsonNumber.Literal.read_of_negative denotes negative with
    ⟨i, below, rfl, large⟩ | ⟨y, rfl, rounds⟩
  · have absent := latency?_integer_of_neg below
    have small : (10 : ℚ) ^ (-324 : ℤ) < 1 := zpow_lt_one_of_neg₀ (by norm_num) (by norm_num)
    exact ⟨.inl absent, fun le => absurd (large.trans le) (not_le.2 small), fun _ _ => absent⟩
  · rw [latency?_neg rounds.isNegative]
    refine ⟨?_, fun small => if_pos (JsonNumber.Literal.units_of_small rounds small),
      fun counted large => if_neg (JsonNumber.Literal.units_pos rounds counted large).ne'⟩
    split
    · exact .inr rfl
    · exact .inl rfl

theorem latency?_of_not_negative (denotes : n.Denotes x) (positive : n.negative = false) :
    (number x).latency? ≠ some Binary64.zero.neg := by
  intro given
  have sign : Binary64.zero.neg.isNegative = true := by decide
  obtain ⟨w, same, double, -⟩ := (latency?_eq_some _ _).1 given
  cases same
  rcases JsonNumber.Literal.read_of_not_negative denotes positive with
    ⟨i, nonneg, rfl⟩ | ⟨y, rfl, rounds⟩
  · rw [← Option.some.inj double, Binary64.ofInt, Binary64.isNegative_ofRatio] at sign
    exact absurd (of_decide_eq_true sign) (not_lt.2 nonneg)
  · rw [← Option.some.inj double, rounds.isNegative] at sign
    cases sign

end Json

/-- Minus zero is shown with its sign and as good, and nothing else that is shown has a sign. -/
theorem Latency.text_cases (ms : Latency) :
    ms = some Binary64.zero.neg ∧ ms.text = "-0.00ms" ∧ ms.severity = .good ∨
      ms ≠ some Binary64.zero.neg ∧ (ms.text = "--" ∨ ∃ m : Centesimal,
        m.Valid ∧ m.negative = false ∧ ms.text.toList = m.text ++ ['m', 's']) := by
  by_cases zero : ms = some Binary64.zero.neg
  · rw [zero]
    exact .inl ⟨rfl, by decide +kernel, by decide +kernel⟩
  · refine .inr ⟨zero, ?_⟩
    by_cases unknown : Unknown ms
    · exact .inl ((text_eq_unknown_iff ms).2 unknown)
    · cases ms with
      | none => exact absurd trivial unknown
      | some x =>
        have shown := (not_unknown_iff x).1 unknown
        obtain ⟨valid, text⟩ := shows_centesimal shown
        have unsigned : x.isNegative = false := by
          by_contra negative
          have nonneg := ((isShown_iff x).1 shown).2
          have same := (Binary64.isNegative_iff_of_nonneg nonneg).1 (by simpa using negative)
          exact zero (congrArg some same)
        exact .inr ⟨x.centesimal, valid, unsigned, text⟩

/-! ## The three latencies -/

inductive Series where
  | last
  | p50
  | p95

namespace Series

def key : Series → String
  | last => "last_ms"
  | p50 => "p50_ms"
  | p95 => "p95_ms"

def name : Series → String
  | last => "last"
  | p50 => "p50"
  | p95 => "p95"

def ofProbe (p : Probe) : Series → Latency
  | last => p.last
  | p50 => p.p50
  | p95 => p.p95

def ofRow (row : Row) : Series → Latency
  | last => row.last
  | p50 => row.p50
  | p95 => row.p95

def text (reply : RowReply) : Series → String
  | last => reply.lastText
  | p50 => reply.p50Text
  | p95 => reply.p95Text

def severity (reply : RowReply) : Series → Severity
  | last => reply.severities.last
  | p50 => reply.severities.p50
  | p95 => reply.severities.p95

theorem text_ofRow (s : Series) (row : Row) : s.text (RowReply.ofRow row) = (s.ofRow row).text := by
  cases s <;> rfl

theorem severity_ofRow (s : Series) (row : Row) :
    s.severity (RowReply.ofRow row) = (s.ofRow row).severity := by
  cases s <;> rfl

theorem holds {entry : Json} {p : Probe} (reads : Probe.Reads entry p) (s : Series) :
    Holds (Json.IsLatency (entry.member? s.key)) (s.ofProbe p) := by
  cases s with
  | last => exact reads.last
  | p50 => exact reads.p50
  | p95 => exact reads.p95

/-- The line of a row has the text of the reply, padded and painted. -/
theorem exists_rowLine (s : Series) (row : Row) (colours : Bool) :
    ∃ front back, Render.rowLine colours row = front ++ Render.painted colours
      (s.severity (RowReply.ofRow row)) (s.name ++ " " ++ padRight 9 (s.text (RowReply.ofRow row))) ++
        back := by
  rw [text_ofRow, severity_ofRow]
  delta Render.rowLine
  cases s with
  | last =>
    refine ⟨"  " ++ padRight 28 row.title ++ " " ++ padRight 22 row.target ++ " ", "  " ++
      (Render.pill colours "p50" row.p50 ++ "  " ++ (Render.pill colours "p95" row.p95 ++ "  " ++
        samplesText row.samples)), ?_⟩
    simp only [String.append_assoc]
    rfl
  | p50 =>
    refine ⟨"  " ++ padRight 28 row.title ++ " " ++ padRight 22 row.target ++ " " ++
      Render.pill colours "last" row.last ++ "  ", "  " ++ (Render.pill colours "p95" row.p95 ++
        "  " ++ samplesText row.samples), ?_⟩
    simp only [String.append_assoc]
    rfl
  | p95 => exact ⟨_, _, String.append_assoc⟩

end Series

namespace Report

/-! ## Places in a body -/

/-- A body in which these bytes are the value of a key of the probe with this number. -/
inductive ProbeText (k : Nat) (key : String) (u : Bytes) : Bytes → Prop
  | mk {before top after probes : Bytes} {items : List (Json.Passage Json)} {p : Json.Passage Json}
      (blankBefore : Json.Blank before) (blankAfter : Json.Blank after)
      (list : Json.MemberText 126 "probes" top probes) (entries : Json.ItemTexts 125 items probes)
      (entry : (items.filter (·.meaning.isObject))[k]? = some p)
      (value : Json.MemberText 124 key p.text u) : ProbeText k key u (before ++ top ++ after)

theorem ProbeText.exists_probe {body : Bytes} {report : Report} (read : Report.read body = .ok report)
    {k : Nat} {key : String} {u : Bytes} (place : ProbeText k key u body) :
    ∃ entry p w, report.probes[k]? = some p ∧ Probe.Reads entry p ∧ entry.member? key = some w ∧
      Json.Text .readable 124 u w := by
  cases place with
  | @mk before top after probes items p blankBefore blankAfter list entries entry value =>
    obtain ⟨members, v, object, found, array⟩ := list.exists_object
    rw [array.unique entries.text] at found
    have document : Json.Document .readable Json.maxDepth ⟨before, top, after, .object members⟩ :=
      ⟨⟨blankBefore, blankAfter⟩, object⟩
    obtain ⟨r, decoded, reads⟩ := decode_reads document.wellFormed
    have same : report = r := by
      have given := (read_eq_ok_iff _ _).2 ⟨_, document, rfl, ofJson_of_decode decoded⟩
      exact Except.ok.inj (read.symm.trans given)
    have item : (Json.entries (Json.find? "probes" members))[k]? = some p.meaning := by
      rw [found, Json.entries, List.filter_map, List.getElem?_map]
      exact congrArg (Option.map _) entry
    obtain ⟨probe, number, reads⟩ := exists_getElem?_of_forall₂ reads.probes item
    have among : p ∈ items := List.mem_of_mem_filter (List.mem_of_getElem? entry)
    have text : Json.Text .readable 125 p.text p.meaning := by
      cases entries with
      | mk listed documents => exact (documents p among).value
    obtain ⟨w, member, written⟩ := value.member? text
    exact ⟨p.meaning, probe, w, same ▸ number, reads, member, written⟩

/-- A literal that is written for a latency of a probe gives what its number does. -/
theorem ProbeText.exists_latency {body : Bytes} {report : Report}
    (read : Report.read body = .ok report) {k : Nat} {s : Series} {n : JsonNumber.Literal}
    (place : ProbeText k s.key n.bytes body) :
    ∃ p x, report.probes[k]? = some p ∧ n.Denotes x ∧ s.ofProbe p = (Json.number x).latency? := by
  obtain ⟨entry, p, w, number, reads, member, written⟩ := place.exists_probe read
  obtain ⟨x, rfl, denotes⟩ := written.number_of_literal
  have holds := s.holds reads
  rw [member] at holds
  exact ⟨p, x, number, denotes, holds.unique (Json.holds_latency (some (.number x)))⟩

/-! ## The statement -/

/-- All texts of rows are unsigned but that of minus zero, and minus zero is what a literal with a
minus sign gives that is too small for a double; every greater one gives no latency at all. -/
theorem latency_shown {body : Bytes} {report : Report} (read : Report.read body = .ok report)
    (e : Endpoint) :
    let rows := Board.rowsOf e (some report)
    (∀ row ∈ rows, ∀ s : Series,
      let text := s.text (RowReply.ofRow row)
      let severity := s.severity (RowReply.ofRow row)
      (∀ colours, ∃ front back, Render.rowLine colours row =
        front ++ Render.painted colours severity (s.name ++ " " ++ padRight 9 text) ++ back) ∧
      (s.ofRow row = some Binary64.zero.neg ∧ text = "-0.00ms" ∧ severity = .good ∨
        s.ofRow row ≠ some Binary64.zero.neg ∧ (text = "--" ∨ ∃ m : Centesimal,
          m.Valid ∧ m.negative = false ∧ text.toList = m.text ++ ['m', 's']))) ∧
    ∀ (k : Nat) (s : Series) (n : JsonNumber.Literal), ProbeText k s.key n.bytes body →
      ∃ row, rows[k]? = some row ∧
        let text := s.text (RowReply.ofRow row)
        let severity := s.severity (RowReply.ofRow row)
        (n.negative = false → s.ofRow row ≠ some Binary64.zero.neg) ∧
        (n.negative = true →
          (text = "--" ∧ severity = .bad ∨ s.ofRow row = some Binary64.zero.neg) ∧
          (n.toRat ≤ 10 ^ (-324 : ℤ) → s.ofRow row = some Binary64.zero.neg) ∧
          (n.Counted → 10 ^ (-323 : ℤ) ≤ n.toRat → text = "--" ∧ severity = .bad)) := by
  intro rows
  refine ⟨fun row _ s => ⟨s.exists_rowLine row, ?_⟩, fun k s n place => ?_⟩
  · rw [s.text_ofRow, s.severity_ofRow]
    exact (s.ofRow row).text_cases
  · obtain ⟨p, x, number, denotes, latency⟩ := place.exists_latency read
    have row : rows[k]? = some (Row.ofProbe e.name p) := by
      rw [show rows = report.probes.map (Row.ofProbe e.name) from rfl, List.getElem?_map, number]
      rfl
    have same : s.ofRow (Row.ofProbe e.name p) = (Json.number x).latency? := by
      rw [← latency]
      cases s <;> rfl
    refine ⟨_, row, ?_⟩
    rw [s.text_ofRow, s.severity_ofRow, same]
    refine ⟨Json.latency?_of_not_negative denotes, fun negative => ?_⟩
    obtain ⟨either, small, large⟩ := Json.latency?_of_negative denotes negative
    have missing (none : (Json.number x).latency? = none) :
        (Json.number x).latency?.text = "--" ∧ (Json.number x).latency?.severity = .bad := by
      rw [none]
      exact ⟨rfl, rfl⟩
    exact ⟨either.imp_left missing, small, fun counted le => missing (large counted le)⟩

section

open Json

/-! ## Bodies with one probe -/

def probeMembers (key : String) (text : Bytes) (x : JsonNumber) : List MemberPassage :=
  [plainMember "label" (inQuotes (Utf8.encode "db")) (.string "db"),
    plainMember "host" (inQuotes (Utf8.encode "h")) (.string "h"), plainMember key text (.number x)]

def probePassage (key : String) (text : Bytes) (x : JsonNumber) : Passage Json :=
  objectPassage [] (joined ((probeMembers key text x).map MemberPassage.bytes)) []
    (probeMembers key text x)

def probesMember (key : String) (text : Bytes) (x : JsonNumber) : MemberPassage :=
  plainMember "probes" ('['.toUInt8 :: (joined [(probePassage key text x).bytes] ++ [']'.toUInt8]))
    (.array [(probePassage key text x).meaning])

/-- The body of a node with one probe, `db`, that has this text under the key. -/
def probeBody (key : String) (text : Bytes) (x : JsonNumber) : Bytes :=
  '\x7b'.toUInt8 :: (joined [(probesMember key text x).bytes] ++ ['\x7d'.toUInt8])

theorem probeText_probeBody {key : String} (plain : key.toList.all (JsonText.Plain ·) = true)
    {n : JsonNumber.Literal} {x : JsonNumber} (denotes : n.Denotes x) :
    ProbeText 0 key n.bytes (probeBody key n.bytes x) := by
  have members : ∀ m ∈ probeMembers key n.bytes x, m.Spelled .readable 124 := by
    have text (s : String) (plain : s.toList.all (JsonText.Plain ·) = true) :
        Text .readable 124 (inQuotes (Utf8.encode s)) (.string s) := .string (readable_plain plain)
    simp only [probeMembers, List.forall_mem_cons]
    exact ⟨plainMember_spelled (readable_plain (by decide)) (text _ (by decide)),
      plainMember_spelled (readable_plain (by decide)) (text _ (by decide)),
      plainMember_spelled (readable_plain plain) (.number ⟨n, denotes, rfl⟩), List.forall_mem_nil _⟩
  have probe : Document .readable 125 (probePassage key n.bytes x) :=
    .of_members blank_nil blank_nil (listed_joined _) members
  have entries : ItemTexts 125 [probePassage key n.bytes x] (probesMember key n.bytes x).value.text :=
    .mk (listed_joined _) (List.forall_mem_singleton.2 probe)
  have list : (probesMember key n.bytes x).Spelled .readable 126 :=
    plainMember_spelled (readable_plain (by decide)) entries.text
  have top := @MemberText.mk 126 "probes" _ [] [] (probesMember key n.bytes x)
    (listed_joined _) (List.forall_mem_singleton.2 list) rfl nofun
  have value := @MemberText.mk 124 key _ ((probeMembers key n.bytes x).take 2) []
    (plainMember key n.bytes (.number x))
    (listed_joined ((probeMembers key n.bytes x).map MemberPassage.bytes)) members rfl nofun
  have place := @ProbeText.mk 0 key n.bytes [] _ [] _ _ (probePassage key n.bytes x)
    blank_nil blank_nil top entries rfl value
  rwa [List.nil_append, List.append_nil] at place

/-- `-1` -/
def sentinel : JsonNumber.Literal := { great with negative := true, exponent := none }

/-- `-1e-400` -/
def tiny : JsonNumber.Literal :=
  { great with
    negative := true
    exponent := great.exponent.map fun e => { e with sign := word "-", sign_mem := by decide } }

def sentinelBody : Bytes := probeBody "p50_ms" sentinel.bytes (.integer (-1))

def tinyBody : Bytes := probeBody "last_ms" tiny.bytes (.float Binary64.zero.neg)

theorem latency_shown_sentinel :
    Report.read sentinelBody = .ok ⟨none, none, [⟨"db", "h", none, none, none, none, 0⟩]⟩ ∧
      ProbeText 0 "p50_ms" sentinel.bytes sentinelBody ∧
      ∃ row, (Board.rowsOf ⟨"A", "http://a"⟩
          (some ⟨none, none, [⟨"db", "h", none, none, none, none, 0⟩]⟩))[0]? = some row ∧
        (RowReply.ofRow row).p50Text = "--" ∧ (RowReply.ofRow row).severities.p50 = .bad := by
  have read : Report.read sentinelBody =
      .ok ⟨none, none, [⟨"db", "h", none, none, none, none, 0⟩]⟩ := by decide +kernel
  have place : ProbeText 0 "p50_ms" sentinel.bytes sentinelBody :=
    probeText_probeBody (by decide) (.integer rfl rfl (by decide) (by decide) (by decide))
  obtain ⟨row, number, -, negative⟩ := (latency_shown read ⟨"A", "http://a"⟩).2 0 .p50 sentinel place
  have one : sentinel.toRat = 1 := by
    have digits : JsonNumber.digitsValue (sentinel.whole.bytes ++ sentinel.fractionDigits) = 1 := by
      decide
    have exponent : sentinel.shift - sentinel.fractionDigits.length = 0 := rfl
    rw [JsonNumber.Literal.toRat, digits, exponent, zpow_zero, Nat.cast_one, mul_one]
  have large : (10 : ℚ) ^ (-323 : ℤ) ≤ sentinel.toRat := by
    rw [one]
    exact zpow_le_one_of_nonpos₀ (by norm_num) (by norm_num)
  have counted : sentinel.Counted := fun e exponent => by cases exponent
  exact ⟨read, place, row, number, (negative rfl).2.2 counted large⟩

/-- A negative latency that is too small for a double is shown with its sign, as a good one. -/
theorem tiny_latency_signed :
    tinyBody = Utf8.encode
        "\x7b\"probes\":[\x7b\"label\":\"db\",\"host\":\"h\",\"last_ms\":-1e-400\x7d]\x7d" ∧
      ProbeText 0 "last_ms" tiny.bytes tinyBody ∧ tiny.negative = true ∧ 0 < tiny.toRat ∧
      ∃ p, Report.read tinyBody = .ok ⟨none, none, [p]⟩ ∧
        (RowReply.ofRow (Row.ofProbe "A" p)).lastText = "-0.00ms" ∧
        (RowReply.ofRow (Row.ofProbe "A" p)).severities.last = .good := by
  have denotes : tiny.Denotes (.float Binary64.zero.neg) := .float (by decide +kernel)
  have digits : 0 < JsonNumber.digitsValue (tiny.whole.bytes ++ tiny.fractionDigits) := by decide
  exact ⟨by decide +kernel, probeText_probeBody (by decide) denotes, rfl,
    mul_pos (Nat.cast_pos.2 digits) (zpow_pos (by norm_num) _),
    ⟨"db", "h", none, some Binary64.zero.neg, none, none, 0⟩, by decide +kernel,
    by decide +kernel, by decide +kernel⟩

end

end Report
end FleetWatch
