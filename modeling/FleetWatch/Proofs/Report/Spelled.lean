import FleetWatch.Fleet.Report
import FleetWatch.Proofs.Json.Ends

/-!
# Reports from text

A report that is read from a text is the report of the value that the text spells.

* `Report.ofJson_of_agrees`: the order of members does not matter to a report.
* `Report.read_eq_ok_iff`: the reports that are read, by the texts they are read from.
* `Report.read_spelled`: any spelling of a value gives its report; a list or an object that is cut
  or followed by more than blanks gives none.
* `Report.deep_discarded_not_read`: the limit on nesting holds for every value in the text.
-/

namespace FleetWatch

/-! ## Values that differ in the order of members -/

namespace Json

inductive Agrees : Json → Json → Prop
  | null : Agrees .null .null
  | bool (b : Bool) : Agrees (.bool b) (.bool b)
  | number (n : JsonNumber) : Agrees (.number n) (.number n)
  | string (s : String) : Agrees (.string s) (.string s)
  | array {vs ws : List Json} (length : vs.length = ws.length)
      (items : ∀ p ∈ vs.zip ws, Agrees p.1 p.2) : Agrees (.array vs) (.array ws)
  | object {ms ns : Members} (keys : ∀ key, (find? key ms).isSome = (find? key ns).isSome)
      (values : ∀ key v w, find? key ms = some v → find? key ns = some w → Agrees v w) :
      Agrees (.object ms) (.object ns)

theorem Agrees.bracketed {v w : Json} (agrees : v.Agrees w) (bracketed : v.Bracketed) :
    w.Bracketed := by
  cases agrees with
  | array => exact .inl ⟨_, rfl⟩
  | object => exact .inr ⟨_, rfl⟩
  | _ => obtain ⟨_, same⟩ | ⟨_, same⟩ := bracketed <;> cases same

/-- A reader of values to which the order of members does not matter. -/
def Respects {α : Type} (read : Json → α) : Prop :=
  ∀ v w : Json, v.WellFormed → w.WellFormed → v.Agrees w → read v = read w

theorem respects_whole? : Respects whole? := by
  rintro v w - - agrees
  cases agrees <;> rfl

theorem respects_port? : Respects port? := fun v w one other agrees => by
  rw [port?, port?, respects_whole? v w one other agrees]

theorem respects_latency? : Respects latency? := by
  rintro v w - - agrees
  cases agrees <;> rfl

theorem respects_string? : Respects string? := by
  rintro v w - - agrees
  cases agrees <;> rfl

theorem field?_of_agrees {α : Type} {read : Json → Option α} (respects : Respects read)
    {ms ns : Members} (one : (object ms).WellFormed) (other : (object ns).WellFormed)
    (agrees : (object ms).Agrees (object ns)) (key : String) :
    field? read key ms = field? read key ns := by
  rw [wellFormed_object] at one other
  rw [field?_eq read key one.1, field?_eq read key other.1]
  cases agrees with
  | object keys values =>
    have present := keys key
    cases found : find? key ms with
    | none =>
      cases found' : find? key ns with
      | none => rfl
      | some w => simp [found, found'] at present
    | some v =>
      cases found' : find? key ns with
      | none => simp [found, found'] at present
      | some w =>
        have same := respects v w (one.2 _ (mem_of_find? found)) (other.2 _ (mem_of_find? found'))
          (values key v w found found')
        simpa using same

end Json

theorem Probe.respects_ofJson? : Json.Respects Probe.ofJson? := by
  intro v w one other agrees
  cases agrees with
  | object keys values =>
    have field {α : Type} {read : Json → Option α} (respects : Json.Respects read) (key : String) :=
      Json.field?_of_agrees respects one other (.object keys values) key
    simp only [Probe.ofJson?, Probe.decode, field Json.respects_string?, field Json.respects_port?,
      field Json.respects_latency?, field Json.respects_whole?]
  | _ => rfl

theorem Json.respects_probes : Json.Respects Json.probes := by
  intro v w one other agrees
  cases agrees with
  | @array vs ws length items =>
    rw [wellFormed_array] at one other
    simp only [Json.probes]
    induction vs generalizing ws with
    | nil =>
      cases ws with
      | nil => rfl
      | cons w ws => cases length
    | cons v vs ih =>
      cases ws with
      | nil => cases length
      | cons w ws =>
        obtain ⟨here, items⟩ := List.forall_mem_cons.1 items
        obtain ⟨one, ones⟩ := List.forall_mem_cons.1 one
        obtain ⟨other, others⟩ := List.forall_mem_cons.1 other
        have rest := ih (Nat.succ.inj length) items ones others
        have kind : v.isObject = w.isObject := by cases here <;> rfl
        have probe := Probe.respects_ofJson? v w one other here
        cases object : w.isObject with
        | false => simpa [List.filter_cons, kind, object] using rest
        | true =>
          simp only [List.filter_cons, kind, object, if_true, List.filterMap_cons, probe, rest]
  | _ => rfl

namespace Report

theorem ofJson_of_agrees : Json.Respects Report.ofJson := by
  intro v w one other agrees
  cases agrees with
  | object keys values =>
    have field {α : Type} {read : Json → Option α} (respects : Json.Respects read) (key : String) :=
      Json.field?_of_agrees respects one other (.object keys values) key
    have probes : Json.Respects fun v => some v.probes := fun v w one other agrees =>
      congrArg some (Json.respects_probes v w one other agrees)
    simp only [Report.ofJson, Report.decode, field Json.respects_whole?,
      field Json.respects_port?, field probes]
  | _ => rfl

/-! ## Reading -/

theorem read_eq_ok_iff (bs : Bytes) (r : Report) :
    Report.read bs = .ok r ↔
      ∃ passage, Json.Document .readable Json.maxDepth passage ∧ passage.bytes = bs ∧
        Report.ofJson passage.meaning = r := by
  have text : Report.read bs = .ok r ↔ ∃ v, Json.readText bs = .ok v ∧ Report.ofJson v = r := by
    cases read : Json.readText bs <;>
      simp [Report.read, Json.read, read, Except.map, Except.mapError]
  simp only [text, Json.readText_eq_ok_iff]
  constructor
  · rintro ⟨_, ⟨passage, document, bytes, rfl⟩, report⟩
    exact ⟨passage, document, bytes, report⟩
  · rintro ⟨passage, document, bytes, report⟩
    exact ⟨passage.meaning, ⟨passage, document, bytes, rfl⟩, report⟩

theorem read_eq_error {bs : Bytes} (unread : ∀ v, Json.readText bs ≠ .ok v) :
    ∃ e, Report.read bs = .error e := by
  cases read : Json.readText bs with
  | ok v => exact absurd read (unread v)
  | error failure =>
    refine ⟨JsonError.locate bs failure, ?_⟩
    simp [Report.read, Json.read, read, Except.map, Except.mapError]

/-- Every text that spells a value gives the report of that value, whatever the order of its
members, if no more brackets are open at any place than the reader allows. -/
theorem read_spelled {passage : Json.Passage Json}
    (document : Json.Document .readable Json.maxDepth passage) {v : Json} (wellFormed : v.WellFormed)
    (agrees : v.Agrees passage.meaning) :
    Report.read passage.bytes = .ok (Report.ofJson v) ∧
      (v.Bracketed →
        (∀ cut : Bytes, cut <+: passage.bytes → cut.length < (passage.before ++ passage.text).length →
          ∃ e, Report.read cut = .error e) ∧
        ∀ (more : Bytes) (b : UInt8), b ∈ more → Json.isBlankByte b = false →
          ∃ e, Report.read (passage.bytes ++ more) = .error e) := by
  constructor
  · have same := ofJson_of_agrees v passage.meaning wellFormed document.wellFormed agrees
    exact (read_eq_ok_iff _ _).2 ⟨passage, document, rfl, same.symm⟩
  · intro bracketed
    have bracketed := agrees.bracketed bracketed
    refine ⟨fun cut front short => ?_, fun more b member solid => ?_⟩
    · exact read_eq_error (Json.readText_of_cut document bracketed front short)
    · exact read_eq_error (Json.readText_of_followed document bracketed member solid)

section

open Json

def five : JsonNumber.Literal := ⟨false, ⟨⟨word "5", by decide, by decide⟩, by decide⟩, none, none⟩

def sixty : JsonNumber.Literal :=
  ⟨false, ⟨⟨word "60", by decide, by decide⟩, by decide⟩, none, none⟩

theorem text_five (depth : Nat) : Text .readable depth five.bytes (.number (.integer 5)) :=
  .number ⟨five, .integer rfl rfl nofun (by decide) (by decide), rfl⟩

theorem text_sixty (depth : Nat) : Text .readable depth sixty.bytes (.number (.integer 60)) :=
  .number ⟨sixty, .integer rfl rfl nofun (by decide) (by decide), rfl⟩

/-- The key is written with an escape for its first letter, among blanks. -/
def escapedMember : MemberPassage :=
  ⟨⟨word " ", inQuotes (word "\\u0075" ++ Utf8.encode "ptime_s"), [], "uptime_s"⟩,
    ⟨word "\t", sixty.bytes, word "\n", .number (.integer 60)⟩⟩

def respelledMembers : List MemberPassage :=
  [plainMember "uptime_s" five.bytes (.number (.integer 5)),
    plainMember "probes" (word "[]") (.array []), escapedMember]

def respelled : Passage Json :=
  objectPassage [] (joined (respelledMembers.map MemberPassage.bytes)) (word "\r\n") respelledMembers

theorem escapedMember_spelled (depth : Nat) : escapedMember.Spelled .readable depth := by
  have hex : JsonText.Hex4 (word "0075") 'u'.toNat :=
    ⟨_, _, _, _, 0, 0, 7, 5, rfl, .decimal rfl (by decide), .decimal rfl (by decide),
      .decimal rfl (by decide), .decimal rfl (by decide), rfl⟩
  refine ⟨⟨⟨by decide, blank_nil⟩, by decide, by decide⟩, ⟨_, ?_, rfl⟩, text_sixty depth⟩
  exact .cons (.escape (.unicode (.scalar hex)))
    (@JsonText.spells_plain "ptime_s".toList (by decide))

theorem respelled_document : Document .readable maxDepth respelled := by
  refine .of_members blank_nil (by decide) (listed_joined _) fun m member => ?_
  simp only [respelledMembers, List.mem_cons, List.not_mem_nil, or_false] at member
  rcases member with rfl | rfl | rfl
  · exact plainMember_spelled (readable_plain (by decide)) (text_five 126)
  · exact plainMember_spelled (readable_plain (by decide)) .emptyArray
  · exact escapedMember_spelled 126

theorem read_spelled_respelled :
    Document .readable maxDepth respelled ∧
      Report.read respelled.bytes = .ok ⟨some 60, none, []⟩ ∧
      ∃ e, Report.read (respelled.bytes ++ word "]") = .error e := by
  have agrees : (object [("probes", .array []), ("uptime_s", .number (.integer 60))]).Agrees
      respelled.meaning := by
    have meaning : respelled.meaning =
        .object [("uptime_s", .number (.integer 60)), ("probes", .array [])] := rfl
    rw [meaning]
    refine .object (fun key => ?_) fun key v w one other => ?_
    · simp only [find?]
      split <;> split <;> rfl
    · simp only [find?] at one other
      split at one
      · next probes =>
        subst probes
        cases one
        simp at other
        cases other
        exact .array rfl (List.forall_mem_nil _)
      · split at one
        · next uptime =>
          subst uptime
          cases one
          cases other
          exact .number _
        · cases one
  have given := read_spelled respelled_document (by simp) agrees
  refine ⟨respelled_document, ?_, ?_⟩
  · rw [given.1]
    decide +kernel
  · exact (given.2 (.inr ⟨_, rfl⟩)).2 _ ']'.toUInt8 (by decide) (by decide)

/-! ## What is not kept -/

/-- A number of brackets inside one pair of brackets. -/
def nested : Nat → Passage Json
  | 0 => ⟨[], word "[]", [], .array []⟩
  | n + 1 =>
    ⟨[], '['.toUInt8 :: (joined [(nested n).bytes] ++ [']'.toUInt8]), [],
      .array [(nested n).meaning]⟩

theorem nested_document (lexis : Lexis) (n : Nat) : Document lexis (n + 1) (nested n) := by
  induction n with
  | zero => exact ⟨⟨blank_nil, blank_nil⟩, .emptyArray⟩
  | succ n ih =>
    refine ⟨⟨blank_nil, blank_nil⟩, @Text.array lexis _ _ [nested n] (listed_joined _) ?_ ?_⟩
    · simpa using ih.padded
    · simpa using ih.value

def deepDiscardedMembers : List MemberPassage :=
  [plainMember "uptime_s" (nested 126).text (nested 126).meaning,
    plainMember "uptime_s" sixty.bytes (.number (.integer 60))]

/-- The first value nests too deep, and the second takes its place. -/
def deepDiscarded : Passage Json :=
  objectPassage [] (joined (deepDiscardedMembers.map MemberPassage.bytes)) [] deepDiscardedMembers

/-- The value that the text spells has one level, but the text has more, and is not read. -/
theorem deep_discarded_not_read :
    Document .readable 128 deepDiscarded ∧
      deepDiscarded.meaning = .object [("uptime_s", .number (.integer 60))] ∧
      Report.read deepDiscarded.bytes = .error ⟨.recursionLimit, 1, 139⟩ := by
  refine ⟨.of_members blank_nil blank_nil (listed_joined _) fun m member => ?_, rfl, by decide +kernel⟩
  simp only [deepDiscardedMembers, List.mem_cons, List.not_mem_nil, or_false] at member
  rcases member with rfl | rfl
  · exact plainMember_spelled (readable_plain (by decide)) (nested_document .readable 126).value
  · exact plainMember_spelled (readable_plain (by decide)) (text_sixty 127)

end

end Report
end FleetWatch
