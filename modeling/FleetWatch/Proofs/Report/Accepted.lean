import FleetWatch.Proofs.Report.Spelled

/-!
# Which bodies give a report

A body gives a report where it is a readable text.  The grammar asks less: it sets no limit on
nesting and none on the size of a number, and it lets a surrogate stand alone.  A member that no
report reads changes nothing, but it has to be readable like all others.

* `Report.read_with_unknown_member`: a readable member with an unknown key changes no report.
* `Report.read_accepts_readable`: what is accepted, exactly.
* `Report.great_note_not_read`: a number that no field needs spoils the whole body.
-/

namespace FleetWatch

namespace Json

/-- A look-up in an object sees nothing of a member with another key. -/
theorem find?_ofWritten_insert (before : Members) {m : String × Json} (after : Members)
    {key : String} (other : m.1 ≠ key) :
    find? key (Members.ofWritten (before ++ m :: after)) =
      find? key (Members.ofWritten (before ++ after)) := by
  simp [find?_ofWritten, List.find?_append, other]

end Json

namespace Report

def keys : List String := ["uptime_s", "listen_port", "probes"]

theorem ofJson_object_congr {ms ns : Json.Members} (one : (ms.map (·.1)).Nodup)
    (other : (ns.map (·.1)).Nodup)
    (same : ∀ key ∈ keys, Json.find? key ms = Json.find? key ns) :
    Report.ofJson (.object ms) = Report.ofJson (.object ns) := by
  simp only [keys, List.forall_mem_cons] at same
  obtain ⟨uptime, port, probes, -⟩ := same
  simp only [Report.ofJson, Report.decode, Json.field?_eq _ _ one, Json.field?_eq _ _ other, uptime,
    port, probes]

theorem read_with_unknown_member {before inner inner' after : Bytes}
    (blankBefore : Json.Blank before) (blankAfter : Json.Blank after)
    {members others : List Json.MemberPassage} {m : Json.MemberPassage}
    (listed : Json.Listed ((members ++ others).map Json.MemberPassage.bytes) inner)
    (listed' : Json.Listed ((members ++ m :: others).map Json.MemberPassage.bytes) inner')
    (spelled : ∀ n ∈ members ++ m :: others, n.Spelled .readable 126)
    (unknown : m.key.meaning ∉ keys) :
    Report.read (Json.objectPassage before inner' after (members ++ m :: others)).bytes =
      Report.read (Json.objectPassage before inner after (members ++ others)).bytes := by
  have without : ∀ n ∈ members ++ others, n.Spelled .readable 126 := fun n member =>
    spelled n (List.mem_append.2 ((List.mem_append.1 member).imp_right (List.mem_cons_of_mem m)))
  have document := Json.Document.of_members blankBefore blankAfter listed without
  have document' := Json.Document.of_members blankBefore blankAfter listed' spelled
  rw [(read_eq_ok_iff _ _).2 ⟨_, document, rfl, rfl⟩,
    (read_eq_ok_iff _ _).2 ⟨_, document', rfl, rfl⟩]
  refine congrArg Except.ok (ofJson_object_congr ?_ ?_ fun key known => ?_)
  · exact (Json.wellFormed_object.1 document'.wellFormed).1
  · exact (Json.wellFormed_object.1 document.wellFormed).1
  · have other : m.member.1 ≠ key := by
      rintro rfl
      exact unknown known
    simp only [List.map_append, List.map_cons]
    exact Json.find?_ofWritten_insert _ _ other

/-- What is accepted is a readable text and hence one of the standard's; a readable member that no
report reads takes nothing from it. -/
theorem read_accepts_readable (body : Bytes) :
    ((∃ r, Report.read body = .ok r) ↔
      ∃ passage, Json.Document .readable Json.maxDepth passage ∧ passage.bytes = body) ∧
    ((∃ r, Report.read body = .ok r) →
      ∃ depth passage, Json.Document .standard depth passage ∧ passage.bytes = body) ∧
    ∀ (before inner inner' after : Bytes) (members others : List Json.MemberPassage)
      (m : Json.MemberPassage), Json.Blank before → Json.Blank after →
      Json.Listed ((members ++ others).map Json.MemberPassage.bytes) inner →
      Json.Listed ((members ++ m :: others).map Json.MemberPassage.bytes) inner' →
      (∀ n ∈ members ++ m :: others, n.Spelled .readable 126) → m.key.meaning ∉ keys →
      Report.read (Json.objectPassage before inner' after (members ++ m :: others)).bytes =
        Report.read (Json.objectPassage before inner after (members ++ others)).bytes := by
  have accepted : (∃ r, Report.read body = .ok r) ↔
      ∃ passage, Json.Document .readable Json.maxDepth passage ∧ passage.bytes = body := by
    constructor
    · rintro ⟨r, read⟩
      obtain ⟨passage, document, bytes, -⟩ := (read_eq_ok_iff _ _).1 read
      exact ⟨passage, document, bytes⟩
    · rintro ⟨passage, document, bytes⟩
      exact ⟨_, (read_eq_ok_iff _ _).2 ⟨passage, document, bytes, rfl⟩⟩
  refine ⟨accepted, fun read => ?_, ?_⟩
  · obtain ⟨passage, document, bytes⟩ := accepted.1 read
    exact ⟨_, passage, document.standard, bytes⟩
  · intro before inner inner' after members others m blankBefore blankAfter listed listed' spelled
      unknown
    exact read_with_unknown_member blankBefore blankAfter listed listed' spelled unknown

def uptimeMember : Json.MemberPassage :=
  Json.plainMember "uptime_s" five.bytes (.number (.integer 5))

def noteMember : Json.MemberPassage := Json.plainMember "note" (Json.word "null") .null

theorem read_accepts_readable_note :
    Report.read
        (Json.objectPassage [] (Json.joined [uptimeMember.bytes, noteMember.bytes]) []
          [uptimeMember, noteMember]).bytes =
      .ok ⟨some 5, none, []⟩ := by
  have spelled : ∀ n ∈ [uptimeMember, noteMember], n.Spelled .readable 126 := by
    have uptime := Json.readable_plain (s := "uptime_s") (by decide)
    have note := Json.readable_plain (s := "note") (by decide)
    exact List.forall_mem_cons.2 ⟨Json.plainMember_spelled uptime (text_five 126),
      List.forall_mem_singleton.2 (Json.plainMember_spelled note .null)⟩
  have same := (read_accepts_readable []).2.2 [] uptimeMember.bytes _ [] [uptimeMember] [] noteMember
    Json.blank_nil Json.blank_nil (Json.listed_joined _)
    (Json.listed_joined [uptimeMember.bytes, noteMember.bytes]) spelled (by decide)
  exact same.trans (by decide +kernel)

/-- `1e400` -/
def great : JsonNumber.Literal :=
  ⟨false, ⟨⟨Json.word "1", by decide, by decide⟩, by decide⟩, none,
    some ⟨'e'.toUInt8, [], ⟨Json.word "400", by decide, by decide⟩, by decide, by decide⟩⟩

/-- Its value is left open by the grammar. -/
def greatMember : Json.MemberPassage :=
  Json.plainMember "note" great.bytes (.number (.integer 0))

def greatNote : Json.Passage Json :=
  Json.objectPassage [] (Json.joined [uptimeMember.bytes, greatMember.bytes]) []
    [uptimeMember, greatMember]

theorem great_note_not_read :
    Json.Document .standard 1 greatNote ∧
      Report.read greatNote.bytes = .error ⟨.numberOutOfRange, 1, 26⟩ ∧
      Report.read (Json.objectPassage [] uptimeMember.bytes [] [uptimeMember]).bytes =
        .ok ⟨some 5, none, []⟩ := by
  refine ⟨?_, by decide +kernel, by decide +kernel⟩
  refine .of_members Json.blank_nil Json.blank_nil (Json.listed_joined _) fun m member => ?_
  simp only [List.mem_cons, List.not_mem_nil, or_false] at member
  rcases member with rfl | rfl
  · have key := Json.Lexis.standard_string (@Json.readable_plain "uptime_s" (by decide))
    exact Json.plainMember_spelled key (text_five 0).standard
  · have key := Json.Lexis.standard_string (@Json.readable_plain "note" (by decide))
    exact Json.plainMember_spelled key (.number ⟨great, rfl⟩)

end Report
end FleetWatch
