import FleetWatch.Proofs.Json.Exact

/-!
# Where a bracketed text ends

A list or an object ends at its own bracket, so nothing that stops earlier is read, and nothing but
blanks may follow.

* `readText_of_cut`: a text that is cut before the bracket is not read.
* `readText_of_followed`: neither is one with more than blanks behind it.
-/

namespace FleetWatch.Json

def Bracketed (v : Json) : Prop := (∃ items, v = .array items) ∨ ∃ members, v = .object members

theorem Text.exists_bracket {depth : Nat} {t : Bytes} {v : Json} (text : Text .readable depth t v)
    (bracketed : v.Bracketed) :
    ∃ b bs, t = b :: bs ∧ isBlankByte b = false ∧ b ≠ '-'.toUInt8 ∧
      JsonNumber.isDigit b = false := by
  cases text with
  | array => exact ⟨_, _, rfl, by decide⟩
  | object => exact ⟨_, _, rfl, by decide⟩
  | _ => obtain ⟨_, same⟩ | ⟨_, same⟩ := bracketed <;> cases same

theorem Bracketed.not_number {v : Json} (bracketed : v.Bracketed) : ¬∃ n, v = .number n := by
  rintro ⟨n, rfl⟩
  obtain ⟨_, same⟩ | ⟨_, same⟩ := bracketed <;> cases same

theorem Text.number_inv {lexis : Lexis} {depth : Nat} {t : Bytes} {n : JsonNumber}
    (text : Text lexis depth t (.number n)) : lexis.number t n := by
  cases text with
  | number spelled => exact spelled

/-- A bracketed text is read up to its bracket, whatever follows. -/
theorem readValue_bracketed {passage : Passage Json} (document : Document .readable maxDepth passage)
    (bracketed : passage.meaning.Bracketed) (more : Bytes) :
    readValue maxDepth (passage.bytes ++ more) = .ok (passage.meaning, passage.after ++ more) := by
  have value := (readValue_exact maxDepth).complete passage.before passage.text passage.meaning
    (passage.after ++ more) document.padded.1 document.value fun number =>
      absurd number bracketed.not_number
  simpa [Passage.bytes] using value

/-- Bytes that begin with a number do not begin a bracketed text. -/
theorem not_number_of_append {whole passage : Passage Json} {more : Bytes}
    (document : Document .readable maxDepth whole) (bracketed : whole.meaning.Bracketed)
    (start : Document .readable maxDepth passage) (split : whole.bytes = passage.bytes ++ more) :
    ¬∃ n, passage.meaning = .number n := by
  rintro ⟨x, number⟩
  have text := start.value
  rw [number] at text
  obtain ⟨n, -, literal⟩ := text.number_inv
  obtain ⟨c, cs, bytes, head⟩ := n.exists_byte
  obtain ⟨b, bs, opening, solid, minus, digit⟩ := document.value.exists_bracket bracketed
  have solid' : isBlankByte c = false := by
    obtain rfl | digit := head
    · decide
    · exact (not_blank_of_digit digit).1
  have front : skipBlanks whole.bytes = b :: (bs ++ whole.after) := by
    rw [Passage.bytes, opening, List.append_assoc, List.cons_append,
      skipBlanks_append document.padded.1, skipBlanks_cons solid]
  have front' : skipBlanks whole.bytes = c :: (cs ++ (passage.after ++ more)) := by
    rw [split, Passage.bytes, literal, bytes, List.append_assoc, List.append_assoc,
      List.cons_append, skipBlanks_append start.padded.1, skipBlanks_cons solid']
  obtain ⟨rfl, -⟩ := List.cons.inj (front.symm.trans front')
  obtain rfl | digit' := head
  · exact minus rfl
  · exact Bool.false_ne_true (digit.symm.trans digit')

theorem readText_of_cut {passage : Passage Json} (document : Document .readable maxDepth passage)
    (bracketed : passage.meaning.Bracketed) {cut : Bytes} (front : cut <+: passage.bytes)
    (short : cut.length < (passage.before ++ passage.text).length) (v : Json) :
    readText cut ≠ .ok v := by
  intro read
  -- What is read of the cut text is read of the whole one too, and leaves less of it unread.
  obtain ⟨more, split⟩ := front
  obtain ⟨start, startDocument, rfl, rfl⟩ := (readText_eq_ok_iff _ _).1 read
  have value := (readValue_exact maxDepth).complete start.before start.text start.meaning
    (start.after ++ more) startDocument.padded.1 startDocument.value fun number =>
      absurd number (not_number_of_append document bracketed startDocument split.symm)
  have whole := readValue_bracketed document bracketed []
  rw [List.append_nil, ← split] at whole
  have same : start.after ++ more = passage.after ++ [] := by
    have both : (start.meaning, start.after ++ more) = (passage.meaning, passage.after ++ []) := by
      rw [← Except.ok.injEq (ε := JsonFailure), ← whole, ← value]
      simp [Passage.bytes]
    exact (Prod.mk.inj both).2
  have lengths := congrArg List.length split
  have lengths' := congrArg List.length same
  simp only [Passage.bytes, List.length_append, List.append_nil] at lengths lengths' short
  omega

theorem readText_of_followed {passage : Passage Json} (document : Document .readable maxDepth passage)
    (bracketed : passage.meaning.Bracketed) {more : Bytes} {b : UInt8} (member : b ∈ more)
    (solid : isBlankByte b = false) (v : Json) : readText (passage.bytes ++ more) ≠ .ok v := by
  intro read
  obtain ⟨⟨w, behind⟩, value, read⟩ := bind_eq_ok.1 read
  cases (readValue_bracketed document bracketed more).symm.trans value
  simp only at read
  split at read
  · next skip =>
    have blank := (skipBlanks_eq_nil_iff _).1 skip b (List.mem_append_right _ member)
    exact Bool.false_ne_true (solid.symm.trans blank)
  · cases read

end FleetWatch.Json
