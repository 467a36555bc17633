import FleetWatch.Proofs.Json.Grammar
import Mathlib.Data.List.TakeWhile

/-!
# The reader is exact

The reader of JSON gives a value where, and only where, the bytes are a readable text that spells
it.

* `readArray_eq_ok_iff`, `readObject_eq_ok_iff`: one level, given an exact reader of the next.
* `readValue_exact`: one value at the front of the bytes, at any depth.
* `readText_eq_ok_iff`: a whole text.
-/

namespace FleetWatch.Json

/-! ## Blanks and words -/

theorem Blank.append {bs cs : Bytes} (left : Blank bs) (right : Blank cs) : Blank (bs ++ cs) :=
  fun b member => (List.mem_append.1 member).elim (left b) (right b)

theorem skipBlanks_append {blanks : Bytes} (blank : Blank blanks) (bs : Bytes) :
    skipBlanks (blanks ++ bs) = skipBlanks bs :=
  List.dropWhile_append_of_pos blank

theorem skipBlanks_cons {b : UInt8} (solid : isBlankByte b = false) (bs : Bytes) :
    skipBlanks (b :: bs) = b :: bs := by
  simp [skipBlanks, solid]

theorem exists_of_skipBlanks {bs rest : Bytes} {b : UInt8} (skip : skipBlanks bs = b :: rest) :
    ∃ blanks, Blank blanks ∧ bs = blanks ++ b :: rest :=
  ⟨bs.takeWhile isBlankByte, List.all_eq_true.1 List.all_takeWhile, by
    rw [← skip, skipBlanks, List.takeWhile_append_dropWhile]⟩

theorem skipBlanks_eq_nil_iff (bs : Bytes) : skipBlanks bs = [] ↔ Blank bs :=
  List.dropWhile_eq_nil_iff

theorem readWord_eq_ok_iff (value : Json) (w bs : Bytes) (v : Json) (rest : Bytes) :
    readWord value w bs = .ok (v, rest) ↔ v = value ∧ bs = w ++ rest := by
  induction w generalizing bs with
  | nil => simp [readWord, eq_comm]
  | cons b w ih =>
    cases bs with
    | nil => simp [readWord]
    | cons c bs =>
      by_cases same : c = b
      · simp [readWord, same, ih]
      · simp [readWord, same]

/-! ## What stands around a value -/

/-- What follows a value in a text. -/
def Closed (rest : Bytes) : Prop :=
  ∀ b, rest.head? = some b →
    isBlankByte b = true ∨ b = ','.toUInt8 ∨ b = ']'.toUInt8 ∨ b = '\x7d'.toUInt8

theorem Closed.stops {rest : Bytes} (closed : Closed rest) (n : JsonNumber.Literal) :
    n.Stops rest := by
  intro b head
  have closes := closed b head
  simp only [isBlankByte, Bool.or_eq_true, decide_eq_true_eq] at closes
  refine ⟨?_, fun _ => ⟨?_, ?_, fun _ => ?_⟩⟩
  all_goals rcases closes with (((rfl | rfl) | rfl) | rfl) | rfl | rfl | rfl <;> decide

theorem Blank.closed {blanks : Bytes} (blank : Blank blanks) {rest : Bytes} (closed : Closed rest) :
    Closed (blanks ++ rest) := by
  cases blanks with
  | nil => exact closed
  | cons b blanks =>
    rintro c ⟨⟩
    exact .inl (blank b List.mem_cons_self)

theorem closed_of_others (others : List Bytes) {close : UInt8}
    (closes : close = ']'.toUInt8 ∨ close = '\x7d'.toUInt8) (rest : Bytes) :
    Closed (others.flatMap (','.toUInt8 :: ·) ++ close :: rest) := by
  cases others with
  | nil =>
    rintro b ⟨⟩
    exact .inr (.inr closes)
  | cons t others =>
    rintro b ⟨⟩
    exact .inr (.inl rfl)

theorem length_le_others (others : List Bytes) :
    others.length ≤ (others.flatMap (','.toUInt8 :: ·)).length := by
  induction others with
  | nil => exact Nat.le_refl 0
  | cons t others ih =>
    rw [List.flatMap_cons, List.length_append, List.length_cons, List.length_cons]
    omega

theorem not_blank_of_digit {b : UInt8} (digit : JsonNumber.isDigit b = true) :
    isBlankByte b = false ∧ b ≠ ']'.toUInt8 := by
  constructor
  · by_contra blank
    simp only [isBlankByte, Bool.not_eq_false, Bool.or_eq_true, decide_eq_true_eq] at blank
    rcases blank with ((rfl | rfl) | rfl) | rfl <;> cases digit
  · rintro rfl
    cases digit

/-- A text begins with a byte that is neither blank nor a closing bracket. -/
theorem Text.exists_byte {depth : Nat} {t : Bytes} {v : Json} (text : Text .readable depth t v) :
    ∃ b bs, t = b :: bs ∧ isBlankByte b = false ∧ b ≠ ']'.toUInt8 := by
  cases text with
  | null => exact ⟨_, _, rfl, by decide⟩
  | yes => exact ⟨_, _, rfl, by decide⟩
  | no => exact ⟨_, _, rfl, by decide⟩
  | number spelled =>
    obtain ⟨n, -, rfl⟩ := spelled
    obtain ⟨b, bs, bytes, head⟩ := n.exists_byte
    refine ⟨b, bs, bytes, ?_⟩
    obtain rfl | digit := head
    · decide
    · exact not_blank_of_digit digit
  | string spelled =>
    obtain ⟨u, -, rfl⟩ := spelled
    exact ⟨_, _, rfl, by decide⟩
  | array => exact ⟨_, _, rfl, by decide⟩
  | object => exact ⟨_, _, rfl, by decide⟩

/-- A reader of values gives exactly what texts up to a depth spell.  Only a number needs to know
what follows it. -/
structure Exact (element : Reader Json) (depth : Nat) : Prop where
  sound : ∀ bs v rest, element bs = .ok (v, rest) →
    ∃ before t, Blank before ∧ bs = before ++ (t ++ rest) ∧ Text .readable depth t v
  complete : ∀ before t v rest, Blank before → Text .readable depth t v →
    ((∃ n, v = .number n) → Closed rest) → element (before ++ (t ++ rest)) = .ok (v, rest)

/-! ## Arrays -/

section

variable {element : Reader Json} {depth : Nat} (elements : Exact element depth)
include elements

theorem items_of_readElements {fuel : Nat} {bs rest : Bytes} {vs : List Json}
    (read : readElements element fuel bs = .ok (vs, rest)) :
    ∃ (after : Bytes) (items : List (Passage Json)), Blank after ∧
      (∀ p ∈ items, Document .readable depth p) ∧ vs = items.map Passage.meaning ∧
      bs = after ++ ((items.map Passage.bytes).flatMap (','.toUInt8 :: ·) ++ ']'.toUInt8 :: rest) := by
  induction fuel generalizing bs vs with
  | zero => cases read
  | succ fuel ih =>
    simp only [readElements] at read
    split at read
    · cases read
    · next b tail skip =>
      obtain ⟨after, blank, rfl⟩ := exists_of_skipBlanks skip
      split at read
      · next close =>
        cases read
        exact ⟨after, [], blank, List.forall_mem_nil _, rfl, by rw [close]; rfl⟩
      · split at read
        · next comma =>
          split at read
          · cases read
          · next c tail skip =>
            obtain ⟨before, blankBefore, rfl⟩ := exists_of_skipBlanks skip
            split at read
            · cases read
            · obtain ⟨⟨v, behind⟩, first, read⟩ := bind_eq_ok.1 read
              obtain ⟨⟨vs, rest⟩, others, read⟩ := bind_eq_ok.1 read
              cases read
              obtain ⟨blanks, t, blank', here, text⟩ := elements.sound _ _ _ first
              obtain ⟨after', items, blankAfter, documents, rfl, there⟩ := ih others
              refine ⟨after, ⟨before ++ blanks, t, after', v⟩ :: items, blank, ?_, rfl, ?_⟩
              · have padded := And.intro (blankBefore.append blank') blankAfter
                exact List.forall_mem_cons.2 ⟨⟨padded, text⟩, documents⟩
              · rw [here, show behind = _ from there, comma]
                simp [Passage.bytes]
        · cases read

theorem Exact.item {p : Passage Json} (document : Document .readable depth p) {rest : Bytes}
    (closed : Closed rest) :
    ∃ b tail, p.bytes ++ rest = p.before ++ b :: tail ∧ isBlankByte b = false ∧
      b ≠ ']'.toUInt8 ∧ element (b :: tail) = .ok (p.meaning, p.after ++ rest) := by
  obtain ⟨⟨-, blankAfter⟩, text⟩ := document
  obtain ⟨b, tail, bytes, solid, notClose⟩ := text.exists_byte
  have first := elements.complete [] p.text p.meaning _ blank_nil text fun _ =>
    blankAfter.closed closed
  refine ⟨b, tail ++ (p.after ++ rest), ?_, solid, notClose, ?_⟩
  · simp [Passage.bytes, bytes]
  · simpa [bytes] using first

theorem readElements_of_items (fuel : Nat) {after : Bytes} (blank : Blank after)
    {items : List (Passage Json)} (documents : ∀ p ∈ items, Document .readable depth p)
    (enough : items.length < fuel) (rest : Bytes) :
    readElements element fuel
      (after ++ ((items.map Passage.bytes).flatMap (','.toUInt8 :: ·) ++ ']'.toUInt8 :: rest)) =
      .ok (items.map Passage.meaning, rest) := by
  induction items generalizing fuel after with
  | nil =>
    obtain ⟨fuel, rfl⟩ : ∃ n, fuel = n + 1 := ⟨fuel - 1, by omega⟩
    simp [readElements, skipBlanks_append blank, skipBlanks_cons (b := ']'.toUInt8) (by decide)]
  | cons p items ih =>
    obtain ⟨fuel, rfl⟩ : ∃ n, fuel = n + 1 := ⟨fuel - 1, by omega⟩
    obtain ⟨document, documents⟩ := List.forall_mem_cons.1 documents
    have others := ih fuel document.padded.2 documents (by simpa using enough)
    obtain ⟨b, tail, split, solid, notClose, first⟩ :=
      elements.item document (closed_of_others (items.map Passage.bytes) (.inl rfl) rest)
    simp only [List.map_cons, List.flatMap_cons, List.append_assoc, List.cons_append, split]
    rw [readElements, skipBlanks_append blank, skipBlanks_cons (by decide)]
    simp only [(by decide : (','.toUInt8 : UInt8) ≠ ']'.toUInt8), if_true, if_false,
      skipBlanks_append document.padded.1, skipBlanks_cons solid, if_neg notClose]
    exact bind_eq_ok.2 ⟨_, first, bind_eq_ok.2 ⟨_, others, rfl⟩⟩

theorem readArray_eq_ok_iff (bs : Bytes) (vs : List Json) (rest : Bytes) :
    readArray element bs = .ok (vs, rest) ↔
      ∃ (inner : Bytes) (items : List (Passage Json)), Listed (items.map Passage.bytes) inner ∧
        (∀ p ∈ items, Document .readable depth p) ∧ vs = items.map Passage.meaning ∧
        bs = inner ++ ']'.toUInt8 :: rest := by
  constructor
  · intro read
    simp only [readArray] at read
    split at read
    · cases read
    · next b tail skip =>
      obtain ⟨before, blankBefore, rfl⟩ := exists_of_skipBlanks skip
      split at read
      · next close =>
        cases read
        exact ⟨before, [], .empty blankBefore, List.forall_mem_nil _, rfl, by rw [close]⟩
      · obtain ⟨⟨v, behind⟩, first, read⟩ := bind_eq_ok.1 read
        obtain ⟨⟨vs, rest⟩, others, read⟩ := bind_eq_ok.1 read
        cases read
        obtain ⟨blanks, t, blank, here, text⟩ := elements.sound _ _ _ first
        obtain ⟨after, items, blankAfter, documents, rfl, there⟩ :=
          items_of_readElements elements others
        refine ⟨_, ⟨before ++ blanks, t, after, v⟩ :: items, .items _ _, ?_, rfl, ?_⟩
        · have padded := And.intro (blankBefore.append blank) blankAfter
          exact List.forall_mem_cons.2 ⟨⟨padded, text⟩, documents⟩
        · rw [here, show behind = _ from there]
          simp [Passage.bytes]
  · rintro ⟨inner, items, listed, documents, rfl, rfl⟩
    cases items with
    | nil =>
      cases listed with
      | empty blank =>
        simp [readArray, skipBlanks_append blank, skipBlanks_cons (b := ']'.toUInt8) (by decide)]
    | cons p items =>
      cases listed with
      | items =>
        obtain ⟨document, documents⟩ := List.forall_mem_cons.1 documents
        obtain ⟨b, tail, split, solid, notClose, first⟩ :=
          elements.item document (closed_of_others (items.map Passage.bytes) (.inl rfl) rest)
        rw [List.append_assoc, split]
        simp only [readArray, skipBlanks_append document.padded.1, skipBlanks_cons solid,
          if_neg notClose]
        refine bind_eq_ok.2 ⟨_, first, bind_eq_ok.2
          ⟨_, readElements_of_items elements _ document.padded.2 documents ?_ rest, rfl⟩⟩
        have enough := length_le_others (items.map Passage.bytes)
        rw [List.length_map] at enough
        simp only [List.length_append]
        omega

/-! ## Objects -/

/-- A member is read behind its opening quote and up to its value; the blanks around it are read
before and after. -/
theorem member_of_readMember {bs rest : Bytes} {written : String × Json}
    (read : readMember element bs = .ok (written, rest)) {before after behind : Bytes}
    (blankBefore : Blank before) (blankAfter : Blank after) (split : rest = after ++ behind) :
    ∃ m : MemberPassage, m.Spelled .readable depth ∧ m.member = written ∧
      before ++ '"'.toUInt8 :: bs = m.bytes ++ behind := by
  obtain ⟨⟨key, afterKey⟩, readKey, read⟩ := bind_eq_ok.1 read
  obtain ⟨u, spells, splitKey⟩ := (JsonText.read_eq_ok_iff _ _ _).1 readKey
  simp only at read
  split at read
  · cases read
  · next b tail skip =>
    obtain ⟨blanksKey, blankKey, rfl⟩ := exists_of_skipBlanks skip
    split at read
    · next colon =>
      obtain ⟨⟨v, _⟩, value, read⟩ := bind_eq_ok.1 read
      cases read
      obtain ⟨blanksValue, t, blankValue, splitValue, text⟩ := elements.sound _ _ _ value
      refine ⟨⟨⟨before, inQuotes u, blanksKey, key⟩, ⟨blanksValue, t, after, v⟩⟩, ?_, rfl, ?_⟩
      · exact ⟨⟨⟨blankBefore, blankKey⟩, blankValue, blankAfter⟩, ⟨u, spells, rfl⟩, text⟩
      · simp [MemberPassage.bytes, Passage.bytes, inQuotes, splitKey, splitValue, colon]
        exact split
    · cases read

theorem Exact.member {m : MemberPassage} (spelled : m.Spelled .readable depth) {rest : Bytes}
    (closed : Closed rest) :
    ∃ tail, m.bytes ++ rest = m.key.before ++ '"'.toUInt8 :: tail ∧
      readMember element tail = .ok (m.member, m.value.after ++ rest) := by
  obtain ⟨⟨⟨-, blankKey⟩, blankBefore, blankAfter⟩, ⟨u, spells, key⟩, text⟩ := spelled
  have value := elements.complete _ _ _ _ blankBefore text fun _ => blankAfter.closed closed
  refine ⟨u ++ '"'.toUInt8 :: (m.key.after ++ ':'.toUInt8 ::
    (m.value.before ++ (m.value.text ++ (m.value.after ++ rest)))), ?_, ?_⟩
  · simp [MemberPassage.bytes, Passage.bytes, key, inQuotes]
  · refine bind_eq_ok.2 ⟨_, (JsonText.read_eq_ok_iff _ _ _).2 ⟨u, spells, rfl⟩, ?_⟩
    simp only [skipBlanks_append blankKey, skipBlanks_cons (b := ':'.toUInt8) (by decide), if_true]
    exact bind_eq_ok.2 ⟨_, value, rfl⟩

theorem members_of_readMembers {fuel : Nat} {bs rest : Bytes} {written : Members}
    (read : readMembers element fuel bs = .ok (written, rest)) :
    ∃ (after : Bytes) (members : List MemberPassage), Blank after ∧
      (∀ m ∈ members, m.Spelled .readable depth) ∧ written = members.map MemberPassage.member ∧
      bs = after ++
        ((members.map MemberPassage.bytes).flatMap (','.toUInt8 :: ·) ++ '\x7d'.toUInt8 :: rest) := by
  induction fuel generalizing bs written with
  | zero => cases read
  | succ fuel ih =>
    simp only [readMembers] at read
    split at read
    · cases read
    · next b tail skip =>
      obtain ⟨after, blank, rfl⟩ := exists_of_skipBlanks skip
      split at read
      · next close =>
        cases read
        exact ⟨after, [], blank, List.forall_mem_nil _, rfl, by rw [close]; rfl⟩
      · split at read
        · next comma =>
          split at read
          · cases read
          · next c tail skip =>
            obtain ⟨before, blankBefore, rfl⟩ := exists_of_skipBlanks skip
            split at read
            · next quote =>
              obtain ⟨⟨first, behind⟩, readHere, read⟩ := bind_eq_ok.1 read
              obtain ⟨⟨written, rest⟩, others, read⟩ := bind_eq_ok.1 read
              cases read
              obtain ⟨after', members, blankAfter, all, rfl, there⟩ := ih others
              obtain ⟨m, spelled, rfl, here⟩ :=
                member_of_readMember elements readHere blankBefore blankAfter there
              refine ⟨after, m :: members, blank, List.forall_mem_cons.2 ⟨spelled, all⟩, rfl, ?_⟩
              rw [quote, comma, here]
              simp
            · split at read <;> cases read
        · cases read

theorem readMembers_of_members (fuel : Nat) {after : Bytes} (blank : Blank after)
    {members : List MemberPassage} (spelled : ∀ m ∈ members, m.Spelled .readable depth)
    (enough : members.length < fuel) (rest : Bytes) :
    readMembers element fuel
      (after ++
        ((members.map MemberPassage.bytes).flatMap (','.toUInt8 :: ·) ++ '\x7d'.toUInt8 :: rest)) =
      .ok (members.map MemberPassage.member, rest) := by
  induction members generalizing fuel after with
  | nil =>
    obtain ⟨fuel, rfl⟩ : ∃ n, fuel = n + 1 := ⟨fuel - 1, by omega⟩
    simp [readMembers, skipBlanks_append blank,
      skipBlanks_cons (b := '\x7d'.toUInt8) (by decide)]
  | cons m members ih =>
    obtain ⟨fuel, rfl⟩ : ∃ n, fuel = n + 1 := ⟨fuel - 1, by omega⟩
    obtain ⟨here, spelled⟩ := List.forall_mem_cons.1 spelled
    have others := ih fuel here.padded.2.2 spelled (by simpa using enough)
    obtain ⟨tail, split, first⟩ :=
      elements.member here (closed_of_others (members.map MemberPassage.bytes) (.inr rfl) rest)
    simp only [List.map_cons, List.flatMap_cons, List.append_assoc, List.cons_append, split]
    rw [readMembers, skipBlanks_append blank, skipBlanks_cons (by decide)]
    simp only [(by decide : (','.toUInt8 : UInt8) ≠ '\x7d'.toUInt8), if_true, if_false,
      skipBlanks_append here.padded.1.1, skipBlanks_cons (b := '"'.toUInt8) (by decide)]
    exact bind_eq_ok.2 ⟨_, first, bind_eq_ok.2 ⟨_, others, rfl⟩⟩

theorem readObject_eq_ok_iff (bs : Bytes) (written : Members) (rest : Bytes) :
    readObject element bs = .ok (written, rest) ↔
      ∃ (inner : Bytes) (members : List MemberPassage),
        Listed (members.map MemberPassage.bytes) inner ∧
        (∀ m ∈ members, m.Spelled .readable depth) ∧ written = members.map MemberPassage.member ∧
        bs = inner ++ '\x7d'.toUInt8 :: rest := by
  constructor
  · intro read
    simp only [readObject] at read
    split at read
    · cases read
    · next b tail skip =>
      obtain ⟨before, blankBefore, rfl⟩ := exists_of_skipBlanks skip
      split at read
      · next close =>
        cases read
        exact ⟨before, [], .empty blankBefore, List.forall_mem_nil _, rfl, by rw [close]⟩
      · split at read
        · next quote =>
          obtain ⟨⟨first, behind⟩, readHere, read⟩ := bind_eq_ok.1 read
          obtain ⟨⟨written, rest⟩, others, read⟩ := bind_eq_ok.1 read
          cases read
          obtain ⟨after, members, blankAfter, spelled, rfl, there⟩ :=
            members_of_readMembers elements others
          obtain ⟨m, here, rfl, split⟩ :=
            member_of_readMember elements readHere blankBefore blankAfter there
          refine ⟨_, m :: members, .items _ _, List.forall_mem_cons.2 ⟨here, spelled⟩, rfl, ?_⟩
          rw [quote, split, List.append_assoc]
        · cases read
  · rintro ⟨inner, members, listed, spelled, rfl, rfl⟩
    cases members with
    | nil =>
      cases listed with
      | empty blank =>
        simp [readObject, skipBlanks_append blank,
          skipBlanks_cons (b := '\x7d'.toUInt8) (by decide)]
    | cons m members =>
      cases listed with
      | items =>
        obtain ⟨here, spelled⟩ := List.forall_mem_cons.1 spelled
        obtain ⟨tail, split, first⟩ :=
          elements.member here (closed_of_others (members.map MemberPassage.bytes) (.inr rfl) rest)
        rw [List.append_assoc, split]
        simp only [readObject, skipBlanks_append here.padded.1.1,
          skipBlanks_cons (b := '"'.toUInt8) (by decide), if_true,
          (by decide : ('"'.toUInt8 : UInt8) ≠ '\x7d'.toUInt8), if_false]
        refine bind_eq_ok.2 ⟨_, first, bind_eq_ok.2
          ⟨_, readMembers_of_members elements _ here.padded.2.2 spelled ?_ rest, rfl⟩⟩
        have enough := length_le_others (members.map MemberPassage.bytes)
        rw [List.length_map] at enough
        simp only [List.length_append]
        omega

end

/-! ## Values -/

theorem text_of_readUnsigned {negative : Bool} {bs rest : Bytes} {x : JsonNumber}
    (read : JsonNumber.readUnsigned negative bs = .ok (x, rest)) (depth : Nat) :
    ∃ n : JsonNumber.Literal, n.negative = negative ∧ bs = n.unsigned ++ rest ∧
      Text .readable depth n.bytes (.number x) := by
  obtain ⟨n, sign, split, value⟩ := JsonNumber.exists_literal_of_readUnsigned read
  exact ⟨n, sign, split, .number ⟨n, (n.denotes_iff x).2 value, rfl⟩⟩

theorem readValue_sound (depth : Nat) (below : ∀ d, depth = d + 1 → Exact (readValue d) d)
    {bs rest : Bytes} {v : Json} (read : readValue depth bs = .ok (v, rest)) :
    ∃ before t, Blank before ∧ bs = before ++ (t ++ rest) ∧ Text .readable depth t v := by
  rw [readValue.eq_def] at read
  simp only at read
  split at read
  · cases read
  · next b tail skip =>
    obtain ⟨before, blank, rfl⟩ := exists_of_skipBlanks skip
    suffices here : ∃ t, b :: tail = t ++ rest ∧ Text .readable depth t v by
      obtain ⟨t, split, text⟩ := here
      exact ⟨before, t, blank, by rw [split], text⟩
    -- The first byte tells the kind of the value.
    split at read
    · next head =>
      obtain ⟨rfl, rfl⟩ := (readWord_eq_ok_iff _ _ _ _ _).1 read
      exact ⟨_, by rw [head]; rfl, .null⟩
    split at read
    · next head =>
      obtain ⟨rfl, rfl⟩ := (readWord_eq_ok_iff _ _ _ _ _).1 read
      exact ⟨_, by rw [head]; rfl, .yes⟩
    split at read
    · next head =>
      obtain ⟨rfl, rfl⟩ := (readWord_eq_ok_iff _ _ _ _ _).1 read
      exact ⟨_, by rw [head]; rfl, .no⟩
    split at read
    · next head =>
      obtain ⟨⟨x, behind⟩, number, read⟩ := bind_eq_ok.1 read
      cases read
      obtain ⟨n, sign, split, text⟩ := text_of_readUnsigned number depth
      exact ⟨n.bytes, by simp [JsonNumber.Literal.bytes, sign, head, split], text⟩
    split at read
    · obtain ⟨⟨x, behind⟩, number, read⟩ := bind_eq_ok.1 read
      cases read
      obtain ⟨n, sign, split, text⟩ := text_of_readUnsigned number depth
      exact ⟨n.bytes, by simp [JsonNumber.Literal.bytes, sign, split], text⟩
    split at read
    · next head =>
      obtain ⟨⟨s, behind⟩, string, read⟩ := bind_eq_ok.1 read
      cases read
      obtain ⟨u, spells, rfl⟩ := (JsonText.read_eq_ok_iff _ _ _).1 string
      refine ⟨inQuotes u, ?_, .string ⟨u, spells, rfl⟩⟩
      simp [inQuotes, head]
    split at read
    · next head =>
      cases depth with
      | zero => cases read
      | succ depth =>
        obtain ⟨⟨items, behind⟩, array, read⟩ := bind_eq_ok.1 read
        cases read
        obtain ⟨inner, items, listed, documents, rfl, rfl⟩ :=
          (readArray_eq_ok_iff (below depth rfl) _ _ _).1 array
        refine ⟨_, ?_, .array listed (fun p member => (documents p member).padded)
          fun p member => (documents p member).value⟩
        simp [head]
    split at read
    · next head =>
      cases depth with
      | zero => cases read
      | succ depth =>
        obtain ⟨⟨written, behind⟩, object, read⟩ := bind_eq_ok.1 read
        cases read
        obtain ⟨inner, members, listed, spelled, rfl, rfl⟩ :=
          (readObject_eq_ok_iff (below depth rfl) _ _ _).1 object
        refine ⟨_, ?_, .object listed (fun m member => (spelled m member).padded)
          (fun m member => (spelled m member).key) fun m member => (spelled m member).value⟩
        simp [head]
    · cases read

theorem readValue_append {before : Bytes} (blank : Blank before) (depth : Nat) (bs : Bytes) :
    readValue depth (before ++ bs) = readValue depth bs := by
  rw [readValue.eq_def, readValue.eq_def depth bs]
  simp only [skipBlanks_append blank]

/-- The first byte of a literal already tells that a number is read. -/
theorem readValue_literal (depth : Nat) (n : JsonNumber.Literal) (rest : Bytes) :
    readValue depth (n.bytes ++ rest) =
      JsonNumber.readUnsigned n.negative (n.unsigned ++ rest) >>=
        fun given => .ok (number given.1, given.2) := by
  rw [readValue.eq_def]
  cases negative : n.negative with
  | true =>
    have split : n.bytes = '-'.toUInt8 :: n.unsigned := by
      simp [JsonNumber.Literal.bytes, negative]
    simp only [split, List.cons_append, skipBlanks_cons (b := '-'.toUInt8) (by decide)]
    rw [if_neg (by decide), if_neg (by decide), if_neg (by decide), if_pos trivial]
  | false =>
    obtain ⟨d, ds, bytes, digit⟩ := n.whole.exists_cons
    have split : n.bytes ++ rest = d :: (ds ++ (n.fractionBytes ++ n.exponentBytes) ++ rest) := by
      simp [JsonNumber.Literal.bytes, JsonNumber.Literal.unsigned, negative, bytes]
    have same : n.unsigned ++ rest = n.bytes ++ rest := by simp [JsonNumber.Literal.bytes, negative]
    have other {c : UInt8} (outside : JsonNumber.isDigit c = false) : d ≠ c := by
      rintro rfl
      exact Bool.false_ne_true (outside.symm.trans digit)
    rw [same, split]
    simp only [skipBlanks_cons (not_blank_of_digit digit).1]
    rw [if_neg (other (by decide)), if_neg (other (by decide)), if_neg (other (by decide)),
      if_neg (other (by decide)), if_pos digit]

theorem readValue_number {depth : Nat} (n : JsonNumber.Literal) {x : JsonNumber}
    (denotes : n.Denotes x) {rest : Bytes} (closed : Closed rest) :
    readValue depth (n.bytes ++ rest) = .ok (.number x, rest) := by
  rw [readValue_literal]
  exact bind_eq_ok.2 ⟨_, (JsonNumber.readUnsigned_literal n (closed.stops n) x rest).2
    ⟨(n.denotes_iff x).1 denotes, rfl⟩, rfl⟩

theorem readValue_complete (depth : Nat) (below : ∀ d, depth = d + 1 → Exact (readValue d) d)
    {before t rest : Bytes} {v : Json} (blank : Blank before) (text : Text .readable depth t v)
    (closed : (∃ n, v = .number n) → Closed rest) :
    readValue depth (before ++ (t ++ rest)) = .ok (v, rest) := by
  rw [readValue_append blank]
  cases text with
  | number spelled =>
    obtain ⟨n, denotes, rfl⟩ := spelled
    exact readValue_number n denotes (closed ⟨_, rfl⟩)
  | null =>
    change readValue depth ('n'.toUInt8 :: (word "ull" ++ rest)) = _
    rw [readValue.eq_def]
    simp only [skipBlanks_cons (b := 'n'.toUInt8) (by decide), if_true]
    exact (readWord_eq_ok_iff _ _ _ _ _).2 ⟨rfl, rfl⟩
  | yes =>
    change readValue depth ('t'.toUInt8 :: (word "rue" ++ rest)) = _
    rw [readValue.eq_def]
    simp only [skipBlanks_cons (b := 't'.toUInt8) (by decide)]
    rw [if_neg (by decide), if_pos trivial]
    exact (readWord_eq_ok_iff _ _ _ _ _).2 ⟨rfl, rfl⟩
  | no =>
    change readValue depth ('f'.toUInt8 :: (word "alse" ++ rest)) = _
    rw [readValue.eq_def]
    simp only [skipBlanks_cons (b := 'f'.toUInt8) (by decide)]
    rw [if_neg (by decide), if_neg (by decide), if_pos trivial]
    exact (readWord_eq_ok_iff _ _ _ _ _).2 ⟨rfl, rfl⟩
  | string spelled =>
    obtain ⟨u, spells, rfl⟩ := spelled
    have read := (JsonText.read_eq_ok_iff (u ++ '"'.toUInt8 :: rest) _ _).2 ⟨u, spells, rfl⟩
    rw [readValue.eq_def]
    simp only [inQuotes, List.cons_append, List.append_assoc, List.nil_append,
      skipBlanks_cons (b := '"'.toUInt8) (by decide)]
    rw [if_neg (by decide), if_neg (by decide), if_neg (by decide), if_neg (by decide),
      if_neg (by decide), if_pos trivial]
    exact bind_eq_ok.2 ⟨_, read, rfl⟩
  | @array depth inner items listed padded values =>
    have read := (readArray_eq_ok_iff (below depth rfl) (inner ++ ']'.toUInt8 :: rest) _ rest).2
      ⟨inner, items, listed, fun p member => ⟨padded p member, values p member⟩, rfl, rfl⟩
    rw [readValue.eq_def]
    simp only [List.cons_append, List.append_assoc, List.nil_append,
      skipBlanks_cons (b := '['.toUInt8) (by decide)]
    rw [if_neg (by decide), if_neg (by decide), if_neg (by decide), if_neg (by decide),
      if_neg (by decide), if_neg (by decide), if_pos trivial]
    exact bind_eq_ok.2 ⟨_, read, rfl⟩
  | @object depth inner members listed padded keys values =>
    have read := (readObject_eq_ok_iff (below depth rfl) (inner ++ '\x7d'.toUInt8 :: rest) _ rest).2
      ⟨inner, members, listed,
        fun m member => ⟨padded m member, keys m member, values m member⟩, rfl, rfl⟩
    rw [readValue.eq_def]
    simp only [List.cons_append, List.append_assoc, List.nil_append,
      skipBlanks_cons (b := '\x7b'.toUInt8) (by decide)]
    rw [if_neg (by decide), if_neg (by decide), if_neg (by decide), if_neg (by decide),
      if_neg (by decide), if_neg (by decide), if_neg (by decide), if_pos trivial]
    exact bind_eq_ok.2 ⟨_, read, rfl⟩

theorem readValue_exact (depth : Nat) : Exact (readValue depth) depth := by
  -- Only an open bracket needs the reader of the next level, so at depth zero none is needed.
  induction depth with
  | zero =>
    exact ⟨fun _ _ _ read => readValue_sound 0 nofun read,
      fun _ _ _ _ blank text closed => readValue_complete 0 nofun blank text closed⟩
  | succ depth ih =>
    have below : ∀ d, depth + 1 = d + 1 → Exact (readValue d) d := by
      rintro d ⟨⟩
      exact ih
    exact ⟨fun _ _ _ read => readValue_sound _ below read,
      fun _ _ _ _ blank text closed => readValue_complete _ below blank text closed⟩

/-! ## Whole texts -/

theorem readText_eq_ok_iff (bs : Bytes) (v : Json) :
    readText bs = .ok v ↔
      ∃ passage, Document .readable maxDepth passage ∧ passage.bytes = bs ∧ passage.meaning = v := by
  constructor
  · intro read
    obtain ⟨⟨w, behind⟩, value, read⟩ := bind_eq_ok.1 read
    obtain ⟨before, t, blank, split, text⟩ := (readValue_exact maxDepth).sound _ _ _ value
    simp only at read
    split at read
    · next skip =>
      cases read
      have after := (skipBlanks_eq_nil_iff behind).1 skip
      exact ⟨⟨before, t, behind, v⟩, ⟨⟨blank, after⟩, text⟩, by simp [Passage.bytes, split], rfl⟩
    · cases read
  · rintro ⟨passage, ⟨⟨blank, after⟩, text⟩, rfl, rfl⟩
    have nothing : Closed [] := nofun
    have closed : Closed passage.after := by simpa using after.closed nothing
    have value := (readValue_exact maxDepth).complete _ _ _ _ blank text fun _ => closed
    rw [← List.append_assoc] at value
    refine bind_eq_ok.2 ⟨_, value, ?_⟩
    simp only [(skipBlanks_eq_nil_iff passage.after).2 after]

theorem Document.wellFormed {passage : Passage Json} (document : Document .readable maxDepth passage) :
    passage.meaning.WellFormed := by
  have text := (readText_eq_ok_iff passage.bytes _).2 ⟨passage, document, rfl, rfl⟩
  exact read_wellFormed (by rw [Json.read, text]; rfl)

end FleetWatch.Json
