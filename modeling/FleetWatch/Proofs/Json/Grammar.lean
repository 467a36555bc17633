import FleetWatch.Proofs.Json.Literal
import FleetWatch.Proofs.Json.Spelling
import Mathlib.Data.List.Induction

/-!
# The grammar of JSON

Texts and the values that they spell.  What a number or a string may be is a parameter, a `Lexis`,
so that the grammar of the standard and the texts that the reader takes are two cases of one
relation: they differ in their lexis, and in how deep they may nest.

* `Text.standard`: a text that is readable is one of the standard's.
* `find?_ofWritten`: of the values of a repeated key an object has the last.
-/

namespace FleetWatch.Json

/-! ## Tokens -/

def Blank (bs : Bytes) : Prop := ∀ b ∈ bs, isBlankByte b = true

theorem blank_nil : Blank [] := List.forall_mem_nil _

instance : DecidablePred Blank :=
  fun bs => decidable_of_iff (bs.all isBlankByte = true) List.all_eq_true

def word (s : String) : Bytes := s.toList.map Char.toUInt8

/-- A text among blanks, and what it means. -/
structure Passage (α : Type) where
  before : Bytes
  text : Bytes
  after : Bytes
  meaning : α

namespace Passage

variable {α : Type}

def bytes (p : Passage α) : Bytes := p.before ++ p.text ++ p.after

def Padded (p : Passage α) : Prop := Blank p.before ∧ Blank p.after

end Passage

structure MemberPassage where
  key : Passage String
  value : Passage Json

namespace MemberPassage

def bytes (m : MemberPassage) : Bytes := m.key.bytes ++ ':'.toUInt8 :: m.value.bytes

def Padded (m : MemberPassage) : Prop := m.key.Padded ∧ m.value.Padded

def member (m : MemberPassage) : String × Json := (m.key.meaning, m.value.meaning)

end MemberPassage

/-- What stands between brackets: items with commas between them, or else only blanks. -/
inductive Listed : List Bytes → Bytes → Prop
  | empty {blanks : Bytes} (blank : Blank blanks) : Listed [] blanks
  | items (first : Bytes) (others : List Bytes) :
      Listed (first :: others) (first ++ others.flatMap (','.toUInt8 :: ·))

/-- Which texts are numbers and strings, and what they mean. -/
structure Lexis where
  number : Bytes → JsonNumber → Prop
  string : Bytes → String → Prop

def inQuotes (t : Bytes) : Bytes := '"'.toUInt8 :: (t ++ ['"'.toUInt8])

namespace Lexis

/-- The standard's: a number may be too great for any double and a surrogate may stand alone, so
what they mean is left open. -/
def standard : Lexis where
  number t _ := ∃ n : JsonNumber.Literal, t = n.bytes
  string t _ := ∃ u, JsonText.Pieces u ∧ t = inQuotes u

/-- The reader's. -/
def readable : Lexis where
  number t x := ∃ n : JsonNumber.Literal, n.Denotes x ∧ t = n.bytes
  string t s := ∃ u, JsonText.Spells u s.toList ∧ t = inQuotes u

end Lexis

theorem readable_plain {s : String} (plain : s.toList.all (JsonText.Plain ·) = true) :
    Lexis.readable.string (inQuotes (Utf8.encode s)) s :=
  ⟨_, JsonText.spells_plain plain, rfl⟩

/-! ## Values -/

/-- The texts with at most a number of brackets open at any place, and the values they spell. -/
inductive Text (lexis : Lexis) : Nat → Bytes → Json → Prop
  | null {depth : Nat} : Text lexis depth (word "null") .null
  | yes {depth : Nat} : Text lexis depth (word "true") (.bool true)
  | no {depth : Nat} : Text lexis depth (word "false") (.bool false)
  | number {depth : Nat} {t : Bytes} {n : JsonNumber} (spelled : lexis.number t n) :
      Text lexis depth t (.number n)
  | string {depth : Nat} {t : Bytes} {s : String} (spelled : lexis.string t s) :
      Text lexis depth t (.string s)
  | array {depth : Nat} {inner : Bytes} {items : List (Passage Json)}
      (listed : Listed (items.map Passage.bytes) inner) (padded : ∀ p ∈ items, p.Padded)
      (values : ∀ p ∈ items, Text lexis depth p.text p.meaning) :
      Text lexis (depth + 1) ('['.toUInt8 :: (inner ++ [']'.toUInt8]))
        (.array (items.map Passage.meaning))
  | object {depth : Nat} {inner : Bytes} {members : List MemberPassage}
      (listed : Listed (members.map MemberPassage.bytes) inner) (padded : ∀ m ∈ members, m.Padded)
      (keys : ∀ m ∈ members, lexis.string m.key.text m.key.meaning)
      (values : ∀ m ∈ members, Text lexis depth m.value.text m.value.meaning) :
      Text lexis (depth + 1) ('\x7b'.toUInt8 :: (inner ++ ['\x7d'.toUInt8]))
        (.object (Members.ofWritten (members.map MemberPassage.member)))

/-- A whole text: a value among blanks. -/
structure Document (lexis : Lexis) (depth : Nat) (passage : Passage Json) : Prop where
  padded : passage.Padded
  value : Text lexis depth passage.text passage.meaning

structure MemberPassage.Spelled (lexis : Lexis) (depth : Nat) (m : MemberPassage) : Prop where
  padded : m.Padded
  key : lexis.string m.key.text m.key.meaning
  value : Text lexis depth m.value.text m.value.meaning

theorem Lexis.standard_string {t : Bytes} {s : String} (spelled : readable.string t s) :
    standard.string t s := by
  obtain ⟨u, spells, bytes⟩ := spelled
  exact ⟨u, spells.pieces, bytes⟩

theorem Text.standard {depth : Nat} {t : Bytes} {v : Json} (text : Text .readable depth t v) :
    Text .standard depth t v := by
  induction text with
  | null => exact .null
  | yes => exact .yes
  | no => exact .no
  | number spelled =>
    obtain ⟨n, -, bytes⟩ := spelled
    exact .number ⟨n, bytes⟩
  | string spelled => exact .string (Lexis.standard_string spelled)
  | array listed padded _ values => exact .array listed padded values
  | object listed padded keys _ values =>
    exact .object listed padded (fun m member => Lexis.standard_string (keys m member)) values

theorem Document.standard {depth : Nat} {passage : Passage Json}
    (document : Document .readable depth passage) : Document .standard depth passage :=
  ⟨document.padded, document.value.standard⟩

/-! ## Objects by their members -/

/-- A key has the last of the values that were written for it. -/
theorem find?_ofWritten (written : Members) (key : String) :
    find? key (Members.ofWritten written) =
      (written.reverse.find? (·.1 = key)).map (·.2) := by
  induction written using List.reverseRecOn with
  | nil => rfl
  | append_singleton written m ih =>
    have step : Members.ofWritten (written ++ [m]) = put m.1 m.2 (Members.ofWritten written) := by
      rw [Members.ofWritten, List.foldl_append]
      rfl
    rw [step, List.reverse_append]
    by_cases here : m.1 = key
    · simp [here]
    · simp [here, find?_put_of_ne (Ne.symm here), ih]

/-- An object among blanks, by its members and by what stands between its braces. -/
def objectPassage (before inner after : Bytes) (members : List MemberPassage) : Passage Json :=
  ⟨before, '\x7b'.toUInt8 :: (inner ++ ['\x7d'.toUInt8]), after,
    .object (Members.ofWritten (members.map MemberPassage.member))⟩

theorem Document.of_members {lexis : Lexis} {depth : Nat} {before inner after : Bytes}
    (blankBefore : Blank before) (blankAfter : Blank after) {members : List MemberPassage}
    (listed : Listed (members.map MemberPassage.bytes) inner)
    (spelled : ∀ m ∈ members, m.Spelled lexis depth) :
    Document lexis (depth + 1) (objectPassage before inner after members) :=
  ⟨⟨blankBefore, blankAfter⟩, .object listed (fun m member => (spelled m member).padded)
    (fun m member => (spelled m member).key) fun m member => (spelled m member).value⟩

def joined : List Bytes → Bytes
  | [] => []
  | t :: ts => t ++ ts.flatMap (','.toUInt8 :: ·)

theorem listed_joined (ts : List Bytes) : Listed ts (joined ts) := by
  cases ts with
  | nil => exact .empty blank_nil
  | cons t ts => exact .items t ts

theorem Text.emptyArray {lexis : Lexis} {depth : Nat} :
    Text lexis (depth + 1) (word "[]") (.array []) :=
  @Text.array lexis depth _ [] (.empty blank_nil) (List.forall_mem_nil _)
    (List.forall_mem_nil _)

/-- A member whose key is written plainly, without blanks. -/
def plainMember (key : String) (text : Bytes) (value : Json) : MemberPassage :=
  ⟨⟨[], inQuotes (Utf8.encode key), [], key⟩, ⟨[], text, [], value⟩⟩

theorem plainMember_spelled {lexis : Lexis} {depth : Nat} {key : String} {text : Bytes}
    {value : Json} (spelledKey : lexis.string (inQuotes (Utf8.encode key)) key)
    (spelled : Text lexis depth text value) : (plainMember key text value).Spelled lexis depth :=
  ⟨⟨⟨blank_nil, blank_nil⟩, blank_nil, blank_nil⟩, spelledKey, spelled⟩

end FleetWatch.Json
