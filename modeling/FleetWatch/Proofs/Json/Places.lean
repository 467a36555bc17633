import FleetWatch.Proofs.Json.Ends

/-!
# Where a value stands in a text

A text spells one value only, so what is written at some place of it can be told from the value, and
the other way round.

* `Text.unique`: the value of a text.
* `MemberText.member?`: the text of a key in the text of an object.
* `Text.number_of_literal`: a literal in the place of a value.
-/

namespace FleetWatch.Json

theorem Text.unique {depth : Nat} {t : Bytes} {v w : Json} (one : Text .readable depth t v)
    (other : Text .readable depth t w) : v = w := by
  have alone : Closed [] := nofun
  have read {v : Json} (text : Text .readable depth t v) :=
    (readValue_exact depth).complete [] t v [] blank_nil text fun _ => alone
  exact (Prod.mk.inj (Except.ok.inj ((read one).symm.trans (read other)))).1

/-- The text of an object, and in it that of the value which a key was last given. -/
inductive MemberText (depth : Nat) (key : String) : Bytes → Bytes → Prop
  | mk {inner : Bytes} {front back : List MemberPassage} {m : MemberPassage}
      (listed : Listed ((front ++ m :: back).map MemberPassage.bytes) inner)
      (spelled : ∀ other ∈ front ++ m :: back, other.Spelled .readable depth)
      (here : m.key.meaning = key) (last : ∀ other ∈ back, other.key.meaning ≠ key) :
      MemberText depth key ('\x7b'.toUInt8 :: (inner ++ ['\x7d'.toUInt8])) m.value.text

/-- The text of an array with these items. -/
inductive ItemTexts (depth : Nat) (items : List (Passage Json)) : Bytes → Prop
  | mk {inner : Bytes} (listed : Listed (items.map Passage.bytes) inner)
      (documents : ∀ p ∈ items, Document .readable depth p) :
      ItemTexts depth items ('['.toUInt8 :: (inner ++ [']'.toUInt8]))

theorem find?_ofWritten_last {front back : Members} {m : String × Json}
    (last : ∀ other ∈ back, other.1 ≠ m.1) :
    find? m.1 (Members.ofWritten (front ++ m :: back)) = some m.2 := by
  have behind : back.reverse.find? (·.1 = m.1) = none :=
    List.find?_eq_none.2 fun other member => by simpa using last other (List.mem_reverse.1 member)
  simp [find?_ofWritten, List.find?_append, behind]

theorem MemberText.exists_object {depth : Nat} {key : String} {t u : Bytes}
    (place : MemberText depth key t u) :
    ∃ members w, Text .readable (depth + 1) t (.object members) ∧ find? key members = some w ∧
      Text .readable depth u w := by
  cases place with
  | @mk inner front back m listed spelled here last =>
    subst here
    refine ⟨_, m.value.meaning, .object listed (fun other member => (spelled other member).padded)
      (fun other member => (spelled other member).key)
      fun other member => (spelled other member).value, ?_,
      (spelled m (List.mem_append_right _ List.mem_cons_self)).value⟩
    have others : ∀ other ∈ back.map MemberPassage.member, other.1 ≠ m.member.1 := fun other among => by
      obtain ⟨passage, behind, rfl⟩ := List.mem_map.1 among
      exact last passage behind
    rw [List.map_append, List.map_cons]
    exact find?_ofWritten_last others

theorem MemberText.member? {depth : Nat} {key : String} {t u : Bytes}
    (place : MemberText depth key t u) {v : Json} (text : Text .readable (depth + 1) t v) :
    ∃ w, v.member? key = some w ∧ Text .readable depth u w := by
  obtain ⟨members, w, object, found, value⟩ := place.exists_object
  exact ⟨w, text.unique object ▸ found, value⟩

theorem ItemTexts.text {depth : Nat} {items : List (Passage Json)} {t : Bytes}
    (place : ItemTexts depth items t) :
    Text .readable (depth + 1) t (.array (items.map Passage.meaning)) := by
  cases place with
  | mk listed documents =>
    exact .array listed (fun p member => (documents p member).padded)
      fun p member => (documents p member).value

theorem Text.number_of_literal {depth : Nat} {n : JsonNumber.Literal} {v : Json}
    (text : Text .readable depth n.bytes v) : ∃ x, v = .number x ∧ n.Denotes x := by
  have alone : Closed [] := nofun
  have read := (readValue_exact depth).complete [] _ v [] blank_nil text fun _ => alone
  rw [List.nil_append, readValue_literal] at read
  obtain ⟨⟨x, rest⟩, number, same⟩ := bind_eq_ok.1 read
  cases same
  have value := (JsonNumber.readUnsigned_literal n (alone.stops n) x []).1 number
  exact ⟨x, rfl, (n.denotes_iff x).2 value.1⟩

end FleetWatch.Json
