import FleetWatch.Proofs.Json.Exact
import FleetWatch.Proofs.Json.Numeral
import FleetWatch.Proofs.Pointwise

/-!
# Written values are read back

The writer's text of a value is one of the texts that the grammar has for it, so the reader gives the
value again: the same members in the same order with the same strings and whole numbers.  Only a
double comes back as the number that the reader makes of its digits.

* `spells_escaped`: escaped characters are a spelling of the string.
* `Writable.exists_text`: the text of a value spells what is read back.
* `read_write`: the whole text.
-/

namespace FleetWatch.Json

/-! ## Strings -/

theorem hexDigit_byte : ∀ k < 16, JsonText.HexDigit (Nat.digitChar k).toUInt8 k ∧
    String.utf8EncodeChar (Nat.digitChar k) = [(Nat.digitChar k).toUInt8] := by
  intro k bound
  have table : ∀ k < 16, (Nat.digitChar k).toUInt8.toNat = (if k < 10 then 48 + k else 87 + k) ∧
      String.utf8EncodeChar (Nat.digitChar k) = [(Nat.digitChar k).toUInt8] := by decide
  obtain ⟨byte, encoded⟩ := table k bound
  refine ⟨?_, encoded⟩
  split at byte
  · exact .decimal byte (by omega)
  · exact .lower byte (by omega)

/-- A character is written by a short escape, by its number or as it is. -/
theorem escapeChar_cases (c : Char) :
    (∃ letter, (letter, c) ∈ JsonText.shortEscapes ∧ escapeChar c = ['\\', letter]) ∨
    (c.toNat < 0x20 ∧
      escapeChar c = ['\\', 'u', '0', '0', hexDigit (c.toNat / 16), hexDigit c.toNat]) ∨
    (JsonText.Plain c ∧ escapeChar c = [c]) := by
  unfold escapeChar
  split
  next same => exact .inl ⟨_, by simp [JsonText.shortEscapes, same], rfl⟩
  next quote =>
    split
    next same => exact .inl ⟨_, by simp [JsonText.shortEscapes, same], rfl⟩
    next backslash =>
      repeat
        split
        · next same => exact .inl ⟨_, by simp [JsonText.shortEscapes, same], rfl⟩
      split
      next control => exact .inr (.inl ⟨control, rfl⟩)
      next above =>
        have space : ' '.toNat ≤ c.toNat := Nat.le_of_not_lt above
        exact .inr (.inr ⟨⟨space, quote, backslash⟩, rfl⟩)

theorem spellsChar_escapeChar (c : Char) :
    JsonText.SpellsChar (Utf8.ofChars (escapeChar c)) c := by
  rcases escapeChar_cases c with ⟨letter, mem, written⟩ | ⟨control, written⟩ | ⟨plain, written⟩
  · have ascii : ∀ entry ∈ JsonText.shortEscapes,
        String.utf8EncodeChar entry.1 = [entry.1.toUInt8] := by decide
    have bytes : Utf8.ofChars ['\\', letter] = '\\'.toUInt8 :: [letter.toUInt8] := by
      rw [Utf8.ofChars_cons, Utf8.ofChars_cons, ascii _ mem]
      rfl
    rw [written, bytes]
    exact .escape (.short mem)
  · obtain ⟨high, highByte⟩ := hexDigit_byte (c.toNat / 16 % 16) (by omega)
    obtain ⟨low, lowByte⟩ := hexDigit_byte (c.toNat % 16) (by omega)
    have zero : JsonText.HexDigit '0'.toUInt8 0 := .decimal rfl (by decide)
    have hex : JsonText.Hex4 ['0'.toUInt8, '0'.toUInt8, (hexDigit (c.toNat / 16)).toUInt8,
        (hexDigit c.toNat).toUInt8] c.toNat :=
      ⟨_, _, _, _, 0, 0, _, _, rfl, zero, zero, high, low, by omega⟩
    have bytes : Utf8.ofChars ['\\', 'u', '0', '0', hexDigit (c.toNat / 16), hexDigit c.toNat] =
        '\\'.toUInt8 :: 'u'.toUInt8 :: ['0'.toUInt8, '0'.toUInt8, (hexDigit (c.toNat / 16)).toUInt8,
          (hexDigit c.toNat).toUInt8] := by
      simp only [Utf8.ofChars_cons, hexDigit, highByte, lowByte]
      rfl
    rw [written, bytes]
    exact .escape (.unicode (.scalar hex))
  · have bytes : Utf8.ofChars [c] = String.utf8EncodeChar c := List.append_nil _
    rw [written, bytes]
    exact .plain plain

theorem spells_escaped (cs : List Char) :
    JsonText.Spells (Utf8.ofChars (cs.flatMap escapeChar)) cs := by
  induction cs with
  | nil => exact .nil
  | cons c cs ih =>
    rw [List.flatMap_cons, Utf8.ofChars_append]
    exact .cons (spellsChar_escapeChar c) ih

theorem readable_string (s : String) :
    Lexis.readable.string (Utf8.ofChars (writeString s)) s := by
  refine ⟨_, spells_escaped s.toList, ?_⟩
  rw [writeString, Utf8.ofChars_cons, Utf8.ofChars_append]
  rfl

/-! ## Values -/

/-- The values that the writer can write for the reader: whole numbers of 64 bits, finite doubles,
each key once in an object, and at most a number of brackets open at any place. -/
inductive Writable : Nat → Json → Prop
  | null {depth : Nat} : Writable depth null
  | bool {depth : Nat} (b : Bool) : Writable depth (bool b)
  | integer {depth : Nat} {i : Int} (range : JsonNumber.InRange i) :
      Writable depth (number (.integer i))
  | float {depth : Nat} {x : Binary64} (finite : x.isFinite = true) :
      Writable depth (number (.float x))
  | string {depth : Nat} (s : String) : Writable depth (string s)
  | array {depth : Nat} {items : List Json} (all : ∀ v ∈ items, Writable depth v) :
      Writable (depth + 1) (array items)
  | object {depth : Nat} {members : Members} (distinct : (members.map (·.1)).Nodup)
      (all : ∀ m ∈ members, Writable depth m.2) : Writable (depth + 1) (object members)

/-- The second value is the first but for its doubles, which are numbers there too. -/
inductive ReadBack : Json → Json → Prop
  | null : ReadBack null null
  | bool (b : Bool) : ReadBack (bool b) (bool b)
  | integer (i : Int) : ReadBack (number (.integer i)) (number (.integer i))
  | float (x : Binary64) (n : JsonNumber) : ReadBack (number (.float x)) (number n)
  | string (s : String) : ReadBack (string s) (string s)
  | array {vs ws : List Json} (length : vs.length = ws.length)
      (items : ∀ p ∈ vs.zip ws, ReadBack p.1 p.2) : ReadBack (array vs) (array ws)
  | object {ms ns : Members} (keys : ms.map (·.1) = ns.map (·.1))
      (values : ∀ p ∈ ms.zip ns, ReadBack p.1.2 p.2.2) : ReadBack (object ms) (object ns)

theorem writeElements_eq (items : List Json) :
    writeElements items = items.flatMap (fun v => ',' :: writeChars v) ++ [']'] := by
  induction items with
  | nil => rfl
  | cons v items ih => simp [writeElements, ih]

def memberChars (m : String × Json) : List Char := writeString m.1 ++ ':' :: writeChars m.2

theorem writeMembers_eq (members : Members) :
    writeMembers members = members.flatMap (fun m => ',' :: memberChars m) ++ ['\x7d'] := by
  induction members with
  | nil => rfl
  | cons m members ih => simp [writeMembers, memberChars, ih]

theorem ofChars_others {α : Type} (chars : α → List Char) (items : List α) :
    Utf8.ofChars (items.flatMap fun a => ',' :: chars a) =
      (items.map fun a => Utf8.ofChars (chars a)).flatMap (','.toUInt8 :: ·) := by
  induction items with
  | nil => rfl
  | cons a items ih =>
    rw [List.flatMap_cons, Utf8.ofChars_append, ih]
    rfl

theorem bytes_array (items : List Json) :
    Utf8.ofChars (writeChars (array items)) =
      '['.toUInt8 :: (joined (items.map fun v => Utf8.ofChars (writeChars v)) ++ [']'.toUInt8]) := by
  cases items with
  | nil => rfl
  | cons v items =>
    rw [writeChars, writeElements_eq, Utf8.ofChars_cons, Utf8.ofChars_append, Utf8.ofChars_append,
      ofChars_others, List.map_cons, joined, List.append_assoc]
    rfl

theorem bytes_object (members : Members) :
    Utf8.ofChars (writeChars (object members)) =
      '\x7b'.toUInt8 :: (joined (members.map fun m => Utf8.ofChars (memberChars m)) ++
        ['\x7d'.toUInt8]) := by
  cases members with
  | nil => rfl
  | cons m members =>
    have first : writeChars (object (m :: members)) =
        '\x7b' :: (memberChars m ++ writeMembers members) := by
      simp [writeChars, memberChars]
    rw [first, writeMembers_eq, Utf8.ofChars_cons, Utf8.ofChars_append, Utf8.ofChars_append,
      ofChars_others, List.map_cons, joined, List.append_assoc]
    rfl

/-! ## What is read back -/

theorem put_of_fresh {key : String} (value : Json) {members : Members}
    (fresh : key ∉ members.map (·.1)) : put key value members = members ++ [(key, value)] := by
  induction members with
  | nil => rfl
  | cons m members ih =>
    rw [List.map_cons, List.mem_cons, not_or] at fresh
    rw [put, if_neg (Ne.symm fresh.1), ih fresh.2, List.cons_append]

theorem ofWritten_of_distinct {members : Members} (distinct : (members.map (·.1)).Nodup) :
    Members.ofWritten members = members := by
  induction members using List.reverseRecOn with
  | nil => rfl
  | append_singleton members m ih =>
    rw [List.map_append, List.nodup_append] at distinct
    obtain ⟨before, -, apart⟩ := distinct
    have fresh : m.1 ∉ members.map (·.1) := fun member =>
      apart _ member _ (List.mem_singleton_self _) rfl
    rw [Members.ofWritten, List.foldl_append, ← Members.ofWritten, ih before]
    exact put_of_fresh m.2 fresh

/-- A passage without blanks. -/
def Passage.bare {α : Type} (text : Bytes) (meaning : α) : Passage α := ⟨[], text, [], meaning⟩

theorem Passage.bytes_bare {α : Type} (text : Bytes) (meaning : α) :
    (bare text meaning).bytes = text := List.append_nil _

theorem Passage.padded_bare {α : Type} (text : Bytes) (meaning : α) : (bare text meaning).Padded :=
  ⟨blank_nil, blank_nil⟩

variable {depth : Nat}

/-- A passage that writes an item of an array. -/
structure WritesItem (depth : Nat) (v : Json) (p : Passage Json) : Prop where
  bytes : p.bytes = Utf8.ofChars (writeChars v)
  padded : p.Padded
  value : Text .readable depth p.text p.meaning
  back : v.ReadBack p.meaning

theorem exists_text_array {items : List Json} {ps : List (Passage Json)}
    (all : List.Forall₂ (WritesItem depth) items ps) :
    ∃ w, (array items).ReadBack w ∧
      Text .readable (depth + 1) (Utf8.ofChars (writeChars (array items))) w := by
  have bytes : ps.map Passage.bytes = items.map fun v => Utf8.ofChars (writeChars v) :=
    map_eq_of_forall₂ all fun _ _ writes => writes.bytes
  refine ⟨.array (ps.map Passage.meaning), .array ?_ ?_, ?_⟩
  · rw [List.length_map, all.length_eq]
  · rw [List.zip_map_right]
    intro q member
    obtain ⟨⟨v, p⟩, listed, rfl⟩ := List.mem_map.1 member
    exact (List.forall₂_zip all listed).back
  · rw [bytes_array, ← bytes]
    exact .array (listed_joined _)
      (forall_mem_of_forall₂_right all fun _ _ writes => writes.padded)
      (forall_mem_of_forall₂_right all fun _ _ writes => writes.value)

/-- A passage that writes a member of an object. -/
structure WritesMember (depth : Nat) (m : String × Json) (p : MemberPassage) : Prop where
  bytes : p.bytes = Utf8.ofChars (memberChars m)
  padded : p.Padded
  key : Lexis.readable.string p.key.text p.key.meaning
  value : Text .readable depth p.value.text p.value.meaning
  same : p.key.meaning = m.1
  back : m.2.ReadBack p.value.meaning

def MemberPassage.bare (m : String × Json) (w : Json) : MemberPassage :=
  ⟨Passage.bare (Utf8.ofChars (writeString m.1)) m.1, Passage.bare (Utf8.ofChars (writeChars m.2)) w⟩

theorem MemberPassage.bytes_bare (m : String × Json) (w : Json) :
    (bare m w).bytes = Utf8.ofChars (memberChars m) := by
  rw [bytes, bare, Passage.bytes_bare, Passage.bytes_bare, memberChars, Utf8.ofChars_append]
  rfl

theorem exists_text_object {members : Members} (distinct : (members.map (·.1)).Nodup)
    {ps : List MemberPassage} (all : List.Forall₂ (WritesMember depth) members ps) :
    ∃ w, (object members).ReadBack w ∧
      Text .readable (depth + 1) (Utf8.ofChars (writeChars (object members))) w := by
  have bytes : ps.map MemberPassage.bytes = members.map fun m => Utf8.ofChars (memberChars m) :=
    map_eq_of_forall₂ all fun _ _ writes => writes.bytes
  have keys : (ps.map MemberPassage.member).map (·.1) = members.map (·.1) := by
    rw [List.map_map]
    exact map_eq_of_forall₂ all fun _ _ writes => writes.same
  refine ⟨.object (ps.map MemberPassage.member), .object keys.symm ?_, ?_⟩
  · rw [List.zip_map_right]
    intro q member
    obtain ⟨⟨m, p⟩, listed, rfl⟩ := List.mem_map.1 member
    exact (List.forall₂_zip all listed).back
  · have written : Members.ofWritten (ps.map MemberPassage.member) = ps.map MemberPassage.member :=
      ofWritten_of_distinct (keys ▸ distinct)
    rw [bytes_object, ← bytes, ← written]
    exact .object (listed_joined _)
      (forall_mem_of_forall₂_right all fun _ _ writes => writes.padded)
      (forall_mem_of_forall₂_right all fun _ _ writes => writes.key)
      (forall_mem_of_forall₂_right all fun _ _ writes => writes.value)

theorem Writable.exists_text {v : Json} (writable : Writable depth v) :
    ∃ w, v.ReadBack w ∧ Text .readable depth (Utf8.ofChars (writeChars v)) w := by
  induction writable with
  | null => exact ⟨_, .null, .null⟩
  | bool b =>
    cases b with
    | true => exact ⟨_, .bool true, .yes⟩
    | false => exact ⟨_, .bool false, .no⟩
  | integer range => exact ⟨_, .integer _, .number (readable_integer range)⟩
  | float finite =>
    obtain ⟨n, readable⟩ := readable_double finite
    exact ⟨_, .float _ n, .number readable⟩
  | string s => exact ⟨_, .string s, .string (readable_string s)⟩
  | array _ ih =>
    obtain ⟨ps, all⟩ := exists_forall₂.2 fun v member =>
      have ⟨w, back, text⟩ := ih v member
      ⟨Passage.bare _ w, WritesItem.mk (Passage.bytes_bare _ _) (Passage.padded_bare _ _) text back⟩
    exact exists_text_array all
  | object distinct _ ih =>
    obtain ⟨ps, all⟩ := exists_forall₂.2 fun m member =>
      have ⟨w, back, text⟩ := ih m member
      ⟨.bare m w, WritesMember.mk (MemberPassage.bytes_bare m w)
        ⟨Passage.padded_bare _ _, Passage.padded_bare _ _⟩ (readable_string m.1) text rfl back⟩
    exact exists_text_object distinct all

/-- What is written is read, and the value read is the one written but for its doubles. -/
theorem read_write {v : Json} (writable : Writable maxDepth v) :
    ∃ w, read (Utf8.encode v.write) = .ok w ∧ v.ReadBack w := by
  obtain ⟨w, back, text⟩ := writable.exists_text
  have bytes : (Passage.bare (Utf8.ofChars (writeChars v)) w).bytes = Utf8.encode v.write := by
    rw [Passage.bytes_bare, Utf8.encode, write, String.toList_ofList]
    rfl
  have value := (readText_eq_ok_iff (Utf8.encode v.write) w).2
    ⟨_, ⟨Passage.padded_bare _ _, text⟩, bytes, rfl⟩
  exact ⟨w, by rw [read, value]; rfl, back⟩

end FleetWatch.Json
