import FleetWatch.Json.Reader
import Mathlib.Data.List.Nodup

/-!
# What the reader of JSON gives

A text may repeat a key; the value that is read from it does not.

* `Json.keys_put`: a member keeps the place of its key, or comes behind the others.
* `Json.read_wellFormed`: every value that is read has each key of an object once, at any depth.
-/

namespace FleetWatch

theorem bind_eq_ok {ε α β : Type} {x : Except ε α} {next : α → Except ε β} {b : β} :
    (x >>= next) = .ok b ↔ ∃ a, x = .ok a ∧ next a = .ok b := by
  cases x with
  | error e => simp [bind, Except.bind]
  | ok a => simp [bind, Except.bind]

namespace Json

/-! ## Members -/

theorem keys_put (key : String) (value : Json) (members : Members) :
    (put key value members).map (·.1) =
      if key ∈ members.map (·.1) then members.map (·.1) else members.map (·.1) ++ [key] := by
  induction members with
  | nil => rfl
  | cons m members ih =>
    obtain ⟨k, v⟩ := m
    by_cases here : k = key
    · rw [put, if_pos here, List.map_cons, List.map_cons, if_pos (here ▸ List.mem_cons_self)]
    · rw [put, if_neg here, List.map_cons, List.map_cons, ih]
      by_cases later : key ∈ members.map (·.1)
      · rw [if_pos later, if_pos (List.mem_cons_of_mem _ later)]
      · have fresh : key ∉ k :: members.map (·.1) :=
          List.not_mem_cons_of_ne_of_not_mem (Ne.symm here) later
        rw [if_neg later, if_neg fresh, List.cons_append]

structure Members.WellFormed (members : Members) : Prop where
  distinct : (members.map (·.1)).Nodup
  all : ∀ m ∈ members, m.2.WellFormed

theorem mem_put {key : String} {value : Json} {members : Members} {m : String × Json}
    (member : m ∈ put key value members) : m = (key, value) ∨ m ∈ members := by
  induction members with
  | nil => exact .inl (List.mem_singleton.1 member)
  | cons head members ih =>
    by_cases here : head.1 = key
    · simp only [put, if_pos here, List.mem_cons] at member
      obtain rfl | member := member
      · exact .inl (by rw [here])
      · exact .inr (List.mem_cons_of_mem _ member)
    · simp only [put, if_neg here, List.mem_cons] at member
      obtain rfl | member := member
      · exact .inr List.mem_cons_self
      · exact (ih member).imp_right (List.mem_cons_of_mem _)

theorem Members.WellFormed.put {members : Members} (wellFormed : WellFormed members) (key : String)
    {value : Json} (here : value.WellFormed) : WellFormed (put key value members) := by
  constructor
  · rw [keys_put]
    split
    · exact wellFormed.distinct
    · next fresh =>
      rw [← List.concat_eq_append]
      exact wellFormed.distinct.concat fresh
  · intro m member
    obtain rfl | member := mem_put member
    · exact here
    · exact wellFormed.all m member

theorem wellFormed_ofWritten {written : Members} (all : ∀ m ∈ written, m.2.WellFormed) :
    (Members.ofWritten written).WellFormed := by
  have folded : ∀ members : Members, members.WellFormed →
      (written.foldl (fun ms m => put m.1 m.2 ms) members).WellFormed := by
    induction written with
    | nil => exact fun members wellFormed => wellFormed
    | cons m written ih =>
      intro members wellFormed
      have here := all m List.mem_cons_self
      exact ih (fun other member => all other (List.mem_cons_of_mem _ member)) _
        (wellFormed.put m.1 here)
  exact folded [] ⟨List.nodup_nil, fun m member => absurd member List.not_mem_nil⟩

/-! ## Readers -/

def Gives (property : α → Prop) (reader : Reader α) : Prop :=
  ∀ bs a rest, reader bs = .ok (a, rest) → property a

theorem gives_readWord {value : Json} (here : value.WellFormed) (word : Bytes) :
    Gives WellFormed (readWord value word) := by
  intro bs v rest read
  induction word generalizing bs with
  | nil =>
    cases read
    exact here
  | cons w word ih =>
    cases bs with
    | nil => cases read
    | cons b bs =>
      rw [readWord] at read
      split at read
      · exact ih bs read
      · cases read

section

variable {element : Reader Json} (gives : Gives WellFormed element)
include gives

theorem gives_readElements (fuel : Nat) :
    Gives (fun items => ∀ v ∈ items, v.WellFormed) (readElements element fuel) := by
  induction fuel with
  | zero => exact fun bs items rest read => by cases read
  | succ fuel ih =>
    intro bs items rest read
    simp only [readElements] at read
    split at read
    · cases read
    · split at read
      · cases read
        exact fun v member => absurd member List.not_mem_nil
      · split at read
        · split at read
          · cases read
          · split at read
            · cases read
            · obtain ⟨⟨v, rest'⟩, first, read⟩ := bind_eq_ok.1 read
              obtain ⟨⟨vs, rest''⟩, others, read⟩ := bind_eq_ok.1 read
              cases read
              exact List.forall_mem_cons.2 ⟨gives _ _ _ first, ih _ _ _ others⟩
        · cases read

theorem gives_readArray : Gives (fun items => ∀ v ∈ items, v.WellFormed) (readArray element) := by
  intro bs items rest read
  simp only [readArray] at read
  split at read
  · cases read
  · split at read
    · cases read
      exact fun v member => absurd member List.not_mem_nil
    · obtain ⟨⟨v, rest'⟩, first, read⟩ := bind_eq_ok.1 read
      obtain ⟨⟨vs, rest''⟩, others, read⟩ := bind_eq_ok.1 read
      cases read
      exact List.forall_mem_cons.2
        ⟨gives _ _ _ first, gives_readElements gives _ _ _ _ others⟩

theorem gives_readMember : Gives (fun m => m.2.WellFormed) (readMember element) := by
  intro bs m rest read
  obtain ⟨⟨key, rest'⟩, -, read⟩ := bind_eq_ok.1 read
  simp only at read
  split at read
  · cases read
  · split at read
    · obtain ⟨⟨value, rest''⟩, here, read⟩ := bind_eq_ok.1 read
      cases read
      exact gives _ _ _ here
    · cases read

theorem gives_readMembers (fuel : Nat) :
    Gives (fun members => ∀ m ∈ members, m.2.WellFormed) (readMembers element fuel) := by
  induction fuel with
  | zero => exact fun bs members rest read => by cases read
  | succ fuel ih =>
    intro bs members rest read
    simp only [readMembers] at read
    split at read
    · cases read
    · split at read
      · cases read
        exact fun m member => absurd member List.not_mem_nil
      · split at read
        · split at read
          · cases read
          · split at read
            · obtain ⟨⟨m, rest'⟩, first, read⟩ := bind_eq_ok.1 read
              obtain ⟨⟨ms, rest''⟩, others, read⟩ := bind_eq_ok.1 read
              cases read
              exact List.forall_mem_cons.2
                ⟨gives_readMember gives _ _ _ first, ih _ _ _ others⟩
            · split at read <;> cases read
        · cases read

theorem gives_readObject :
    Gives (fun members => ∀ m ∈ members, m.2.WellFormed) (readObject element) := by
  intro bs members rest read
  simp only [readObject] at read
  split at read
  · cases read
  · split at read
    · cases read
      exact fun m member => absurd member List.not_mem_nil
    · split at read
      · obtain ⟨⟨m, rest'⟩, first, read⟩ := bind_eq_ok.1 read
        obtain ⟨⟨ms, rest''⟩, others, read⟩ := bind_eq_ok.1 read
        cases read
        exact List.forall_mem_cons.2
          ⟨gives_readMember gives _ _ _ first, gives_readMembers gives _ _ _ _ others⟩
      · cases read

end

theorem gives_readValue (depth : Nat) : Gives WellFormed (readValue depth) := by
  induction depth using Nat.strongRecOn with
  | ind depth ih =>
    intro bs v rest read
    rw [readValue.eq_def] at read
    simp only at read
    split at read
    · cases read
    · split at read
      · exact gives_readWord .null _ _ _ _ read
      split at read
      · exact gives_readWord (.bool true) _ _ _ _ read
      split at read
      · exact gives_readWord (.bool false) _ _ _ _ read
      split at read
      · obtain ⟨⟨n, rest'⟩, -, read⟩ := bind_eq_ok.1 read
        cases read
        exact .number n
      split at read
      · obtain ⟨⟨n, rest'⟩, -, read⟩ := bind_eq_ok.1 read
        cases read
        exact .number n
      split at read
      · obtain ⟨⟨s, rest'⟩, -, read⟩ := bind_eq_ok.1 read
        cases read
        exact .string s
      -- Only the brackets open a level.
      split at read
      · cases depth with
        | zero => cases read
        | succ depth =>
          obtain ⟨⟨items, rest'⟩, array, read⟩ := bind_eq_ok.1 read
          cases read
          exact .array (gives_readArray (ih depth (Nat.lt_succ_self depth)) _ _ _ array)
      split at read
      · cases depth with
        | zero => cases read
        | succ depth =>
          obtain ⟨⟨written, rest'⟩, object, read⟩ := bind_eq_ok.1 read
          cases read
          have all := gives_readObject (ih depth (Nat.lt_succ_self depth)) _ _ _ object
          obtain ⟨distinct, all⟩ := wellFormed_ofWritten all
          exact .object distinct all
      · cases read

theorem read_wellFormed {bs : Bytes} {v : Json} (read : Json.read bs = .ok v) : v.WellFormed := by
  obtain ⟨w, text, read⟩ : ∃ w, readText bs = .ok w ∧ w = v := by
    cases text : readText bs with
    | error failure => simp [Json.read, text, Except.mapError] at read
    | ok w => exact ⟨w, rfl, by simpa [Json.read, text, Except.mapError] using read⟩
  obtain ⟨⟨w', rest⟩, value, text⟩ := bind_eq_ok.1 text
  simp only at text
  split at text
  · cases text
    exact read ▸ gives_readValue maxDepth _ _ _ value
  · cases text

end Json
end FleetWatch
