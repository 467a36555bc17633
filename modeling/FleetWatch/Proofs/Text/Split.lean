import FleetWatch.Text.Split

/-!
# Splitting a text

Cutting a text at a separator undoes joining, and every other character is kept in some part.

* `splitAtChar_intercalate`: cutting a text made of lines cuts the lines.
* `length_splitAtChar`: how many parts there are.
* `exists_mem_splitAtChar`: a character in some part.
-/

namespace FleetWatch

theorem splitAtChar_append (separator : Char) (front cs : List Char) :
    splitAtChar separator (front ++ separator :: cs) =
      splitAtChar separator front ++ splitAtChar separator cs := by
  induction front with
  | nil => simp [splitAtChar]
  | cons c front ih =>
    rw [List.cons_append, splitAtChar, splitAtChar, ih]
    split
    · rfl
    · cases parts : splitAtChar separator front with
      | nil => exact absurd parts (splitAtChar_ne_nil separator front)
      | cons part parts => rfl

theorem splitAtChar_intercalate (separator : Char) {ls : List (List Char)} (some : ls ≠ []) :
    splitAtChar separator ([separator].intercalate ls) = ls.flatMap (splitAtChar separator) := by
  induction ls with
  | nil => exact absurd rfl some
  | cons l ls ih =>
    cases ls with
    | nil => simp
    | cons l' ls =>
      rw [List.intercalate_cons_cons, List.append_assoc, List.singleton_append, splitAtChar_append,
        ih (List.cons_ne_nil _ _)]
      rfl

theorem length_splitAtChar (separator : Char) (cs : List Char) :
    (splitAtChar separator cs).length = cs.count separator + 1 := by
  induction cs with
  | nil => rfl
  | cons c cs ih =>
    rw [splitAtChar, List.count_cons]
    split
    next same => simp [ih, same]
    next other =>
      cases parts : splitAtChar separator cs with
      | nil => exact absurd parts (splitAtChar_ne_nil separator cs)
      | cons part parts =>
        rw [parts] at ih
        simpa [other] using ih

theorem splitAtChar_of_not_mem {separator : Char} {cs : List Char} (free : separator ∉ cs) :
    splitAtChar separator cs = [cs] := by
  have whole := intercalate_splitAtChar separator cs
  have one := length_splitAtChar separator cs
  rw [List.count_eq_zero_of_not_mem free] at one
  obtain ⟨part, only⟩ := List.length_eq_one_iff.1 one
  rw [only] at whole ⊢
  simpa using whole

theorem mem_intercalate_iff {separator c : Char} (other : c ≠ separator) (ls : List (List Char)) :
    c ∈ [separator].intercalate ls ↔ ∃ l ∈ ls, c ∈ l := by
  induction ls with
  | nil => simp
  | cons l ls ih =>
    cases ls with
    | nil => simp
    | cons l' ls => simp [List.intercalate_cons_cons, ih, other]

theorem splitAtChar_append_cons {separator : Char} {part : List Char} (free : separator ∉ part)
    (cs : List Char) :
    splitAtChar separator (part ++ separator :: cs) = part :: splitAtChar separator cs := by
  rw [splitAtChar_append, splitAtChar_of_not_mem free, List.singleton_append]

theorem exists_mem_splitAtChar {separator c : Char} (other : c ≠ separator) {cs : List Char}
    (member : c ∈ cs) : ∃ part ∈ splitAtChar separator cs, c ∈ part := by
  rw [← intercalate_splitAtChar separator cs] at member
  exact (mem_intercalate_iff other _).1 member

end FleetWatch
