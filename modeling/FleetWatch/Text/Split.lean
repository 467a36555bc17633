/-!
# Splitting a text

The parts of a character list between the occurrences of a separator.

* `intercalate_splitAtChar`: the parts with the separator between them are the text.
-/

namespace FleetWatch

def splitAtChar (separator : Char) : List Char → List (List Char)
  | [] => [[]]
  | c :: cs =>
    if c = separator then [] :: splitAtChar separator cs
    else
      match splitAtChar separator cs with
      | [] => [[c]]
      | part :: parts => (c :: part) :: parts

theorem splitAtChar_ne_nil (separator : Char) (cs : List Char) : splitAtChar separator cs ≠ [] := by
  cases cs with
  | nil => simp [splitAtChar]
  | cons c cs =>
    unfold splitAtChar
    split
    · simp
    · split <;> simp

theorem intercalate_splitAtChar (separator : Char) (cs : List Char) :
    [separator].intercalate (splitAtChar separator cs) = cs := by
  induction cs with
  | nil => rfl
  | cons c cs ih =>
    cases hs : splitAtChar separator cs with
    | nil => exact absurd hs (splitAtChar_ne_nil separator cs)
    | cons part parts =>
      rw [hs] at ih
      by_cases h : c = separator
      · simp [splitAtChar, h, hs, List.intercalate] at ih ⊢
        exact ih
      · cases parts with
        | nil => simp_all [splitAtChar, List.intercalate, List.intersperse]
        | cons p ps => simp_all [splitAtChar, List.intercalate, List.intersperse]

end FleetWatch
