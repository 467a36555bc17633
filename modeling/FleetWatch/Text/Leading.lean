/-!
# Leading text

What follows a fixed beginning of a text.

* `textAfter?_eq_some`: the text is the beginning followed by the answer.
-/

namespace FleetWatch

def textAfter? (start s : String) : Option String :=
  if start.toList.isPrefixOf s.toList then some (String.ofList (s.toList.drop start.length))
  else none

theorem textAfter?_eq_some {start s rest : String} :
    textAfter? start s = some rest ↔ s = start ++ rest := by
  constructor
  · intro h
    unfold textAfter? at h
    split at h
    next hp =>
      obtain ⟨tail, ht⟩ := List.isPrefixOf_iff_prefix.1 hp
      simp only [Option.some.injEq] at h
      subst h
      apply String.toList_inj.1
      rw [← String.length_toList]
      simp [← ht]
    next => simp at h
  · rintro rfl
    unfold textAfter?
    rw [← String.length_toList, if_pos (List.isPrefixOf_iff_prefix.2 (by simp))]
    simp

def keyAfter? (start s : String) : Option String := (textAfter? start s).filter (· ≠ "")

end FleetWatch
