import FleetWatch.Storage.FileTree
import FleetWatch.Proofs.Text.Split
import FleetWatch.Proofs.Text.Utf8

/-!
# Paths below a working folder

A path that goes through the working folder again and again names what it names without that, until
it is too long to be followed: then what it names is there and is not seen.

* `FileState.unseen_iff`: what a look does not find.
* `FileTree.find_behindDots`: steps that stay in the working folder change nothing.
* `FileTree.isTooLong_dots`, `FileTree.look_of_long`: with enough of them the path leads nowhere.
-/

namespace FleetWatch

namespace FileState

/-- There is nothing at the end of the path, or nothing that a look gets to. -/
inductive Unseen : FileState → Prop where
  | absent : Unseen .absent
  | hidden (reason : String) : Unseen (.hidden reason)

theorem unseen_iff {state : FileState} : Unseen state ↔ state.isSeen = false := by
  constructor
  · rintro (_ | reason) <;> rfl
  · intro unseen
    cases state with
    | absent => exact .absent
    | hidden reason => exact .hidden reason
    | unreadable reason => cases unseen
    | file content => cases unseen

end FileState

namespace FileTree

/-- The way to the working folder, taken so many times. -/
def dots (n : Nat) : String := String.ofList (List.replicate n ['.', '/']).flatten

theorem toList_dots_succ (n : Nat) (path : String) :
    (dots (n + 1) ++ path).toList = '.' :: '/' :: (dots n ++ path).toList := by
  simp [dots, List.replicate_succ]

theorem names_dots_succ (n : Nat) (path : String) :
    names (dots (n + 1) ++ path) = "." :: names (dots n ++ path) := by
  have cut : splitAtChar '/' (['.'] ++ '/' :: (dots n ++ path).toList) =
      ['.'] :: splitAtChar '/' (dots n ++ path).toList := splitAtChar_append_cons (by decide) _
  rw [names, toList_dots_succ, ← List.singleton_append]
  exact congrArg (List.map String.ofList) cut

theorem follow_names_dots (tree : FileTree) (n : Nat) (path : String) :
    tree.follow [] (names (dots n ++ path)) = tree.follow [] (names path) := by
  induction n with
  | zero => simp [dots]
  | succ n ih =>
    rw [names_dots_succ, follow, ← ih]
    simp [isFolder]

/-- A path that begins in the working folder. -/
def IsRelative (path : String) : Prop := ∃ c ∈ path.toList.head?, c ≠ '/'

theorem isRelative_dots {path : String} (relative : IsRelative path) (n : Nat) :
    IsRelative (dots n ++ path) := by
  cases n with
  | zero => simpa [dots] using relative
  | succ n =>
    rw [IsRelative, toList_dots_succ]
    exact ⟨'.', rfl, by decide⟩

theorem find_of_relative (tree : FileTree) {path : String} (relative : IsRelative path) :
    tree.find path = tree.stateAt (tree.follow [] (names path)) := by
  obtain ⟨c, first, other⟩ := relative
  have inside : ¬(path = "" ∨ path.startsWith "/" = true) := by
    rintro (rfl | rooted)
    · cases first
    · obtain ⟨rest, text⟩ := String.startsWith_string_iff.1 rooted
      rw [← text] at first
      exact other (Option.some.inj first).symm
  rw [find, if_neg inside]

theorem find_behindDots (tree : FileTree) {path : String} (relative : IsRelative path) (n : Nat) :
    tree.find (dots n ++ path) = tree.find path := by
  rw [tree.find_of_relative relative, tree.find_of_relative (isRelative_dots relative n),
    follow_names_dots]

theorem isTooLong_dots {n : Nat} (long : maxPathBytes < 2 * n) (path : String) :
    isTooLong (dots n ++ path) = true := by
  have letters : maxPathBytes < (dots n ++ path).toList.length := by
    simp [dots, List.length_flatten]
    omega
  exact decide_eq_true (Nat.lt_of_lt_of_le letters (Utf8.length_le_ofChars _))

theorem look_of_long (tree : FileTree) {path : String} (long : isTooLong path = true)
    (there : tree.find path ≠ .absent) : tree.look path = .hidden tooLong := by
  unfold look
  split
  next absent => exact absurd absent there
  next => rw [if_pos long]

end FileTree
end FleetWatch
