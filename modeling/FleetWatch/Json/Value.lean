import FleetWatch.Number.Binary64

/-!
# JSON values

A number is a whole number where its text is one, and a double otherwise.  The members of an
object stand in the order in which their keys first occurred, each key once.

* `Json.find?_put_self`, `Json.find?_put_of_ne`: what a new member does to look-ups.
-/

namespace FleetWatch

inductive JsonNumber where
  | integer (i : Int)
  | float (x : Binary64)
deriving DecidableEq, Inhabited

inductive Json where
  | null
  | bool (b : Bool)
  | number (n : JsonNumber)
  | string (s : String)
  | array (items : List Json)
  | object (members : List (String × Json))
deriving Inhabited

namespace Json

abbrev Members := List (String × Json)

def find? (key : String) : Members → Option Json
  | [] => none
  | (k, v) :: rest => if k = key then some v else find? key rest

/-- Gives a key a value: in the place it has, or behind the other members. -/
def put (key : String) (value : Json) : Members → Members
  | [] => [(key, value)]
  | (k, v) :: rest => if k = key then (k, value) :: rest else (k, v) :: put key value rest

@[simp] theorem find?_put_self (key : String) (value : Json) (ms : Members) :
    find? key (put key value ms) = some value := by
  induction ms with
  | nil => simp [put, find?]
  | cons m ms ih => by_cases h : m.1 = key <;> simp [put, find?, h, ih]

theorem find?_put_of_ne {key other : String} (h : other ≠ key) (value : Json) (ms : Members) :
    find? other (put key value ms) = find? other ms := by
  induction ms with
  | nil => simp [put, find?, Ne.symm h]
  | cons m ms ih =>
    by_cases hk : m.1 = key
    · simp [put, find?, hk, Ne.symm h]
    · by_cases ho : m.1 = other
      · simp [put, find?, ho, h]
      · simp [put, find?, hk, ho, ih]

theorem mem_of_find? {key : String} {value : Json} {ms : Members} (found : find? key ms = some value) :
    (key, value) ∈ ms := by
  induction ms with
  | nil => cases found
  | cons m ms ih =>
    obtain ⟨k, v⟩ := m
    by_cases here : k = key
    · rw [find?, if_pos here] at found
      cases found
      exact here ▸ List.mem_cons_self
    · rw [find?, if_neg here] at found
      exact List.mem_cons_of_mem _ (ih found)

def member? (key : String) : Json → Option Json
  | object members => find? key members
  | _ => none

/-- Every object, at any depth, has each key once. -/
inductive WellFormed : Json → Prop
  | null : WellFormed null
  | bool (b : Bool) : WellFormed (bool b)
  | number (n : JsonNumber) : WellFormed (number n)
  | string (s : String) : WellFormed (string s)
  | array {items : List Json} (all : ∀ v ∈ items, WellFormed v) : WellFormed (array items)
  | object {members : Members} (distinct : (members.map (·.1)).Nodup)
      (all : ∀ m ∈ members, WellFormed m.2) : WellFormed (object members)

attribute [simp] WellFormed.null WellFormed.bool WellFormed.number WellFormed.string

@[simp] theorem wellFormed_array {items : List Json} :
    (array items).WellFormed ↔ ∀ v ∈ items, v.WellFormed := by
  constructor
  · intro wellFormed
    cases wellFormed with
    | array all => exact all
  · exact .array

@[simp] theorem wellFormed_object {members : Members} :
    (object members).WellFormed ↔
      (members.map (·.1)).Nodup ∧ ∀ m ∈ members, m.2.WellFormed := by
  constructor
  · intro wellFormed
    cases wellFormed with
    | object distinct all => exact ⟨distinct, all⟩
  · exact fun ⟨distinct, all⟩ => .object distinct all

theorem WellFormed.member {v : Json} (wellFormed : v.WellFormed) {key : String} {value : Json}
    (found : v.member? key = some value) : value.WellFormed := by
  cases wellFormed with
  | object distinct all => exact all _ (mem_of_find? found)
  | _ => cases found

def isObject : Json → Bool
  | object _ => true
  | _ => false

def nat (n : Nat) : Json := number (.integer n)

def ofOption (f : α → Json) : Option α → Json
  | some a => f a
  | none => null

/-! ## Reading a value as a scalar -/

def unsigned? : Json → Option UInt64
  | number (.integer i) =>
    if 0 ≤ i ∧ i < UInt64.size then some (UInt64.ofNat i.toNat) else none
  | _ => none

def string? : Json → Option String
  | string s => some s
  | _ => none

/-- The double of a number; a whole number is rounded to the nearest one. -/
def double? : Json → Option Binary64
  | number (.integer i) => some (Binary64.ofInt i)
  | number (.float x) => some x
  | _ => none

end Json
end FleetWatch
