import FleetWatch.Proofs.Url.Validated

/-!
# Validation of a registry

A list of entries is validated as a whole.  Either every entry is acceptable, and each gives an
endpoint in its place; or the first that is not is reported, with the first check that it fails, and
nothing behind it matters.

* `trimBlanks_eq_iff`: what is left of a text without the white space around it.
* `validate_eq_error_iff`: the faults of one entry.
* `ofEntriesFrom_eq_ok_iff`, `ofEntries_eq_error_iff`: the two outcomes of a whole list.
* `Registry.validated_as_a_whole`: both outcomes, and what follows for lists put together.
-/

namespace FleetWatch

/-! ## Texts without white space around them -/

/-- The second text is the first without the white space at its ends. -/
structure Trims (s t : String) : Prop where
  inside : ∃ before after : List Char, s.toList = before ++ (t.toList ++ after) ∧
    (∀ c ∈ before, isBlank c = true) ∧ ∀ c ∈ after, isBlank c = true
  head : ∀ c ∈ t.toList.head?, isBlank c = false
  last : ∀ c ∈ t.toList.getLast?, isBlank c = false

theorem dropWhileEnd_append_of_pos {p : Char → Bool} {after : List Char} (all : ∀ c ∈ after, p c = true)
    (cs : List Char) : dropWhileEnd p (cs ++ after) = dropWhileEnd p cs := by
  have reversed : ∀ c ∈ after.reverse, p c = true := fun c member => all c (List.mem_reverse.1 member)
  rw [dropWhileEnd, List.reverse_append, List.dropWhile_append_of_pos reversed, dropWhileEnd]

theorem head?_trimBlanks (s : String) : ∀ c ∈ (trimBlanks s).toList.head?, isBlank c = false := by
  intro c head
  obtain ⟨rest, first⟩ := List.head?_eq_some_iff.1 head
  have kept := Url.dropWhileEnd_append_end isBlank (s.toList.dropWhile isBlank)
  rw [trimBlanks, String.toList_ofList] at first
  have stops := List.head?_dropWhile_not isBlank s.toList
  rw [← kept, first] at stops
  simpa using stops

theorem trimBlanks_eq_iff (s t : String) : trimBlanks s = t ↔ Trims s t := by
  constructor
  · rintro rfl
    have whole := List.takeWhile_append_dropWhile (p := isBlank) (l := s.toList)
    have rest := Url.dropWhileEnd_append_end isBlank (s.toList.dropWhile isBlank)
    have starts : ∀ c ∈ s.toList.takeWhile isBlank, isBlank c = true := fun c =>
      List.mem_takeWhile_imp
    have ends : ∀ c ∈ ((s.toList.dropWhile isBlank).reverse.takeWhile isBlank).reverse,
        isBlank c = true := fun c member => List.mem_takeWhile_imp (List.mem_reverse.1 member)
    refine ⟨⟨_, _, ?_, starts, ends⟩, head?_trimBlanks s, getLast?_trimBlanks s⟩
    rw [trimBlanks, String.toList_ofList, rest, whole]
  · rintro ⟨⟨before, after, split, blankBefore, blankAfter⟩, head, last⟩
    -- An empty text leaves only white space, and any other stops both ends.
    have front : dropWhileEnd isBlank ((t.toList ++ after).dropWhile isBlank) = t.toList := by
      cases text : t.toList with
      | nil =>
        have nothing : after.dropWhile isBlank = [] := List.dropWhile_eq_nil_iff.2 blankAfter
        simp [nothing, dropWhileEnd]
      | cons c cs =>
        have stop : isBlank c = false := head c (by simp [text])
        rw [List.cons_append, List.dropWhile_cons_of_neg (by simp [stop]), ← List.cons_append, ← text,
          dropWhileEnd_append_of_pos blankAfter, Url.dropWhileEnd_of_getLast? last]
    rw [trimBlanks, split, List.dropWhile_append_of_pos blankBefore, front, String.ofList_toList]

theorem Trims.self {s t : String} (trims : Trims s t) : Trims t t :=
  ⟨⟨[], [], by simp, List.forall_mem_nil _, List.forall_mem_nil _⟩, trims.head, trims.last⟩

theorem trimBlanks_trimBlanks (s : String) : trimBlanks (trimBlanks s) = trimBlanks s :=
  (trimBlanks_eq_iff _ _).2 ((trimBlanks_eq_iff s _).1 rfl).self

/-- An endpoint as the entry that spells it. -/
def Endpoint.entry (e : Endpoint) : EndpointEntry := ⟨e.name, e.baseUrl⟩

namespace Registry

/-! ## One entry -/

/-- What an entry has to have: a name and an absolute web address, once white space is trimmed. -/
structure Acceptable (entry : EndpointEntry) : Prop where
  named : trimBlanks entry.name ≠ ""
  web : ∃ u, Url.parse (trimBlanks entry.baseUrl) = .ok u ∧ (u.scheme = "http" ∨ u.scheme = "https")

/-- The first of the checks, name, address, scheme, that an entry fails. -/
inductive FirstFault (entry : EndpointEntry) : EntryFault → Prop
  | emptyName (unnamed : trimBlanks entry.name = "") : FirstFault entry .emptyName
  | invalidUrl {error : UrlError} (named : trimBlanks entry.name ≠ "")
      (refused : Url.parse (trimBlanks entry.baseUrl) = .error error) :
      FirstFault entry (.invalidUrl error)
  | otherScheme {u : Url} (named : trimBlanks entry.name ≠ "")
      (parsed : Url.parse (trimBlanks entry.baseUrl) = .ok u)
      (other : ¬(u.scheme = "http" ∨ u.scheme = "https")) : FirstFault entry (.otherScheme u.scheme)

/-- An endpoint with the texts of an entry, trimmed and otherwise as they were written. -/
structure Spells (entry : EndpointEntry) (e : Endpoint) : Prop where
  name : Trims entry.name e.name
  baseUrl : Trims entry.baseUrl e.baseUrl

theorem spells_iff (entry : EndpointEntry) (e : Endpoint) :
    Spells entry e ↔ e = ⟨trimBlanks entry.name, trimBlanks entry.baseUrl⟩ := by
  constructor
  · rintro ⟨name, baseUrl⟩
    rw [(trimBlanks_eq_iff _ _).2 name, (trimBlanks_eq_iff _ _).2 baseUrl]
  · rintro rfl
    exact ⟨(trimBlanks_eq_iff _ _).1 rfl, (trimBlanks_eq_iff _ _).1 rfl⟩

theorem validate_eq_error_iff (entry : EndpointEntry) (fault : EntryFault) :
    validate entry = .error fault ↔ FirstFault entry fault := by
  constructor
  · intro refused
    simp only [validate] at refused
    split at refused
    case isTrue unnamed =>
      cases refused
      exact .emptyName (String.isEmpty_iff.1 unnamed)
    case isFalse named =>
      have named : trimBlanks entry.name ≠ "" := mt String.isEmpty_iff.2 named
      cases parsed : Url.parse (trimBlanks entry.baseUrl) with
      | error error =>
        rw [parsed] at refused
        cases refused
        exact .invalidUrl named parsed
      | ok u =>
        simp only [parsed] at refused
        split at refused
        case isTrue => cases refused
        case isFalse other =>
          cases refused
          exact .otherScheme named parsed other
  · rintro (unnamed | ⟨named, refused⟩ | ⟨named, parsed, other⟩)
    · simp [validate, unnamed]
    · simp [validate, named, refused]
    · simp [validate, named, parsed, other]

theorem validate_eq_ok_iff (entry : EndpointEntry) (e : Endpoint) :
    validate entry = .ok e ↔ Acceptable entry ∧ Spells entry e := by
  rw [spells_iff]
  constructor
  · intro valid
    simp only [validate] at valid
    split at valid
    case isTrue => cases valid
    case isFalse named =>
      have named : trimBlanks entry.name ≠ "" := mt String.isEmpty_iff.2 named
      cases parsed : Url.parse (trimBlanks entry.baseUrl) with
      | error error => simp [parsed] at valid
      | ok u =>
        simp only [parsed] at valid
        split at valid
        case isTrue web =>
          cases valid
          exact ⟨⟨named, u, parsed, web⟩, rfl⟩
        case isFalse => cases valid
  · rintro ⟨⟨named, u, parsed, web⟩, rfl⟩
    simp [validate, named, parsed, web]

theorem FirstFault.not_acceptable {entry : EndpointEntry} {fault : EntryFault}
    (first : FirstFault entry fault) : ¬Acceptable entry := by
  intro acceptable
  have valid := (validate_eq_ok_iff entry _).2 ⟨acceptable, (spells_iff entry _).2 rfl⟩
  rw [(validate_eq_error_iff entry fault).2 first] at valid
  cases valid

theorem exists_firstFault {entry : EndpointEntry} (refused : ¬Acceptable entry) :
    ∃ fault, FirstFault entry fault := by
  cases valid : validate entry with
  | error fault => exact ⟨fault, (validate_eq_error_iff entry fault).1 valid⟩
  | ok e => exact absurd ((validate_eq_ok_iff entry e).1 valid).1 refused

theorem Spells.acceptable {entry : EndpointEntry} {e : Endpoint} (spells : Spells entry e)
    (acceptable : Acceptable entry) : Acceptable e.entry := by
  obtain rfl := (spells_iff entry e).1 spells
  refine ⟨?_, ?_⟩
  · simpa only [Endpoint.entry, trimBlanks_trimBlanks] using acceptable.named
  · simpa only [Endpoint.entry, trimBlanks_trimBlanks] using acceptable.web

theorem Spells.self {entry : EndpointEntry} {e : Endpoint} (spells : Spells entry e) :
    Spells e.entry e :=
  ⟨spells.name.self, spells.baseUrl.self⟩

/-- The message of a fault begins with the place of its entry. -/
theorem exists_message (i : Nat) (entry : EndpointEntry) (fault : EntryFault) :
    ∃ reason, fault.message i entry = "endpoints[" ++ toString i ++ "]" ++ reason := by
  have bracket (rest : String) : "] (" ++ rest = "]" ++ (" (" ++ rest) := by
    rw [← String.append_assoc]
    rfl
  -- `delta` below, as the equations of `message` are slow to derive.
  cases fault with
  | emptyName =>
    refine ⟨": name must not be empty", ?_⟩
    rw [@String.append_assoc _ "]"]
    rfl
  | invalidUrl error =>
    delta EntryFault.message
    simp only [String.append_assoc, bracket]
    exact ⟨_, rfl⟩
  | otherScheme scheme =>
    delta EntryFault.message
    simp only [String.append_assoc, bracket]
    exact ⟨_, rfl⟩

/-! ## A list of entries -/

/-- The place of the first entry that is not acceptable. -/
structure FirstRefused (entries : List EndpointEntry) (i : Nat) (entry : EndpointEntry) : Prop where
  here : entries[i]? = some entry
  refused : ¬Acceptable entry
  earlier : ∀ other ∈ entries.take i, Acceptable other

theorem ofEntriesFrom_append (index : Nat) (entries more : List EndpointEntry) :
    ofEntriesFrom index (entries ++ more) =
      (ofEntriesFrom index entries).bind fun endpoints =>
        (ofEntriesFrom (index + entries.length) more).map (endpoints ++ ·) := by
  induction entries generalizing index with
  | nil =>
    cases rest : ofEntriesFrom index more <;> simp [ofEntriesFrom, rest, Except.bind, Except.map]
  | cons entry entries ih =>
    rw [List.cons_append, ofEntriesFrom, ofEntriesFrom]
    cases valid : validate entry with
    | error fault => rfl
    | ok e =>
      simp only [ih, List.length_cons, Nat.add_assoc, Nat.add_comm 1]
      cases ofEntriesFrom (index + 1) entries with
      | error error => rfl
      | ok endpoints =>
        cases ofEntriesFrom (index + (entries.length + 1)) more <;> rfl

theorem ofEntriesFrom_eq_ok_iff (index : Nat) (entries : List EndpointEntry)
    (endpoints : List Endpoint) :
    ofEntriesFrom index entries = .ok endpoints ↔
      (∀ entry ∈ entries, Acceptable entry) ∧ List.Forall₂ Spells entries endpoints := by
  induction entries generalizing index endpoints with
  | nil => simp [ofEntriesFrom, eq_comm]
  | cons entry entries ih =>
    rw [ofEntriesFrom, List.forall_mem_cons]
    constructor
    · intro accepted
      cases valid : validate entry with
      | error fault => simp [valid] at accepted
      | ok e =>
        simp only [valid] at accepted
        cases others : ofEntriesFrom (index + 1) entries with
        | error error => simp [others, Except.map] at accepted
        | ok rest =>
          rw [others] at accepted
          cases accepted
          obtain ⟨here, spells⟩ := (validate_eq_ok_iff entry e).1 valid
          obtain ⟨all, each⟩ := (ih (index + 1) rest).1 others
          exact ⟨⟨here, all⟩, .cons spells each⟩
    · rintro ⟨⟨here, all⟩, each⟩
      cases each with
      | @cons _ e _ rest spells each =>
        rw [(validate_eq_ok_iff entry e).2 ⟨here, spells⟩]
        simp only [(ih (index + 1) rest).2 ⟨all, each⟩]
        rfl

theorem exists_endpoints_iff (index : Nat) (entries : List EndpointEntry) :
    (∃ endpoints, ofEntriesFrom index entries = .ok endpoints) ↔
      ∀ entry ∈ entries, Acceptable entry := by
  simp only [ofEntriesFrom_eq_ok_iff]
  refine ⟨fun ⟨_, all, _⟩ => all, fun all => ?_⟩
  refine ⟨entries.map fun entry => ⟨trimBlanks entry.name, trimBlanks entry.baseUrl⟩, all, ?_⟩
  rw [List.forall₂_map_right_iff, List.forall₂_same]
  exact fun entry _ => (spells_iff entry _).2 rfl

/-- A registry is what its own endpoints are validated as. -/
theorem ofEntriesFrom_entries {index : Nat} {entries : List EndpointEntry} {endpoints : List Endpoint}
    (accepted : ofEntriesFrom index entries = .ok endpoints) :
    ofEntriesFrom index (endpoints.map Endpoint.entry) = .ok endpoints := by
  obtain ⟨all, each⟩ := (ofEntriesFrom_eq_ok_iff index entries endpoints).1 accepted
  rw [ofEntriesFrom_eq_ok_iff]
  clear accepted
  induction each with
  | nil => exact ⟨List.forall_mem_nil _, .nil⟩
  | cons spells _ ih =>
    obtain ⟨here, others⟩ := List.forall_mem_cons.1 all
    obtain ⟨all, each⟩ := ih others
    exact ⟨List.forall_mem_cons.2 ⟨spells.acceptable here, all⟩, .cons spells.self each⟩

theorem ofEntriesFrom_of_firstRefused {i : Nat} {entries : List EndpointEntry}
    {entry : EndpointEntry} (first : FirstRefused entries i entry) {fault : EntryFault}
    (failed : FirstFault entry fault) (index : Nat) (later : List EndpointEntry) :
    ofEntriesFrom index (entries.take (i + 1) ++ later) =
      .error (.configuration (fault.message (index + i) entry)) := by
  obtain ⟨endpoints, accepted⟩ := (exists_endpoints_iff index (entries.take i)).2 first.earlier
  have length : (entries.take i).length = i :=
    List.length_take_of_le (List.getElem?_eq_some_iff.1 first.here).1.le
  have refused := (validate_eq_error_iff entry fault).2 failed
  rw [List.take_add_one, first.here, List.append_assoc, ofEntriesFrom_append, accepted, length]
  simp only [Option.toList_some, List.cons_append, List.nil_append, ofEntriesFrom, refused]
  rfl

theorem exists_firstRefused {entries : List EndpointEntry}
    (refused : ¬∀ entry ∈ entries, Acceptable entry) : ∃ i entry, FirstRefused entries i entry := by
  classical
  induction entries with
  | nil => exact absurd (List.forall_mem_nil _) refused
  | cons entry entries ih =>
    by_cases here : Acceptable entry
    · obtain ⟨i, found, first⟩ := ih fun all => refused (List.forall_mem_cons.2 ⟨here, all⟩)
      exact ⟨i + 1, found, first.here, first.refused, List.forall_mem_cons.2 ⟨here, first.earlier⟩⟩
    · exact ⟨0, entry, rfl, here, List.forall_mem_nil _⟩

/-- The error of a list that is not accepted: that of its first entry which is not acceptable. -/
theorem ofEntries_eq_error_iff (entries : List EndpointEntry) (error : StartupError) :
    ofEntries entries = .error error ↔
      ∃ i entry fault, FirstRefused entries i entry ∧ FirstFault entry fault ∧
        error = .configuration (fault.message i entry) := by
  have reported {i : Nat} {entry : EndpointEntry} {fault : EntryFault}
      (first : FirstRefused entries i entry) (failed : FirstFault entry fault) :
      ofEntries entries = .error (.configuration (fault.message i entry)) := by
    have error := ofEntriesFrom_of_firstRefused first failed 0 (entries.drop (i + 1))
    rwa [List.take_append_drop, Nat.zero_add] at error
  constructor
  · intro failed
    have refused : ¬∀ entry ∈ entries, Acceptable entry := fun all => by
      obtain ⟨endpoints, accepted⟩ := (exists_endpoints_iff 0 entries).2 all
      rw [ofEntries, accepted] at failed
      cases failed
    obtain ⟨i, entry, first⟩ := exists_firstRefused refused
    obtain ⟨fault, firstFault⟩ := exists_firstFault first.refused
    rw [reported first firstFault] at failed
    cases failed
    exact ⟨i, entry, fault, first, firstFault, rfl⟩
  · rintro ⟨i, entry, fault, first, failed, rfl⟩
    exact reported first failed

/-- Validation gives the whole registry or the error of the first entry that is not acceptable, and
entries behind that one change nothing. -/
structure ValidatedAsAWhole (entries : List EndpointEntry) : Prop where
  accepted : (∃ endpoints, ofEntries entries = .ok endpoints) ↔ ∀ entry ∈ entries, Acceptable entry
  spelled : ∀ endpoints, ofEntries entries = .ok endpoints →
    List.Forall₂ Spells entries endpoints ∧
      ofEntries (endpoints.map Endpoint.entry) = .ok endpoints
  refused : ∀ error, ofEntries entries = .error error ↔
    ∃ i entry fault, FirstRefused entries i entry ∧ FirstFault entry fault ∧
      error = .configuration (fault.message i entry)
  reported : ∀ i entry, FirstRefused entries i entry →
    ∃ fault reason, FirstFault entry fault ∧
      fault.message i entry = "endpoints[" ++ toString i ++ "]" ++ reason ∧
      ∀ later, ofEntries (entries.take (i + 1) ++ later) =
        .error (.configuration (fault.message i entry))
  stays : ∀ error, ofEntries entries = .error error →
    ∀ more, ofEntries (entries ++ more) = .error error
  both : ∀ more, (∃ endpoints, ofEntries (entries ++ more) = .ok endpoints) ↔
    (∃ endpoints, ofEntries entries = .ok endpoints) ∧
      ∃ endpoints, ofEntries more = .ok endpoints

theorem validated_as_a_whole (entries : List EndpointEntry) : ValidatedAsAWhole entries where
  accepted := exists_endpoints_iff 0 entries
  spelled endpoints accepted :=
    ⟨((ofEntriesFrom_eq_ok_iff 0 entries endpoints).1 accepted).2, ofEntriesFrom_entries accepted⟩
  refused := ofEntries_eq_error_iff entries
  reported i entry first := by
    obtain ⟨fault, failed⟩ := exists_firstFault first.refused
    obtain ⟨reason, message⟩ := exists_message i entry fault
    refine ⟨fault, reason, failed, message, fun later => ?_⟩
    have error := ofEntriesFrom_of_firstRefused first failed 0 later
    rwa [Nat.zero_add] at error
  stays error failed more := by
    rw [ofEntries, ofEntriesFrom_append, show ofEntriesFrom 0 entries = _ from failed]
    rfl
  both more := by simp only [ofEntries, exists_endpoints_iff, List.forall_mem_append]

/-- The second of three entries is the first at fault, although the third has no name. -/
def mixedEntries : List EndpointEntry :=
  [⟨" A", "http://a/ "⟩, ⟨"B", "ftp://b"⟩, ⟨" ", "http://c"⟩]

theorem validated_as_a_whole_mixed :
    FirstRefused mixedEntries 1 ⟨"B", "ftp://b"⟩ ∧
      ofEntries mixedEntries = .error (.configuration
        "endpoints[1] (B): base_url must be http or https, got 'ftp'") := by
  have failed : FirstFault ⟨"B", "ftp://b"⟩ (.otherScheme "ftp") :=
    (validate_eq_error_iff _ _).1 (by decide)
  have accepted : validate ⟨" A", "http://a/ "⟩ = .ok ⟨"A", "http://a/"⟩ := by decide
  have first : FirstRefused mixedEntries 1 ⟨"B", "ftp://b"⟩ := by
    refine ⟨rfl, failed.not_acceptable, fun other member => ?_⟩
    obtain rfl := List.mem_singleton.1 member
    exact ((validate_eq_ok_iff _ _).1 accepted).1
  have message : (EntryFault.otherScheme "ftp").message 1 ⟨"B", "ftp://b"⟩ =
      "endpoints[1] (B): base_url must be http or https, got 'ftp'" := by decide
  rw [← message]
  exact ⟨first, ((validated_as_a_whole mixedEntries).refused _).2 ⟨1, _, _, first, failed, rfl⟩⟩

end Registry
end FleetWatch
