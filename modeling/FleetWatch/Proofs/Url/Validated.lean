import FleetWatch.Fleet.Registry
import FleetWatch.Proofs.Url.StatusUrl

/-!
# Status addresses of a validated fleet

Validation reads the base of every endpoint; a fetch asks for another text, the base with the
status path behind it.  The two part company in two ways.  A `?` or `#` in the base takes the
status path into the query or the fragment, and a control character behind host and port makes
the status address one that cannot be read.  Every other endpoint that passes validation has a
status address with its own scheme, host and port, and the status path at the end of its path.

* `Registry.statusUrl_of_accepted`: which status addresses can be used, and how they are read.
-/

namespace FleetWatch

open Url

theorem getLast?_trimBlanks (s : String) :
    ∀ c ∈ (trimBlanks s).toList.getLast?, isBlank c = false := by
  intro c last
  simp only [trimBlanks, dropWhileEnd, String.toList_ofList, List.getLast?_reverse] at last
  have := List.head?_dropWhile_not isBlank (s.toList.dropWhile isBlank).reverse
  rw [Option.mem_def.1 last] at this
  simpa using this

namespace Registry

theorem validate_eq_ok {entry : EndpointEntry} {e : Endpoint} (valid : validate entry = .ok e) :
    e.baseUrl = trimBlanks entry.baseUrl ∧
      ∃ base, Url.parse e.baseUrl = .ok base ∧ (base.scheme = "http" ∨ base.scheme = "https") := by
  simp only [validate] at valid
  split at valid
  · cases valid
  · cases parsed : Url.parse (trimBlanks entry.baseUrl) with
    | error error => simp [parsed] at valid
    | ok base =>
      simp only [parsed] at valid
      split at valid
      case isTrue scheme =>
        cases valid
        exact ⟨rfl, base, parsed, scheme⟩
      case isFalse => cases valid

theorem exists_valid {index : Nat} {entries : List EndpointEntry} {endpoints : List Endpoint}
    {e : Endpoint} (accepted : ofEntriesFrom index entries = .ok endpoints)
    (member : e ∈ endpoints) : ∃ entry ∈ entries, validate entry = .ok e := by
  induction entries generalizing index endpoints with
  | nil =>
    cases accepted
    cases member
  | cons entry entries ih =>
    rw [ofEntriesFrom] at accepted
    cases valid : validate entry with
    | error fault => simp [valid] at accepted
    | ok first =>
      simp only [valid] at accepted
      cases others : ofEntriesFrom (index + 1) entries with
      | error error => simp [others, Except.map] at accepted
      | ok rest =>
        rw [others] at accepted
        cases accepted
        rcases List.mem_cons.1 member with rfl | member
        · exact ⟨entry, List.mem_cons_self, valid⟩
        · obtain ⟨found, listed, valid⟩ := ih others member
          exact ⟨found, List.mem_cons_of_mem _ listed, valid⟩

end Registry

/-! ## What can be asked for -/

/-- The status address of a base can be used: it is read with the web scheme of the base, and
before the status path, in the status address without one, is no `?` or `#`. -/
def UsableStatusUrl (baseUrl path : String) : Prop :=
  ∃ base u, Url.parse baseUrl = .ok base ∧ Url.parse (statusUrl baseUrl path) = .ok u ∧
    u.scheme = base.scheme ∧ (u.scheme = "http" ∨ u.scheme = "https") ∧
    (statusUrl baseUrl "").toList.any endsPath = false

/-- The status path is read as the end of the path, behind `own`, and with its own query and
fragment. -/
structure StandsInPath (u : Url) (own : List Char) (path : String) : Prop where
  path_eq : u.path = readPath true (own ++ statusText path)
  query_eq : u.query = readQuery true (statusText path)
  fragment_eq : u.fragment = readFragment (statusText path)

theorem any_endsPath_statusUrl (base : String) :
    (statusUrl base "").toList.any endsPath = base.toList.any endsPath := by
  have apart : ∀ c, (c == '/') = true → endsPath c = false :=
    fun c => not_endsPath_of (p := (· == '/')) rfl rfl
  rw [toList_statusUrl, List.any_append, any_dropWhileEnd apart]
  exact Bool.or_false _

theorem standsInPath_withRest (u : Url) {own : List Char} (plain : own.any endsPath = false)
    (path : String) : StandsInPath (u.withRest (own ++ statusText path)) own path :=
  ⟨rfl, readQuery_append plain true _, readFragment_append plain _⟩

namespace Registry

theorem special_of_web {scheme : String} (web : scheme = "http" ∨ scheme = "https") :
    schemeKind scheme = .special := by
  rcases web with rfl | rfl <;> rfl

/-- The status addresses of an endpoint that passed validation: which can be used, which can be
read at all, and where the status path stands in those. -/
theorem statusUrl_of_accepted {entries : List EndpointEntry} {endpoints : List Endpoint}
    {e : Endpoint} (accepted : ofEntries entries = .ok endpoints) (member : e ∈ endpoints) :
    (∀ path, UsableStatusUrl e.baseUrl path ↔
      controlBehindHost e.baseUrl = false ∧ e.baseUrl.toList.any endsPath = false) ∧
    (∀ path, (∃ error, Url.parse (statusUrl e.baseUrl path) = .error error) ↔
      controlBehindHost e.baseUrl = true) ∧
    ∃ base, Url.parse e.baseUrl = .ok base ∧ (base.scheme = "http" ∨ base.scheme = "https") ∧
      (controlBehindHost e.baseUrl = false → ∃ own, OwnRest base own ∧ ∀ path, ∃ u,
        Url.parse (statusUrl e.baseUrl path) = .ok u ∧
        u.scheme = base.scheme ∧ u.host = base.host ∧ u.port = base.port ∧
        if e.baseUrl.toList.any endsPath then u.path = base.path else StandsInPath u own path) := by
  obtain ⟨entry, -, valid⟩ := exists_valid accepted member
  obtain ⟨trimmed, base, parsed, web⟩ := validate_eq_ok valid
  have ends : ∀ c ∈ e.baseUrl.toList.getLast?, isBlank c = false :=
    trimmed ▸ getLast?_trimBlanks entry.baseUrl
  obtain ⟨control, refused⟩ | ⟨control, own, reads⟩ :=
    parse_statusUrl parsed (special_of_web web) ends
  · refine ⟨fun path => ⟨?_, ?_⟩, fun path => ⟨fun _ => control, fun _ => refused path⟩,
      base, parsed, web, fun free => ?_⟩
    · rintro ⟨_, u, _, read, _⟩
      obtain ⟨error, refused⟩ := refused path
      simp [refused] at read
    · rintro ⟨free, -⟩
      simp [control] at free
    · simp [control] at free
  · refine ⟨fun path => ?_, fun path => by simp [reads.parsed path, control],
      base, parsed, web, fun _ => ⟨own, reads.ownRest, fun path => ?_⟩⟩
    · rw [← any_endsPath_statusUrl]
      constructor
      · rintro ⟨_, _, _, _, _, _, plain⟩
        exact ⟨control, plain⟩
      · rintro ⟨-, plain⟩
        exact ⟨base, _, parsed, reads.parsed path, rfl, web, plain⟩
    · refine ⟨_, reads.parsed path, rfl, rfl, rfl, ?_⟩
      rw [← reads.marks]
      cases marked : own.any endsPath with
      | true =>
        rw [if_pos rfl, reads.ownRest.path_eq marked]
        exact readPath_append_of_mark marked true _
      | false =>
        rw [if_neg Bool.false_ne_true]
        exact standsInPath_withRest base marked path

theorem statusUrl_of_accepted_slash : UsableStatusUrl "http://h/a/" "/api/status" := by
  have accepted : ofEntries [⟨"A", "http://h/a/"⟩] = .ok [⟨"A", "http://h/a/"⟩] := by decide
  have usable := (statusUrl_of_accepted accepted List.mem_cons_self).1 "/api/status"
  exact usable.2 ⟨by decide, by decide⟩

/-- Validation lets through a base that ends in a control character, and one with a query. -/
theorem accepted_not_usable :
    (ofEntries [⟨"A", "http://h\x01"⟩] = .ok [⟨"A", "http://h\x01"⟩] ∧
      ¬UsableStatusUrl "http://h\x01" "/api/status") ∧
    (ofEntries [⟨"A", "http://h?x=1"⟩] = .ok [⟨"A", "http://h?x=1"⟩] ∧
      ¬UsableStatusUrl "http://h?x=1" "/api/status") := by
  refine ⟨⟨by decide, ?_⟩, by decide, ?_⟩
  · have refused : Url.parse (statusUrl "http://h\x01" "/api/status") = .error .invalidDomain := by
      decide
    rintro ⟨_, u, _, read, _⟩
    simp [refused] at read
  · rintro ⟨_, _, _, _, _, _, plain⟩
    exact absurd plain (by decide)

end Registry
end FleetWatch
