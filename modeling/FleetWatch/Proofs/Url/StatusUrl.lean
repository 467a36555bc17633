import FleetWatch.Fleet.Endpoint
import FleetWatch.Proofs.Url.Authority
import FleetWatch.Text.Blank

/-!
# Status addresses

The address of a status answer is the base of an endpoint with the status path behind it.  How it
is read follows from how the base is read: scheme, host and port are those of the base, unless the
base ends in a control character right behind host and port.  Such a character counts for nothing
at the end of the base, and is part of the authority once the status path stands behind it.

* `clean_statusUrl_of_slash`, `clean_statusUrl_of_ne`: the text that the parser sees.
* `parse_statusUrl`: how the two addresses differ.
-/

namespace FleetWatch

namespace Url

/-! ## The text of a status address -/

/-- A character that does not count at an end of an address. -/
def isEdge (c : Char) : Bool := c.toNat ≤ 0x20

/-- A character that counts inside an address. -/
def isKept (c : Char) : Bool := c != '\t' && c != '\n' && c != '\r'

theorem isKept_of_isBlank {c : Char} (notBlank : isBlank c = false) : isKept c = true := by
  simp only [isKept, Bool.and_eq_true, bne_iff_ne]
  refine ⟨⟨?_, ?_⟩, ?_⟩ <;> rintro rfl <;> exact absurd notBlank (by decide)

theorem clean_eq (s : String) :
    clean s = (dropWhileEnd isEdge (s.toList.dropWhile isEdge)).filter isKept := rfl

theorem dropWhile_append_cons {p : Char → Bool} {c : Char} (stop : p c = false)
    (front rest : List Char) :
    (front ++ c :: rest).dropWhile p = front.dropWhile p ++ c :: rest := by
  rw [List.dropWhile_append]
  split
  case isTrue empty => simp_all
  case isFalse => rfl

theorem dropWhileEnd_append_cons {p : Char → Bool} {c : Char} (stop : p c = false)
    (front rest : List Char) :
    dropWhileEnd p (front ++ c :: rest) = front ++ c :: dropWhileEnd p rest := by
  simp [dropWhileEnd, dropWhile_append_cons stop]

theorem dropWhileEnd_append_end (p : Char → Bool) (cs : List Char) :
    dropWhileEnd p cs ++ (cs.reverse.takeWhile p).reverse = cs := by
  rw [dropWhileEnd, ← List.reverse_append, List.takeWhile_append_dropWhile, List.reverse_reverse]

theorem dropWhileEnd_of_getLast? {p : Char → Bool} {cs : List Char}
    (stop : ∀ c ∈ cs.getLast?, p c = false) : dropWhileEnd p cs = cs := by
  rw [← List.head?_reverse] at stop
  have none : cs.reverse.takeWhile p = [] := by
    cases reversed : cs.reverse with
    | nil => rfl
    | cons c before =>
      rw [reversed] at stop
      exact List.takeWhile_cons_of_neg (by simp [stop c rfl])
  simpa [none] using dropWhileEnd_append_end p cs

/-- The status path as it stands in an address. -/
def statusText (path : String) : List Char := clean (statusUrl "" path)

theorem toList_statusUrl (base path : String) :
    (statusUrl base path).toList =
      dropWhileEnd (· == '/') base.toList ++ '/' :: path.toList.dropWhile (· == '/') := by
  simp [statusUrl, dropWhileEnd]

theorem statusText_eq (path : String) :
    statusText path =
      '/' :: (dropWhileEnd isEdge (path.toList.dropWhile (· == '/'))).filter isKept := by
  have nothing : dropWhileEnd (· == '/') "".toList = [] := rfl
  have slash : isEdge '/' = false := rfl
  rw [statusText, clean_eq, toList_statusUrl, nothing, dropWhile_append_cons slash,
    dropWhileEnd_append_cons slash]
  rfl

theorem statusText_leaves (path : String) : LeavesAuthority (statusText path) :=
  statusText_eq path ▸ .cons rfl _

theorem clean_statusUrl (base path : String) :
    clean (statusUrl base path) =
      ((dropWhileEnd (· == '/') base.toList).dropWhile isEdge).filter isKept ++
        statusText path := by
  have slash : isEdge '/' = false := rfl
  rw [clean_eq, toList_statusUrl, dropWhile_append_cons slash, dropWhileEnd_append_cons slash,
    List.filter_append, statusText_eq]
  rfl

/-- Slashes at the end of a base are no part of a status address. -/
theorem clean_statusUrl_of_slash {base : String} (slash : base.toList.getLast? = some '/') :
    ∃ front slashes, clean base = front ++ slashes ∧ (∀ c ∈ slashes, c = '/') ∧
      ∀ path, clean (statusUrl base path) = front ++ statusText path := by
  have noEdge : isEdge '/' = false := rfl
  have parts := dropWhileEnd_append_end (· == '/') base.toList
  have ends : ∀ c ∈ (base.toList.reverse.takeWhile (· == '/')).reverse, c = '/' := fun c member =>
    by simpa using List.mem_takeWhile_imp (List.mem_reverse.1 member)
  cases slashes : (base.toList.reverse.takeWhile (· == '/')).reverse with
  | nil =>
    obtain ⟨before, reversed⟩ := List.head?_eq_some_iff.1 (List.head?_reverse.trans slash)
    simp [reversed] at slashes
  | cons first slashes' =>
    rw [slashes] at parts ends
    obtain rfl := ends first List.mem_cons_self
    refine ⟨((dropWhileEnd (· == '/') base.toList).dropWhile isEdge).filter isKept,
      ('/' :: slashes').filter isKept, ?_, fun c member => ends c (List.mem_of_mem_filter member),
      clean_statusUrl base⟩
    have shown : base.toList.dropWhile isEdge =
        (dropWhileEnd (· == '/') base.toList).dropWhile isEdge ++ '/' :: slashes' := by
      conv => lhs; rw [← parts]
      exact dropWhile_append_cons noEdge _ _
    have last : ∀ c ∈ (base.toList.dropWhile isEdge).getLast?, isEdge c = false := by
      rw [shown, List.getLast?_append_of_ne_nil _ (List.cons_ne_nil _ _)]
      intro c member
      rw [ends c (List.mem_of_getLast? member)]
      rfl
    rw [clean_eq, dropWhileEnd_of_getLast? last, shown, List.filter_append]

/-- Control characters at the end of a base come to stand before the status path. -/
theorem clean_statusUrl_of_ne {base : String} (noSlash : base.toList.getLast? ≠ some '/')
    (visible : clean base ≠ []) (trimmed : ∀ c ∈ base.toList.getLast?, isBlank c = false) :
    ∃ controls, (∀ c ∈ controls, isEdge c = true) ∧
      controls.getLast? = base.toList.getLast?.filter isEdge ∧
      ∀ path, clean (statusUrl base path) = clean base ++ (controls ++ statusText path) := by
  have whole : dropWhileEnd (· == '/') base.toList = base.toList :=
    dropWhileEnd_of_getLast? fun c last => by
      rw [beq_eq_false_iff_ne]
      rintro rfl
      exact noSlash last
  have parts := dropWhileEnd_append_end isEdge (base.toList.dropWhile isEdge)
  refine ⟨(((base.toList.dropWhile isEdge).reverse.takeWhile isEdge).reverse).filter isKept,
    ?_, ?_, fun path => ?_⟩
  · intro c member
    exact List.mem_takeWhile_imp (List.mem_reverse.1 (List.mem_of_mem_filter member))
  · have nonempty : base.toList.dropWhile isEdge ≠ [] := by
      intro none
      exact visible (by rw [clean_eq, none]; rfl)
    obtain ⟨before, split⟩ := List.dropWhile_suffix isEdge (l := base.toList)
    have last : base.toList.getLast? = (base.toList.dropWhile isEdge).reverse.head? := by
      rw [List.head?_reverse]
      conv => lhs; rw [← split]
      exact List.getLast?_append_of_ne_nil _ nonempty
    rw [last] at trimmed ⊢
    cases reversed : (base.toList.dropWhile isEdge).reverse with
    | nil => exact absurd (List.reverse_eq_nil_iff.1 reversed) nonempty
    | cons c before =>
      have kept : isKept c = true := isKept_of_isBlank (trimmed c (by rw [reversed]; rfl))
      by_cases edge : isEdge c = true
      · simp [edge, kept, Option.filter_some]
      · simp [edge, Option.filter_some]
  · rw [clean_statusUrl, whole, ← List.append_assoc, clean_eq, ← List.filter_append, parts]

/-! ## Question marks and hashes -/

/-- A character that ends the path of an address. -/
def endsPath (c : Char) : Bool := c == '?' || c == '#'

theorem not_endsPath_of {p : Char → Bool} (question : p '?' = false) (hash : p '#' = false)
    {c : Char} (holds : p c = true) : endsPath c = false := by
  rw [Bool.eq_false_iff]
  intro mark
  simp only [endsPath, Bool.or_eq_true, beq_iff_eq] at mark
  rcases mark with rfl | rfl
  · exact absurd holds (by simp [question])
  · exact absurd holds (by simp [hash])

theorem any_endsPath_of {p : Char → Bool} (question : p '?' = false) (hash : p '#' = false)
    {cs : List Char} (all : ∀ c ∈ cs, p c = true) : cs.any endsPath = false :=
  List.any_eq_false.2 fun c member => by simp [not_endsPath_of question hash (all c member)]

theorem any_dropWhile {p q : Char → Bool} (apart : ∀ c, p c = true → q c = false)
    (cs : List Char) : (cs.dropWhile p).any q = cs.any q := by
  have none : (cs.takeWhile p).any q = false :=
    List.any_eq_false.2 fun c member => by simp [apart c (List.mem_takeWhile_imp member)]
  conv => rhs; rw [← List.takeWhile_append_dropWhile (p := p) (l := cs), List.any_append, none]
  rw [Bool.false_or]

theorem any_dropWhileEnd {p q : Char → Bool} (apart : ∀ c, p c = true → q c = false)
    (cs : List Char) : (dropWhileEnd p cs).any q = cs.any q := by
  rw [dropWhileEnd, List.any_reverse, any_dropWhile apart, List.any_reverse]

theorem any_endsPath_clean (s : String) : (clean s).any endsPath = s.toList.any endsPath := by
  have apart : ∀ c, isEdge c = true → endsPath c = false := fun c => not_endsPath_of rfl rfl
  have kept : ∀ c, (isKept c && endsPath c) = endsPath c := by
    intro c
    cases dropped : isKept c with
    | true => rfl
    | false => exact (not_endsPath_of (p := (!isKept ·)) rfl rfl (by simp [dropped])).symm
  rw [clean_eq, List.any_filter, funext kept, any_dropWhileEnd apart, any_dropWhile apart]

theorem Opens.any_endsPath {scheme : String} {opening : List Char} (opens : Opens scheme opening) :
    opening.any endsPath = false := by
  obtain ⟨letters, slashes, rfl, schemeChars, slash, -⟩ := opens.parts
  rw [List.any_append, List.any_cons, any_endsPath_of rfl rfl schemeChars,
    any_endsPath_of rfl rfl slash]
  rfl

theorem InAuthority.any_endsPath {authority : List Char} (inside : InAuthority authority) :
    authority.any endsPath = false :=
  any_endsPath_of (p := (!endsAuthority true ·)) rfl rfl fun c member => by simp [inside c member]

theorem readPath_append_of_mark {own : List Char} (marked : own.any endsPath = true)
    (special : Bool) (rest : List Char) :
    readPath special (own ++ rest) = readPath special own := by
  have cut : (own ++ rest).takeWhile (fun c => c != '?' && c != '#') =
      own.takeWhile fun c => c != '?' && c != '#' := by
    rw [List.takeWhile_append, if_neg]
    intro whole
    have all := List.takeWhile_eq_self_iff.1 ((List.takeWhile_prefix _).eq_of_length whole)
    obtain ⟨c, member, mark⟩ := List.any_eq_true.1 marked
    have plain := all c member
    simp only [endsPath, Bool.or_eq_true, beq_iff_eq] at mark
    rcases mark with rfl | rfl <;> cases plain
  rw [readPath, readPath, cut]

theorem not_mark {own : List Char} (plain : own.any endsPath = false) {c : Char}
    (member : c ∈ own) : (c != '?') = true ∧ (c != '#') = true := by
  have := List.any_eq_false.1 plain c member
  simpa [endsPath] using this

theorem readQuery_append {own : List Char} (plain : own.any endsPath = false)
    (special : Bool) (rest : List Char) :
    readQuery special (own ++ rest) = readQuery special rest := by
  have noHash : ∀ c ∈ own, (c != '#') = true := fun c member => (not_mark plain member).2
  have noQuestion : ∀ c ∈ own, (c != '?') = true := fun c member => (not_mark plain member).1
  rw [readQuery, readQuery, List.takeWhile_append_of_pos noHash,
    List.dropWhile_append_of_pos noQuestion]

theorem readFragment_append {own : List Char} (plain : own.any endsPath = false)
    (rest : List Char) : readFragment (own ++ rest) = readFragment rest := by
  have noHash : ∀ c ∈ own, (c != '#') = true := fun c member => (not_mark plain member).2
  rw [readFragment, readFragment, List.dropWhile_append_of_pos noHash]

theorem not_endsAuthority_of_edge {c : Char} (edge : isEdge c = true) :
    endsAuthority true c = false := by
  rw [Bool.eq_false_iff]
  intro ends
  simp only [endsAuthority, Bool.true_and, Bool.or_eq_true, beq_iff_eq] at ends
  obtain ((rfl | rfl) | rfl) | rfl := ends <;> exact absurd edge (by decide)

/-! ## The two addresses -/

/-- The base ends in a control character, with nothing but its host and port before it. -/
def controlBehindHost (base : String) : Bool :=
  base.toList.getLast?.any isEdge &&
    match splitScheme (clean base) with
    | some (_, rest) => (rest.dropWhile isSlash).all (!endsAuthority true ·)
    | none => false

/-- `own` is what an address has behind its authority, without the slashes at its end and with
the control characters that did not count there. -/
def OwnRest (u : Url) (own : List Char) : Prop :=
  ∃ shown slashes controls : List Char, own = shown ++ controls ∧
    u.path = readPath true (shown ++ slashes) ∧ (∀ c ∈ slashes, c = '/') ∧
    ∀ c ∈ controls, isEdge c = true

theorem any_endsPath_append_slashes (shown : List Char) {slashes : List Char}
    (allSlash : ∀ c ∈ slashes, c = '/') : (shown ++ slashes).any endsPath = shown.any endsPath := by
  have none : slashes.any endsPath = false :=
    any_endsPath_of (p := (· == '/')) rfl rfl fun c member => by simp [allSlash c member]
  rw [List.any_append, none, Bool.or_false]

theorem any_endsPath_append_controls (shown : List Char) {controls : List Char}
    (edges : ∀ c ∈ controls, isEdge c = true) :
    (shown ++ controls).any endsPath = shown.any endsPath := by
  rw [List.any_append, any_endsPath_of rfl rfl edges, Bool.or_false]

theorem OwnRest.path_eq {u : Url} {own : List Char} (ownRest : OwnRest u own)
    (marked : own.any endsPath = true) : u.path = readPath true own := by
  obtain ⟨shown, slashes, controls, rfl, path_eq, -, edges⟩ := ownRest
  rw [any_endsPath_append_controls shown edges] at marked
  rw [path_eq, readPath_append_of_mark marked, readPath_append_of_mark marked]

/-- The status addresses of a base are read as `u` with `own` before the status path. -/
structure ReadsBehind (u : Url) (base : String) (own : List Char) : Prop where
  ownRest : OwnRest u own
  marks : own.any endsPath = base.toList.any endsPath
  parsed : ∀ path, parse (statusUrl base path) = .ok (u.withRest (own ++ statusText path))

namespace Parts

section
variable {u : Url} {base : String} {opening authority rest : List Char}
  (parts : Parts u base opening authority rest)
include parts

theorem any_endsPath : rest.any endsPath = base.toList.any endsPath := by
  rw [← any_endsPath_clean, parts.text, List.any_append, List.any_append,
    parts.opens.any_endsPath, parts.inside.any_endsPath, Bool.false_or, Bool.false_or]

theorem controlBehindHost_eq :
    controlBehindHost base = (base.toList.getLast?.any isEdge && rest.isEmpty) := by
  obtain ⟨behind, split, body⟩ := parts.opens.split parts.nonempty parts.inside rest
  have all : authority.all (!endsAuthority true ·) = true :=
    List.all_eq_true.2 fun c member => by simp [parts.inside c member]
  have whole : (authority ++ rest).all (!endsAuthority true ·) = rest.isEmpty := by
    rw [List.all_append, all, Bool.true_and]
    have leaves := parts.leaves
    cases rest with
    | nil => rfl
    | cons c rest => simp [leaves c rfl]
  simp only [controlBehindHost, parts.text, split, body, whole]

/-- The slashes at the end of a base belong to what is behind its authority. -/
theorem exists_own {front slashes : List Char} (cut : clean base = front ++ slashes)
    (allSlash : ∀ c ∈ slashes, c = '/') :
    ∃ own, front = opening ++ (authority ++ own) ∧ rest = own ++ slashes := by
  rw [parts.text, ← List.append_assoc, List.append_eq_append_iff] at cut
  obtain ⟨own, front_eq, rest_eq⟩ | ⟨beyond, front_eq, slashes_eq⟩ := cut
  · exact ⟨own, by rw [front_eq, List.append_assoc], rest_eq⟩
  · have none : beyond = [] := by
      cases last : beyond.getLast? with
      | none => exact List.getLast?_eq_none_iff.1 last
      | some c =>
        have slash : c = '/' :=
          allSlash c (slashes_eq ▸ List.mem_append_left _ (List.mem_of_getLast? last))
        have member : c ∈ authority := by
          have lasts := congrArg List.getLast? front_eq
          rw [List.getLast?_append_of_ne_nil _ parts.nonempty, List.getLast?_append, last] at lasts
          exact List.mem_of_getLast? lasts
        exact absurd (parts.inside c member) (by rw [slash]; decide)
    rw [none] at front_eq slashes_eq
    exact ⟨[], by simpa using front_eq.symm, by simpa using slashes_eq.symm⟩

theorem readsBehind_of_slash (slash : base.toList.getLast? = some '/') :
    ∃ own, ReadsBehind u base own := by
  obtain ⟨front, slashes, cut, allSlash, joined⟩ := clean_statusUrl_of_slash slash
  obtain ⟨own, rfl, rfl⟩ := parts.exists_own cut allSlash
  refine ⟨own, ?_, ?_, fun path => parts.parse ?_ ?_⟩
  · exact ⟨own, slashes, [], (List.append_nil own).symm, parts.path_eq, allSlash, by simp⟩
  · rw [← parts.any_endsPath, any_endsPath_append_slashes own allSlash]
  · exact parts.leaves.replace (statusText_leaves path)
  · rw [joined, List.append_assoc, List.append_assoc]

variable (noSlash : base.toList.getLast? ≠ some '/')
  (trimmed : ∀ c ∈ base.toList.getLast?, isBlank c = false)
include noSlash trimmed

theorem readsBehind_of_ne (apart : base.toList.getLast?.any isEdge = true → rest ≠ []) :
    ∃ own, ReadsBehind u base own := by
  have visible : clean base ≠ [] := by simp [parts.text, parts.nonempty]
  obtain ⟨controls, edges, last, joined⟩ := clean_statusUrl_of_ne noSlash visible trimmed
  refine ⟨rest ++ controls, ?_, ?_, fun path => parts.parse ?_ ?_⟩
  · exact ⟨rest, [], controls, rfl, by rw [parts.path_eq, List.append_nil], by simp, edges⟩
  · rw [any_endsPath_append_controls rest edges, parts.any_endsPath]
  · have leaves := parts.leaves
    cases rest with
    | nil =>
      have none : controls = [] := by
        rw [← List.getLast?_eq_none_iff, last, Option.filter_eq_none_iff]
        intro c final
        simpa [final] using apart
      simpa only [none, List.append_nil, List.nil_append] using statusText_leaves path
    | cons c rest => exact .cons (leaves c rfl) _
  · rw [joined, parts.text]
    simp only [List.append_assoc]

theorem refused_of_control (control : base.toList.getLast?.any isEdge = true) (none : rest = [])
    (path : String) : ∃ error, Url.parse (statusUrl base path) = .error error := by
  have visible : clean base ≠ [] := by simp [parts.text, parts.nonempty]
  obtain ⟨controls, edges, last, joined⟩ := clean_statusUrl_of_ne noSlash visible trimmed
  obtain ⟨c, final, low⟩ := (Option.any_eq_true _ _).1 control
  rw [final, Option.filter_some, if_pos low] at last
  have inside : InAuthority (authority ++ controls) := fun d member =>
    (List.mem_append.1 member).elim (parts.inside d) fun member =>
      not_endsAuthority_of_edge (edges d member)
  have notAt : c ≠ '@' := by
    rintro rfl
    exact absurd low (by decide)
  have lastHost : (behindUser (authority ++ controls)).getLast? = some c :=
    getLast?_behindUser (by rw [List.getLast?_append, last]; rfl) notAt
  obtain ⟨error, refused⟩ :=
    hostAndPort_of_last_low inside.behindUser lastHost (by simpa [isEdge] using low)
  have text : clean (statusUrl base path) =
      opening ++ ((authority ++ controls) ++ statusText path) := by
    rw [joined, parts.text, none]
    simp only [List.append_nil, List.append_assoc]
  have nonempty : authority ++ controls ≠ [] := by simp [parts.nonempty]
  rw [parts.opens.parse nonempty inside (statusText_leaves path) text, refused]
  exact ⟨error, rfl⟩

end

end Parts

/-- How the addresses of status answers differ from the address of their base. -/
theorem parse_statusUrl {base : String} {u : Url} (parsed : parse base = .ok u)
    (special : schemeKind u.scheme = .special)
    (trimmed : ∀ c ∈ base.toList.getLast?, isBlank c = false) :
    (controlBehindHost base = true ∧
      ∀ path, ∃ error, parse (statusUrl base path) = .error error) ∨
    (controlBehindHost base = false ∧ ∃ own, ReadsBehind u base own) := by
  obtain ⟨opening, authority, rest, parts⟩ := exists_parts parsed special
  rw [parts.controlBehindHost_eq]
  by_cases slash : base.toList.getLast? = some '/'
  · refine .inr ⟨?_, parts.readsBehind_of_slash slash⟩
    rw [slash]
    rfl
  cases ends : base.toList.getLast?.any isEdge && rest.isEmpty with
  | true =>
    obtain ⟨control, none⟩ := Bool.and_eq_true_iff.1 ends
    exact .inl ⟨rfl, parts.refused_of_control slash trimmed control (List.isEmpty_iff.1 none)⟩
  | false => exact .inr ⟨rfl, parts.readsBehind_of_ne slash trimmed (by simpa using ends)⟩

end Url

end FleetWatch
