import FleetWatch.Proofs.Json.WellFormed
import FleetWatch.Proofs.Url.Control
import FleetWatch.Url.Address
import Mathlib.Data.List.TakeWhile

/-!
# Addresses by their parts

An address of a special scheme is its scheme and slashes, its authority, and the rest.  Each part
is read on its own: the authority as far as the rest does not begin, the host and the port behind
the last `@` of the authority alone.

* `exists_parts`: every address that is read has them.
* `Parts.parse`: a text with another rest is read as the same address with another rest.
* `hostAndPort_of_last_low`: no authority ends in a control character.
-/

namespace FleetWatch.Url

/-! ## The authority and the rest -/

def InAuthority (cs : List Char) : Prop := ∀ c ∈ cs, endsAuthority true c = false

/-- Nothing, or something that is no part of the authority before it. -/
def LeavesAuthority (cs : List Char) : Prop := ∀ c ∈ cs.head?, endsAuthority true c = true

theorem LeavesAuthority.nil : LeavesAuthority [] := by
  simp [LeavesAuthority]

theorem LeavesAuthority.cons {c : Char} (ends : endsAuthority true c = true) (cs : List Char) :
    LeavesAuthority (c :: cs) := by
  simpa [LeavesAuthority] using ends

/-- What is behind the front of a rest may be replaced by another rest. -/
theorem LeavesAuthority.replace {front behind rest : List Char}
    (leaves : LeavesAuthority (front ++ behind)) (leaves' : LeavesAuthority rest) :
    LeavesAuthority (front ++ rest) := by
  cases front with
  | nil => exact leaves'
  | cons c front => exact .cons (leaves c rfl) _

section
variable {authority rest : List Char} (inside : InAuthority authority)
  (leaves : LeavesAuthority rest)
include inside leaves

theorem takeWhile_authority :
    (authority ++ rest).takeWhile (!endsAuthority true ·) = authority := by
  rw [List.takeWhile_append_of_pos fun c member => by simp [inside c member]]
  cases rest with
  | nil => simp
  | cons c rest => simp [leaves c rfl]

theorem dropWhile_authority : (authority ++ rest).dropWhile (!endsAuthority true ·) = rest := by
  rw [List.dropWhile_append_of_pos fun c member => by simp [inside c member]]
  cases rest with
  | nil => rfl
  | cons c rest => simp [leaves c rfl]

end

theorem exists_authority (cs : List Char) : ∃ authority rest,
    cs = authority ++ rest ∧ InAuthority authority ∧ LeavesAuthority rest := by
  refine ⟨cs.takeWhile (!endsAuthority true ·), cs.dropWhile (!endsAuthority true ·),
    List.takeWhile_append_dropWhile.symm, fun c member => ?_, fun c first => ?_⟩
  · simpa using List.mem_takeWhile_imp member
  · have := List.head?_dropWhile_not (!endsAuthority true ·) cs
    rw [Option.mem_def.1 first] at this
    simpa using this

/-! ## Host and port -/

/-- The part of an authority that is host and port: what is behind its last `@`. -/
def behindUser (authority : List Char) : List Char :=
  (authority.reverse.takeWhile (· != '@')).reverse

theorem InAuthority.behindUser {authority : List Char} (inside : InAuthority authority) :
    InAuthority (behindUser authority) := fun c member =>
  inside c (by simpa using (List.takeWhile_prefix _).subset (List.mem_reverse.1 member))

theorem afterUserInfo_append {authority rest : List Char} (inside : InAuthority authority)
    (leaves : LeavesAuthority rest) :
    afterUserInfo true (authority ++ rest) = behindUser authority ++ rest := by
  rw [afterUserInfo, takeWhile_authority inside leaves, dropWhile_authority inside leaves]
  split
  · rfl
  case isFalse noUser =>
    have all : authority.reverse.takeWhile (· != '@') = authority.reverse := by
      rw [List.takeWhile_eq_self_iff]
      rintro c member
      rw [bne_iff_ne]
      rintro rfl
      exact noUser (by simpa using member)
    rw [behindUser, all, List.reverse_reverse]

/-- Host and port of a special scheme, from the text of both alone. -/
def hostAndPort (cs : List Char) : Except UrlError (Host × Option Nat) :=
  let n := hostLength true false cs
  if (cs.take n).isEmpty then .error .emptyHost
  else do
    let host ← Host.parse (cs.take n)
    match cs.drop n with
    | ':' :: digits => (readPort 0 false digits).map fun r => (host, r.1)
    | _ => .ok (host, none)

theorem hostLength_append (bracket : Bool) (cs : List Char) {rest : List Char}
    (leaves : LeavesAuthority rest) :
    hostLength true bracket (cs ++ rest) = hostLength true bracket cs := by
  induction cs generalizing bracket with
  | nil =>
    cases rest with
    | nil => rfl
    | cons c rest => simp [hostLength, leaves c rfl]
  | cons c cs ih => simp only [List.cons_append, hostLength, ih]

theorem hostLength_le (bracket : Bool) (cs : List Char) :
    hostLength true bracket cs ≤ cs.length := by
  induction cs generalizing bracket with
  | nil => simp [hostLength]
  | cons c cs ih =>
    rw [hostLength]
    split
    · simp
    · simpa using ih _

theorem drop_hostLength (bracket : Bool) {cs : List Char} (inside : InAuthority cs) :
    cs.drop (hostLength true bracket cs) = [] ∨
      ∃ digits, cs.drop (hostLength true bracket cs) = ':' :: digits := by
  induction cs generalizing bracket with
  | nil => simp
  | cons c cs ih =>
    rw [hostLength]
    split
    case isTrue stop =>
      rw [inside c List.mem_cons_self, Bool.or_false, Bool.and_eq_true, beq_iff_eq] at stop
      exact .inr ⟨cs, by rw [stop.1]; rfl⟩
    case isFalse => exact ih _ fun d member => inside d (List.mem_cons_of_mem c member)

theorem readPort_append {cs rest : List Char} (inside : InAuthority cs)
    (leaves : LeavesAuthority rest) (value : Nat) (seen : Bool) :
    readPort value seen (cs ++ rest) = (readPort value seen cs).map fun r => (r.1, rest) := by
  induction cs generalizing value seen with
  | nil =>
    cases rest with
    | nil => rfl
    | cons c rest =>
      have stop : endsAuthority true c = true := leaves c rfl
      have notDigit : c.isDigit = false := by
        simp only [endsAuthority, Bool.true_and, Bool.or_eq_true, beq_iff_eq] at stop
        obtain ((rfl | rfl) | rfl) | rfl := stop <;> rfl
      simp [readPort, notDigit, stop, Except.map]
  | cons c cs ih =>
    have inside' : InAuthority cs := fun d member => inside d (List.mem_cons_of_mem c member)
    have stays : endsAuthority true c = false := inside c List.mem_cons_self
    simp only [List.cons_append, readPort, stays, ih inside']
    split
    · split <;> rfl
    · rfl

theorem readHostPort_append {cs rest : List Char} (inside : InAuthority cs)
    (leaves : LeavesAuthority rest) :
    readHostPort .special (cs ++ rest) =
      (hostAndPort cs).map fun r => (some r.1, r.2, rest) := by
  have bound := hostLength_le false cs
  simp only [readHostPort, hostAndPort, SchemeKind.isSpecial, hostLength_append false cs leaves,
    List.take_append_of_le_length bound, List.drop_append_of_le_length bound, Bool.true_or,
    Bool.and_true, if_true]
  cases empty : (cs.take (hostLength true false cs)).isEmpty with
  | true => rfl
  | false =>
    cases host : Host.parse (cs.take (hostLength true false cs)) with
    | error e => rfl
    | ok host =>
      obtain none | ⟨digits, port⟩ := drop_hostLength false inside
      · rw [none, List.nil_append]
        simp only [Bool.false_eq_true, if_false, Except.map, bind, Except.bind]
        split
        · exact absurd (leaves ':' rfl) (by decide)
        · rfl
      · rw [port]
        have inPort : InAuthority digits := fun c member =>
          inside c (List.mem_of_mem_drop (port ▸ List.mem_cons_of_mem _ member))
        simp only [List.cons_append, readPort_append inPort leaves]
        cases readPort 0 false digits <;> rfl

theorem readAuthority_append {authority rest : List Char} (inside : InAuthority authority)
    (leaves : LeavesAuthority rest) :
    readAuthority .special (authority ++ rest) =
      (hostAndPort (behindUser authority)).map fun r => (some r.1, r.2, rest) := by
  simp only [readAuthority, SchemeKind.isSpecial, afterUserInfo_append inside leaves,
    readHostPort_append inside.behindUser leaves]
  cases hostAndPort (behindUser authority) <;> rfl

/-! ## Scheme and slashes -/

theorem splitScheme_eq_some {cs rest : List Char} {scheme : String}
    (split : splitScheme cs = some (scheme, rest)) :
    ∃ letters : List Char, cs = letters ++ ':' :: rest ∧ (∀ c ∈ letters, isSchemeChar c = true) ∧
      ∀ rest', splitScheme (letters ++ ':' :: rest') = some (scheme, rest') := by
  cases cs with
  | nil => cases split
  | cons c cs =>
    simp only [splitScheme] at split
    obtain ⟨alpha, split⟩ := Option.ite_none_right_eq_some.1 split
    split at split
    case h_1 rest' colon =>
      cases split
      have letters : ∀ d ∈ (c :: cs).takeWhile isSchemeChar, isSchemeChar d = true :=
        fun d member => List.mem_takeWhile_imp member
      have first : (c :: cs).takeWhile isSchemeChar = c :: cs.takeWhile isSchemeChar :=
        List.takeWhile_cons_of_pos (by simp [isSchemeChar, Char.isAlphanum, alpha])
      have parts := List.takeWhile_append_dropWhile (p := isSchemeChar) (l := c :: cs)
      rw [colon] at parts
      refine ⟨_, parts.symm, letters, fun rest => ?_⟩
      have taken : ((c :: cs).takeWhile isSchemeChar ++ ':' :: rest).takeWhile isSchemeChar =
          (c :: cs).takeWhile isSchemeChar := by
        rw [List.takeWhile_append_of_pos letters]
        simp [isSchemeChar]
      have dropped : ((c :: cs).takeWhile isSchemeChar ++ ':' :: rest).dropWhile isSchemeChar =
          ':' :: rest := by
        rw [List.dropWhile_append_of_pos letters]
        simp [isSchemeChar]
      rw [first, List.cons_append] at taken dropped ⊢
      simp only [splitScheme, alpha, if_true, taken, dropped]
    case h_2 => cases split

/-- The text of an address of a special scheme as far as its authority. -/
structure Opens (scheme : String) (opening : List Char) : Prop where
  special : schemeKind scheme = .special
  parts : ∃ letters slashes : List Char, opening = letters ++ ':' :: slashes ∧
    (∀ c ∈ letters, isSchemeChar c = true) ∧ (∀ c ∈ slashes, isSlash c = true) ∧
      ∀ rest, splitScheme (letters ++ ':' :: rest) = some (scheme, rest)

section
variable {scheme : String} {opening authority : List Char} (opens : Opens scheme opening)
  (nonempty : authority ≠ []) (inside : InAuthority authority)
include opens nonempty inside

theorem Opens.split (rest : List Char) : ∃ behind,
    splitScheme (opening ++ (authority ++ rest)) = some (scheme, behind) ∧
      behind.dropWhile isSlash = authority ++ rest := by
  obtain ⟨letters, slashes, rfl, -, slash, split⟩ := opens.parts
  refine ⟨slashes ++ (authority ++ rest), by rw [List.append_assoc, List.cons_append, split], ?_⟩
  rw [List.dropWhile_append_of_pos slash]
  cases authority with
  | nil => exact absurd rfl nonempty
  | cons c authority =>
    have stays := inside c List.mem_cons_self
    simp only [endsAuthority, Bool.true_and, Bool.or_eq_false_iff] at stays
    exact List.dropWhile_cons_of_neg (by simp [isSlash, stays])

theorem Opens.parse {s : String} {rest : List Char} (leaves : LeavesAuthority rest)
    (text : clean s = opening ++ (authority ++ rest)) :
    parse s = (hostAndPort (behindUser authority)).map fun r =>
      assemble scheme (some r.1) r.2 (readPath true rest) rest := by
  obtain ⟨behind, split, body⟩ := opens.split nonempty inside rest
  rw [Url.parse, text, split]
  simp only [readAfterScheme, opens.special, body, readAuthority_append inside leaves]
  cases hostAndPort (behindUser authority) <;> rfl

end

theorem scheme_readAfterScheme {scheme : String} {cs : List Char} {u : Url}
    (read : readAfterScheme scheme cs = .ok u) : u.scheme = scheme := by
  unfold readAfterScheme at read
  split at read
  · obtain ⟨_, -, read⟩ := bind_eq_ok.1 read
    cases read
    rfl
  · dsimp only at read
    split at read
    · split at read
      all_goals
        obtain ⟨_, -, read⟩ := bind_eq_ok.1 read
        cases read
        rfl
    · cases read
      rfl
  · split at read
    · obtain ⟨_, -, read⟩ := bind_eq_ok.1 read
      cases read
      rfl
    · cases read
      rfl
    · cases read
      rfl

/-- An address of a special scheme by the parts of its text. -/
structure Parts (u : Url) (s : String) (opening authority rest : List Char) : Prop where
  opens : Opens u.scheme opening
  nonempty : authority ≠ []
  inside : InAuthority authority
  leaves : LeavesAuthority rest
  text : clean s = opening ++ (authority ++ rest)
  shape : ∃ host port, hostAndPort (behindUser authority) = .ok (host, port) ∧
    u = assemble u.scheme (some host) port (readPath true rest) rest

theorem exists_parts {s : String} {u : Url} (parsed : parse s = .ok u)
    (special : schemeKind u.scheme = .special) :
    ∃ opening authority rest, Parts u s opening authority rest := by
  rw [Url.parse] at parsed
  cases split : splitScheme (clean s) with
  | none => simp [split] at parsed
  | some front =>
    obtain ⟨scheme, behind⟩ := front
    simp only [split] at parsed
    obtain rfl := scheme_readAfterScheme parsed
    obtain ⟨letters, text, schemeChars, again⟩ := splitScheme_eq_some split
    obtain ⟨authority, rest, body, inside, leaves⟩ :=
      exists_authority (behind.dropWhile isSlash)
    have opens : Opens u.scheme (letters ++ ':' :: behind.takeWhile isSlash) :=
      ⟨special, letters, _, rfl, schemeChars, fun c member => List.mem_takeWhile_imp member,
        again⟩
    have full : clean s =
        (letters ++ ':' :: behind.takeWhile isSlash) ++ (authority ++ rest) := by
      rw [text, ← body, List.append_assoc, List.cons_append, List.takeWhile_append_dropWhile]
    simp only [readAfterScheme, special, body, readAuthority_append inside leaves] at parsed
    obtain ⟨⟨host, port, rest'⟩, read, parsed⟩ := bind_eq_ok.1 parsed
    cases found : hostAndPort (behindUser authority) with
    | error e => simp [found, Except.map] at read
    | ok hp =>
      rw [found] at read
      cases read
      have nonempty : authority ≠ [] := by
        rintro rfl
        cases found
      exact ⟨_, authority, rest, opens, nonempty, inside, leaves, full, hp.1, hp.2, found,
        (Except.ok.inj parsed).symm⟩

/-- The address with another text behind its authority. -/
def withRest (u : Url) (rest : List Char) : Url :=
  { u with
    path := readPath true rest
    query := readQuery true rest
    fragment := readFragment rest }

/-- A text that differs behind the authority alone is read as an address that differs there. -/
theorem Parts.parse {u : Url} {s s' : String} {opening authority rest rest' : List Char}
    (parts : Parts u s opening authority rest) (leaves : LeavesAuthority rest')
    (text : clean s' = opening ++ (authority ++ rest')) : parse s' = .ok (u.withRest rest') := by
  obtain ⟨host, port, found, shape⟩ := parts.shape
  rw [parts.opens.parse parts.nonempty parts.inside leaves text, found, shape]
  simp [Except.map, assemble, withRest, parts.opens.special, SchemeKind.isSpecial]

theorem Parts.path_eq {u : Url} {s : String} {opening authority rest : List Char}
    (parts : Parts u s opening authority rest) : u.path = readPath true rest := by
  obtain ⟨host, port, found, shape⟩ := parts.shape
  rw [shape]
  rfl

/-! ## Authorities that end in a control character -/

theorem getLast?_behindUser {authority : List Char} {c : Char}
    (last : authority.getLast? = some c) (notAt : c ≠ '@') :
    (behindUser authority).getLast? = some c := by
  rw [← List.head?_reverse] at last
  obtain ⟨before, reversed⟩ := List.head?_eq_some_iff.1 last
  simp [behindUser, reversed, notAt]

theorem readPort_of_last_low {cs : List Char} (inside : InAuthority cs) {c : Char}
    (last : cs.getLast? = some c) (low : c.toNat ≤ 0x20) (value : Nat) (seen : Bool) :
    ∃ error, readPort value seen cs = .error error := by
  induction cs generalizing value seen with
  | nil => cases last
  | cons d cs ih =>
    have stays : endsAuthority true d = false := inside d List.mem_cons_self
    simp only [readPort, stays]
    split
    case isTrue digit =>
      split
      · exact ⟨_, rfl⟩
      · cases cs with
        | nil =>
          obtain rfl : d = c := by simpa using last
          simp [Char.isDigit, UInt32.le_iff_toNat_le] at digit
          omega
        | cons e cs =>
          rw [List.getLast?_cons_cons] at last
          exact ih (fun e member => inside e (List.mem_cons_of_mem d member)) last _ _
    case isFalse => exact ⟨_, rfl⟩

theorem hostAndPort_of_last_low {cs : List Char} (inside : InAuthority cs) {c : Char}
    (last : cs.getLast? = some c) (low : c.toNat ≤ 0x20) :
    ∃ error, hostAndPort cs = .error error := by
  unfold hostAndPort
  dsimp only
  split
  · exact ⟨_, rfl⟩
  obtain whole | ⟨digits, port⟩ := drop_hostLength false inside
  · have all : cs.take (hostLength true false cs) = cs :=
      List.take_of_length_le (List.drop_eq_nil_iff.1 whole)
    obtain ⟨error, refused⟩ := Host.parse_of_last_low last low
    exact ⟨error, by rw [all, refused]; rfl⟩
  · rw [port]
    have inPort : InAuthority digits := fun c member =>
      inside c (List.mem_of_mem_drop (port ▸ List.mem_cons_of_mem _ member))
    have lastDigit : digits.getLast? = some c := by
      have lastPort : (cs.drop (hostLength true false cs)).getLast? = some c := by
        rw [List.getLast?_drop, if_neg (by simp [← List.drop_eq_nil_iff, port]), last]
      cases digits with
      | nil =>
        obtain rfl : ':' = c := by simpa [port] using lastPort
        exact absurd low (by decide)
      | cons digit digits => rwa [port, List.getLast?_cons_cons] at lastPort
    obtain ⟨error, refused⟩ := readPort_of_last_low inPort lastDigit low 0 false
    cases host : Host.parse (cs.take (hostLength true false cs)) with
    | error e => exact ⟨e, rfl⟩
    | ok host => exact ⟨error, by simp [refused, Except.map]; rfl⟩

end FleetWatch.Url
