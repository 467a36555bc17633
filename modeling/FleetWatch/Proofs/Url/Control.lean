import FleetWatch.Proofs.Text.Split
import FleetWatch.Proofs.Text.Utf8
import FleetWatch.Url.Host

/-!
# Control characters in hosts

A control character or a space is no part of a host.  A domain name goes through its escapes, the
mapping, composition and the ASCII forms of its labels before the forbidden characters are looked
for, and a character up to U+0020 passes every one of these stages as it is.

* `Idna.toAscii_of_low`: a domain name with such a character has no ASCII form.
* `Host.parse_of_last_low`: no host ends in one.
-/

namespace FleetWatch

/-! ## Lists -/

theorem exists_of_mapM {α β : Type} {f : α → Option β} {xs : List α} {ys : List β} {x : α}
    (all : xs.mapM f = some ys) (member : x ∈ xs) : ∃ y ∈ ys, f x = some y := by
  induction xs generalizing ys with
  | nil => cases member
  | cons first xs ih =>
    simp only [List.mapM_cons, Option.bind_eq_bind, Option.bind_eq_some_iff, Option.pure_def,
      Option.some.injEq] at all
    obtain ⟨y, here, rest, others, rfl⟩ := all
    rcases List.mem_cons.1 member with rfl | member
    · exact ⟨y, List.mem_cons_self, here⟩
    · obtain ⟨y, listed, found⟩ := ih others member
      exact ⟨y, List.mem_cons_of_mem _ listed, found⟩

/-! ## Bytes and escapes -/

theorem Percent.hexValue_of_low {b : UInt8} (low : b.toNat ≤ 0x20) : Percent.hexValue b = none := by
  have checked : ∀ n < 33, Percent.hexValue (UInt8.ofNat n) = none := by decide
  simpa using checked b.toNat (by omega)

theorem Percent.mem_decode {b : UInt8} (low : b.toNat ≤ 0x20) {bs : Bytes} (member : b ∈ bs) :
    b ∈ Percent.decode bs := by
  fun_induction Percent.decode bs with
  | case1 first second third rest high value lower upper ih =>
    obtain ⟨marked, upper⟩ := Option.ite_none_right_eq_some.1 upper
    rcases List.mem_cons.1 member with rfl | member
    · subst marked
      exact absurd low (by decide)
    rcases List.mem_cons.1 member with rfl | member
    · rw [hexValue_of_low low] at upper
      cases upper
    rcases List.mem_cons.1 member with rfl | member
    · rw [hexValue_of_low low] at lower
      cases lower
    · exact List.mem_cons_of_mem _ (ih member)
  | case2 first second third rest other ih =>
    rcases List.mem_cons.1 member with rfl | member
    · exact List.mem_cons_self
    · exact List.mem_cons_of_mem _ (ih member)
  | case3 bs short => exact member

/-! ## The mapping -/

theorem tokens_append {word : List Char} (nonempty : word ≠ []) (noBlank : ' ' ∉ word)
    (noEnd : '\n' ∉ word) (s : String) :
    tokens (String.ofList (word ++ [' ']) ++ s) = word :: tokens s := by
  have same : word.map (fun c => if c = '\n' then ' ' else c) = word := by
    refine (List.map_congr_left fun c member => ?_).trans (List.map_id word)
    exact if_neg (ne_of_mem_of_not_mem member noEnd)
  simp only [tokens, String.toList_append, String.toList_ofList, List.map_append, same]
  rw [List.map_singleton, if_neg (by decide), List.append_assoc, List.singleton_append,
    splitAtChar_append_cons noBlank]
  simp [nonempty]

namespace Idna

theorem map_parse_tokens (s : String) :
    (tokens ("41v " ++ s)).map MappingRun.parse =
      ⟨0x41, .valid⟩ :: (tokens s).map MappingRun.parse := by
  have front : "41v " = String.ofList (['4', '1', 'v'] ++ [' ']) := rfl
  rw [front, tokens_append (by decide) (by decide) (by decide), List.map_cons]
  rfl

theorem mappingRuns_head : ∃ runs, mappingRuns = ⟨0x41, .valid⟩ :: runs := by
  unfold mappingRuns mappingText
  exact ⟨_, map_parse_tokens _⟩

theorem mapChar_of_lt {c : Char} (low : c.toNat < 0x41) : mapChar c = some [c] := by
  obtain ⟨runs, split⟩ := mappingRuns_head
  simp [mapChar, split, mapIn, low, MappingKind.apply, Char.ofNat_toNat]

theorem mem_mapped {d : Char} (low : d.toNat ≤ 0x20) {cs : List Char} {mapped : List (List Char)}
    (member : d ∈ cs) (all : cs.mapM mapChar = some mapped) : d ∈ mapped.flatten := by
  obtain ⟨own, listed, found⟩ := exists_of_mapM all member
  rw [mapChar_of_lt (Nat.lt_of_le_of_lt low (by decide))] at found
  cases found
  exact List.mem_flatten.2 ⟨_, listed, List.mem_singleton_self d⟩

/-! ## Composition -/

/-- Neither the whole nor a part is a control character or the space. -/
def Composition.aboveControls (c : Composition) : Bool :=
  0x20 < c.whole && 0x20 < c.first && 0x20 < c.second

set_option maxRecDepth 40000 in
theorem compositions_above : compositions.all Composition.aboveControls = true := by
  -- stated for the list of the characters: the text itself is too long to be taken apart
  have listed : ∀ cs : List Char, compositionText.toList = cs →
      (((splitAtChar ' ' (cs.map fun c => if c = '\n' then ' ' else c)).filter
        (!·.isEmpty)).map Composition.parse).all Composition.aboveControls = true →
      compositions.all Composition.aboveControls = true := by
    rintro _ rfl above
    exact above
  refine listed _ String.toList_ofList ?_
  decide +kernel

theorem above_of_mem {c : Composition} (member : c ∈ compositions) :
    0x20 < c.whole ∧ 0x20 < c.first ∧ 0x20 < c.second := by
  simpa [Composition.aboveControls, and_assoc] using List.all_eq_true.1 compositions_above c member

theorem isSyllable_of_low {n : Nat} (low : n ≤ 0x20) : isSyllable n = false := by
  have above : ¬hangulBase ≤ n := by
    unfold hangulBase
    omega
  simp [isSyllable, above]

theorem decompose_of_low (depth : Nat) {n : Nat} (low : n ≤ 0x20) : decompose depth n = [n] := by
  cases depth with
  | zero => rfl
  | succ depth =>
    have absent : compositions.find? (·.whole == n) = none := by
      refine List.find?_eq_none.2 fun c member whole => ?_
      have above := (above_of_mem member).1
      rw [beq_iff_eq] at whole
      omega
    simp [decompose, isSyllable_of_low low, absent]

theorem compose?_of_low {first second : Char} (low : first.toNat ≤ 0x20 ∨ second.toNat ≤ 0x20) :
    compose? first second = none := by
  have syllable : composeSyllable first.toNat second.toNat = none := by
    unfold composeSyllable leadBase vowelBase tailBase
    rw [if_neg (by simp; omega)]
    cases low with
    | inl low => rw [isSyllable_of_low low]; simp
    | inr low => rw [if_neg (by simp; omega)]
  have absent : (compositions.find? fun c =>
      c.first == first.toNat && c.second == second.toNat) = none := by
    refine List.find?_eq_none.2 fun c member same => ?_
    have above := above_of_mem member
    simp only [Bool.and_eq_true, beq_iff_eq] at same
    omega
  rw [compose?, syllable, absent]
  rfl

theorem mem_insertMark {c d : Char} {cs : List Char} :
    d ∈ insertMark c cs ↔ d = c ∨ d ∈ cs := by
  induction cs with
  | nil => simp [insertMark]
  | cons e cs ih =>
    rw [insertMark]
    split
    · simp only [List.mem_cons, ih]
      exact or_left_comm
    · simp

theorem mem_orderMarks {d : Char} {cs : List Char} : d ∈ orderMarks cs ↔ d ∈ cs := by
  suffices folded : ∀ reversed, d ∈ cs.foldl
      (fun reversed c => if combiningClass c = 0 then c :: reversed else insertMark c reversed)
      reversed ↔ d ∈ reversed ∨ d ∈ cs by
    simpa [orderMarks] using folded []
  intro reversed
  induction cs generalizing reversed with
  | nil => simp
  | cons c cs ih =>
    rw [List.foldl_cons, ih]
    split
    · simp only [List.mem_cons]
      rw [or_comm (a := d = c), or_assoc]
    · simp only [mem_insertMark, List.mem_cons]
      rw [or_comm (a := d = c), or_assoc]

section
variable {d : Char} (low : d.toNat ≤ 0x20)
include low

/-- What cannot be composed stays where it is. -/
theorem mem_composeBehind {starter : Char} {marks cs : List Char}
    (member : d = starter ∨ d ∈ marks ∨ d ∈ cs) : d ∈ composeBehind starter marks cs := by
  induction cs generalizing starter marks with
  | nil => simpa [composeBehind] using member
  | cons c cs ih =>
    rw [composeBehind]
    cases composed : if marks.head?.any (combiningClass c ≤ combiningClass ·) then none
        else compose? starter c with
    | some whole =>
      have composed : compose? starter c = some whole := (Option.ite_none_left_eq_some.1 composed).2
      have notStarter : d ≠ starter := by
        rintro rfl
        exact absurd composed (by simp [compose?_of_low (.inl low)])
      have notNext : d ≠ c := by
        rintro rfl
        exact absurd composed (by simp [compose?_of_low (.inr low)])
      exact ih (.inr (by simpa [notStarter, notNext] using member))
    | none =>
      rw [Option.elim_none]
      split
      · rcases member with rfl | member | member
        · simp
        · simp [member]
        · have behind : d ∈ composeBehind c [] cs := ih (.imp_right .inr (List.mem_cons.1 member))
          exact List.mem_append_right _ behind
      · exact ih (by simpa only [List.mem_cons, or_assoc, or_left_comm] using member)

theorem mem_composeAll {cs : List Char} (member : d ∈ cs) :
    d ∈ composeAll cs := by
  induction cs with
  | nil => exact member
  | cons c cs ih =>
    rw [composeAll]
    split
    · exact mem_composeBehind low (by simpa using member)
    · rcases List.mem_cons.1 member with rfl | member
      · exact List.mem_cons_self
      · exact List.mem_cons_of_mem _ (ih member)

theorem mem_normalize {cs : List Char} (member : d ∈ cs) :
    d ∈ normalize cs := by
  refine mem_composeAll low (mem_orderMarks.2 (List.mem_flatMap.2 ⟨d, member, ?_⟩))
  simp [decompose_of_low 4 low, Char.ofNat_toNat]

end

end Idna

/-! ## ASCII forms of labels -/

namespace Punycode

theorem digitValue_of_low {c : Char} (low : c.toNat ≤ 0x20) : digitValue c = none := by
  have checked : ∀ n < 33, digitValue (Char.ofNat n) = none := by decide
  simpa [Char.ofNat_toNat] using checked c.toNat (by omega)

theorem readNumber_digits {bias : Nat} {cs rest : List Char} {i weight k j : Nat}
    (read : readNumber bias cs i weight k = some (j, rest)) {d : Char} (member : d ∈ cs) :
    (digitValue d).isSome ∨ d ∈ rest := by
  induction cs generalizing i weight k with
  | nil => cases member
  | cons c cs ih =>
    rw [readNumber] at read
    cases value : digitValue c with
    | none => simp [value] at read
    | some digit =>
      rcases List.mem_cons.1 member with rfl | member
      · exact .inl (by simp [value])
      · simp only [value] at read
        split at read
        · cases read
        · split at read
          · cases read
            exact .inr member
          · exact ih read member

theorem of_decodeInsertions {fuel : Nat} {cs output result : List Char} {code i bias : Nat}
    (decoded : decodeInsertions fuel cs code i bias output = some result) {d : Char} :
    (d ∈ output → d ∈ result) ∧ (d ∈ cs → (digitValue d).isSome) := by
  induction fuel generalizing cs output code i bias with
  | zero =>
    cases cs with
    | nil =>
      cases decoded
      simp
    | cons c cs => cases decoded
  | succ fuel ih =>
    cases cs with
    | nil =>
      cases decoded
      simp
    | cons c cs =>
      simp only [decodeInsertions] at decoded
      cases read : readNumber bias (c :: cs) i 1 base with
      | none => simp [read] at decoded
      | some number =>
        obtain ⟨j, rest⟩ := number
        simp only [read] at decoded
        obtain ⟨-, decoded⟩ := Option.ite_none_right_eq_some.1 decoded
        obtain ⟨kept, digits⟩ := ih decoded
        constructor
        · intro member
          refine kept ?_
          rw [← List.take_append_drop (j % (output.length + 1)) output, List.mem_append] at member
          simpa [or_left_comm] using .inr member
        · intro member
          exact (readNumber_digits read member).elim id digits

/-- A text before the last hyphen is all there is besides the hyphen and what is behind it. -/
theorem eq_append_hyphen {cs tail : List Char}
    (behind : tail = (cs.reverse.takeWhile (· != '-')).reverse)
    (literal : cs.take (cs.length - tail.length - 1) ≠ []) :
    cs = cs.take (cs.length - tail.length - 1) ++ '-' :: tail := by
  have parts : cs = (cs.reverse.dropWhile (· != '-')).reverse ++ tail := by
    rw [behind, ← List.reverse_append, List.takeWhile_append_dropWhile, List.reverse_reverse]
  cases front : cs.reverse.dropWhile (· != '-') with
  | nil =>
    rw [front, List.reverse_nil, List.nil_append] at parts
    exact absurd (by simp [parts]) literal
  | cons hyphen before =>
    have marked : hyphen = '-' := by
      simpa [front] using List.head?_dropWhile_not (· != '-') cs.reverse
    rw [front, marked, List.reverse_cons, List.append_assoc, List.singleton_append] at parts
    have taken : cs.take (cs.length - tail.length - 1) = before.reverse := by
      rw [parts]
      exact List.take_left' (by simp; omega)
    rw [taken]
    exact parts

/-- What is no digit stays in the text that an ASCII form stands for. -/
theorem mem_decode {cs result : List Char} (decoded : decode cs = some result) {d : Char}
    (low : d.toNat ≤ 0x20) (member : d ∈ cs) : d ∈ result := by
  have noDigit : ¬(digitValue d).isSome := by simp [digitValue_of_low low]
  rw [decode] at decoded
  generalize behind : (cs.reverse.takeWhile (· != '-')).reverse = tail at decoded
  by_cases literal : cs.take (cs.length - tail.length - 1) = []
  · simp only [literal, List.isEmpty_nil, if_true] at decoded
    exact absurd ((of_decodeInsertions decoded).2 member) noDigit
  · rw [eq_append_hyphen behind.symm literal] at member
    simp only [List.isEmpty_iff, if_neg literal] at decoded
    rcases List.mem_append.1 member with member | member
    · exact (of_decodeInsertions decoded).1 member
    · rcases List.mem_cons.1 member with rfl | member
      · exact absurd low (by decide)
      · exact absurd ((of_decodeInsertions decoded).2 member) noDigit

theorem encoder_foldl_output (literals code : Nat) (cs : List Char) (s : Encoder) :
    s.output <+: (cs.foldl (Encoder.step literals code) s).output := by
  induction cs generalizing s with
  | nil => exact List.prefix_rfl
  | cons c cs ih =>
    refine List.IsPrefix.trans ?_ (ih _)
    unfold Encoder.step
    split
    · exact List.prefix_rfl
    · split
      · exact List.prefix_append _ _
      · exact List.prefix_rfl

theorem encodeRounds_output (text : List Char) (literals fuel code : Nat) (s : Encoder) :
    s.output <+: encodeRounds text literals fuel code s := by
  induction fuel generalizing code s with
  | zero => exact List.prefix_rfl
  | succ fuel ih =>
    rw [encodeRounds]
    split
    · exact List.prefix_rfl
    case h_2 n ns _ =>
      dsimp only
      refine List.IsPrefix.trans ?_ (ih _ _)
      exact encoder_foldl_output _ _ _
        { s with delta := s.delta + (ns.foldl min n - code) * (s.handled + 1) }

theorem mem_encode {text : List Char} {d : Char} (ascii : d.toNat < firstCode) (member : d ∈ text) :
    d ∈ encode text := by
  have literal : d ∈ text.filter (·.toNat < firstCode) := by simp [member, ascii]
  refine (encodeRounds_output ..).subset ?_
  rw [if_neg (by simpa using ⟨d, member, ascii⟩)]
  exact List.mem_append_left _ literal

end Punycode

/-! ## Domain names -/

namespace Idna

section
variable {d : Char} (low : d.toNat ≤ 0x20)
include low

/-- The ASCII prefix has no control character, so what is left of a label keeps them. -/
theorem mem_readLabel {label decoded : List Char}
    (member : d ∈ label) (read : readLabel label = some decoded) : d ∈ decoded := by
  rw [readLabel] at read
  split at read
  case isTrue marked =>
    obtain ⟨form, rfl⟩ := List.isPrefixOf_iff_prefix.1 marked
    have inForm : d ∈ form := by
      refine (List.mem_append.1 member).resolve_left fun inPrefix => ?_
      have above : ∀ c ∈ asciiPrefix, 0x20 < c.toNat := by simp [asciiPrefix]
      exact absurd low (Nat.not_le.2 (above d inPrefix))
    rw [List.drop_left] at read
    obtain ⟨-, read⟩ := Option.ite_none_left_eq_some.1 read
    cases form' : Punycode.decode form with
    | none => simp [form'] at read
    | some text =>
      simp only [form', Option.ite_none_left_eq_some] at read
      obtain ⟨-, read⟩ := read
      cases read
      exact Punycode.mem_decode form' low inForm
  case isFalse =>
    obtain ⟨-, same⟩ := Option.ite_none_right_eq_some.1 read
    cases same
    exact member

theorem mem_writeLabel {label written : List Char}
    (member : d ∈ label) (write : writeLabel label = some written) : d ∈ written := by
  rw [writeLabel] at write
  split at write
  · cases write
    exact member
  · obtain ⟨-, same⟩ := Option.ite_none_left_eq_some.1 write
    cases same
    refine List.mem_append_right _ (Punycode.mem_encode ?_ member)
    exact Nat.lt_of_le_of_lt low (by decide)

theorem mem_asciiDomain {cs name : List Char}
    (member : d ∈ cs) (domain : asciiDomain cs = some name) : d ∈ name := by
  simp only [asciiDomain, Option.bind_eq_bind, Option.bind_eq_some_iff,
    Option.ite_none_left_eq_some, Option.some.injEq] at domain
  obtain ⟨mapped, all, labels, read, -, written, write, rfl⟩ := domain
  have notDot : d ≠ '.' := by
    rintro rfl
    exact absurd low (by decide)
  obtain ⟨part, listed, inPart⟩ :=
    exists_mem_splitAtChar notDot (mem_normalize low (mem_mapped low member all))
  obtain ⟨label, listed, found⟩ := exists_of_mapM read listed
  have inLabel := mem_readLabel low inPart found
  obtain ⟨text, listed, found⟩ := exists_of_mapM write listed
  exact (mem_intercalate_iff notDot _).2 ⟨_, listed, mem_writeLabel low inLabel found⟩

theorem isForbidden_of_low : isForbidden d = true := by
  simp [isForbidden, low]

theorem mem_text_of_low {bs : Bytes} {text : String}
    (decoded : Utf8.decode? bs = some text) (member : UInt8.ofNat d.toNat ∈ bs) :
    d ∈ text.toList := by
  rw [Utf8.eq_encode_of_decode? decoded] at member
  obtain ⟨c, listed, inside⟩ := List.mem_flatMap.1 member
  have ascii : d.toNat < 128 := Nat.lt_of_le_of_lt low (by decide)
  have value := Utf8.toNat_byte_of_ascii ascii
  have same := Utf8.toNat_eq_of_mem_encodeChar (value.symm ▸ ascii) inside
  rw [value, Char.toNat_inj] at same
  exact same ▸ listed

theorem toAscii_of_low {host : Bytes}
    (member : UInt8.ofNat d.toNat ∈ host) : toAscii host = none := by
  have refused : ∀ domain : List Char, d ∈ domain → domain.any isForbidden = true :=
    fun domain inDomain => List.any_eq_true.2 ⟨d, inDomain, isForbidden_of_low low⟩
  have lower : d.toLower = d := by
    have checked : ∀ n < 33, (Char.ofNat n).toLower = Char.ofNat n := by decide
    simpa [Char.ofNat_toNat] using checked d.toNat (by omega)
  unfold toAscii
  refine Option.bind_eq_none_iff.2 fun text decoded => ?_
  have inText := mem_text_of_low low decoded member
  split
  · exact if_pos (refused _ (List.mem_map.2 ⟨d, inText, lower⟩))
  · refine Option.bind_eq_none_iff.2 fun domain found => ?_
    exact if_pos (refused domain (mem_asciiDomain low inText found))

end

end Idna

/-! ## Hosts -/

namespace Host

theorem eq_none_of_bracketed? {cs : List Char} {inner : Option (List Char)} {d : Char}
    (bracket : bracketed? cs = some inner) (last : cs.getLast? = some d) (low : d.toNat ≤ 0x20) :
    inner = none := by
  unfold bracketed? at bracket
  split at bracket
  case h_1 cs =>
    have notClosed : ¬(cs.getLast? == some ']') = true := by
      intro closed
      cases cs with
      | nil => simp at closed
      | cons c cs =>
        rw [List.getLast?_cons_cons] at last
        rw [last, beq_iff_eq, Option.some.injEq] at closed
        exact absurd low (by rw [closed]; decide)
    rw [if_neg notClosed] at bracket
    exact (Option.some.inj bracket).symm
  case h_2 => cases bracket

theorem parse_of_last_low {cs : List Char} {d : Char} (last : cs.getLast? = some d)
    (low : d.toNat ≤ 0x20) : ∃ error, parse cs = .error error := by
  cases bracket : bracketed? cs with
  | some inner =>
    have unclosed := eq_none_of_bracketed? bracket last low
    exact ⟨.invalidIpv6, by simp [parse, bracket, unclosed, parseBracketed]⟩
  | none =>
    have ascii : d.toNat < 128 := Nat.lt_of_le_of_lt low (by decide)
    have member : UInt8.ofNat d.toNat ∈ Utf8.encode (String.ofList cs) := by
      refine List.mem_flatMap.2 ⟨d, by simpa using List.mem_of_getLast? last, ?_⟩
      simp [Utf8.encodeChar_of_ascii ascii]
    have byteLow : (UInt8.ofNat d.toNat).toNat ≤ 0x20 := (Utf8.toNat_byte_of_ascii ascii).symm ▸ low
    have refused := Idna.toAscii_of_low low (Percent.mem_decode byteLow member)
    exact ⟨.invalidDomain, by simp only [parse, bracket, refused]⟩

end Host
end FleetWatch
