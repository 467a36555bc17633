import FleetWatch.Text.Utf8

/-!
# UTF-8, encoded and decoded

* `decodeChar_utf8EncodeChar`: an encoded character is decoded again.
* `encodeChar_of_ascii`, `toNat_eq_of_mem_encodeChar`: bytes below 128 are characters by themselves.
* `eq_encode_of_decode?`: what is decoded as a whole is the encoding of the string.
* `decode?_eq_some_iff`: and every encoding is decoded.
-/

namespace FleetWatch.Utf8

def ofChars (cs : List Char) : Bytes := cs.flatMap String.utf8EncodeChar

theorem ofChars_append (cs ds : List Char) : ofChars (cs ++ ds) = ofChars cs ++ ofChars ds :=
  List.flatMap_append

theorem ofChars_cons (c : Char) (cs : List Char) :
    ofChars (c :: cs) = String.utf8EncodeChar c ++ ofChars cs := List.flatMap_cons

/-! ## Bytes of one character -/

theorem encodeChar_of_ascii {c : Char} (ascii : c.toNat < 128) :
    String.utf8EncodeChar c = [UInt8.ofNat c.toNat] := by
  have single : c.toNat ≤ 127 := Nat.le_of_lt_succ ascii
  simp [String.utf8EncodeChar, single]

theorem toNat_byte_of_ascii {c : Char} (ascii : c.toNat < 128) :
    (UInt8.ofNat c.toNat).toNat = c.toNat := by
  simp only [UInt8.toNat_ofNat']
  omega

theorem toNat_eq_of_mem_encodeChar {c : Char} {b : UInt8} (ascii : b.toNat < 128)
    (member : b ∈ String.utf8EncodeChar c) : c.toNat = b.toNat := by
  simp only [String.utf8EncodeChar, Char.toNat_val] at member
  split at member
  · obtain rfl := List.mem_singleton.1 member
    simp only [UInt8.toNat_ofNat'] at ascii ⊢
    omega
  -- every byte of a longer encoding is 128 or more
  · exfalso
    split at member
    · simp only [List.mem_cons, List.not_mem_nil, or_false] at member
      rcases member with rfl | rfl <;> simp only [UInt8.toNat_ofNat'] at ascii <;> omega
    · split at member
      · simp only [List.mem_cons, List.not_mem_nil, or_false] at member
        rcases member with rfl | rfl | rfl <;> simp only [UInt8.toNat_ofNat'] at ascii <;> omega
      · simp only [List.mem_cons, List.not_mem_nil, or_false] at member
        rcases member with rfl | rfl | rfl | rfl <;>
          simp only [UInt8.toNat_ofNat'] at ascii <;> omega

/-! ## Decoding -/

theorem dropPrefix?_append (xs rest : Bytes) : dropPrefix? xs (xs ++ rest) = some rest := by
  induction xs with
  | nil => rfl
  | cons x xs ih => simpa [dropPrefix?] using ih

theorem candidate_utf8EncodeChar {c : Char} {b : UInt8} {bs : Bytes} (rest : Bytes)
    (encoded : String.utf8EncodeChar c = b :: bs) : candidate b (bs ++ rest) = c := by
  have bound : c.toNat < 0x110000 := by
    have valid := c.valid
    simp only [UInt32.isValidChar, Nat.isValidChar, Char.toNat_val] at valid
    omega
  have assembled : ∀ n, n = c.toNat → Char.ofNat n = c := fun n same => by
    rw [same, Char.ofNat_toNat]
  simp only [String.utf8EncodeChar, Char.toNat_val] at encoded
  -- the first byte tells which of the four lengths the encoding has
  split at encoded
  · obtain ⟨rfl, rfl⟩ := List.cons.inj encoded
    refine assembled _ ?_
    simp only [UInt8.toNat_ofNat']
    rw [if_pos (by omega)]
    omega
  · split at encoded
    · obtain ⟨rfl, rfl⟩ := List.cons.inj encoded
      refine assembled _ ?_
      simp only [continuationBits, UInt8.toNat_ofNat']
      rw [if_neg (by omega), if_pos (by omega)]
      simp
      omega
    · split at encoded
      · obtain ⟨rfl, rfl⟩ := List.cons.inj encoded
        refine assembled _ ?_
        simp only [continuationBits, UInt8.toNat_ofNat']
        rw [if_neg (by omega), if_neg (by omega), if_pos (by omega)]
        simp
        omega
      · obtain ⟨rfl, rfl⟩ := List.cons.inj encoded
        refine assembled _ ?_
        simp only [continuationBits, UInt8.toNat_ofNat']
        rw [if_neg (by omega), if_neg (by omega), if_neg (by omega)]
        simp
        omega

theorem decodeChar_utf8EncodeChar (c : Char) (rest : Bytes) :
    decodeChar (String.utf8EncodeChar c ++ rest) = some (c, rest) := by
  cases encoded : String.utf8EncodeChar c with
  | nil =>
    have size := String.length_utf8EncodeChar c
    rw [encoded, List.length_nil] at size
    exact absurd size.symm (Nat.ne_of_gt (Char.utf8Size_pos c))
  | cons b bs =>
    rw [List.cons_append, decodeChar]
    simp only [candidate_utf8EncodeChar rest encoded, encoded]
    rw [← List.cons_append, dropPrefix?_append, Option.map_some]

theorem eq_append_of_decodeSome (fuel : Nat) (bs : Bytes) :
    bs = (decodeSome fuel bs).1.flatMap String.utf8EncodeChar ++ (decodeSome fuel bs).2 := by
  induction fuel generalizing bs with
  | zero => rfl
  | succ fuel ih =>
    cases read : decodeChar bs with
    | none => simp [decodeSome, read]
    | some front =>
      simp only [decodeSome, read, List.flatMap_cons, List.append_assoc, ← ih]
      exact eq_append_of_decodeChar read

theorem eq_encode_of_decode? {bs : Bytes} {s : String} (decoded : decode? bs = some s) :
    bs = encode s := by
  have whole := eq_append_of_decodeSome bs.length bs
  unfold decode? at decoded
  split at decoded
  case h_1 cs split =>
    cases decoded
    simpa [split, encode] using whole
  case h_2 => cases decoded

theorem decodeSome_ofChars {fuel : Nat} {cs : List Char} (enough : cs.length ≤ fuel) :
    decodeSome fuel (ofChars cs) = (cs, []) := by
  induction cs generalizing fuel with
  | nil => cases fuel <;> rfl
  | cons c cs ih =>
    obtain ⟨fuel, rfl⟩ := Nat.exists_eq_add_of_le' (Nat.le_trans (Nat.le_add_left 1 _) enough)
    rw [ofChars_cons, decodeSome, decodeChar_utf8EncodeChar]
    simp only [ih (Nat.le_of_succ_le_succ enough)]

theorem length_le_ofChars (cs : List Char) : cs.length ≤ (ofChars cs).length := by
  induction cs with
  | nil => exact Nat.le_refl _
  | cons c cs ih =>
    have positive := Char.utf8Size_pos c
    rw [ofChars_cons, List.length_append, String.length_utf8EncodeChar, List.length_cons]
    omega

theorem decode?_eq_some_iff {bs : Bytes} {s : String} : decode? bs = some s ↔ bs = encode s := by
  refine ⟨eq_encode_of_decode?, ?_⟩
  rintro rfl
  have whole := decodeSome_ofChars (length_le_ofChars s.toList)
  rw [show encode s = ofChars s.toList from rfl, decode?, whole]
  simp only [String.ofList_toList]

end FleetWatch.Utf8
