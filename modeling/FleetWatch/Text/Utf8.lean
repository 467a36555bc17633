/-!
# UTF-8

Reading one scalar value from the front of a byte list.  The bytes are assembled into a candidate,
and the candidate is taken only if its own encoding is what the list starts with: overlong forms,
surrogates and cut sequences fail that test without a rule of their own.

* `eq_append_of_decodeChar`: what is read is the encoding of the character.
-/

namespace FleetWatch

abbrev Bytes := List UInt8

namespace Utf8

def encode (s : String) : Bytes := s.toList.flatMap String.utf8EncodeChar

def continuationBits (bs : Bytes) (i : Nat) : Nat := (bs[i]?.getD 0).toNat % 64

/-- The scalar value that a sequence with this first byte would stand for. -/
def candidate (first : UInt8) (rest : Bytes) : Char :=
  let b := first.toNat
  let c := continuationBits rest
  Char.ofNat <|
    if b < 0x80 then b
    else if b < 0xE0 then b % 32 * 64 + c 0
    else if b < 0xF0 then (b % 16 * 64 + c 0) * 64 + c 1
    else ((b % 8 * 64 + c 0) * 64 + c 1) * 64 + c 2

def dropPrefix? : Bytes → Bytes → Option Bytes
  | [], bs => some bs
  | _ :: _, [] => none
  | x :: xs, b :: bs => if x = b then dropPrefix? xs bs else none

def decodeChar : Bytes → Option (Char × Bytes)
  | [] => none
  | b :: bs =>
    let c := candidate b bs
    (dropPrefix? (String.utf8EncodeChar c) (b :: bs)).map (c, ·)

theorem eq_append_of_dropPrefix? {xs bs rest : Bytes} (h : dropPrefix? xs bs = some rest) :
    bs = xs ++ rest := by
  induction xs generalizing bs with
  | nil => simpa [dropPrefix?] using h
  | cons x xs ih =>
    cases bs with
    | nil => simp [dropPrefix?] at h
    | cons b bs =>
      by_cases hx : x = b
      · simp only [dropPrefix?, hx, if_true] at h
        simp [hx, ih h]
      · simp [dropPrefix?, hx] at h

theorem eq_append_of_decodeChar {bs rest : Bytes} {c : Char}
    (h : decodeChar bs = some (c, rest)) : bs = String.utf8EncodeChar c ++ rest := by
  cases bs with
  | nil => simp [decodeChar] at h
  | cons b bs =>
    simp only [decodeChar, Option.map_eq_some_iff, Prod.mk.injEq] at h
    obtain ⟨_, h, rfl, rfl⟩ := h
    exact eq_append_of_dropPrefix? h

/-- The characters of a byte list, up to `fuel` of them; the bytes left where it stops. -/
def decodeSome : Nat → Bytes → List Char × Bytes
  | 0, bs => ([], bs)
  | fuel + 1, bs =>
    match decodeChar bs with
    | none => ([], bs)
    | some (c, rest) =>
      let (cs, left) := decodeSome fuel rest
      (c :: cs, left)

def decode? (bs : Bytes) : Option String :=
  match decodeSome bs.length bs with
  | (cs, []) => some (String.ofList cs)
  | _ => none

end Utf8
end FleetWatch
