import Scouting.Go

/-! # `encoding/base64`, standard encoding

`base64.StdEncoding` writes every three bytes as four characters of the
alphabet `A–Z a–z 0–9 + /`, and a last one or two bytes as two or three
characters followed by `=` padding. `EncodeToString` is modelled as Go computes
it. Of `DecodeString` the handlers depend on one fact, that it inverts
`EncodeToString`: it is taken as a contract, `Base64Decoder`, met by the strict
RFC 4648 decoder `strictDecoder` by which the model runs. Go's decoder accepts
more (line breaks between characters), which no result below depends on. -/

namespace Scouting

/-- The character `encode[v]` of the standard alphabet for a sextet `v < 64`. -/
def encodeSextet (v : Nat) : UInt8 :=
  UInt8.ofNat <|
    if v < 26 then v + 65 else if v < 52 then v + 71 else if v < 62 then v - 4
    else if v = 62 then 43 else 47

/-- `StdPadding`, the character `=`. -/
def stdPadding : UInt8 := 61

/-- `StdEncoding.EncodeToString`. -/
def encodeToString : List UInt8 → List UInt8
  | b0 :: b1 :: b2 :: rest =>
      encodeSextet (b0.toNat / 4) :: encodeSextet (b0.toNat % 4 * 16 + b1.toNat / 16) ::
        encodeSextet (b1.toNat % 16 * 4 + b2.toNat / 64) :: encodeSextet (b2.toNat % 64) ::
          encodeToString rest
  | [b0, b1] =>
      [encodeSextet (b0.toNat / 4), encodeSextet (b0.toNat % 4 * 16 + b1.toNat / 16),
        encodeSextet (b1.toNat % 16 * 4), stdPadding]
  | [b0] => [encodeSextet (b0.toNat / 4), encodeSextet (b0.toNat % 4 * 16), stdPadding, stdPadding]
  | [] => []

/-- `StdEncoding.DecodeString`, by what the handlers rely on: it inverts
`EncodeToString`. -/
structure Base64Decoder where
  decodeString : List UInt8 → Except String (List UInt8)
  decodeString_encodeToString : ∀ src, decodeString (encodeToString src) = .ok src

/-! ## A strict decoder -/

/-- The sextet a character of the standard alphabet stands for. -/
def decodeSextet (c : UInt8) : Option Nat :=
  if 65 ≤ c.toNat ∧ c.toNat ≤ 90 then some (c.toNat - 65)
  else if 97 ≤ c.toNat ∧ c.toNat ≤ 122 then some (c.toNat - 71)
  else if 48 ≤ c.toNat ∧ c.toNat ≤ 57 then some (c.toNat + 4)
  else if c.toNat = 43 then some 62
  else if c.toNat = 47 then some 63
  else none

/-- The error of a string that is not a standard encoding. -/
def corruptInput : String := "illegal base64 data"

/-- The bytes of one quantum of four characters: three, or in the `last`
quantum one or two followed by padding. -/
def decodeQuantum (c0 c1 c2 c3 : UInt8) (last : Bool) : Except String (List UInt8) :=
  match decodeSextet c0, decodeSextet c1 with
  | some s0, some s1 =>
      if last && c2 == stdPadding && c3 == stdPadding then .ok [UInt8.ofNat (s0 * 4 + s1 / 16)]
      else match decodeSextet c2 with
        | some s2 =>
            if last && c3 == stdPadding then
              .ok [UInt8.ofNat (s0 * 4 + s1 / 16), UInt8.ofNat (s1 % 16 * 16 + s2 / 4)]
            else match decodeSextet c3 with
              | some s3 =>
                  .ok [UInt8.ofNat (s0 * 4 + s1 / 16), UInt8.ofNat (s1 % 16 * 16 + s2 / 4),
                    UInt8.ofNat (s2 % 4 * 64 + s3)]
              | none => .error corruptInput
        | none => .error corruptInput
  | _, _ => .error corruptInput

/-- RFC 4648 decoding with padding and no characters outside the alphabet. -/
def strictDecodeString : List UInt8 → Except String (List UInt8)
  | c0 :: c1 :: c2 :: c3 :: rest =>
      return (← decodeQuantum c0 c1 c2 c3 rest.isEmpty) ++ (← strictDecodeString rest)
  | [] => .ok []
  | _ => .error corruptInput

/-! ## Round trip -/

theorem toNat_encodeSextet (v : Nat) : (encodeSextet v).toNat =
    if v < 26 then v + 65 else if v < 52 then v + 71 else if v < 62 then v - 4
    else if v = 62 then 43 else 47 :=
  UInt8.toNat_ofNat_of_lt (by show _ < 256; split_ifs <;> omega)

/-- Decoding inverts the alphabet, checked over its 64 entries. -/
theorem decodeSextet_encodeSextet {v : Nat} (hv : v < 64) :
    decodeSextet (encodeSextet v) = some v := by
  have halphabet : ∀ w : Fin 64, decodeSextet (encodeSextet w) = some w := by decide
  exact halphabet ⟨v, hv⟩

/-- No character of the alphabet is padding or a space. -/
theorem encodeSextet_ne (v : Nat) : encodeSextet v ≠ stdPadding ∧ encodeSextet v ≠ 32 := by
  have h := toNat_encodeSextet v
  constructor <;> intro heq <;> rw [heq] at h
  · change 61 = _ at h; split_ifs at h <;> omega
  · change 32 = _ at h; split_ifs at h <;> omega

/-- A byte is the `UInt8` of its own value. -/
theorem ofNat_eq_of_toNat {b : UInt8} {n : Nat} (h : n = b.toNat) : UInt8.ofNat n = b :=
  UInt8.toNat.inj (by rw [UInt8.toNat_ofNat_of_lt (by rw [h]; exact b.toNat_lt_size), h])

theorem toNat_lt_256 (b : UInt8) : b.toNat < 256 := b.toNat_lt_size

@[simp]
theorem encodeSextet_beq_stdPadding (v : Nat) : (encodeSextet v == stdPadding) = false :=
  beq_eq_false_iff_ne.mpr (encodeSextet_ne v).1

/-- Three bytes come back from their four characters, in any quantum. -/
theorem decodeQuantum_three (b0 b1 b2 : UInt8) (last : Bool) :
    decodeQuantum (encodeSextet (b0.toNat / 4)) (encodeSextet (b0.toNat % 4 * 16 + b1.toNat / 16))
      (encodeSextet (b1.toNat % 16 * 4 + b2.toNat / 64)) (encodeSextet (b2.toNat % 64)) last =
      .ok [b0, b1, b2] := by
  have h0 := toNat_lt_256 b0; have h1 := toNat_lt_256 b1; have h2 := toNat_lt_256 b2
  simp (disch := omega) only [decodeQuantum, decodeSextet_encodeSextet,
    encodeSextet_beq_stdPadding, Bool.and_false, Bool.false_eq_true, if_false]
  refine congrArg Except.ok (List.cons_eq_cons.mpr ⟨ofNat_eq_of_toNat ?_,
    List.cons_eq_cons.mpr ⟨ofNat_eq_of_toNat ?_, List.cons_eq_cons.mpr ⟨ofNat_eq_of_toNat ?_, rfl⟩⟩⟩)
    <;> omega

/-- Two bytes come back from the last quantum, of three characters and padding. -/
theorem decodeQuantum_two (b0 b1 : UInt8) :
    decodeQuantum (encodeSextet (b0.toNat / 4)) (encodeSextet (b0.toNat % 4 * 16 + b1.toNat / 16))
      (encodeSextet (b1.toNat % 16 * 4)) stdPadding true = .ok [b0, b1] := by
  have h0 := toNat_lt_256 b0; have h1 := toNat_lt_256 b1
  simp (disch := omega) only [decodeQuantum, decodeSextet_encodeSextet,
    encodeSextet_beq_stdPadding, beq_self_eq_true, Bool.and_false, Bool.and_true,
    Bool.false_eq_true, if_false, if_true]
  refine congrArg Except.ok (List.cons_eq_cons.mpr ⟨ofNat_eq_of_toNat ?_,
    List.cons_eq_cons.mpr ⟨ofNat_eq_of_toNat ?_, rfl⟩⟩) <;> omega

/-- One byte comes back from the last quantum, of two characters and padding. -/
theorem decodeQuantum_one (b0 : UInt8) :
    decodeQuantum (encodeSextet (b0.toNat / 4)) (encodeSextet (b0.toNat % 4 * 16))
      stdPadding stdPadding true = .ok [b0] := by
  have h0 := toNat_lt_256 b0
  simp (disch := omega) only [decodeQuantum, decodeSextet_encodeSextet, beq_self_eq_true,
    Bool.and_true, if_true]
  exact congrArg Except.ok (List.cons_eq_cons.mpr ⟨ofNat_eq_of_toNat (by omega), rfl⟩)

theorem strictDecodeString_encodeToString (src : List UInt8) :
    strictDecodeString (encodeToString src) = .ok src := by
  induction src using encodeToString.induct with
  | case1 b0 b1 b2 rest ih =>
      rw [encodeToString, strictDecodeString, decodeQuantum_three, ih]; rfl
  | case2 b0 b1 => rw [encodeToString, strictDecodeString, List.isEmpty_nil, decodeQuantum_two]; rfl
  | case3 b0 => rw [encodeToString, strictDecodeString, List.isEmpty_nil, decodeQuantum_one]; rfl
  | case4 => rfl

/-- Every character of an encoding is of the alphabet or padding. -/
theorem mem_encodeToString {src : List UInt8} {c : UInt8} (h : c ∈ encodeToString src) :
    (∃ v, encodeSextet v = c) ∨ c = stdPadding := by
  induction src using encodeToString.induct with
  | case1 b0 b1 b2 rest ih =>
      simp only [encodeToString, List.mem_cons] at h
      rcases h with rfl | rfl | rfl | rfl | h
      any_goals exact .inl ⟨_, rfl⟩
      exact ih h
  | case4 => cases h
  | _ =>
      simp only [encodeToString, List.mem_cons, List.not_mem_nil, or_false] at h
      rcases h with rfl | rfl | rfl | rfl <;> first | exact .inl ⟨_, rfl⟩ | exact .inr rfl

/-- An encoding has no space in it. -/
theorem ne_space_of_mem_encodeToString {src : List UInt8} {c : UInt8}
    (h : c ∈ encodeToString src) : c ≠ 32 := by
  rcases mem_encodeToString h with ⟨v, rfl⟩ | rfl
  · exact (encodeSextet_ne v).2
  · decide

/-- The strict decoder meets the contract of `DecodeString`. -/
def strictDecoder : Base64Decoder := ⟨strictDecodeString, strictDecodeString_encodeToString⟩

end Scouting
