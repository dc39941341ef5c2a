import FlagBinding.Text.Utf8
import Mathlib.Tactic.SplitIfs

/-!
# Just the bytes of texts are decoded

The bytes of one character are a sequence of one of four kinds, and each such sequence is the bytes
of one character. The decoder goes from sequence to sequence, so it takes the bytes of a text apart
as they were put together, and ends with a fault in anything else.

## Main definitions

* `Encodes`: the bytes of one character, with its number.

## Main statements

* `encodes_utf8EncodeChar`, `Encodes.utf8EncodeChar`: these are the bytes that a character is
  written as.
* `decode_eq_ok_iff`: a byte string is decoded exactly if it is the bytes of a text.
-/

namespace FlagBinding.Text.Utf8

/-! ## Bytes as numbers -/

section Bytes

variable {b lead second : UInt8}

theorem within_iff {lo hi : UInt8} :
    within lo hi b = true ↔ lo.toNat ≤ b.toNat ∧ b.toNat ≤ hi.toNat := by
  simp [within, UInt8.le_iff_toNat_le]

theorem isContinuation_iff : isContinuation b = true ↔ 128 ≤ b.toNat ∧ b.toNat ≤ 191 :=
  within_iff

theorem width?_eq_ite (b : UInt8) :
    width? b =
      if b.toNat < 128 then some 1
      else if 194 ≤ b.toNat ∧ b.toNat ≤ 223 then some 2
      else if 224 ≤ b.toNat ∧ b.toNat ≤ 239 then some 3
      else if 240 ≤ b.toNat ∧ b.toNat ≤ 244 then some 4
      else none := by
  simp only [width?, within_iff, UInt8.lt_iff_toNat_lt]
  rfl

theorem width?_eq_one_iff : width? b = some 1 ↔ b.toNat < 128 := by
  grind [width?_eq_ite]

theorem width?_eq_two_iff : width? b = some 2 ↔ 194 ≤ b.toNat ∧ b.toNat ≤ 223 := by
  grind [width?_eq_ite]

theorem width?_eq_three_iff : width? b = some 3 ↔ 224 ≤ b.toNat ∧ b.toNat ≤ 239 := by
  grind [width?_eq_ite]

theorem width?_eq_four_iff : width? b = some 4 ↔ 240 ≤ b.toNat ∧ b.toNat ≤ 244 := by
  grind [width?_eq_ite]

theorem secondFits_iff : secondFits lead second = true ↔
    (128 ≤ second.toNat ∧ second.toNat ≤ 191) ∧
      (lead.toNat = 224 → 160 ≤ second.toNat) ∧ (lead.toNat = 237 → second.toNat ≤ 159) ∧
      (lead.toNat = 240 → 144 ≤ second.toNat) ∧ (lead.toNat = 244 → second.toNat ≤ 143) := by
  have same (k : UInt8) : (lead == k) = true ↔ lead.toNat = k.toNat := by
    rw [beq_iff_eq, UInt8.toNat_inj]
  simp only [secondFits, apply_ite (· = true), same, within_iff, isContinuation_iff,
    UInt8.reduceToNat]
  grind

/-- A byte that is computed as a number below 256. -/
theorem ofNat_eq {n : Nat} (same : n = b.toNat) : UInt8.ofNat n = b := by
  rw [same, UInt8.ofNat_toNat]

end Bytes

/-! ## Sequences -/

/-- The bytes of one character, with its number. -/
inductive Encodes : List UInt8 → Nat → Prop
  | one {b : UInt8} (lead : width? b = some 1) : Encodes [b] b.toNat
  | two {b c : UInt8} (lead : width? b = some 2) (second : secondFits b c) :
    Encodes [b, c] (b.toNat % 32 * 64 + payload c)
  | three {b c d : UInt8} (lead : width? b = some 3) (second : secondFits b c)
      (third : isContinuation d) :
    Encodes [b, c, d] ((b.toNat % 16 * 64 + payload c) * 64 + payload d)
  | four {b c d e : UInt8} (lead : width? b = some 4) (second : secondFits b c)
      (third : isContinuation d) (fourth : isContinuation e) :
    Encodes [b, c, d, e] (((b.toNat % 8 * 64 + payload c) * 64 + payload d) * 64 + payload e)

variable {offset n : Nat} {bytes rest : List UInt8}

theorem Encodes.decodeFrom_append (encodes : Encodes bytes n) :
    decodeFrom offset (bytes ++ rest) =
      (Char.ofNat n :: ·) <$> decodeFrom (offset + bytes.length) rest := by
  cases encodes with
  | one lead =>
    rw [List.singleton_append, decodeFrom.eq_def]
    simp only [lead, List.length_singleton]
  | two lead second => simp [decodeFrom, lead, second]
  | three lead second third => simp [decodeFrom, lead, second, third]
  | four lead second third fourth => simp [decodeFrom, lead, second, third, fourth]

/-- The second byte keeps the number out of the surrogates and below the end of the code points. -/
theorem Encodes.isValidChar (encodes : Encodes bytes n) : n.isValidChar := by
  unfold Nat.isValidChar
  cases encodes with
  | one lead =>
    rw [width?_eq_one_iff] at lead
    omega
  | two lead second =>
    rw [width?_eq_two_iff] at lead
    unfold payload
    omega
  | three lead second third =>
    rw [width?_eq_three_iff] at lead
    rw [secondFits_iff] at second
    unfold payload
    omega
  | four lead second third fourth =>
    rw [width?_eq_four_iff] at lead
    rw [secondFits_iff] at second
    unfold payload
    omega

/-- A sequence is the bytes of its character; the second byte keeps overlong forms out. -/
theorem Encodes.utf8EncodeChar (encodes : Encodes bytes n) :
    String.utf8EncodeChar (Char.ofNat n) = bytes := by
  have number : (Char.ofNat n).val.toNat = n := by
    rw [Char.ofNat, dif_pos encodes.isValidChar]
    rfl
  unfold String.utf8EncodeChar
  rw [number]
  cases encodes with
  | one lead =>
    rw [width?_eq_one_iff] at lead
    rw [if_pos (by omega), UInt8.ofNat_toNat]
  | @two b c lead second =>
    rw [width?_eq_two_iff] at lead
    rw [secondFits_iff] at second
    unfold payload
    rw [if_neg (by omega), if_pos (by omega), ofNat_eq (b := b) (by omega),
      ofNat_eq (b := c) (by omega)]
  | @three b c d lead second third =>
    rw [width?_eq_three_iff] at lead
    rw [secondFits_iff] at second
    rw [isContinuation_iff] at third
    unfold payload
    rw [if_neg (by omega), if_neg (by omega), if_pos (by omega), ofNat_eq (b := b) (by omega),
      ofNat_eq (b := c) (by omega), ofNat_eq (b := d) (by omega)]
  | @four b c d e lead second third fourth =>
    rw [width?_eq_four_iff] at lead
    rw [secondFits_iff] at second
    rw [isContinuation_iff] at third fourth
    unfold payload
    rw [if_neg (by omega), if_neg (by omega), if_neg (by omega), ofNat_eq (b := b) (by omega),
      ofNat_eq (b := c) (by omega), ofNat_eq (b := d) (by omega), ofNat_eq (b := e) (by omega)]

/-- The bytes of a character are one of the four kinds of sequences. -/
theorem encodes_utf8EncodeChar (c : Char) : Encodes (String.utf8EncodeChar c) c.toNat := by
  have valid : c.toNat.isValidChar := c.valid
  unfold Nat.isValidChar at valid
  unfold String.utf8EncodeChar
  rw [Char.toNat_val]
  generalize c.toNat = n at valid
  -- The bytes get names, and all that is said of them from here on is which numbers they are.
  have named (k : Nat) (small : k < 256) : ∃ b, UInt8.ofNat k = b ∧ b.toNat = k :=
    ⟨_, rfl, UInt8.toNat_ofNat_of_lt' small⟩
  dsimp only
  split_ifs with one two three
  · obtain ⟨b, first, lead⟩ := named n (by omega)
    rw [first, ← lead]
    exact .one (width?_eq_one_iff.2 (by omega))
  · obtain ⟨b, first, lead⟩ := named (n / 64 % 32 + 192) (by omega)
    obtain ⟨c, last, second⟩ := named (n % 64 + 128) (by omega)
    have number : b.toNat % 32 * 64 + payload c = n := by
      unfold payload
      omega
    rw [first, last, ← number]
    exact .two (width?_eq_two_iff.2 (by omega)) (secondFits_iff.2 (by omega))
  · obtain ⟨b, first, lead⟩ := named (n / 4096 % 16 + 224) (by omega)
    obtain ⟨c, next, second⟩ := named (n / 64 % 64 + 128) (by omega)
    obtain ⟨d, last, third⟩ := named (n % 64 + 128) (by omega)
    have number : (b.toNat % 16 * 64 + payload c) * 64 + payload d = n := by
      unfold payload
      omega
    rw [first, next, last, ← number]
    exact .three (width?_eq_three_iff.2 (by omega)) (secondFits_iff.2 (by omega))
      (isContinuation_iff.2 (by omega))
  · obtain ⟨b, first, lead⟩ := named (n / 262144 % 8 + 240) (by omega)
    obtain ⟨c, next, second⟩ := named (n / 4096 % 64 + 128) (by omega)
    obtain ⟨d, after, third⟩ := named (n / 64 % 64 + 128) (by omega)
    obtain ⟨e, last, fourth⟩ := named (n % 64 + 128) (by omega)
    have number : ((b.toNat % 8 * 64 + payload c) * 64 + payload d) * 64 + payload e = n := by
      unfold payload
      omega
    rw [first, next, after, last, ← number]
    exact .four (width?_eq_four_iff.2 (by omega)) (secondFits_iff.2 (by omega))
      (isContinuation_iff.2 (by omega)) (isContinuation_iff.2 (by omega))

/-- A character in ASCII is one byte, and no byte of another character is in ASCII. -/
theorem Encodes.single_or_high (encodes : Encodes bytes n) :
    (∃ b : UInt8, bytes = [b] ∧ b.toNat = n) ∨ ∀ b ∈ bytes, 128 ≤ b.toNat := by
  cases encodes with
  | one lead => exact .inl ⟨_, rfl, rfl⟩
  | two lead second =>
    rw [width?_eq_two_iff] at lead
    rw [secondFits_iff] at second
    simp only [List.forall_mem_cons, List.not_mem_nil, false_imp_iff, implies_true, and_true]
    exact .inr ⟨by omega, by omega⟩
  | three lead second third =>
    rw [width?_eq_three_iff] at lead
    rw [secondFits_iff] at second
    rw [isContinuation_iff] at third
    simp only [List.forall_mem_cons, List.not_mem_nil, false_imp_iff, implies_true, and_true]
    exact .inr ⟨by omega, by omega, by omega⟩
  | four lead second third fourth =>
    rw [width?_eq_four_iff] at lead
    rw [secondFits_iff] at second
    rw [isContinuation_iff] at third fourth
    simp only [List.forall_mem_cons, List.not_mem_nil, false_imp_iff, implies_true, and_true]
    exact .inr ⟨by omega, by omega, by omega, by omega⟩

/-! ## Decoding -/

theorem encode_append (s t : String) : encode (s ++ t) = encode s ++ encode t := by
  rw [encode, String.toList_append, encodeChars, List.flatMap_append]
  rfl

theorem encodeChars_cons_of_decoded {cs : List Char} {tail : Except Fault (List Char)}
    (encodes : Encodes bytes n) (ih : ∀ {cs}, tail = .ok cs → encodeChars cs = rest)
    (decoded : (Char.ofNat n :: ·) <$> tail = .ok cs) : encodeChars cs = bytes ++ rest := by
  cases tail with
  | error fault => cases decoded
  | ok more =>
    obtain rfl : Char.ofNat n :: more = cs := Except.ok.inj decoded
    rw [encodeChars, List.flatMap_cons, encodes.utf8EncodeChar, ← encodeChars, ih rfl]

/-- Nothing but the bytes of a text is decoded. -/
theorem encodeChars_of_decodeFrom {cs : List Char} (decoded : decodeFrom offset bytes = .ok cs) :
    encodeChars cs = bytes := by
  fun_induction decodeFrom offset bytes generalizing cs with
  | case1 =>
    obtain rfl : [] = cs := Except.ok.inj decoded
    rfl
  | case3 offset b rest lead ih => exact encodeChars_cons_of_decoded (.one lead) ih decoded
  | case6 offset b lead c rest second ih =>
    exact encodeChars_cons_of_decoded (.two lead (by simpa using second)) ih decoded
  | case11 offset b lead c d rest second third ih =>
    exact encodeChars_cons_of_decoded
      (.three lead (by simpa using second) (by simpa using third)) ih
      decoded
  | case18 offset b width notOne notTwo notThree lead c d e rest second third fourth ih =>
    have four : width? b = some 4 := by grind [width?_eq_ite]
    exact encodeChars_cons_of_decoded
      (.four four (by simpa using second) (by simpa using third) (by simpa using fourth)) ih decoded
  | _ => cases decoded

theorem decodeFrom_encodeChars (cs : List Char) : decodeFrom offset (encodeChars cs) = .ok cs := by
  induction cs generalizing offset with
  | nil => rfl
  | cons c cs ih =>
    rw [encodeChars, List.flatMap_cons, (encodes_utf8EncodeChar c).decodeFrom_append, ← encodeChars,
      ih, Char.ofNat_toNat]
    rfl

/-- A byte string is decoded exactly if it is the bytes of a text, and to that text. -/
theorem decode_eq_ok_iff {text : String} : decode bytes = .ok text ↔ encode text = bytes := by
  constructor
  · intro decoded
    unfold decode at decoded
    cases read : decodeFrom 0 bytes with
    | error fault =>
      rw [read] at decoded
      cases decoded
    | ok cs =>
      rw [read] at decoded
      obtain rfl : String.ofList cs = text := Except.ok.inj decoded
      rw [encode, String.toList_ofList, encodeChars_of_decodeFrom read]
  · rintro rfl
    rw [decode, encode, decodeFrom_encodeChars]
    exact congrArg Except.ok String.ofList_toList

theorem isValidUTF8_iff : bytes.toByteArray.IsValidUTF8 ↔ ∃ text, encode text = bytes := by
  constructor
  · rintro ⟨cs, same⟩
    refine ⟨String.ofList cs, ?_⟩
    rw [encode, String.toList_ofList, List.toByteArray_inj.1 same]
    rfl
  · rintro ⟨text, rfl⟩
    exact ⟨text.toList, rfl⟩

end FlagBinding.Text.Utf8
