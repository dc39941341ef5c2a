import FlagBinding.Element.Bytes

/-!
# Byte strings are read back

In base64 three bytes are written as four symbols, and one or two bytes at the end with padding. In
hexadecimal each byte is two digits. Both use ASCII characters only, so a text has one byte for each
of its symbols, and the readers find the byte string in it.

## Main statements

* `Utf8.encode_ofList_of_ascii`: the bytes of a text in ASCII.
* `Base64.decode_encode`, `Hex.decode_encode`: the symbols of a byte string are read as the byte
  string.
* `Codec.base64_exact`, `Codec.hex_exact`: byte strings through text.
-/

namespace FlagBinding

namespace Text

/-- A text in ASCII has one byte for each character. -/
theorem Utf8.encode_ofList_of_ascii {cs : List Char} (ascii : ∀ c ∈ cs, c.toNat < 128) :
    encode (String.ofList cs) = cs.map fun c => UInt8.ofNat c.toNat := by
  rw [encode, String.toList_ofList, encodeChars]
  induction cs with
  | nil => rfl
  | cons c cs ih =>
    obtain ⟨small, ascii⟩ := List.forall_mem_cons.1 ascii
    have single : String.utf8EncodeChar c = [UInt8.ofNat c.toNat] :=
      if_pos (Nat.le_of_lt_succ small)
    rw [List.flatMap_cons, single, ih ascii, List.map_cons, List.singleton_append]

/-- Bytes below 128 are the bytes of a text. -/
theorem Utf8.encode_ofList_of_bytes {bytes : List UInt8} (ascii : ∀ b ∈ bytes, b.toNat < 128) :
    encode (String.ofList (bytes.map fun b => Char.ofNat b.toNat)) = bytes := by
  have number (b : UInt8) (mem : b ∈ bytes) : (Char.ofNat b.toNat).toNat = b.toNat :=
    (by decide : ∀ n : Fin 128, (Char.ofNat n).toNat = n.val) ⟨b.toNat, ascii b mem⟩
  rw [encode_ofList_of_ascii, List.map_map]
  · refine (List.map_congr_left fun b mem => ?_).trans (List.map_id bytes)
    rw [Function.comp_apply, number b mem, UInt8.ofNat_toNat]
    rfl
  · intro c written
    obtain ⟨b, mem, rfl⟩ := List.mem_map.1 written
    rw [number b mem]
    exact ascii b mem

/-! ## Base64 -/

namespace Base64

section Symbols

variable {v w x y z offset index : Nat} {e : Ending} {rest : List UInt8}

theorem value?_symbol (small : v < 64) : value? (symbol v) = some v :=
  (by decide : ∀ v : Fin 64, value? (symbol v) = some v.val) ⟨v, small⟩

theorem symbol_ne_pad (small : v < 64) : symbol v ≠ pad :=
  (by decide : ∀ v : Fin 64, symbol v ≠ pad) ⟨v, small⟩

theorem toNat_symbol_lt (small : v < 64) : (symbol v).toNat < 128 :=
  (by decide : ∀ v : Fin 64, (symbol v).toNat < 128) ⟨v, small⟩

theorem valueAt_symbol (small : v < 64) : valueAt offset (symbol v) = .ok v := by
  rw [valueAt, value?_symbol small]

/-- Four numbers below 64 and three bytes that make up the same number. -/
theorem bytesOf_eq {a b c : UInt8}
    (same : ((w * 64 + x) * 64 + y) * 64 + z = (a.toNat * 256 + b.toNat) * 256 + c.toNat) :
    bytesOf w x y z = [a, b, c] := by
  have := a.toNat_lt
  have := b.toNat_lt
  have := c.toNat_lt
  rw [bytesOf, same, (UInt8.ofNat_eq_iff_mod_eq_toNat _ a).2 (by omega),
    (UInt8.ofNat_eq_iff_mod_eq_toNat _ b).2 (by omega),
    (UInt8.ofNat_eq_iff_mod_eq_toNat _ c).2 (by omega)]

theorem readEnding_symbol (small : v < 64) (unpadded : e.pads = 0) :
    readEnding offset index e (symbol v :: rest) =
      readEnding offset (index + 1)
        { e with values := e.values ++ [v], lastSymbol := symbol v } rest := by
  rw [readEnding, if_neg (symbol_ne_pad small), if_neg (by omega), valueAt_symbol small]
  rfl

theorem readEnding_pad (late : 2 ≤ index) : readEnding offset index e (pad :: rest) =
    readEnding offset (index + 1) { e with pads := e.pads + 1 } rest := by
  rw [readEnding, if_pos rfl, if_neg (by omega)]

/-- A last group without padding holds three bytes. -/
theorem decodeEnding_four (hw : w < 64) (hx : x < 64) (hy : y < 64) (hz : z < 64) :
    decodeEnding offset [symbol w, symbol x, symbol y, symbol z] = .ok (bytesOf w x y z) := by
  have read : readEnding offset 0 ⟨[], 0, 0⟩ [symbol w, symbol x, symbol y, symbol z] =
      .ok ⟨[w, x, y, z], symbol z, 0⟩ := by
    rw [readEnding_symbol hw rfl, readEnding_symbol hx rfl, readEnding_symbol hy rfl,
      readEnding_symbol hz rfl]
    rfl
  simp [decodeEnding, read, bind, Except.bind]

/-- A last group with one padding mark holds two bytes; the bits beyond them have to be zero. -/
theorem decodeEnding_three (hw : w < 64) (hx : x < 64) (hy : y < 64) (clear : y % 4 = 0) :
    decodeEnding offset [symbol w, symbol x, symbol y, pad] = .ok ((bytesOf w x y 0).take 2) := by
  have read : readEnding offset 0 ⟨[], 0, 0⟩ [symbol w, symbol x, symbol y, pad] =
      .ok ⟨[w, x, y], symbol y, 1⟩ := by
    rw [readEnding_symbol hw rfl, readEnding_symbol hx rfl, readEnding_symbol hy rfl,
      readEnding_pad (by omega)]
    rfl
  simp [decodeEnding, read, bind, Except.bind, clear]

/-- A last group with two padding marks holds one byte. -/
theorem decodeEnding_two (hw : w < 64) (hx : x < 64) (clear : x % 16 = 0) :
    decodeEnding offset [symbol w, symbol x, pad, pad] = .ok ((bytesOf w x 0 0).take 1) := by
  have read : readEnding offset 0 ⟨[], 0, 0⟩ [symbol w, symbol x, pad, pad] =
      .ok ⟨[w, x], symbol x, 2⟩ := by
    rw [readEnding_symbol hw rfl, readEnding_symbol hx rfl, readEnding_pad (by omega),
      readEnding_pad (by omega)]
    rfl
  simp [decodeEnding, read, bind, Except.bind, clear]

/-- A group of four symbols that is not the last. -/
theorem decodeFrom_group (hw : w < 64) (hx : x < 64) (hy : y < 64) (hz : z < 64) (next : UInt8) :
    decodeFrom offset (symbol w :: symbol x :: symbol y :: symbol z :: next :: rest) =
      (bytesOf w x y z ++ ·) <$> decodeFrom (offset + 4) (next :: rest) := by
  rw [decodeFrom, valueAt_symbol hw, valueAt_symbol hx, valueAt_symbol hy, valueAt_symbol hz]
  cases decodeFrom (offset + 4) (next :: rest) <;> rfl

end Symbols

theorem length_encode (bytes : List UInt8) : (encode bytes).length % 4 = 0 := by
  fun_induction encode bytes with
  | case1 a b c rest n ih =>
    simp only [List.length_cons]
    omega
  | _ => simp

theorem ascii_encode (bytes : List UInt8) : ∀ b ∈ encode bytes, b.toNat < 128 := by
  fun_induction encode bytes with
  | case1 a b c rest n ih =>
    have := a.toNat_lt
    have := b.toNat_lt
    have := c.toNat_lt
    simp only [List.forall_mem_cons]
    exact ⟨toNat_symbol_lt (by omega), toNat_symbol_lt (by omega), toNat_symbol_lt (by omega),
      toNat_symbol_lt (by omega), ih⟩
  | case2 a b n =>
    have := a.toNat_lt
    have := b.toNat_lt
    simp only [List.forall_mem_cons]
    exact ⟨toNat_symbol_lt (by omega), toNat_symbol_lt (by omega), toNat_symbol_lt (by omega),
      by decide, nofun⟩
  | case3 a =>
    have := a.toNat_lt
    simp only [List.forall_mem_cons]
    exact ⟨toNat_symbol_lt (by omega), toNat_symbol_lt (by omega), by decide, by decide, nofun⟩
  | case4 => nofun

/-- The groups of a byte string are read one by one, the last of them with its padding. -/
theorem decodeFrom_encode (bytes : List UInt8) (offset : Nat) :
    decodeFrom offset (encode bytes) = .ok bytes := by
  fun_induction encode bytes generalizing offset with
  | case1 a b c rest n ih =>
    have ha := a.toNat_lt
    have hb := b.toNat_lt
    have hc := c.toNat_lt
    have group : bytesOf (n / 262144) (n / 4096 % 64) (n / 64 % 64) (n % 64) = [a, b, c] :=
      bytesOf_eq (by omega)
    cases written : encode rest with
    | nil =>
      -- what is written as nothing is nothing
      obtain rfl : rest = [] := by
        have read := ih 0
        rw [written] at read
        exact (Except.ok.inj read).symm
      exact (decodeEnding_four (by omega) (by omega) (by omega) (by omega)).trans (by rw [group])
    | cons next more =>
      rw [decodeFrom_group (by omega) (by omega) (by omega) (by omega), ← written, ih, group]
      rfl
  | case2 a b n =>
    have ha := a.toNat_lt
    have hb := b.toNat_lt
    have group : bytesOf (n / 1024) (n / 16 % 64) (n % 16 * 4) 0 = [a, b, 0] :=
      bytesOf_eq (by simp only [UInt8.toNat_zero]; omega)
    exact (decodeEnding_three (by omega) (by omega) (by omega) (by omega)).trans
      (by rw [group]; rfl)
  | case3 a =>
    have ha := a.toNat_lt
    have group : bytesOf (a.toNat / 4) (a.toNat % 4 * 16) 0 0 = [a, 0, 0] :=
      bytesOf_eq (by simp only [UInt8.toNat_zero]; omega)
    exact (decodeEnding_two (by omega) (by omega) (by omega)).trans (by rw [group]; rfl)
  | case4 => rfl

/-- The symbols of a byte string are read as the byte string. -/
theorem decode_encode (bytes : List UInt8) : decode (encode bytes) = .ok bytes := by
  have length := length_encode bytes
  have read := decodeFrom_encode bytes 0
  unfold decode
  split
  case h_1 => rw [if_neg (by omega), read]
  case h_2 last =>
    rw [List.getLast?_eq_none_iff] at last
    rwa [last] at read

end Base64

/-! ## Hexadecimal -/

namespace Hex

theorem value?_digit {v : Nat} (small : v < 16) : value? (UInt8.ofNat (digit v).toNat) = some v :=
  (by decide : ∀ v : Fin 16, value? (UInt8.ofNat (digit v).toNat) = some v.val) ⟨v, small⟩

theorem toNat_digit_lt {v : Nat} (small : v < 16) : (digit v).toNat < 128 :=
  (by decide : ∀ v : Fin 16, (digit v).toNat < 128) ⟨v, small⟩

theorem ascii_encode (bytes : List UInt8) : ∀ c ∈ encode bytes, c.toNat < 128 := by
  intro c mem
  obtain ⟨b, -, mem⟩ := List.mem_flatMap.1 mem
  have := b.toNat_lt
  obtain rfl | rfl : c = digit (b.toNat / 16) ∨ c = digit (b.toNat % 16) := by simpa using mem
  all_goals exact toNat_digit_lt (by omega)

theorem length_encode (bytes : List UInt8) : (encode bytes).length % 2 = 0 := by
  induction bytes with
  | nil => rfl
  | cons b bytes ih =>
    have pair : (encode (b :: bytes)).length = (encode bytes).length + 2 := rfl
    omega

theorem decodeFrom_encode (bytes : List UInt8) (position : Nat) :
    decodeFrom position ((encode bytes).map fun c => UInt8.ofNat c.toNat) = .ok bytes := by
  induction bytes generalizing position with
  | nil => rfl
  | cons b bytes ih =>
    have small := b.toNat_lt
    have whole : UInt8.ofNat (b.toNat / 16 * 16 + b.toNat % 16) = b :=
      (UInt8.ofNat_eq_iff_mod_eq_toNat _ b).2 (by omega)
    have pair : encode (b :: bytes) =
        digit (b.toNat / 16) :: digit (b.toNat % 16) :: encode bytes := rfl
    rw [pair, List.map_cons, List.map_cons, decodeFrom, valueAt, valueAt, value?_digit (by omega),
      value?_digit (by omega), ih]
    exact congrArg (fun b => Except.ok (b :: bytes)) whole

/-- The digits of a byte string are read as the byte string. -/
theorem decode_encode (bytes : List UInt8) :
    decode ((encode bytes).map fun c => UInt8.ofNat c.toNat) = .ok bytes := by
  have length := length_encode bytes
  rw [decode, List.length_map, if_neg (by omega), decodeFrom_encode]

end Hex

end Text

/-! ## Codecs -/

namespace Codec

open Text

theorem base64_exact (bytes : List UInt8) : base64.Exact bytes := by
  have symbols := Utf8.encode_ofList_of_bytes (Base64.ascii_encode bytes)
  simp only [Exact, base64, symbols, Base64.decode_encode]

theorem hex_exact (bytes : List UInt8) : hex.Exact bytes := by
  have symbols := Utf8.encode_ofList_of_ascii (Hex.ascii_encode bytes)
  simp only [Exact, hex, symbols, Hex.decode_encode]

end Codec

end FlagBinding
