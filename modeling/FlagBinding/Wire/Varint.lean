import FlagBinding.Number.Power

/-!
# Varints

A number below `2 ^ 64` as groups of seven bits, the least first; every byte but the last has its
high bit set. A reader takes at most ten bytes, of which the tenth holds a single bit.

## Main definitions

* `Varint.encode`: the bytes of a number.
* `Varint.decode`: the number at the start of a byte string, and the bytes after it.

## Main statements

* `Varint.length_lt_of_decode`: a reader takes at least one byte.
-/

namespace FlagBinding.Wire

/-- A byte string. -/
abbrev Bytes := List UInt8

namespace Varint

def encode (n : Nat) : Bytes :=
  if n < 128 then [UInt8.ofNat n] else UInt8.ofNat (n % 128 + 128) :: encode (n / 128)
termination_by n
decreasing_by omega

/-- The number at the start of a byte string, if it ends within `limit` bytes. -/
def decodeWithin (limit : Nat) : Bytes → Option (Nat × Bytes)
  | [] => none
  | b :: rest =>
    match limit with
    | 0 => none
    | left + 1 =>
      if b < 128 then
        if left = 0 ∧ 1 < b then none else some (b.toNat, rest)
      else
        match decodeWithin left rest with
        | some (high, rest) => some (b.toNat - 128 + 128 * high, rest)
        | none => none

def decode (bytes : Bytes) : Option (Nat × Bytes) :=
  decodeWithin 10 bytes

theorem length_lt_of_decodeWithin {limit : Nat} {bytes rest : Bytes} {n : Nat}
    (h : decodeWithin limit bytes = some (n, rest)) : rest.length < bytes.length := by
  induction bytes generalizing limit n with
  | nil => simp [decodeWithin] at h
  | cons b tail ih =>
    cases limit with
    | zero => simp [decodeWithin] at h
    | succ left =>
      simp only [decodeWithin] at h
      split at h
      · split at h
        · cases h
        · obtain ⟨-, rfl⟩ := Prod.mk.inj (Option.some.inj h)
          simp
      · split at h
        · rename_i high rest' hd
          obtain ⟨-, rfl⟩ := Prod.mk.inj (Option.some.inj h)
          have := ih hd
          simp only [List.length_cons]
          omega
        · cases h

theorem length_lt_of_decode {bytes rest : Bytes} {n : Nat} (h : decode bytes = some (n, rest)) :
    rest.length < bytes.length :=
  length_lt_of_decodeWithin h

end Varint

end FlagBinding.Wire
