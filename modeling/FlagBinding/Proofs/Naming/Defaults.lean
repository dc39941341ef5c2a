import FlagBinding.Proofs.Naming.Dotted
import FlagBinding.Schema.Basic

/-!
# Default names

A field whose options give no name lends its own to its flag, in lower case and with dashes for
underscores.

## Main definitions

* `IsIdentifier`: names that start with a letter and go on with letters, digits and underscores.

## Main statements

* `toList_defaultFlagName_of_isIdentifier`: the characters of the default name of an identifier.
-/

namespace FlagBinding

namespace Text

/-- What holds of the first 128 characters one by one holds of all of them. -/
theorem forall_ascii {P : Char → Prop} (each : ∀ n : Fin 128, P (Char.ofNat n)) {c : Char}
    (ascii : c.toNat < 128) : P c := by
  have := each ⟨c.toNat, ascii⟩
  rwa [Char.ofNat_toNat] at this

theorem toNat_lt_of_isAlphanum {c : Char} (h : c.isAlphanum) : c.toNat < 128 := by
  delta Char.isAlphanum Char.isAlpha Char.isUpper Char.isLower Char.isDigit at h
  simp only [Bool.or_eq_true, Bool.and_eq_true, decide_eq_true_eq, ge_iff_le,
    UInt32.le_iff_toNat_le] at h
  have capitals : 'Z'.val.toNat = 90 := rfl
  have smalls : 'z'.val.toNat = 122 := rfl
  have digits : '9'.val.toNat = 57 := rfl
  rw [Char.toNat]
  omega

/-- The lower-case form of the first 128 characters does not depend on those around them. -/
theorem lowerFrom_of_ascii {before l : List Char} (ascii : ∀ c ∈ l, c.toNat < 128) :
    lowerFrom before l = l.map Char.toLower := by
  induction l generalizing before with
  | nil => rfl
  | cons c l ih =>
    rw [List.forall_mem_cons] at ascii
    have plain : c ≠ 'Σ' := fun h => absurd ascii.1 (by rw [h]; decide)
    rw [lowerFrom, ih ascii.2]
    simp [plain, lowerChar, ascii.1]

end Text

namespace Schema

open Text

/-- A name that starts with a letter and goes on with letters, digits and underscores. -/
def IsIdentifier (name : String) : Prop :=
  ∃ c rest, name.toList = c :: rest ∧ c.isAlpha ∧ ∀ d ∈ rest, d.isAlphanum ∨ d = '_'

def defaultChar (c : Char) : Char :=
  if c.toLower = '_' then '-' else c.toLower

theorem isAlphanum_defaultChar {c : Char} (h : c.isAlphanum) : (defaultChar c).isAlphanum := by
  have each : ∀ n : Fin 128, (Char.ofNat n).isAlphanum →
      (defaultChar (Char.ofNat n)).isAlphanum := by
    decide
  exact forall_ascii (P := fun c => c.isAlphanum → (defaultChar c).isAlphanum) each
    (toNat_lt_of_isAlphanum h) h

theorem toList_defaultFlagName {name : String} (ascii : ∀ c ∈ name.toList, c.toNat < 128) :
    (defaultFlagName name).toList = name.toList.map defaultChar := by
  rw [defaultFlagName, String.toList_map, toLower, String.toList_ofList, lowerFrom_of_ascii ascii,
    List.map_map]
  rfl

/-- The default name of an identifier starts with a letter or digit and goes on with such characters
and dashes. -/
theorem toList_defaultFlagName_of_isIdentifier {name : String} (identifier : IsIdentifier name) :
    ∃ c rest, (defaultFlagName name).toList = c :: rest ∧ c.isAlphanum ∧
      ∀ d ∈ rest, d.isAlphanum ∨ d = '-' := by
  obtain ⟨c, rest, hn, letter, word⟩ := identifier
  have first : c.isAlphanum := by simp [Char.isAlphanum, letter]
  have ascii : ∀ d ∈ name.toList, d.toNat < 128 := by
    rw [hn, List.forall_mem_cons]
    refine ⟨toNat_lt_of_isAlphanum first, fun d hd => ?_⟩
    rcases word d hd with h | rfl
    · exact toNat_lt_of_isAlphanum h
    · decide
  refine ⟨defaultChar c, rest.map defaultChar, ?_, isAlphanum_defaultChar first, ?_⟩
  · rw [toList_defaultFlagName ascii, hn, List.map_cons]
  · rw [List.forall_mem_map]
    intro d hd
    rcases word d hd with h | rfl
    · exact .inl (isAlphanum_defaultChar h)
    · exact .inr (by decide)

end Schema

end FlagBinding
