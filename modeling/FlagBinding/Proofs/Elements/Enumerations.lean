import FlagBinding.Element.Enumeration
import FlagBinding.Proofs.Naming.Defaults
import Mathlib.Data.List.Nodup

/-!
# Numbers of an enumeration are read back

A number is written as the name of its first value. If the names differ from each other, the name
leads back to that value, and as an identifier it has no blanks that reading would take away. Two
values may have the same number.

## Main definitions

* `Enumeration.numbers`: the numbers that an enumeration declares.
* `Enumeration.IsTable`: an enumeration whose values have different identifiers as names.

## Main statements

* `Codec.enumeration_exact`: declared numbers through text.
* `Codec.mem_numbers_of_decode`: only declared numbers are read.
-/

namespace FlagBinding

def isNameChar (c : Char) : Bool :=
  c.isAlphanum || c == '_'

/-- An identifier: such characters, the first of them no digit. -/
def isValueName (name : String) : Bool :=
  name.toList.head?.any (!·.isDigit) && name.toList.all isNameChar

theorem isBlank_of_isNameChar {c : Char} (word : isNameChar c) : Text.isBlank c = false := by
  have ascii : c.toNat < 128 := by
    rw [isNameChar, Bool.or_eq_true, beq_iff_eq] at word
    rcases word with alphanum | rfl
    · exact Text.toNat_lt_of_isAlphanum alphanum
    · decide
  have each : ∀ n : Fin 128, isNameChar (Char.ofNat n) → Text.isBlank (Char.ofNat n) = false := by
    decide
  exact Text.forall_ascii (P := fun c => isNameChar c → Text.isBlank c = false) each ascii word

theorem trimBlanks_of_isValueName {name : String} (named : isValueName name) :
    Text.trimBlanks name = name := by
  rw [isValueName, Bool.and_eq_true, List.all_eq_true] at named
  have none : ∀ c ∈ name.toList, Text.isBlank c = false := fun c mem =>
    isBlank_of_isNameChar (named.2 c mem)
  rw [Text.trimBlanks, Text.trim_eq_self none, String.ofList_toList]

namespace Enumeration

variable {e : Enumeration} {name : String} {n : Int32}

def numbers (e : Enumeration) : List Int32 :=
  e.values.map (·.2)

/-- Values with different identifiers as names. -/
structure IsTable (e : Enumeration) : Prop where
  distinct : e.names.Nodup
  identifiers : ∀ name ∈ e.names, isValueName name

theorem number?_of_mem (distinct : e.names.Nodup) (mem : (name, n) ∈ e.values) :
    e.number? name = some n := by
  have exists_same : (e.values.find? (·.1 == name)).isSome :=
    List.find?_isSome.2 ⟨(name, n), mem, beq_self_eq_true name⟩
  obtain ⟨value, found⟩ := Option.isSome_iff_exists.1 exists_same
  have same : value.1 = name := by simpa using List.find?_some found
  obtain rfl : value = (name, n) :=
    List.inj_on_of_nodup_map distinct (List.mem_of_find?_eq_some found) mem same
  rw [number?, found]
  rfl

theorem exists_name?_of_mem (mem : n ∈ e.numbers) :
    ∃ name, e.name? n = some name ∧ (name, n) ∈ e.values := by
  obtain ⟨value, declared, rfl⟩ := List.mem_map.1 mem
  have exists_same : (e.values.find? (·.2 == value.2)).isSome :=
    List.find?_isSome.2 ⟨value, declared, beq_self_eq_true value.2⟩
  obtain ⟨⟨name, n⟩, found⟩ := Option.isSome_iff_exists.1 exists_same
  obtain rfl : n = value.2 := by simpa using List.find?_some found
  exact ⟨name, by rw [name?, found]; rfl, List.mem_of_find?_eq_some found⟩

theorem mem_numbers_of_find? {p : String × Int32 → Bool}
    (found : (e.values.find? p).map (·.2) = some n) : n ∈ e.numbers := by
  obtain ⟨value, first, rfl⟩ := Option.map_eq_some_iff.1 found
  exact List.mem_map_of_mem (List.mem_of_find?_eq_some first)

end Enumeration

namespace Codec

variable {e : Enumeration} {n : Int32} {input : String}

/-- A declared number is read from the name of its first value. -/
theorem enumeration_exact (table : e.IsTable) (declared : n ∈ e.numbers) :
    (enumeration e).Exact n := by
  obtain ⟨name, written, mem⟩ := Enumeration.exists_name?_of_mem declared
  have named := table.identifiers name (List.mem_map_of_mem mem)
  have read := Enumeration.number?_of_mem table.distinct mem
  simp only [Exact, enumeration, written, Option.getD_some, trimBlanks_of_isValueName named, read]
  rfl

/-- Only declared numbers are read, by name or as numbers. -/
theorem mem_numbers_of_decode (read : (enumeration e).decode input = .ok n) : n ∈ e.numbers := by
  dsimp only [enumeration] at read
  split at read
  case h_2 => cases read
  case h_1 m found =>
    cases read
    rw [Option.orElse_eq_orElse, Option.orElse_eq_or, Option.or_eq_some_iff] at found
    rcases found with byName | ⟨-, byNumber⟩
    · exact Enumeration.mem_numbers_of_find? byName
    · unfold Enumeration.declared? at byNumber
      split at byNumber
      · exact Enumeration.mem_numbers_of_find? byNumber
      · cases byNumber

end Codec

end FlagBinding
