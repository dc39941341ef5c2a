import FlagBinding.Element.Format
import FlagBinding.Proofs.Elements.Bytes
import FlagBinding.Proofs.Elements.Enumerations
import FlagBinding.Proofs.Elements.Integers

/-!
# Elements through text

Truth values, integers, texts, byte strings and the numbers of an enumeration are written in a form
from which the same element is read again. As these are all the elements that can be read, whatever
has been stored can be read once more.

## Main definitions

* `ElementFormat.Holds`: the elements that may be stored in a format.
* `ElementFormat.range?`: the bounds of a format of integers.
* `ElementFormat.Lossless`: the formats whose texts name their elements one by one.

## Main statements

* `ElementFormat.holds_of_decode`: what is read may be stored.
* `ElementFormat.lossless_exact`: elements through text and back, and integers beyond the bounds.
-/

namespace FlagBinding

namespace Codec

theorem bool_exact (b : Bool) : bool.Exact b := by
  cases b <;> rfl

theorem text_exact (s : String) : text.Exact s := rfl

end Codec

namespace ElementFormat

/-- The elements that may be stored: of an enumeration the declared numbers, else all. -/
def Holds : (f : ElementFormat) → f.Item → Prop
  | .enumeration e, n => n ∈ e.numbers
  | _, _ => True

/-- The least and the greatest number of a format of integers. -/
def range? : ElementFormat → Option (Int × Int)
  | .int32 => some (-2 ^ 31, 2 ^ 31 - 1)
  | .int64 => some (-2 ^ 63, 2 ^ 63 - 1)
  | .uint32 => some (0, 2 ^ 32 - 1)
  | .uint64 => some (0, 2 ^ 64 - 1)
  | _ => none

/-- The formats whose texts name their elements one by one: all but the ones of floating-point
numbers and of spans and points of time. An enumeration has to be a table of different
identifiers. -/
def Lossless : ElementFormat → Prop
  | .bool | .int32 | .int64 | .uint32 | .uint64 | .text | .base64 | .hex => True
  | .enumeration e => e.IsTable
  | .single | .double | .duration | .timestamp _ => False

variable {f : ElementFormat}

theorem holds_of_decode {input : String} {x : f.Item} (read : f.codec.decode input = .ok x) :
    f.Holds x := by
  cases f with
  | enumeration e => exact Codec.mem_numbers_of_decode read
  | _ => trivial

theorem exact_of_holds (lossless : f.Lossless) {x : f.Item} (holds : f.Holds x) :
    f.codec.Exact x := by
  cases f with
  | bool => exact Codec.bool_exact x
  | int32 => exact Codec.int32_exact x
  | int64 => exact Codec.int64_exact x
  | uint32 => exact Codec.uint32_exact x
  | uint64 => exact Codec.uint64_exact x
  | text => exact Codec.text_exact x
  | base64 => exact Codec.base64_exact x
  | hex => exact Codec.hex_exact x
  | enumeration e => exact Codec.enumeration_exact lossless holds
  | single | double | duration | timestamp => exact lossless.elim

/-- A text of an integer beyond the bounds of its format is refused. -/
theorem refuses_beyond_range {least greatest n : Int} {input : String}
    (range : f.range? = some (least, greatest)) (spells : Number.SpellsInteger n input.toList)
    (beyond : n < least ∨ greatest < n) :
    ∃ fault, f.codec.decode input = .error (.invalid f.codec.kind input (.integer fault)) := by
  cases f with
  | int32 | int64 | uint32 | uint64 =>
    cases range
    exact Codec.integer_refuses spells (by omega)
  | _ => cases range

/-- Every element that may be stored is read back from its own text. So is every element that is
read, whatever the text it is read from: it may be stored, which for an enumeration means that its
number is declared. A text of an integer beyond the bounds of the format gives no element. -/
theorem lossless_exact (lossless : f.Lossless) :
    (∀ x, f.Holds x → f.codec.Exact x) ∧
    (∀ input x, f.codec.decode input = .ok x → f.Holds x ∧ f.codec.Exact x) ∧
    (∀ least greatest, f.range? = some (least, greatest) → ∀ n (input : String),
      Number.SpellsInteger n input.toList → n < least ∨ greatest < n →
      ∃ fault, f.codec.decode input = .error (.invalid f.codec.kind input (.integer fault))) := by
  refine ⟨fun x => exact_of_holds lossless, fun input x read => ?_, ?_⟩
  · have holds := holds_of_decode read
    exact ⟨holds, exact_of_holds lossless holds⟩
  · intro least greatest range n input spells beyond
    exact refuses_beyond_range range spells beyond

def levels : Enumeration :=
  ⟨"Level", [("LEVEL_UNSPECIFIED", 0), ("LEVEL_HIGH", 1), ("LEVEL_TOP", 1), ("_LEVEL_OFF", -1)]⟩

/-- Two names for one number, and the first number beyond those of 32 bits. -/
theorem lossless_exact_levels :
    Lossless (.enumeration levels) ∧ (Codec.enumeration levels).decode "LEVEL_TOP" = .ok 1 ∧
    (∀ n ∈ levels.numbers, (Codec.enumeration levels).Exact n) ∧
    (∀ input n, (Codec.enumeration levels).decode input = .ok n →
      n ∈ levels.numbers ∧ (Codec.enumeration levels).Exact n) ∧
    Number.SpellsInteger 2147483648 "+2147483648".toList ∧
    ∃ fault, Codec.int32.decode "+2147483648" =
      .error (.invalid "int32" "+2147483648" (.integer fault)) := by
  have lossless : Lossless (.enumeration levels) := {
    distinct := by decide
    identifiers := List.all_eq_true.1 rfl }
  have digits : Number.IsDigits "2147483648".toList := ⟨by decide, List.all_eq_true.1 rfl⟩
  have spells : Number.SpellsInteger 2147483648 "+2147483648".toList := .plus digits
  obtain ⟨exact', stored, -⟩ := lossless_exact lossless
  obtain ⟨-, -, refuses⟩ := lossless_exact (f := .int32) trivial
  exact ⟨lossless, rfl, exact', stored, spells, refuses _ _ rfl _ _ spells (.inr (by decide))⟩

end ElementFormat

end FlagBinding
