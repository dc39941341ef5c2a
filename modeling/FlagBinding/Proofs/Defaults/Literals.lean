import FlagBinding.Proofs.Numbers.ReadBack
import FlagBinding.Target.Literal

/-!
# The values of literals

What a literal means in the target language: a number is read together with the name of its type,
and the rest are named constants. The literal that is emitted for a default means that default.

## Main definitions

* `literalValue?`: the value of a literal.
* `DefaultValue.IsCanonical`: a default whose number is one of its format.

## Main statements

* `literalValue?_bareLiteral`: the literal of a default means the default.
-/

namespace FlagBinding

open Number Schema

namespace Target

/-- The floating-point number of a numeral. A minus in front is the operator, and the rest a
decimal. -/
def floatNumeral? (format : FloatFormat) : List Char → Option (Floating format)
  | '-' :: cs => (readDecimal? cs).map fun d => .ofDecimal true d.digits d.exponent
  | cs => (readDecimal? cs).map fun d => .ofDecimal false d.digits d.exponent

/-- The integer of a numeral between two bounds. -/
def integerNumeral? (lowest greatest : Nat) (cs : List Char) : Option Int :=
  (readIntChars lowest greatest cs).toOption

/-- The number of a numeral before the name of a type. -/
def typedNumber? (numeral : List Char) : String → Option DefaultValue
  | "f32" => (floatNumeral? .single numeral).map .single
  | "f64" => (floatNumeral? .double numeral).map .double
  | "i32" => (integerNumeral? (2 ^ 31) (2 ^ 31 - 1) numeral).map fun n => .int32 (.ofInt n)
  | "i64" => (integerNumeral? (2 ^ 63) (2 ^ 63 - 1) numeral).map fun n => .int64 (.ofInt n)
  | "u32" => (integerNumeral? 0 (2 ^ 32 - 1) numeral).map fun n => .uint32 (.ofNat n.toNat)
  | "u64" => (integerNumeral? 0 (2 ^ 64 - 1) numeral).map fun n => .uint64 (.ofNat n.toNat)
  | _ => none

def constants : List (String × DefaultValue) :=
  [("true", .bool true), ("false", .bool false),
    ("::core::f32::NAN", .single .nan), ("::core::f32::INFINITY", .single (.infinite false)),
    ("-::core::f32::INFINITY", .single (.infinite true)),
    ("::core::f64::NAN", .double .nan), ("::core::f64::INFINITY", .double (.infinite false)),
    ("-::core::f64::INFINITY", .double (.infinite true))]

/-- The value of a literal. The names of the types of numbers have three letters. -/
def literalValue? (text : String) : Option DefaultValue :=
  let cs := text.toList
  let (numeral, typeName) := cs.splitAt (cs.length - 3)
  (typedNumber? numeral (String.ofList typeName)).or (constants.lookup text)

end Target

/-- A default whose number is in the form that its format has for it. -/
def Schema.DefaultValue.IsCanonical : DefaultValue → Prop
  | .single x => x.IsCanonical
  | .double x => x.IsCanonical
  | _ => True

instance : (v : DefaultValue) → Decidable v.IsCanonical
  | .single x => inferInstanceAs (Decidable x.IsCanonical)
  | .double x => inferInstanceAs (Decidable x.IsCanonical)
  | .int32 _ | .int64 _ | .uint32 _ | .uint64 _ | .bool _ => instDecidableTrue

namespace Target

theorem literalValue?_typed {word typeName : String} {v : DefaultValue}
    (length : typeName.toList.length = 3) (value : typedNumber? word.toList typeName = some v) :
    literalValue? (word ++ typeName) = some v := by
  have split : (word ++ typeName).toList.splitAt ((word ++ typeName).toList.length - 3) =
      (word.toList, typeName.toList) := by
    rw [String.toList_append, List.length_append, length, Nat.add_sub_cancel, List.splitAt_eq,
      List.take_left, List.drop_left]
  simp only [literalValue?, split, String.ofList_toList, value, Option.some_or]

theorem floatNumeral?_render {format : FloatFormat} (standard : format.IsStandard) (negative : Bool)
    {m : Nat} {q : Int} (canonical : Number.IsCanonical format m q) :
    floatNumeral? format
      (FloatStyle.literal.render (.finite negative m q : Floating format)).toList =
      some (.finite negative m q) := by
  obtain ⟨d, read, rounds⟩ := FloatStyle.literal.readDecimal?_magnitude standard canonical
  rw [FloatStyle.render, String.toList_ofList]
  cases negative with
  | true => simp [floatNumeral?, read, rounds]
  | false =>
    rw [if_neg Bool.false_ne_true, List.nil_append]
    unfold floatNumeral?
    split
    case h_1 shape => simp [shape, readDecimal?_sign] at read
    case h_2 => simp [read, rounds]

theorem integerNumeral?_decimal {lowest greatest : Nat} {n : Int} (least : -(lowest : Int) ≤ n)
    (most : n ≤ greatest) : integerNumeral? lowest greatest (decimal n).toList = some n := by
  have read : readIntChars lowest greatest (decimal n).toList = .ok n := readInt_decimal least most
  rw [integerNumeral?, read]
  rfl

/-- A finite number before the name of its type. -/
theorem literalValue?_finite {format : FloatFormat} (standard : format.IsStandard)
    {typeName : String} {make : Floating format → DefaultValue}
    (length : typeName.toList.length = 3)
    (typed : ∀ cs, typedNumber? cs typeName = (floatNumeral? format cs).map make) (negative : Bool)
    {m : Nat} {q : Int} (canonical : Number.IsCanonical format m q) :
    literalValue? (FloatStyle.literal.render (.finite negative m q : Floating format) ++ typeName) =
      some (make (.finite negative m q)) := by
  refine literalValue?_typed length ?_
  rw [typed, floatNumeral?_render standard negative canonical, Option.map_some]

/-- An integer before the name of its type. -/
theorem literalValue?_integer {lowest greatest : Nat} {typeName : String}
    {make : Int → DefaultValue} (length : typeName.toList.length = 3)
    (typed : ∀ cs, typedNumber? cs typeName = (integerNumeral? lowest greatest cs).map make)
    {n : Int} (least : -(lowest : Int) ≤ n) (most : n ≤ greatest) :
    literalValue? (decimal n ++ typeName) = some (make n) := by
  refine literalValue?_typed length ?_
  rw [typed, integerNumeral?_decimal least most, Option.map_some]

/-- The literal of a default means the default. -/
theorem literalValue?_bareLiteral {v : DefaultValue} (canonical : v.IsCanonical) :
    literalValue? (bareLiteral v) = some v := by
  cases v with
  | single x =>
    cases x with
    | nan => decide
    | infinite negative => cases negative <;> decide
    | finite negative m q =>
      have typeName : "f32".toList.length = 3 := by decide
      exact literalValue?_finite isStandard_single typeName (fun _ => rfl) negative canonical
  | double x =>
    cases x with
    | nan => decide
    | infinite negative => cases negative <;> decide
    | finite negative m q =>
      have typeName : "f64".toList.length = 3 := by decide
      exact literalValue?_finite isStandard_double typeName (fun _ => rfl) negative canonical
  | int32 n =>
    have value := literalValue?_integer (by decide) (fun _ => rfl : ∀ cs, typedNumber? cs "i32" = _)
      n.le_toInt (Int.le_sub_one_of_lt n.toInt_lt)
    exact value.trans (by simp)
  | int64 n =>
    have value := literalValue?_integer (by decide) (fun _ => rfl : ∀ cs, typedNumber? cs "i64" = _)
      n.le_toInt (Int.le_sub_one_of_lt n.toInt_lt)
    exact value.trans (by simp)
  | uint32 n =>
    have most : (n.toNat : Int) ≤ (2 ^ 32 - 1 : Nat) := by have := n.toNat_lt; omega
    have value := literalValue?_integer (by decide) (fun _ => rfl : ∀ cs, typedNumber? cs "u32" = _)
      (by omega) most
    exact value.trans (by simp)
  | uint64 n =>
    have most : (n.toNat : Int) ≤ (2 ^ 64 - 1 : Nat) := by have := n.toNat_lt; omega
    have value := literalValue?_integer (by decide) (fun _ => rfl : ∀ cs, typedNumber? cs "u64" = _)
      (by omega) most
    exact value.trans (by simp)
  | bool b => cases b <;> decide

end Target

end FlagBinding
