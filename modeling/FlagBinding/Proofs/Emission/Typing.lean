import FlagBinding.Emit.Code
import FlagBinding.Proofs.Emission.Cells
import FlagBinding.Proofs.Emission.Numerals

/-!
# The types of emitted code

Rules for the types of the expressions that bindings are made of. They know what the fields of the
message hold, what the library offers and which forms literals have, but not how code is emitted.

## Main definitions

* `CodeType`, `HasType`: the types, and the rules.
* `codecItem?`, `adapterTarget?`: the codecs and adapters of the library.

## Main statements

* `codec_hasType`, `cell_hasType`: the code of codecs and cells.
* `bareLiteral_hasType`: the literals of declared defaults.
-/

namespace FlagBinding.Emit

open Number Schema Target Binding

/-- The types of expressions in a binding. -/
inductive CodeType
  | storage (type : StorageType)
  | reference (type : StorageType)
  | text
  /-- A text and a number. -/
  | entry
  | slice (element : CodeType)
  | codec (item : ItemType)
  /-- What may be registered: an adapter around a target. -/
  | adapter (target : StorageType)

/-- What the codecs of the library that need no arguments read. -/
def codecItem? : String → Option ItemType
  | "Bool" => some .bool
  | "Int32" => some .int32
  | "Int64" => some .int64
  | "UInt32" => some .uint32
  | "UInt64" => some .uint64
  | "Float" => some .single
  | "Double" => some .double
  | "Str" => some .text
  | "Base64" => some .bytes
  | "Hex" => some .bytes
  | "Duration" => some .duration
  | _ => none

/-- What the adapters of the library that take a codec are put around, by the items of the codec. -/
def adapterTarget? : String → Option (ItemType → StorageType)
  | "Plain" => some .plain
  | "Optional" => some .optional
  | "Repeated" => some .list
  | "StringMap" => some .map
  | _ => none

/-- The least and the greatest number that an integer type holds. -/
def bounds? : Carrier → Option (Int × Int)
  | .int32 => some (-2 ^ 31, 2 ^ 31 - 1)
  | .int64 => some (-2 ^ 63, 2 ^ 63 - 1)
  | .uint32 => some (0, 2 ^ 32 - 1)
  | .uint64 => some (0, 2 ^ 64 - 1)
  | _ => none

def isFloating : Carrier → Bool
  | .single => true
  | .double => true
  | _ => false

/-- An expression has a type in the implementations for the message `m`, where `runtime` is the path
of the library. -/
inductive HasType (runtime : String) (m : Message) : Expr → CodeType → Prop
  | member {f : Field} (declared : f ∈ m.fields) :
      HasType runtime m (.field (.path "self") (fieldName f.name)) (.storage (storageOf f))
  | borrow {e : Expr} {type : StorageType} :
      HasType runtime m e (.storage type) → HasType runtime m (.borrow true e) (.reference type)
  | text (s : String) : HasType runtime m (.literal (textLiteral s)) .text
  | pair {a b : Expr} : HasType runtime m a .text →
      HasType runtime m b (.storage (.plain .int32)) → HasType runtime m (.tuple [a, b]) .entry
  | slice {es : List Expr} {type : CodeType} : (∀ e ∈ es, HasType runtime m e type) →
      HasType runtime m (.borrow false (.array es)) (.slice type)
  | integer {carrier : Carrier} {n least greatest : Int}
      (bounds : bounds? carrier = some (least, greatest)) (low : least ≤ n) (high : n ≤ greatest) :
      HasType runtime m (.literal (decimal n ++ carrier.typeName))
        (.storage (.plain (.ofCarrier carrier)))
  | floating {carrier : Carrier} {numeral : String} (isFloat : isFloating carrier)
      (form : IsNumeral numeral) :
      HasType runtime m (.literal (numeral ++ carrier.typeName))
        (.storage (.plain (.ofCarrier carrier)))
  | constant {carrier : Carrier} {name : String} (isFloat : isFloating carrier)
      (known : name ∈ ["::NAN", "::INFINITY"]) {sign : String} (signed : sign ∈ ["", "-"]) :
      HasType runtime m (.literal (sign ++ "::core::" ++ carrier.typeName ++ name))
        (.storage (.plain (.ofCarrier carrier)))
  | truth {word : String} (known : word ∈ ["true", "false"]) :
      HasType runtime m (.literal word) (.storage (.plain .bool))
  | some {e : Expr} {item : ItemType} : HasType runtime m e (.storage (.plain item)) →
      HasType runtime m (.call (.path "::core::option::Option::Some") [e])
        (.storage (.optional item))
  | codec {name : String} {item : ItemType} (known : codecItem? name = some item) :
      HasType runtime m (inRuntime runtime ("codec::" ++ name)) (.codec item)
  | enumeration {name values : Expr} : HasType runtime m name .text →
      HasType runtime m values (.slice .entry) →
      HasType runtime m (.call (inRuntime runtime "codec::Enum::new") [name, values])
        (.codec .int32)
  | timestamp {formats : Expr} : HasType runtime m formats (.slice .text) →
      HasType runtime m (.call (inRuntime runtime "codec::Timestamp::new") [formats])
        (.codec .timestamp)
  | adapter {name : String} {around : ItemType → StorageType} {target codec : Expr}
      {item : ItemType} (known : adapterTarget? name = some around) :
      HasType runtime m target (.reference (around item)) →
      HasType runtime m codec (.codec item) →
      HasType runtime m (.call (inRuntime runtime (name ++ "::new")) [target, codec])
        (.adapter (around item))
  | jsonMap {target : Expr} {item : ItemType} (readable : (jsonElement? item).isSome) :
      HasType runtime m target (.reference (.map item)) →
      HasType runtime m (.call (inRuntime runtime "JsonMap::new") [target]) (.adapter (.map item))

variable {runtime : String} {m : Message}

/-! ## Codecs and cells -/

theorem texts_hasType (texts : List String) :
    HasType runtime m (.borrow false (.array (texts.map text))) (.slice .text) := by
  refine .slice fun e mem => ?_
  obtain ⟨s, -, rfl⟩ := List.mem_map.1 mem
  exact .text s

theorem int32Literal_hasType (n : Int32) :
    HasType runtime m (.literal (decimal n.toInt ++ "i32")) (.storage (.plain .int32)) :=
  .integer (rfl : bounds? .int32 = some (-2 ^ 31, 2 ^ 31 - 1)) n.le_toInt
    (Int.le_sub_one_of_lt n.toInt_lt)

theorem entries_hasType (values : List EnumValue) :
    HasType runtime m (.borrow false (.array (values.map enumEntry))) (.slice .entry) := by
  refine .slice fun e mem => ?_
  obtain ⟨v, -, rfl⟩ := List.mem_map.1 mem
  exact .pair (.text v.name) (int32Literal_hasType v.number)

theorem namedCodec_hasType {path name : String} {item : ItemType}
    (known : codecItem? name = some item) (split : "codec::" ++ name = path) :
    HasType runtime m (inRuntime runtime path) (.codec item) :=
  split ▸ .codec known

/-- The code of a codec is a codec for the items that it reads. -/
theorem codec_hasType (codec : CodecTerm) :
    HasType runtime m (codec.code runtime) (.codec (itemOf codec)) := by
  cases codec with
  | scalar carrier => cases carrier <;> exact .codec rfl
  | base64 => exact namedCodec_hasType (rfl : codecItem? "Base64" = some .bytes) (by decide)
  | hex => exact namedCodec_hasType (rfl : codecItem? "Hex" = some .bytes) (by decide)
  | enumeration type => exact .enumeration (.text type.name) (entries_hasType type.values)
  | duration => exact namedCodec_hasType (rfl : codecItem? "Duration" = some .duration) (by decide)
  | timestamp formats => exact .timestamp (texts_hasType formats)

/-- The code of a cell that fits a field is an adapter around what the field holds. -/
theorem cell_hasType {f : Field} (declared : f ∈ m.fields) {cell : CellTerm}
    (fits : Fits cell (storageOf f)) :
    HasType runtime m (cell.code runtime f.name) (.adapter (storageOf f)) := by
  have target : HasType runtime m (.borrow true (selfField f.name)) (.reference (storageOf f)) :=
    .borrow (.member declared)
  generalize storageOf f = type at fits target
  cases fits with
  | plain codec | optional codec | repeated codec | stringMap codec =>
    exact .adapter rfl target (codec_hasType codec)
  | jsonMap readable => exact .jsonMap readable target

/-! ## Defaults -/

theorem floatLiteral_hasType {carrier : Carrier} (isFloat : isFloating carrier)
    {format : FloatFormat} (x : Floating format) :
    HasType runtime m (.literal (floatLiteral carrier.typeName x))
      (.storage (.plain (.ofCarrier carrier))) := by
  cases x with
  | nan =>
    have unsigned : HasType runtime m (.literal ("" ++ "::core::" ++ carrier.typeName ++ "::NAN"))
        (.storage (.plain (.ofCarrier carrier))) := .constant isFloat (by simp) (by simp)
    simpa [floatLiteral] using unsigned
  | infinite negative =>
    have sign : (if negative then "-" else "") ∈ ["", "-"] := by cases negative <;> simp
    exact .constant isFloat (by simp) sign
  | finite negative significand exponent =>
    exact .floating isFloat (FloatStyle.isNumeral_render rfl negative significand exponent)

theorem integerLiteral_hasType {carrier : Carrier} {n least greatest : Int} {word : String}
    (bounds : bounds? carrier = some (least, greatest)) (low : least ≤ n) (high : n < greatest + 1)
    (text : decimal n = word) : HasType runtime m (.literal (word ++ carrier.typeName))
      (.storage (.plain (.ofCarrier carrier))) :=
  text ▸ .integer bounds low (Int.lt_add_one_iff.1 high)

/-- The literal of a default is of the type that the default has. -/
theorem bareLiteral_hasType (value : DefaultValue) :
    HasType runtime m (.literal (bareLiteral value))
      (.storage (.plain (.ofCarrier value.carrier))) := by
  cases value with
  | single x => exact floatLiteral_hasType rfl x
  | double x => exact floatLiteral_hasType rfl x
  | int32 n => exact integerLiteral_hasType rfl n.le_toInt n.toInt_lt rfl
  | int64 n => exact integerLiteral_hasType rfl n.le_toInt n.toInt_lt rfl
  | uint32 n =>
    have high : (n.toNat : Int) < 2 ^ 32 - 1 + 1 := by have := n.toNat_lt; omega
    exact integerLiteral_hasType rfl (Int.natCast_nonneg _) high rfl
  | uint64 n =>
    have high : (n.toNat : Int) < 2 ^ 64 - 1 + 1 := by have := n.toNat_lt; omega
    exact integerLiteral_hasType rfl (Int.natCast_nonneg _) high rfl
  | bool b => cases b <;> exact .truth (by decide)

end FlagBinding.Emit
