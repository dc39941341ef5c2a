import FlagBinding.Binding.Content
import FlagBinding.Emit.Plan

/-!
# Cells around fields

A cell is put around what a field holds, and what the cell holds later goes back into the field.

## Main definitions

* `wrap?`: the cell of a plan around the content of a field, if they fit.
* `unwrap`: what a cell holds, as the content of a field.
-/

namespace FlagBinding.Binding

open Number Schema Emit

/-- The format of elements with a codec. -/
def formatOf : CodecTerm → ElementFormat
  | .scalar .single => .single
  | .scalar .double => .double
  | .scalar .int32 => .int32
  | .scalar .int64 => .int64
  | .scalar .uint32 => .uint32
  | .scalar .uint64 => .uint64
  | .scalar .bool => .bool
  | .scalar .text => .text
  | .base64 => .base64
  | .hex => .hex
  | .enumeration type => .enumeration ⟨type.name, type.values.map fun v => (v.name, v.number)⟩
  | .duration => .duration
  | .timestamp formats => .timestamp formats

/-- The type of the elements of a format. -/
def itemTypeOf : ElementFormat → ItemType
  | .bool => .bool
  | .int32 => .int32
  | .int64 => .int64
  | .uint32 => .uint32
  | .uint64 => .uint64
  | .single => .single
  | .double => .double
  | .text => .text
  | .base64 => .bytes
  | .hex => .bytes
  | .duration => .duration
  | .enumeration _ => .int32
  | .timestamp _ => .timestamp

/-- The element that a value is, if it is of the format's type. -/
def element? : (f : ElementFormat) → Datum → Option f.Item
  | .bool, .bool b => some b
  | .int32, .int32 n => some n
  | .int64, .int64 n => some n
  | .uint32, .uint32 n => some n
  | .uint64, .uint64 n => some n
  | .single, .single x => some x
  | .double, .double x => some x
  | .text, .text s => some s
  | .base64, .bytes bs => some bs
  | .hex, .bytes bs => some bs
  | .duration, .duration d => some d
  | .enumeration _, .int32 n => some n
  | .timestamp _, .timestamp t => some t
  | _, _ => none

/-- An element as a value. -/
def datum : (f : ElementFormat) → f.Item → Datum
  | .bool, b => .bool b
  | .int32, n => .int32 n
  | .int64, n => .int64 n
  | .uint32, n => .uint32 n
  | .uint64, n => .uint64 n
  | .single, x => .single x
  | .double, x => .double x
  | .text, s => .text s
  | .base64, bs => .bytes bs
  | .hex, bs => .bytes bs
  | .duration, d => .duration d
  | .enumeration _, n => .int32 n
  | .timestamp _, t => .timestamp t

/-- The type of member values that a JSON map of a type has. -/
def jsonElement? : ItemType → Option JsonElement
  | .bool => some .bool
  | .int32 => some .int32
  | .int64 => some .int64
  | .uint32 => some .uint32
  | .uint64 => some .uint64
  | .single => some .single
  | .double => some .double
  | .text => some .text
  | .bytes => some .bytes
  | .json => some .value
  | _ => none

/-- The type of the values of a JSON map. -/
def jsonItemType : JsonElement → ItemType
  | .bool => .bool
  | .int32 => .int32
  | .int64 => .int64
  | .uint32 => .uint32
  | .uint64 => .uint64
  | .single => .single
  | .double => .double
  | .text => .text
  | .bytes => .bytes
  | .value => .json

/-- The member value that a value is, if it is of the type. -/
def jsonItem? : (e : JsonElement) → Datum → Option e.Item
  | .bool, .bool b => some b
  | .int32, .int32 n => some n
  | .int64, .int64 n => some n
  | .uint32, .uint32 n => some n
  | .uint64, .uint64 n => some n
  | .single, .single x => some x
  | .double, .double x => some x
  | .text, .text s => some s
  | .bytes, .bytes bs => some bs
  | .value, .json v => some v
  | _, _ => none

/-- A member value as a value. -/
def jsonDatum : (e : JsonElement) → e.Item → Datum
  | .bool, b => .bool b
  | .int32, n => .int32 n
  | .int64, n => .int64 n
  | .uint32, n => .uint32 n
  | .uint64, n => .uint64 n
  | .single, x => .single x
  | .double, x => .double x
  | .text, s => .text s
  | .bytes, bs => .bytes bs
  | .value, v => .json v

/-- A map with every value changed by `f`, if `f` gives them all. -/
def mapValues? {α β : Type} (f : α → Option β) (d : Dict α) : Option (Dict β) :=
  (d.entries.mapM fun (e : String × α) => (f e.2).map fun y => (e.1, y)).map Dict.ofList

/-- A map with every value changed by `f`. -/
def mapValues {α β : Type} (f : α → β) (d : Dict α) : Dict β :=
  .ofList (d.entries.map fun (k, x) => (k, f x))

/-- The cell of a plan around the content of a field. -/
def wrap? : CellTerm → Content → Option Cell
  | .plain codec, .plain d => (element? (formatOf codec) d).map (.plain (formatOf codec))
  | .optional codec, .optional none => some (.optional (formatOf codec) none)
  | .optional codec, .optional (some d) =>
    (element? (formatOf codec) d).map fun x => .optional (formatOf codec) (some x)
  | .repeated codec, .list ds =>
    (ds.mapM (element? (formatOf codec))).map fun xs => .repeated (formatOf codec) ⟨xs, false⟩
  | .stringMap codec, .map _ entries =>
    (mapValues? (element? (formatOf codec)) entries).map fun d =>
      .stringMap (formatOf codec) ⟨d, false⟩
  | .jsonMap, .map type entries => do
    let e ← jsonElement? type
    return .jsonMap e (← mapValues? (jsonItem? e) entries)
  | _, _ => none

/-- What a cell holds. -/
def unwrap : Cell → Content
  | .plain f x => .plain (datum f x)
  | .optional f x => .optional (x.map (datum f))
  | .repeated f l => .list (l.items.map (datum f))
  | .stringMap f m => .map (itemTypeOf f) (mapValues (datum f) m.entries)
  | .jsonMap e d => .map (jsonItemType e) (mapValues (jsonDatum e) d)

end FlagBinding.Binding
