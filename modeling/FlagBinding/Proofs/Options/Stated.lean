import FlagBinding.Proofs.Options.Declared
import Mathlib.Data.Set.List

/-!
# Every record of flag options is stated by someone

A record of a declared message type is assembled from what is set in its fields, and each of these
is set to a value of one form or to nothing. So the shared fields make up a shared part, the fields
of a variant's type a variant, and a record of flag options is what an author states.

## Main statements

* `exists_shared_append`: the shared part in a record of a variant's type.
* `exists_member`: what is set among the variants for elements is a variant.
* `exists_options_of_hasType`: every record of flag options is stated.
-/

namespace FlagBinding.Options

open Schema (ScalarKind DefaultValue Carrier EnumType)

/-! ## Single fields -/

variable {nested : String → Record → Prop} {depth : Nat}

variable {f : FieldShape} {o : Option Value} {v : Value}

/-- A field is set to a value of some form, or it holds nothing, which has this form too. -/
theorem exists_piece {α : Type} {make : α → Value} (zero : α)
    (void : f.isUnsetBy (make zero) = true) (made : ∀ w ∈ o, ∃ a, w = make a)
    : ∃ a, piece f o = piece f (some (make a)) := by
  cases o with
  | none => exact ⟨zero, by simp [piece, FieldShape.kept, void]⟩
  | some w =>
    obtain ⟨a, rfl⟩ := made w rfl
    exact ⟨a, rfl⟩

theorem exists_text (holds : Kind.Holds nested (.scalar .string) v) : ∃ s, v = .text s := by
  cases holds with
  | plain carrier => rename_i d; cases d <;> contradiction
  | text s => exact ⟨s, rfl⟩

theorem exists_plain {kind : ScalarKind} (number : kind ≠ .string)
    (holds : Kind.Holds nested (.scalar kind) v) :
    ∃ d : DefaultValue, v = .plain d ∧ d.carrier = kind.carrier := by
  cases holds with
  | plain carrier => exact ⟨_, rfl, carrier⟩
  | text s => contradiction

theorem exists_bool (holds : Kind.Holds nested (.scalar .bool) v) : ∃ b, v = .plain (.bool b) := by
  obtain ⟨d, rfl, carrier⟩ := exists_plain (by decide) holds
  cases d with
  | bool b => exact ⟨b, rfl⟩
  | _ => contradiction

theorem exists_int32 (holds : Kind.Holds nested (.scalar .int32) v) :
    ∃ n, v = .plain (.int32 n) := by
  obtain ⟨d, rfl, carrier⟩ := exists_plain (by decide) holds
  cases d with
  | int32 n => exact ⟨n, rfl⟩
  | _ => contradiction

theorem exists_enumeration (holds : Kind.Holds nested .enumeration v) :
    ∃ n, v = .enumeration n := by
  cases holds with
  | enumeration n => exact ⟨n, rfl⟩

theorem exists_texts {number : Nat} {name : String}
    (fits : (shapeOf (repeated number name (.scalar .string))).Fits nested v) :
    ∃ texts : List String, v = .list (texts.map .text) := by
  obtain ⟨items, rfl, all⟩ := fits
  have made : items ∈ Set.range (List.map Value.text) := by
    rw [Set.range_list_map]
    intro x mem
    obtain ⟨s, rfl⟩ := exists_text (all x mem)
    exact ⟨s, rfl⟩
  obtain ⟨texts, rfl⟩ := made
  exact ⟨texts, rfl⟩

theorem exists_piece_text {number : Nat} {name : String}
    (fits : ∀ w ∈ o, (shapeOf (implicit number name (.scalar .string))).Fits nested w) :
    ∃ s, piece (shapeOf (implicit number name (.scalar .string))) o =
      piece (shapeOf (implicit number name (.scalar .string))) (some (.text s)) :=
  exists_piece "" rfl fun w set => exists_text (fits w set)

theorem exists_piece_enumeration {number : Nat} {name : String} {type : EnumType}
    (fits : ∀ w ∈ o, (shapeOf (implicit number name (.enumeration type))).Fits nested w) :
    ∃ n, piece (shapeOf (implicit number name (.enumeration type))) o =
      piece (shapeOf (implicit number name (.enumeration type))) (some (.enumeration n)) :=
  exists_piece 0 rfl fun w set => exists_enumeration (fits w set)

theorem exists_piece_texts {number : Nat} {name : String}
    (fits : ∀ w ∈ o, (shapeOf (repeated number name (.scalar .string))).Fits nested w) :
    ∃ texts : List String, piece (shapeOf (repeated number name (.scalar .string))) o =
      piece (shapeOf (repeated number name (.scalar .string))) (some (.list (texts.map .text))) :=
  exists_piece [] rfl fun w set => exists_texts (fits w set)

theorem exists_piece_bool {number : Nat} {name : String}
    (fits : ∀ w ∈ o, (shapeOf (implicit number name (.scalar .bool))).Fits nested w) :
    ∃ b, piece (shapeOf (implicit number name (.scalar .bool))) o =
      piece (shapeOf (implicit number name (.scalar .bool))) (some (.plain (.bool b))) :=
  exists_piece false rfl fun w set => exists_bool (fits w set)

/-! ## Variants -/

/-- The shared fields of a record hold a shared part. -/
theorem exists_shared (g : FieldShape → Option Value)
    (fits : ∀ f ∈ sharedFields, ∀ w ∈ g (shapeOf f), (shapeOf f).Fits nested w) :
    ∃ s : Shared, assemble (sharedFields.map shapeOf) ((sharedFields.map shapeOf).map g) =
      assemble (sharedFields.map shapeOf) s.values := by
  simp only [sharedFields, List.forall_mem_cons] at fits
  obtain ⟨h₁, h₂, h₃, h₄, h₅, h₆, h₇, -⟩ := fits
  obtain ⟨name, name_eq⟩ := exists_piece_text h₁
  obtain ⟨short, short_eq⟩ := exists_piece_text h₂
  obtain ⟨usage, usage_eq⟩ := exists_piece_text h₃
  obtain ⟨hidden, hidden_eq⟩ := exists_piece_bool h₄
  obtain ⟨deprecated, deprecated_eq⟩ := exists_piece_bool h₅
  obtain ⟨advice, advice_eq⟩ := exists_piece_text h₆
  obtain ⟨disabled, disabled_eq⟩ := exists_piece_bool h₇
  refine ⟨⟨name, short, usage, hidden, deprecated, advice, disabled⟩, ?_⟩
  simp only [sharedFields, Shared.values, List.map_cons, List.map_nil, assemble, name_eq, short_eq,
    usage_eq, hidden_eq, deprecated_eq, advice_eq, disabled_eq]

variable {r : Record} {type : String}

/-- A record of a variant's type holds a shared part and what is set in the variant's own fields. -/
theorem exists_shared_append (fields : List (Linked.Field Unit)) (listed : type ∈ variantTypes)
    (fields_eq : declared type = (sharedFields ++ fields).map shapeOf)
    (typed : HasType declared (depth + 1) type r) :
    ∃ s : Shared, r = assemble (sharedFields.map shapeOf) s.values ++
        assemble (fields.map shapeOf) ((fields.map shapeOf).map fun f => r.at? f.slot.number) ∧
      ∀ f ∈ fields, ∀ w ∈ r.at? f.number, (shapeOf f).Fits (HasType declared depth) w := by
  have compatible := compatible_declared type listed
  have fits : ∀ f ∈ sharedFields ++ fields, ∀ w ∈ r.at? f.number,
      (shapeOf f).Fits (HasType declared depth) w := fun f mem =>
    typed.fits_of_at? compatible (fields_eq ▸ List.mem_map_of_mem mem)
  obtain ⟨ours, own⟩ := List.forall_mem_append.1 fits
  obtain ⟨s, shared⟩ := exists_shared (fun f => r.at? f.slot.number) ours
  have whole := typed.eq_assemble compatible
  have same : (sharedFields.map shapeOf).length =
      ((sharedFields.map shapeOf).map fun f => r.at? f.slot.number).length := by simp
  rw [fields_eq, List.map_append, List.map_append, assemble_append same, shared] at whole
  exact ⟨s, whole, own⟩

/-- The same, if the variant has one field of its own. -/
theorem exists_shared_piece (field : Linked.Field Unit) (listed : type ∈ variantTypes)
    (fields_eq : declared type = (sharedFields ++ [field]).map shapeOf)
    (typed : HasType declared (depth + 1) type r) :
    ∃ (s : Shared) (o : Option Value),
      r = assemble (sharedFields.map shapeOf) s.values ++ piece (shapeOf field) o ∧
        ∀ w ∈ o, (shapeOf field).Fits (HasType declared depth) w := by
  obtain ⟨s, whole, own⟩ := exists_shared_append [field] listed fields_eq typed
  refine ⟨s, r.at? field.number, ?_, List.forall_mem_singleton.1 own⟩
  rwa [List.map_singleton, List.map_singleton, assemble_singleton] at whole

theorem assemble_shared (s : Shared) (fields : List (Linked.Field Unit)) (o : Option Value) :
    assemble ((sharedFields ++ fields).map shapeOf) (s.values ++ [o]) =
      assemble (sharedFields.map shapeOf) s.values ++ assemble (fields.map shapeOf) [o] := by
  have same : (sharedFields.map shapeOf).length = s.values.length := rfl
  rw [List.map_append, assemble_append same]

theorem Variant.record_eq (v : Variant) : v.record =
    assemble (sharedFields.map shapeOf) v.shared.values ++
      assemble (v.ownFields.map shapeOf) [v.own] := by
  rw [record, declared_type, assemble_shared]

theorem Variant.record_eq_piece {v : Variant} {field : Linked.Field Unit}
    (single : v.ownFields = [field]) :
    v.record = assemble (sharedFields.map shapeOf) v.shared.values ++
      piece (shapeOf field) v.own := by
  rw [record_eq, single, List.map_singleton, assemble_singleton]

theorem exists_optional {kind : ScalarKind} (number : kind ≠ .string)
    (fits : ∀ w ∈ o, Kind.Holds nested (.scalar kind) w) :
    ∃ default : Option (Default kind.carrier), o = default.map fun d => .plain d.1 := by
  cases o with
  | none => exact ⟨none, rfl⟩
  | some w =>
    obtain ⟨d, rfl, carrier⟩ := exists_plain number (fits w rfl)
    exact ⟨some ⟨d, carrier⟩, rfl⟩

theorem exists_default {carrier : Carrier} (g : FieldShape → Option Value)
    (fits : ∀ f ∈ defaultFields carrier, ∀ w ∈ g (shapeOf f), (shapeOf f).Fits nested w) :
    ∃ default : Option (Default carrier),
      assemble ((defaultFields carrier).map shapeOf) (((defaultFields carrier).map shapeOf).map g) =
        assemble ((defaultFields carrier).map shapeOf) [default.map fun d => .plain d.1] := by
  have one {kind : ScalarKind} (number : kind ≠ .string)
      (fits : ∀ w ∈ g (shapeOf (optional 8 "default" (.scalar kind))),
        (shapeOf (optional 8 "default" (.scalar kind))).Fits nested w) :
      ∃ default : Option (Default kind.carrier),
        assemble [shapeOf (optional 8 "default" (.scalar kind))]
            [g (shapeOf (optional 8 "default" (.scalar kind)))] =
          assemble [shapeOf (optional 8 "default" (.scalar kind))]
            [default.map fun d => .plain d.1] := by
    obtain ⟨default, same⟩ := exists_optional number fits
    exact ⟨default, by rw [same]⟩
  cases carrier with
  | text => exact ⟨none, rfl⟩
  | _ => exact one (by decide) (List.forall_mem_singleton.1 fits)

/-- A record of a type for scalars is that of a variant. -/
theorem exists_scalar (kind : ScalarKind)
    (typed : HasType declared (depth + 1) (scalarType kind.carrier) r) :
    ∃ s default, r = (Variant.scalar kind s default).record := by
  obtain ⟨s, whole, own⟩ := exists_shared_append _ (scalarType_mem _) (declared_scalarType _) typed
  obtain ⟨default, same⟩ := exists_default (fun f => r.at? f.slot.number) own
  exact ⟨s, default, by rw [whole, same, Variant.record_eq]; rfl⟩

theorem exists_bytes (typed : HasType declared (depth + 1) "flags.BytesFlags" r) :
    ∃ s encoding, r = (Variant.bytes s encoding).record := by
  obtain ⟨s, o, whole, fits⟩ := exists_shared_piece
    (implicit 8 "encoding" (.enumeration bytesEncoding)) (by decide) rfl typed
  obtain ⟨n, same⟩ := exists_piece_enumeration fits
  exact ⟨s, n, by rw [whole, same, Variant.record_eq_piece rfl]; rfl⟩

theorem exists_enum (typed : HasType declared (depth + 1) "flags.EnumFlags" r) :
    ∃ s default, r = (Variant.enumeration s default).record := by
  obtain ⟨s, o, whole, fits⟩ := exists_shared_piece
    (optional 8 "default" (.scalar .int32)) (by decide) rfl typed
  have stated : ∃ default : Option Int32, o = default.map fun n => .plain (.int32 n) := by
    cases o with
    | none => exact ⟨none, rfl⟩
    | some w =>
      obtain ⟨n, rfl⟩ := exists_int32 (fits w rfl)
      exact ⟨some n, rfl⟩
  obtain ⟨default, same⟩ := stated
  exact ⟨s, default, by rw [whole, same, Variant.record_eq_piece rfl]; rfl⟩

theorem exists_duration (typed : HasType declared (depth + 1) "flags.DurationFlags" r) :
    ∃ s, r = (Variant.duration s).record := by
  obtain ⟨s, whole, -⟩ := exists_shared_append [] (by decide) rfl typed
  exact ⟨s, by rw [whole, Variant.record_eq]; rfl⟩

theorem exists_timestamp (typed : HasType declared (depth + 1) "flags.TimestampFlags" r) :
    ∃ s formats, r = (Variant.timestamp s formats).record := by
  obtain ⟨s, o, whole, fits⟩ := exists_shared_piece
    (repeated 8 "formats" (.scalar .string)) (by decide) rfl typed
  obtain ⟨texts, same⟩ := exists_piece_texts fits
  exact ⟨s, texts, by rw [whole, same, Variant.record_eq_piece rfl]; rfl⟩

theorem mapRecord_eq (s : Shared) (n : Int32) : mapRecord s n =
    assemble (sharedFields.map shapeOf) s.values ++
      piece (shapeOf (implicit 8 "format" (.enumeration mapFormat))) (some (.enumeration n)) := by
  have whole :=
    assemble_shared s [implicit 8 "format" (.enumeration mapFormat)] (some (.enumeration n))
  rw [List.map_singleton, assemble_singleton] at whole
  exact whole

theorem exists_map (typed : HasType declared (depth + 1) "flags.MapFlags" r) :
    ∃ s format, r = mapRecord s format := by
  obtain ⟨s, o, whole, fits⟩ := exists_shared_piece
    (implicit 8 "format" (.enumeration mapFormat)) (by decide) rfl typed
  obtain ⟨n, same⟩ := exists_piece_enumeration fits
  exact ⟨s, n, by rw [whole, same, mapRecord_eq]⟩

theorem exists_message (typed : HasType declared (depth + 1) "flags.SubmessageFlags" r) :
    ∃ name disabled nested, r = messageRecord name disabled nested := by
  have compatible := compatible_declared "flags.SubmessageFlags" (by decide)
  have fits {f : Linked.Field Unit} (mem : shapeOf f ∈ declared "flags.SubmessageFlags") :
      ∀ w ∈ r.at? f.number, (shapeOf f).Fits (HasType declared depth) w :=
    typed.fits_of_at? compatible mem
  obtain ⟨name, name_eq⟩ := exists_piece_text (fits (f := implicit 1 "name" _) (.head _))
  obtain ⟨disabled, disabled_eq⟩ :=
    exists_piece_bool (fits (f := implicit 7 "disabled" _) (.tail _ (.head _)))
  obtain ⟨nested, nested_eq⟩ :=
    exists_piece_bool (fits (f := implicit 8 "nested" _) (.tail _ (.tail _ (.head _))))
  have fields_eq : declared "flags.SubmessageFlags" =
      [shapeOf (implicit 1 "name" (.scalar .string)),
        shapeOf (implicit 7 "disabled" (.scalar .bool)),
        shapeOf (implicit 8 "nested" (.scalar .bool))] :=
    rfl
  refine ⟨name, disabled, nested, (typed.eq_assemble compatible).trans ?_⟩
  rw [messageRecord, fields_eq]
  simp only [List.map_cons, List.map_nil, assemble]
  rw [← name_eq, ← disabled_eq, ← nested_eq]
  rfl

/-! ## Groups of variants -/

theorem elementVariants_eq : elementVariants =
    ScalarKind.all.map (fun k =>
      variant (ScalarKind.all.idxOf k + 1) k.word (scalarType k.carrier)) ++
      [variant 15 "bytes" "flags.BytesFlags", variant 16 "enum" "flags.EnumFlags",
        variant 17 "duration" "flags.DurationFlags",
          variant 18 "timestamp" "flags.TimestampFlags"] :=
  rfl

theorem exists_inner {number : Nat} {name : String}
    (admits : (shapeOf (variant number name type)).Admits (HasType declared depth) v) :
    ∃ d inner, v = .record inner ∧ HasType declared (d + 1) type inner := by
  cases depth with
  | zero =>
    cases admits.fits with
    | record typed => exact typed.elim
  | succ depth =>
    cases admits.fits with
    | record typed => exact ⟨depth, _, rfl, typed⟩

/-- What is set among the variants for elements is a variant. -/
theorem exists_member {m : Slot × Value} {f : Linked.Field Unit} (listed : f ∈ elementVariants)
    (slot : m.1 = (shapeOf f).slot) (admits : (shapeOf f).Admits (HasType declared depth) m.2) :
    ∃ v : Variant, m = v.member := by
  have whole (v : Variant) {r : Record} (slot : m.1 = v.slot) (value : m.2 = .record r)
      (record : r = v.record) : ∃ v : Variant, m = v.member :=
    ⟨v, Prod.ext slot (value.trans (congrArg Value.record record))⟩
  rw [elementVariants_eq, List.mem_append, List.mem_map] at listed
  rcases listed with ⟨kind, -, rfl⟩ | listed
  · obtain ⟨d, r, value, typed⟩ := exists_inner admits
    obtain ⟨s, default, record⟩ := exists_scalar kind typed
    exact whole (.scalar kind s default) slot value record
  · simp only [List.mem_cons, List.not_mem_nil, or_false] at listed
    rcases listed with rfl | rfl | rfl | rfl
    all_goals obtain ⟨d, r, value, typed⟩ := exists_inner admits
    · obtain ⟨s, encoding, record⟩ := exists_bytes typed
      exact whole (.bytes s encoding) slot value record
    · obtain ⟨s, default, record⟩ := exists_enum typed
      exact whole (.enumeration s default) slot value record
    · obtain ⟨s, record⟩ := exists_duration typed
      exact whole (.duration s) slot value record
    · obtain ⟨s, formats, record⟩ := exists_timestamp typed
      exact whole (.timestamp s formats) slot value record

/-- The record of the elements of a list holds a variant at most. -/
theorem exists_element (typed : HasType declared (depth + 1) "flags.RepeatedFlags" r) :
    ∃ element : Option Variant, r = element.toList.map Variant.member := by
  have grouped : ∀ f ∈ declared "flags.RepeatedFlags", f.slot.oneof = some "type" := by decide
  rcases typed.eq_nil_or_singleton grouped with rfl | ⟨m, rfl⟩
  · exact ⟨none, rfl⟩
  · obtain ⟨g, field, slot, admits⟩ := typed.2 m (by simp)
    obtain ⟨f, listed, rfl⟩ := List.mem_map.1 (List.mem_of_find?_eq_some field :
      g ∈ elementVariants.map shapeOf)
    obtain ⟨v, rfl⟩ := exists_member listed slot admits
    exact ⟨some v, rfl⟩

/-- Every record of flag options is stated by someone. -/
theorem exists_options_of_hasType (typed : HasType declared depth "flags.FieldFlags" r) :
    ∃ o : FlagOptions, r = o.record := by
  have grouped : ∀ f ∈ declared "flags.FieldFlags", f.slot.oneof = some "type" := by decide
  rcases typed.eq_nil_or_singleton grouped with rfl | ⟨m, rfl⟩
  · exact ⟨.unset, rfl⟩
  · cases depth with
    | zero => exact typed.elim
    | succ depth =>
      obtain ⟨g, field, slot, admits⟩ := typed.2 m (by simp)
      obtain ⟨f, listed, rfl⟩ := List.mem_map.1 (List.mem_of_find?_eq_some field :
        g ∈ (elementVariants ++ [variant 19 "repeated" "flags.RepeatedFlags",
          variant 20 "map" "flags.MapFlags",
            variant 21 "message" "flags.SubmessageFlags"]).map shapeOf)
      have whole (o : FlagOptions) {r : Record} (record : o.record = [(m.1, .record r)])
          (value : m.2 = .record r) : ∃ o : FlagOptions, [m] = o.record :=
        ⟨o, by rw [record, ← value]⟩
      rcases List.mem_append.1 listed with listed | listed
      · obtain ⟨v, rfl⟩ := exists_member listed slot admits
        exact ⟨.single v, rfl⟩
      · simp only [List.mem_cons, List.not_mem_nil, or_false] at listed
        rcases listed with rfl | rfl | rfl
        all_goals obtain ⟨d, r, value, typed⟩ := exists_inner admits
        · obtain ⟨element, rfl⟩ := exists_element typed
          exact whole (.repeated element) (by rw [slot]; rfl) value
        · obtain ⟨s, format, rfl⟩ := exists_map typed
          exact whole (.map s format) (by rw [slot]; rfl) value
        · obtain ⟨name, disabled, nested, rfl⟩ := exists_message typed
          exact whole (.message name disabled nested) (by rw [slot]; rfl) value

end FlagBinding.Options
