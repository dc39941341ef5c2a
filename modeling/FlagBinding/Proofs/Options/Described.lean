import FlagBinding.Proofs.Options.Stated

/-!
# Flag options are read without loss

The reader finds the fields of a record by their names. Whatever an author states, the flag options
that it finds are the ones that are described: the kind of the variant with its settings, and the
part that all flags have.

## Main definitions

* `Shared.common`, `Variant.flagKind`, `Variant.elementKind`: what parts of options describe.
* `FlagOptions.flags`: the flag options that are described.

## Main statements

* `common_append`: the part that all flags have is read from the shared fields.
* `Variant.flagKind_record`, `Variant.elementKind_record`: the kind of a variant.
* `FlagOptions.eq_of_flags`: what is stated can be told from the flag options.
* `fieldFlags_described`: the flag options of a record are the ones described.
-/

namespace FlagBinding.Options

open Schema (ScalarKind Carrier EnumType BytesEncoding MapFormat FlagCommon FlagKind ElementKind
  FieldFlags)

/-! ## What is described -/

/-- A text, unless it is empty. -/
def wordOf (s : String) : Option String :=
  if s.isEmpty then none else some s

/-- The part that all flags have. -/
def Shared.common (s : Shared) : FlagCommon where
  name := wordOf s.name
  short := wordOf s.short
  usage := s.usage
  hidden := s.hidden
  deprecated := s.deprecated
  deprecatedUsage := s.deprecatedUsage
  disabled := s.disabled

namespace Variant

def flagKind : Variant → FlagKind
  | scalar kind _ default => .scalar kind (default.map Subtype.val)
  | bytes _ encoding => .bytes (.ofNumber encoding)
  | enumeration _ default => .enumeration default
  | duration _ => .duration
  | timestamp _ formats => .timestamp formats

/-- The kind of list elements with the variant, which have no default. -/
def elementKind : Variant → ElementKind
  | scalar kind _ _ => .scalar kind
  | bytes _ encoding => .bytes (.ofNumber encoding)
  | enumeration _ _ => .enumeration
  | duration _ => .duration
  | timestamp _ formats => .timestamp formats

end Variant

/-- The flag options that are described. -/
def FlagOptions.flags : FlagOptions → FieldFlags
  | unset => ⟨{}, .unknown ""⟩
  | single v => ⟨v.shared.common, v.flagKind⟩
  | repeated none => ⟨{}, .repeated (.unknown "")⟩
  | repeated (some v) => ⟨v.shared.common, .repeated v.elementKind⟩
  | map shared format => ⟨shared.common, .map (.ofNumber format)⟩
  | message name disabled nested =>
    ⟨{ name := wordOf name, disabled := disabled }, .message nested⟩

/-! ## What is read from a field -/

section Fields

variable {r : Record} {number : Nat} {name : String}

theorem text?_of_get? {s : String} (held : r.get? name =
    (shapeOf (implicit number name (.scalar .string))).kept (some (.text s))) :
    r.text? name = wordOf s := by
  have unset : (shapeOf (implicit number name (.scalar .string))).isUnsetBy (.text s) =
      s.isEmpty := rfl
  rw [Record.text?, held, FieldShape.kept, Option.filter_some, unset, wordOf]
  cases s.isEmpty <;> rfl

theorem flag_of_get? {b : Bool} (held : r.get? name =
    (shapeOf (implicit number name (.scalar .bool))).kept (some (.plain (.bool b)))) :
    r.flag name = b := by
  rw [Record.flag, held]
  cases b <;> rfl

theorem text?_of_absent (absent : r.get? name = none) : r.text? name = none := by
  rw [Record.text?, absent, Option.bind_none]

theorem flag_of_absent (absent : r.get? name = none) : r.flag name = false := by
  rw [Record.flag, absent, Option.bind_none, Option.getD_none]

theorem choice_of_get? {type : EnumType} {n : Int32} (held : r.get? name =
    (shapeOf (implicit number name (.enumeration type))).kept (some (.enumeration n))) :
    r.choice name = n := by
  have unset : (shapeOf (implicit number name (.enumeration type))).isUnsetBy (.enumeration n) =
    decide (n = 0) := rfl
  rw [Record.choice, Record.choice?, held, FieldShape.kept, Option.filter_some, unset]
  by_cases zero : n = 0 <;> simp [zero, Value.enumeration?]

theorem texts_of_get? {texts : List String} (held : r.get? name =
    (shapeOf (repeated number name (.scalar .string))).kept (some (.list (texts.map .text)))) :
    r.texts name = texts := by
  have unset : (shapeOf (repeated number name (.scalar .string))).isUnsetBy
    (.list (texts.map .text)) = (texts.map Value.text).isEmpty := rfl
  rw [Record.texts, held, FieldShape.kept, Option.filter_some, unset]
  cases texts with
  | nil => rfl
  | cons t texts =>
    have back : Value.text? ∘ Value.text = some := rfl
    simp [Value.items, Value.text?, List.filterMap_map, back]

theorem kept_optional (type : Linked.FieldType) (o : Option Value) :
    (shapeOf (optional number name type)).kept o = o := by
  have kept : ∀ v, (shapeOf (optional number name type)).isUnsetBy v = false := fun v => rfl
  cases o <;> simp [FieldShape.kept, kept]

theorem getD_wordOf (s : String) : (wordOf s).getD "" = s := by
  rw [wordOf]
  split
  case isTrue empty => exact (String.isEmpty_iff.1 empty).symm
  case isFalse => rfl

theorem filter_wordOf (s : String) : ((wordOf s).filter fun s => !s.isEmpty) = wordOf s := by
  rw [wordOf]
  split
  case isTrue => rfl
  case isFalse filled => simp [filled]

end Fields

/-- The part that all flags have is read from the shared fields. -/
theorem common_append (s : Shared) {rest : Record}
    (absent : ∀ f ∈ sharedFields, rest.get? f.name = none) :
    common (assemble (sharedFields.map shapeOf) s.values ++ rest) = s.common := by
  have held : ∀ x ∈ (sharedFields.map shapeOf).zip s.values,
      Record.get? (assemble (sharedFields.map shapeOf) s.values ++ rest) x.1.slot.name =
        x.1.kept x.2 := by
    intro x mem
    obtain ⟨f, listed, own⟩ := List.mem_map.1 (List.of_mem_zip mem).1
    exact get?_assemble_append (by decide) mem (own ▸ absent f listed)
  generalize assemble (sharedFields.map shapeOf) s.values ++ rest = r at held ⊢
  simp only [sharedFields, Shared.values, List.map_cons, List.zip_cons_cons,
    List.forall_mem_cons] at held
  obtain ⟨h₁, h₂, h₃, h₄, h₅, h₆, h₇, -⟩ := held
  have name : r.text? "name" = wordOf s.name := text?_of_get? h₁
  have short : r.text? "short" = wordOf s.short := text?_of_get? h₂
  have usage : r.text? "usage" = wordOf s.usage := text?_of_get? h₃
  have hidden : r.flag "hidden" = s.hidden := flag_of_get? h₄
  have deprecated : r.flag "deprecated" = s.deprecated := flag_of_get? h₅
  have advice : r.text? "deprecated_usage" = wordOf s.deprecatedUsage := text?_of_get? h₆
  have disabled : r.flag "disabled" = s.disabled := flag_of_get? h₇
  simp only [common, Record.word?, name, short, usage, hidden, deprecated, advice, disabled,
    filter_wordOf, getD_wordOf, Shared.common]

/-! ## Variants -/

/-- The names of fields that are not shared. -/
def IsOwn (name : String) : Prop :=
  ∀ f ∈ sharedFields, f.name ≠ name

/-- A field that is not shared is looked up by its name. -/
theorem get?_shared_append (s : Shared) {name : String} (own : IsOwn name) (rest : Record) :
    Record.get? (assemble (sharedFields.map shapeOf) s.values ++ rest) name = rest.get? name := by
  have absent : (assemble (sharedFields.map shapeOf) s.values).get? name = none := by
    refine get?_assemble_of_absent fun g mem => ?_
    obtain ⟨g, listed, rfl⟩ := List.mem_map.1 mem
    exact own g listed
  rw [Record.get?_append, absent, Option.none_or]

theorem get?_shared_piece (s : Shared) (f : Linked.Field Unit) (own : IsOwn f.name)
    (o : Option Value) :
    Record.get? (assemble (sharedFields.map shapeOf) s.values ++ piece (shapeOf f) o) f.name =
      (shapeOf f).kept o := by
  rw [get?_shared_append s own, get?_piece]
  exact if_pos rfl

theorem common_shared_assemble (s : Shared) (fields : List (Linked.Field Unit)) (o : Option Value)
    (own : ∀ f ∈ fields, IsOwn f.name) :
    common (assemble (sharedFields.map shapeOf) s.values ++ assemble (fields.map shapeOf) [o]) =
      s.common := by
  refine common_append s fun g listed => get?_assemble_of_absent fun h mem => ?_
  obtain ⟨f, inside, rfl⟩ := List.mem_map.1 mem
  exact (own f inside g listed).symm

theorem isOwn_default : IsOwn "default" := by
  simp [IsOwn, sharedFields, implicit]

theorem isOwn_format : IsOwn "format" := by
  simp [IsOwn, sharedFields, implicit]

theorem isOwn_of_mem_defaultFields {carrier : Carrier} :
    ∀ f ∈ defaultFields carrier, IsOwn f.name := by
  cases carrier with
  | text => simp [defaultFields]
  | _ => exact List.forall_mem_singleton.2 isOwn_default

namespace Variant

theorem isOwn_of_mem_ownFields (v : Variant) : ∀ f ∈ v.ownFields, IsOwn f.name := by
  cases v with
  | scalar kind s default => exact isOwn_of_mem_defaultFields
  | _ => simp [ownFields, IsOwn, sharedFields, implicit, optional, repeated]

theorem common_record (v : Variant) : common v.record = v.shared.common := by
  rw [record_eq]
  exact common_shared_assemble v.shared v.ownFields v.own v.isOwn_of_mem_ownFields

theorem get?_record (v : Variant) (f : Linked.Field Unit) (single : v.ownFields = [f]) :
    v.record.get? f.name = (shapeOf f).kept v.own := by
  rw [record_eq_piece single]
  exact get?_shared_piece v.shared f (v.isOwn_of_mem_ownFields f (by simp [single])) v.own

theorem choice_encoding (s : Shared) (n : Int32) : (bytes s n).record.choice "encoding" = n :=
  choice_of_get? (get?_record (bytes s n) (implicit 8 "encoding" (.enumeration bytesEncoding)) rfl)

theorem choice?_default (s : Shared) (default : Option Int32) :
    (enumeration s default).record.choice? "default" = default := by
  have held := get?_record (enumeration s default) (optional 8 "default" (.scalar .int32)) rfl
  rw [kept_optional] at held
  refine (congrArg (·.bind Value.enumeration?) held).trans ?_
  cases default <;> rfl

theorem texts_formats (s : Shared) (formats : List String) :
    (timestamp s formats).record.texts "formats" = formats :=
  texts_of_get? (get?_record (timestamp s formats) (repeated 8 "formats" (.scalar .string)) rfl)

theorem plain?_default (kind : ScalarKind) (s : Shared) (default : Option (Default kind.carrier)) :
    (scalar kind s default).record.plain? "default" = default.map Subtype.val := by
  have held : (scalar kind s default).record.get? "default" =
      default.map fun d => Value.plain d.1 := by
    rw [record_eq, get?_shared_append _ isOwn_default, ownFields, own]
    generalize kind.carrier = carrier at default
    cases carrier with
    | text =>
      cases default with
      | none => rfl
      | some d => obtain ⟨d, text⟩ := d; cases d <;> contradiction
    | _ =>
      rw [defaultFields, List.map_singleton, assemble_singleton, get?_piece, kept_optional]
      exact if_pos rfl
  rw [Record.plain?, held]
  cases default <;> rfl

/-- The kind of a flag is read from the record of its variant. -/
theorem flagKind_record (v : Variant) : Options.flagKind v.slot.name v.record = v.flagKind := by
  cases v with
  | scalar kind s default =>
    have read : Options.flagKind kind.word (scalar kind s default).record =
        .scalar kind ((scalar kind s default).record.plain? "default") := by
      cases kind <;> rfl
    exact read.trans (congrArg _ (plain?_default kind s default))
  | bytes s encoding =>
      exact congrArg (fun n => FlagKind.bytes (.ofNumber n)) (choice_encoding s encoding)
  | enumeration s default => exact congrArg FlagKind.enumeration (choice?_default s default)
  | duration s => rfl
  | timestamp s formats => exact congrArg FlagKind.timestamp (texts_formats s formats)

theorem elementKind_record (v : Variant) :
    Options.elementKind v.slot.name v.record = v.elementKind := by
  cases v with
  | scalar kind s default => cases kind <;> rfl
  | bytes s encoding =>
    exact congrArg (fun n => ElementKind.bytes (.ofNumber n)) (choice_encoding s encoding)
  | enumeration s default => rfl
  | duration s => rfl
  | timestamp s formats => exact congrArg ElementKind.timestamp (texts_formats s formats)

end Variant

/-! ## Maps and messages -/

theorem common_mapRecord (s : Shared) (format : Int32) :
    common (mapRecord s format) = s.common := by
  rw [mapRecord_eq, ← assemble_singleton]
  exact common_shared_assemble s [implicit 8 "format" (.enumeration mapFormat)] _
    (List.forall_mem_singleton.2 isOwn_format)

theorem choice_format (s : Shared) (format : Int32) :
    (mapRecord s format).choice "format" = format := by
  have held := get?_shared_piece s (implicit 8 "format" (.enumeration mapFormat)) isOwn_format
    (some (.enumeration format))
  rw [← mapRecord_eq] at held
  exact choice_of_get? held

section Message

variable (name : String) (disabled nested : Bool)

theorem get?_messageRecord (f : Linked.Field Unit) {v : Option Value}
    (listed : (shapeOf f, v) ∈ (declared "flags.SubmessageFlags").zip
      [some (.text name), some (.plain (.bool disabled)), some (.plain (.bool nested))]) :
    (messageRecord name disabled nested).get? f.name = (shapeOf f).kept v := by
  have held : Record.get? (messageRecord name disabled nested ++ []) f.name = (shapeOf f).kept v :=
    get?_assemble_append (by decide) listed rfl
  rwa [List.append_nil] at held

/-- The part that all flags have is read from a record in which most of it is not declared. -/
theorem common_messageRecord : common (messageRecord name disabled nested) =
    { name := wordOf name, disabled := disabled } := by
  have first : (messageRecord name disabled nested).text? "name" = wordOf name :=
    text?_of_get? (get?_messageRecord name disabled nested
      (implicit 1 "name" (.scalar .string)) (.head _))
  have last : (messageRecord name disabled nested).flag "disabled" = disabled :=
    flag_of_get? (get?_messageRecord name disabled nested (implicit 7 "disabled" (.scalar .bool))
      (.tail _ (.head _)))
  have absent : ∀ other ∈ ["short", "usage", "hidden", "deprecated", "deprecated_usage"],
      (messageRecord name disabled nested).get? other = none := by
    intro other listed
    refine get?_assemble_of_absent ?_
    revert other
    decide
  simp only [List.forall_mem_cons] at absent
  obtain ⟨short, usage, hidden, deprecated, advice, -⟩ := absent
  simp only [common, Record.word?, first, last, text?_of_absent short, text?_of_absent usage,
    flag_of_absent hidden, flag_of_absent deprecated, text?_of_absent advice, filter_wordOf,
    Option.filter_none, Option.getD_none]

theorem flag_nested : (messageRecord name disabled nested).flag "nested" = nested :=
  flag_of_get? (get?_messageRecord name disabled nested (implicit 8 "nested" (.scalar .bool))
    (.tail _ (.tail _ (.head _))))

end Message

/-! ## Flag options -/

theorem fieldFlags_member (v : Variant) :
    fieldFlags [v.member] = ⟨common v.record, flagKind v.slot.name v.record⟩ := by
  cases v with
  | scalar kind s default => cases kind <;> rfl
  | _ => rfl

theorem listFlags_member (v : Variant) :
    listFlags [v.member] = ⟨common v.record, .repeated (elementKind v.slot.name v.record)⟩ := by
  cases v <;> rfl

/-- The flag options that are read from what an author has written are the ones described. -/
theorem FlagOptions.fieldFlags_record (o : FlagOptions) : fieldFlags o.record = o.flags := by
  cases o with
  | unset => rfl
  | single v => rw [record, fieldFlags_member, v.common_record, v.flagKind_record, flags]
  | repeated element =>
    cases element with
    | none => rfl
    | some v =>
      have read : fieldFlags (repeated (some v)).record = listFlags [v.member] := rfl
      rw [read, listFlags_member, v.common_record, v.elementKind_record, flags]
  | map shared format =>
    have read : fieldFlags (map shared format).record =
        ⟨common (mapRecord shared format),
          .map (.ofNumber ((mapRecord shared format).choice "format"))⟩ := rfl
    rw [read, common_mapRecord, choice_format, flags]
  | message name disabled nested =>
    have read : fieldFlags (message name disabled nested).record =
        ⟨common (messageRecord name disabled nested),
          .message ((messageRecord name disabled nested).flag "nested")⟩ := rfl
    rw [read, common_messageRecord, flag_nested, flags]

/-! ## What can be told from flag options -/

theorem wordOf_injective : Function.Injective wordOf := by
  intro s t same
  rw [← getD_wordOf s, ← getD_wordOf t, same]

theorem encoding_injective : Function.Injective BytesEncoding.ofNumber := by
  intro m n same
  unfold BytesEncoding.ofNumber at same
  grind

theorem format_injective : Function.Injective MapFormat.ofNumber := by
  intro m n same
  unfold MapFormat.ofNumber at same
  grind

theorem Shared.common_injective : Function.Injective Shared.common := by
  intro s t same
  obtain ⟨name, short, usage, hidden, deprecated, advice, disabled⟩ := s
  simp only [Shared.common, FlagCommon.mk.injEq, wordOf_injective.eq_iff] at same
  cases t
  simp_all

namespace Variant

/-- The variant without a default, as far as list elements are concerned. -/
def withoutDefault : Variant → Variant
  | scalar kind s _ => scalar kind s none
  | enumeration s _ => enumeration s none
  | v => v

theorem eq_of_flagKind {v w : Variant} (same : v.shared = w.shared)
    (kind : v.flagKind = w.flagKind) : v = w := by
  cases v <;> cases w <;> simp only [flagKind, reduceCtorEq] at kind <;> cases same
  case scalar.scalar k s default k' default' =>
    obtain ⟨rfl, equal⟩ := FlagKind.scalar.inj kind
    rw [Option.map_injective Subtype.val_injective equal]
  case bytes.bytes s m n => rw [encoding_injective (FlagKind.bytes.inj kind)]
  case enumeration.enumeration s m n => rw [FlagKind.enumeration.inj kind]
  case duration.duration => rfl
  case timestamp.timestamp s m n => rw [FlagKind.timestamp.inj kind]

theorem eq_of_elementKind {v w : Variant} (same : v.shared = w.shared)
    (kind : v.elementKind = w.elementKind) : v.withoutDefault = w.withoutDefault := by
  cases v <;> cases w <;> simp only [elementKind, reduceCtorEq] at kind <;> cases same
  case scalar.scalar k s default k' default' =>
    obtain rfl := ElementKind.scalar.inj kind
    rfl
  case bytes.bytes s m n => rw [encoding_injective (ElementKind.bytes.inj kind)]
  case enumeration.enumeration => rfl
  case duration.duration => rfl
  case timestamp.timestamp s m n => rw [ElementKind.timestamp.inj kind]

theorem elementKind_ne (v : Variant) (name : String) : v.elementKind ≠ .unknown name := by
  cases v <;> simp [elementKind]

end Variant

/-- What is stated without a default for list elements, which have none. -/
def FlagOptions.withoutElementDefault : FlagOptions → FlagOptions
  | repeated element => repeated (element.map Variant.withoutDefault)
  | o => o

/-- What is stated can be told from the flag options that it describes. -/
theorem FlagOptions.eq_of_flags {o o' : FlagOptions} (same : o.flags = o'.flags) :
    o.withoutElementDefault = o'.withoutElementDefault := by
  rcases o with _ | v | (_ | v) | ⟨s, n⟩ | ⟨name, disabled, nested⟩ <;>
    rcases o' with _ | w | (_ | w) | ⟨t, m⟩ | ⟨name', disabled', nested'⟩ <;>
    obtain ⟨common, kind⟩ := FieldFlags.mk.inj same
  case single.single =>
    rw [Variant.eq_of_flagKind (Shared.common_injective common) kind]
  case repeated.some.repeated.some =>
    have elements :=
      Variant.eq_of_elementKind (Shared.common_injective common) (FlagKind.repeated.inj kind)
    rw [withoutElementDefault, withoutElementDefault, Option.map_some, Option.map_some, elements]
  case map.map =>
    rw [Shared.common_injective common, format_injective (FlagKind.map.inj kind)]
  case message.message =>
    simp only [FlagCommon.mk.injEq, wordOf_injective.eq_iff] at common
    obtain ⟨rfl, -, -, -, -, -, rfl⟩ := common
    rw [FlagKind.message.inj kind]
  case unset.unset => rfl
  case repeated.none.repeated.none => rfl
  case repeated.none.repeated.some =>
    exact absurd (FlagKind.repeated.inj kind).symm (w.elementKind_ne "")
  case repeated.some.repeated.none =>
    exact absurd (FlagKind.repeated.inj kind) (v.elementKind_ne "")
  -- the kinds in any other pair differ
  all_goals first
    | contradiction
    | cases v <;> contradiction
    | cases w <;> contradiction

/-- Flag options are read without loss. What an author states is written as a record of its message
type. The flag options that are read from this are the ones described, and from these what was
stated can be told but for a default of list elements. There is no other record of the type, and no
other one is read from the bytes of a message. -/
theorem fieldFlags_described :
    (∀ o : FlagOptions, HasType declared 3 "flags.FieldFlags" o.record ∧
      fieldFlags o.record = o.flags) ∧
    (∀ o o' : FlagOptions, o.flags = o'.flags →
      o.withoutElementDefault = o'.withoutElementDefault) ∧
    (∀ depth r, HasType declared depth "flags.FieldFlags" r → ∃ o : FlagOptions, r = o.record) ∧
    ∀ bytes r, declared.decode? "flags.FieldFlags" bytes = some r →
      ∃ o : FlagOptions, r = o.record ∧ fieldFlags r = o.flags := by
  refine ⟨fun o => ⟨o.hasType_record, o.fieldFlags_record⟩, fun o o' => FlagOptions.eq_of_flags,
    fun depth r => exists_options_of_hasType, ?_⟩
  intro bytes r read
  obtain ⟨o, rfl⟩ := exists_options_of_hasType (Catalogue.hasType_of_decode? read)
  exact ⟨o, rfl, o.fieldFlags_record⟩

end FlagBinding.Options
