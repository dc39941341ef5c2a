import FlagBinding.Binding.Wrap
import FlagBinding.Proofs.Checks.Kinds

/-!
# Cells that fit

Which cell is put around a field is decided by the kind of the flag and by what the field may hold,
and what the field holds by its type alone. For a checked field the two agree.

## Main definitions

* `Fits`: a cell that can be put around what a field holds.

## Main statements

* `exists_fits_of_checkKind`: the cell of a checked field fits.
* `storageOf_of_scalar`: what a field with a scalar flag holds.
-/

namespace FlagBinding.Binding

open Schema Emit Check

def itemOf (codec : CodecTerm) : ItemType :=
  itemTypeOf (formatOf codec)

/-- A cell can be put around contents of a type. -/
inductive Fits : CellTerm → StorageType → Prop
  | plain (codec : CodecTerm) : Fits (.plain codec) (.plain (itemOf codec))
  | optional (codec : CodecTerm) : Fits (.optional codec) (.optional (itemOf codec))
  | repeated (codec : CodecTerm) : Fits (.repeated codec) (.list (itemOf codec))
  | stringMap (codec : CodecTerm) : Fits (.stringMap codec) (.map (itemOf codec))
  | jsonMap {type : ItemType} (readable : (jsonElement? type).isSome) : Fits .jsonMap (.map type)

theorem Fits.eq_plain {codec : CodecTerm} {type : StorageType} (h : Fits (.plain codec) type) :
    type = .plain (itemOf codec) := by
  cases h; rfl

theorem Fits.eq_optional {codec : CodecTerm} {type : StorageType}
    (h : Fits (.optional codec) type) : type = .optional (itemOf codec) := by
  cases h; rfl

/-! ## Items -/

@[simp] theorem itemOf_scalar (carrier : Carrier) :
    itemOf (.scalar carrier) = .ofCarrier carrier := by
  cases carrier <;> rfl

@[simp] theorem itemOf_ofEncoding (encoding : BytesEncoding) :
    itemOf (.ofEncoding encoding) = .bytes := by
  cases encoding <;> rfl

theorem ofFieldType_of_holdsScalar {type : FieldType} {kind : ScalarKind}
    (holds : holdsScalar type kind) : ItemType.ofFieldType type = .ofCarrier kind.carrier := by
  rcases holdsScalar_iff.1 holds with rfl | ⟨-, m, rfl, wrapper⟩
  · rfl
  · simp [ItemType.ofFieldType, wrapper]

theorem ofFieldType_of_holdsBytes {type : FieldType} (holds : holdsBytes type) :
    ItemType.ofFieldType type = .bytes := by
  rcases holdsBytes_iff.1 holds with rfl | ⟨m, rfl, wrapper⟩
  · rfl
  · simp [ItemType.ofFieldType, wrapper]

theorem ofFieldType_of_duration {type : FieldType} (known : type.wellKnown? = some .duration) :
    ItemType.ofFieldType type = .duration := by
  obtain ⟨m, rfl, here⟩ := wellKnown?_eq_some_iff.1 known
  simp [ItemType.ofFieldType, here]

theorem ofFieldType_of_timestamp {type : FieldType} (known : type.wellKnown? = some .timestamp) :
    ItemType.ofFieldType type = .timestamp := by
  obtain ⟨m, rfl, here⟩ := wellKnown?_eq_some_iff.1 known
  simp [ItemType.ofFieldType, here]

/-- Whatever is not a message can be the value of a member. -/
theorem jsonElement?_ofFieldType {type : FieldType} (plain : isMessage type = false) :
    (jsonElement? (.ofFieldType type)).isSome := by
  cases type with
  | scalar kind => cases kind <;> rfl
  | bytes | enumeration e => rfl
  | message m => simp [isMessage] at plain

/-! ## Fields -/

variable {s : Schema} {f : Field}

/-- No codec reads messages. -/
theorem itemOf_ne_message (codec : CodecTerm) (fullName : String) :
    itemOf codec ≠ .message fullName := by
  cases codec with
  | scalar carrier => cases carrier <;> simp [ItemType.ofCarrier]
  | _ => simp [itemOf, formatOf, itemTypeOf]

/-- The cell of a single value goes by what the field may hold. -/
theorem fits_single {codec : CodecTerm} (singular : f.isSingular)
    (same : itemOf codec = .ofFieldType f.type) : Fits (CellTerm.single f codec) (storageOf f) := by
  obtain ⟨single, noMap⟩ : f.repeated = false ∧ f.map = none := by
    simpa [Field.isSingular] using singular
  simp only [CellTerm.single, CellTerm.mayBeMissing, storageOf, noMap, single, ← same]
  by_cases missing : f.optional || f.type.wellKnown?.isSome
  · simpa [missing] using .optional codec
  · have plain := Fits.plain codec
    cases item : itemOf codec with
    | message n => exact absurd item (itemOf_ne_message codec n)
    | _ => simpa [missing, item] using plain

theorem fits_repeated {codec : CodecTerm} (repeated : f.repeated) (noMap : f.map = none)
    (same : itemOf codec = .ofFieldType f.type) : Fits (.repeated codec) (storageOf f) := by
  simpa [storageOf, noMap, repeated, ← same] using .repeated codec

theorem fits_ofMap {format : MapFormat} {entry : MapEntry} (isMap : f.map = some entry)
    (ok : checkEntry entry format = .ok ()) : Fits (.ofMap f format) (storageOf f) := by
  have value := (checkEntry_ok_iff.1 ok).2
  have storage : storageOf f = .map (.ofFieldType entry.value) := by simp [storageOf, isMap]
  obtain ⟨key, type⟩ := entry
  rw [storage]
  cases format with
  | unspecified | json => exact .jsonMap (jsonElement?_ofFieldType value)
  | textToText =>
    obtain rfl : type = .scalar .string := value
    exact .stringMap (.scalar .text)
  | textToInteger =>
    cases type with
    | scalar kind =>
      simp only [CellTerm.ofMap, CellTerm.integersOf, isMap, ItemType.ofFieldType]
      exact itemOf_scalar kind.carrier ▸ .stringMap (.scalar kind.carrier)
    | _ => simp [isInteger] at value
  | unknown n => exact value.elim

theorem exists_fits_of_checkRepeated {element : ElementKind}
    (ok : checkRepeated f element = .ok ()) :
    ∃ cell, CellTerm.ofElement? f element = some cell ∧ Fits cell (storageOf f) := by
  obtain ⟨repeated, noMap, ok⟩ := checkRepeated_ok_iff.1 ok
  have ok := checkElement_ok_iff.1 ok
  cases element with
  | scalar kind =>
    refine ⟨_, rfl, fits_repeated repeated noMap ?_⟩
    rw [itemOf_scalar, ofFieldType_of_holdsScalar ok]
  | bytes encoding =>
    refine ⟨_, rfl, fits_repeated repeated noMap ?_⟩
    rw [itemOf_ofEncoding, ofFieldType_of_holdsBytes ok.2]
  | enumeration =>
    obtain ⟨e, type⟩ := ok
    refine ⟨.repeated (.enumeration e), ?_, fits_repeated repeated noMap ?_⟩
    · simp [CellTerm.ofElement?, type, CellTerm.enumerationOf?]
    · rw [type]; rfl
  | duration =>
    exact ⟨_, rfl, fits_repeated repeated noMap (ofFieldType_of_duration ok).symm⟩
  | timestamp formats =>
    exact ⟨_, rfl, fits_repeated repeated noMap (ofFieldType_of_timestamp ok.2).symm⟩
  | unknown name => exact ok.elim

/-- The cell of a checked field fits what the field holds. -/
theorem exists_fits_of_checkKind {kind : FlagKind} (ok : checkKind s f kind = .ok ())
    (noMessage : ∀ nested, kind ≠ .message nested) :
    ∃ cell, CellTerm.ofKind? f kind = some cell ∧ Fits cell (storageOf f) := by
  cases kind with
  | scalar kind default =>
    obtain ⟨singular, holds, -⟩ := checkKind_scalar_ok_iff.1 ok
    refine ⟨_, rfl, fits_single singular ?_⟩
    rw [itemOf_scalar, ofFieldType_of_holdsScalar holds]
  | bytes encoding =>
    obtain ⟨singular, holds, -⟩ := checkKind_bytes_ok_iff.1 ok
    refine ⟨_, rfl, fits_single singular ?_⟩
    rw [itemOf_ofEncoding, ofFieldType_of_holdsBytes holds]
  | enumeration default =>
    obtain ⟨e, type, singular, -⟩ := checkKind_enumeration_ok_iff.1 ok
    refine ⟨CellTerm.single f (.enumeration e), ?_, fits_single singular ?_⟩
    · simp [CellTerm.ofKind?, type, CellTerm.enumerationOf?]
    · rw [type]; rfl
  | duration =>
    obtain ⟨singular, known⟩ := checkKind_duration_ok_iff.1 ok
    exact ⟨_, rfl, fits_single singular (ofFieldType_of_duration known).symm⟩
  | timestamp formats =>
    obtain ⟨singular, known, -⟩ := checkKind_timestamp_ok_iff.1 ok
    exact ⟨_, rfl, fits_single singular (ofFieldType_of_timestamp known).symm⟩
  | map format =>
    obtain ⟨entry, isMap, ok⟩ := checkMap_ok_iff.1 ok
    exact ⟨_, rfl, fits_ofMap isMap ok⟩
  | message nested => exact absurd rfl (noMessage nested)
  | repeated element => exact exists_fits_of_checkRepeated ok
  | unknown name => simp [checkKind] at ok

/-- Of the fields that hold scalars, those with a wrapper may hold nothing. -/
theorem scalarMayBeMissing_eq {kind : ScalarKind} (holds : holdsScalar f.type kind) :
    scalarMayBeMissing f = CellTerm.mayBeMissing f := by
  rw [scalarMayBeMissing, CellTerm.mayBeMissing]
  rcases holdsScalar_iff.1 holds with type | ⟨-, m, type, wrapper⟩
  · simp [type, FieldType.wellKnown?]
  · simp [type, FieldType.wellKnown?, wrapper]

/-- What a field with a scalar flag holds: a value of the scalar, or perhaps none. -/
theorem storageOf_of_scalar {kind : ScalarKind} {default : Option DefaultValue}
    (ok : checkKind s f (.scalar kind default) = .ok ()) :
    storageOf f = if scalarMayBeMissing f then .optional (.ofCarrier kind.carrier)
      else .plain (.ofCarrier kind.carrier) := by
  obtain ⟨singular, holds, -⟩ := checkKind_scalar_ok_iff.1 ok
  have same : itemOf (.scalar kind.carrier) = .ofFieldType f.type := by
    rw [itemOf_scalar, ofFieldType_of_holdsScalar holds]
  have fits := fits_single singular same
  rw [scalarMayBeMissing_eq holds, ← itemOf_scalar]
  rw [CellTerm.single] at fits
  split at fits
  case isTrue missing => simpa [missing] using fits.eq_optional
  case isFalse present => simpa [present] using fits.eq_plain

end FlagBinding.Binding
