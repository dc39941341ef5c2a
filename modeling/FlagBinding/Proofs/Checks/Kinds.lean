import FlagBinding.Proofs.Checks.Accepted

/-!
# Kinds of flags and types of fields

What the checks of a kind say about the field, kind by kind.

## Main statements

* `holdsScalar_iff`, `holdsBytes_iff`: plain types and wrappers.
* `checkSingle_ok_iff`, `checkMap_ok_iff`, `checkRepeated_ok_iff`: single values, maps and lists.
* `checkKind_scalar_ok_iff` and its like: the kinds of single values.
-/

namespace FlagBinding.Check

open Schema

variable {s : Schema} {f : Field}

/-! ## Types -/

theorem wellKnown?_eq_some_iff {type : FieldType} {w : WellKnown} :
    type.wellKnown? = some w ↔ ∃ m, type = .message m ∧ m.wellKnown = some w := by
  cases type <;> simp [FieldType.wellKnown?]

theorem holdsScalar_iff {type : FieldType} {kind : ScalarKind} :
    holdsScalar type kind ↔ type = .scalar kind ∨
      (kind ∈ wrappedKinds ∧ ∃ m, type = .message m ∧ m.wellKnown = some (.wrapper kind)) := by
  simp [holdsScalar, wellKnown?_eq_some_iff]

theorem holdsBytes_iff {type : FieldType} :
    holdsBytes type ↔ type = .bytes ∨ ∃ m, type = .message m ∧ m.wellKnown = some .bytesValue := by
  simp [holdsBytes, wellKnown?_eq_some_iff]

/-! ## Kinds -/

theorem checkSingle_ok_iff {word : String} {fits : Bool} :
    checkSingle f word fits = .ok () ↔ f.isSingular ∧ fits = true := by
  rw [checkSingle, then_ok_iff, require_ok_iff, require_ok_iff]

theorem checkDefault_ok_iff {kind : ScalarKind} {default : Option DefaultValue} :
    checkDefault kind default = .ok () ↔ ∀ v, default = some v → kind.carrier = v.carrier := by
  cases default <;> simp [checkDefault]

/-- The keys of a map are texts, whatever its format. -/
theorem checkEntry_ok_iff {entry : MapEntry} {format : MapFormat} :
    checkEntry entry format = .ok () ↔ entry.key = .scalar .string ∧
      match format with
      | .unspecified => isMessage entry.value = false
      | .json => isMessage entry.value = false
      | .textToText => entry.value = .scalar .string
      | .textToInteger => isInteger entry.value
      | .unknown _ => False := by
  cases format with
  | unspecified | json =>
    simp only [checkEntry, checkEntry.jsonEntry]
    rw [then_ok_iff, require_ok_iff, require_ok_iff]
    simp [isText]
  | textToText | textToInteger => simp [checkEntry, isText]
  | unknown n => simp [checkEntry]

theorem checkMap_ok_iff {format : MapFormat} :
    checkMap f format = .ok () ↔ ∃ entry, f.map = some entry ∧
      checkEntry entry format = .ok () := by
  unfold checkMap
  cases f.map <;> simp

theorem checkElement_ok_iff {element : ElementKind} :
    checkElement f element = .ok () ↔
      match element with
      | .scalar kind => holdsScalar f.type kind
      | .bytes encoding => checkEncoding encoding = .ok () ∧ holdsBytes f.type
      | .enumeration => ∃ e, f.type = .enumeration e
      | .duration => f.type.wellKnown? = some .duration
      | .timestamp formats => checkFormats formats = .ok () ∧ f.type.wellKnown? = some .timestamp
      | .unknown _ => False := by
  unfold checkElement
  cases element with
  | scalar kind => simp
  | bytes encoding | timestamp formats => simp [then_ok_iff]
  | enumeration => cases f.type <;> simp
  | duration => simp
  | unknown name => simp

theorem checkRepeated_ok_iff {element : ElementKind} :
    checkRepeated f element = .ok () ↔
      f.repeated ∧ f.map = none ∧ checkElement f element = .ok () := by
  rw [checkRepeated, then_ok_iff, require_ok_iff]
  simp [and_assoc]

theorem checkKind_enumeration_ok_iff {default : Option Int32} :
    checkKind s f (.enumeration default) = .ok () ↔
      ∃ e, f.type = .enumeration e ∧ f.isSingular ∧ checkNumber e default = .ok () := by
  unfold checkKind
  cases f.type with
  | enumeration e => simp [then_ok_iff, checkSingle_ok_iff]
  | _ => simp [checkSingle_ok_iff]

theorem checkKind_scalar_ok_iff {kind : ScalarKind} {default : Option DefaultValue} :
    checkKind s f (.scalar kind default) = .ok () ↔ f.isSingular ∧ holdsScalar f.type kind ∧
      ∀ v, default = some v → kind.carrier = v.carrier := by
  rw [checkKind, then_ok_iff, checkSingle_ok_iff, checkDefault_ok_iff, and_assoc]

theorem checkKind_bytes_ok_iff {encoding : BytesEncoding} :
    checkKind s f (.bytes encoding) = .ok () ↔
      f.isSingular ∧ holdsBytes f.type ∧ checkEncoding encoding = .ok () := by
  rw [checkKind, then_ok_iff, checkSingle_ok_iff, and_assoc]

theorem checkKind_duration_ok_iff :
    checkKind s f .duration = .ok () ↔ f.isSingular ∧ f.type.wellKnown? = some .duration := by
  rw [checkKind, checkSingle_ok_iff, decide_eq_true_eq]

theorem checkKind_timestamp_ok_iff {formats : List String} :
    checkKind s f (.timestamp formats) = .ok () ↔
      f.isSingular ∧ f.type.wellKnown? = some .timestamp ∧ checkFormats formats = .ok () := by
  rw [checkKind, then_ok_iff, checkSingle_ok_iff, decide_eq_true_eq, and_assoc]

end FlagBinding.Check
