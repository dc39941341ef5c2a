import FlagBinding.Proofs.Checks.Steps
import FlagBinding.Proofs.Emission.Typing
import FlagBinding.Sample

/-!
# Checked messages have well-typed code

## Main statements

* `emitted_code_hasType`: the adapters that are registered for a checked message, and the defaults
  that are assigned to it, have the types of its fields.
-/

namespace FlagBinding.Emit

open Schema Target Binding Check

variable {s : Schema} {m : Message} {x : Flagged}

/-- The keys of a checked map are texts, and its values are no messages. -/
theorem entry_of_checkKind {f : Field} {kind : FlagKind} (ok : checkKind s f kind = .ok ())
    (noMessage : ∀ nested, kind ≠ .message nested) {entry : MapEntry} (isMap : f.map = some entry) :
    entry.key = .scalar .string ∧ isMessage entry.value = false := by
  have plural : ¬ f.isSingular := by simp [Field.isSingular, isMap]
  cases kind with
  | map format =>
    obtain ⟨other, same, ok⟩ := checkMap_ok_iff.1 ok
    obtain rfl : entry = other := by simpa [isMap] using same
    obtain ⟨key, value⟩ := checkEntry_ok_iff.1 ok
    refine ⟨key, ?_⟩
    cases format with
    | unspecified | json => exact value
    | textToText => simp only at value; simp [value, isMessage]
    | textToInteger => cases h : entry.value <;> simp_all [isInteger, isMessage]
    | unknown n => exact value.elim
  | message nested => exact absurd rfl (noMessage nested)
  | repeated element => simp [(checkRepeated_ok_iff.1 ok).2.1] at isMap
  | scalar kind default => exact absurd (checkKind_scalar_ok_iff.1 ok).1 plural
  | enumeration default =>
    obtain ⟨e, -, singular, -⟩ := checkKind_enumeration_ok_iff.1 ok
    exact absurd singular plural
  | bytes encoding => exact absurd (checkKind_bytes_ok_iff.1 ok).1 plural
  | timestamp formats => exact absurd (checkKind_timestamp_ok_iff.1 ok).1 plural
  | duration => exact absurd (checkKind_duration_ok_iff.1 ok).1 plural
  | unknown name => simp [checkKind] at ok

/-- The default that is assigned to a checked field, if one is declared. -/
theorem default_of_checkKind {f : Field} {flags : FieldFlags}
    (enabled : flags.common.disabled = false) {kind : ScalarKind} {value : DefaultValue}
    (declared : flags.kind = .scalar kind (some value))
    (ok : checkKind s f flags.kind = .ok ()) :
    DefaultStep.of? f flags = some (.assign f.name (scalarMayBeMissing f) value) ∧
      storageOf f = if scalarMayBeMissing f then .optional (.ofCarrier value.carrier)
        else .plain (.ofCarrier value.carrier) := by
  rw [declared] at ok
  have same : kind.carrier = value.carrier := (checkKind_scalar_ok_iff.1 ok).2.2 value rfl
  refine ⟨by simp [DefaultStep.of?, enabled, declared, same], ?_⟩
  rw [storageOf_of_scalar ok, same]

/-- What is assigned has the type of the field. -/
theorem assigned_hasType {f : Field} {value : DefaultValue}
    (storage : storageOf f = if scalarMayBeMissing f then .optional (.ofCarrier value.carrier)
      else .plain (.ofCarrier value.carrier)) (runtime : String) :
    ∃ e, (DefaultStep.assign f.name (scalarMayBeMissing f) value).code runtime =
        .assign (selfField f.name) e ∧
      HasType runtime m e (.storage (storageOf f)) := by
  have literal : HasType runtime m (.literal (bareLiteral value))
      (.storage (.plain (.ofCarrier value.carrier))) := bareLiteral_hasType value
  refine ⟨_, rfl, ?_⟩
  rw [storage]
  split
  · exact .some literal
  · exact literal

/-- The registration of a field with a cell stands in the code that binds its message. -/
theorem registration_code_mem (mem : x ∈ flagged m) (registers : x.2.registers) {cell : CellTerm}
    (of : CellTerm.ofKind? x.1 x.2.kind = some cell) (runtime : String) :
    ∃ rest marks, Stmt.block
        (.define "name" (.method (.path "names") "build" [text (x.1.flagName x.2)]) ::
          onFlags "var" (cell.code runtime x.1.name :: rest) :: marks) ∈
      (Plan.bindImpl runtime (.ofMessage m)).method.body := by
  obtain ⟨r, found⟩ : ∃ r, Registration.of? x.1 x.2 = some r := by
    rw [Registration.of?, of]
    exact ⟨_, rfl⟩
  obtain ⟨here, field, flag, -⟩ := registration_of? found
  obtain rfl : r.cell = cell := Option.some.inj (here.symm.trans of)
  have listed : .register r ∈ (Plan.ofMessage m).steps :=
    mem_collect_iff.2 ⟨x, mem, bindStep_eq_register_iff.2 ⟨registers, found⟩⟩
  have code : r.code runtime ∈ (Plan.bindImpl runtime (.ofMessage m)).method.body :=
    List.mem_append_left _ (List.mem_map_of_mem (f := BindStep.code runtime) listed)
  rw [Registration.code, flag, field] at code
  exact ⟨_, _, by simpa using code⟩

theorem default_code_mem {d : DefaultStep} (mem : x ∈ flagged m)
    (step : DefaultStep.of? x.1 x.2 = some d) (runtime : String) :
    d.code runtime ∈ (Plan.defaultsImpl runtime (.ofMessage m)).method.body := by
  have listed : d ∈ (Plan.ofMessage m).defaults := mem_collect_iff.2 ⟨x, mem, step⟩
  exact List.mem_map_of_mem listed

/-- The code of a cell is a call on the field. -/
theorem exists_cell_code_eq (cell : CellTerm) (runtime field : String) :
    ∃ constructor codec, cell.code runtime field =
      .call constructor (.borrow true (selfField field) :: codec) := by
  cases cell <;> exact ⟨_, _, rfl⟩

/-- The adapter that is registered for the flag of a checked field is around exactly what the field
holds, and a declared default is assigned to the field as a value of just that type. -/
theorem emitted_code_hasType (accepted : Accepted s) (wanted : m ∈ wantedMessages s)
    (enabled : m.disabled = false) (mem : x ∈ flagged m) (registers : x.2.registers)
    (runtime : String) :
    (∃ constructor codec rest marks, Stmt.block
        (.define "name" (.method (.path "names") "build" [text (x.1.flagName x.2)]) ::
          onFlags "var"
            (.call constructor (.borrow true (selfField x.1.name) :: codec) :: rest) :: marks) ∈
        (Plan.bindImpl runtime (.ofMessage m)).method.body ∧
      HasType runtime m (.call constructor (.borrow true (selfField x.1.name) :: codec))
        (.adapter (storageOf x.1))) ∧
    (∀ entry, x.1.map = some entry →
      entry.key = .scalar .string ∧ isMessage entry.value = false) ∧
    ∀ kind value, x.2.kind = .scalar kind (some value) → ∃ e,
      Stmt.assign (selfField x.1.name) e ∈
        (Plan.defaultsImpl runtime (.ofMessage m)).method.body ∧
      HasType runtime m (selfField x.1.name) (.storage (storageOf x.1)) ∧
      HasType runtime m e (.storage (storageOf x.1)) := by
  obtain ⟨on, noMessage⟩ := registers_iff.1 registers
  have ok := ((checkField_ok_iff.1 (accepted.checkField wanted enabled mem)).2 on).1
  have declared : x.1 ∈ m.fields := (mem_flagged_iff.1 mem).1
  refine ⟨?adapter, fun entry isMap => entry_of_checkKind ok noMessage isMap, ?default⟩
  case adapter =>
    obtain ⟨cell, of, fits⟩ := exists_fits_of_checkKind ok noMessage
    have typed : HasType runtime m (cell.code runtime x.1.name) (.adapter (storageOf x.1)) :=
      cell_hasType declared fits
    obtain ⟨rest, marks, code⟩ := registration_code_mem mem registers of runtime
    obtain ⟨constructor, codec, call⟩ := exists_cell_code_eq cell runtime x.1.name
    rw [call] at typed code
    exact ⟨constructor, codec, rest, marks, code, typed⟩
  case default =>
    intro kind value given
    obtain ⟨step, storage⟩ := default_of_checkKind on given ok
    obtain ⟨e, code, typed⟩ := assigned_hasType (m := m) storage runtime
    exact ⟨e, code ▸ default_code_mem mem step runtime, .member declared, typed⟩

theorem accepted_sample : Accepted Sample.schema := by
  unfold Accepted
  decide +kernel

theorem emitted_code_hasType_ratio :
    let ratio : DefaultValue := .double (.ofRatio false 1 4)
    Accepted Sample.schema ∧ ∃ x ∈ flagged Sample.config, x.1.name = "ratio" ∧ x.2.registers ∧
      storageOf x.1 = .optional .double ∧ x.2.kind = .scalar .double (some ratio) ∧
      ∃ e, Stmt.assign (selfField "ratio") e ∈
          (Plan.defaultsImpl "::flags" (.ofMessage Sample.config)).method.body ∧
        HasType "::flags" Sample.config e (.storage (.optional .double)) := by
  intro ratio
  have wanted : Sample.config ∈ wantedMessages Sample.schema := by decide +kernel
  obtain ⟨x, mem, name, registers, storage, kind⟩ : ∃ x ∈ flagged Sample.config,
      x.1.name = "ratio" ∧ x.2.registers ∧ storageOf x.1 = .optional .double ∧
        x.2.kind = .scalar .double (some ratio) := by decide +kernel
  obtain ⟨-, -, default⟩ := emitted_code_hasType accepted_sample wanted rfl mem registers "::flags"
  obtain ⟨e, code, -, typed⟩ := default _ _ kind
  exact ⟨accepted_sample, x, mem, name, registers, storage, kind, e, name ▸ code, storage ▸ typed⟩

end FlagBinding.Emit
