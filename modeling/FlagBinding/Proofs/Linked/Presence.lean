import FlagBinding.Emit.Code
import FlagBinding.Linked.Schema
import FlagBinding.Proofs.Checks.Validity
import FlagBinding.Proofs.Emission.Cells
import Mathlib.Data.List.Nodup

/-!
# Values that may be missing

The types of messages come from another generator, which stores some fields as optional values. The
code of a binding has to know which. It agrees with that generator on every field that is not
required. A field that is required and holds a message is taken for an optional value all the same.

## Main definitions

* `Linked.Field.StoresOption`: the rule of the generator of message types.
* `Emit.TreatsAsOption`: a statement that takes a field for an optional value.
* `Emit.EmittedFor`: the statements for a field.
* `Pool.EntriesComplete`: entries of maps with keys and values.

## Main statements

* `Linked.fields_of_mem_messages`: the fields of a message of a schema.
* `Pool.treatsAsOption_iff`: what emitted code takes for an optional value.
* `Pool.treatsAsOption_iff_storesOption`: where that is right.
-/

namespace FlagBinding

namespace Linked

open Descriptor (Edition qualify)
open Options (Record)

variable {ω : Type} {p : Pool} {edition : Edition} {f : Field Record}

/-- The rule by which the generator of message types stores a field as an optional value. -/
def Field.StoresOption (edition : Edition) (f : Field ω) : Prop :=
  f.label ≠ .repeated ∧ (f.proto3Optional ∨
    f.label = .optional ∧ (f.type.messageName?.isSome ∨ edition = .proto2))

/-- The fields that emitted code takes for optional values: a required one counts if it holds a
message. -/
def Field.LoadsOption (edition : Edition) (f : Field ω) : Prop :=
  if f.label = .required then f.type.messageName?.isSome = true else f.StoresOption edition

theorem Field.LoadsOption.singular {f : Field ω} (loads : f.LoadsOption edition) :
    f.label ≠ .repeated := by
  unfold Field.LoadsOption at loads
  split at loads
  case isTrue required => simp [required]
  case isFalse => exact loads.1

/-- Both rules say the same but for required fields: of these the ones that hold a message differ,
and those with a mark for a missing value, unless a field is both. -/
theorem loadsOption_iff_storesOption {f : Field ω} :
    (f.LoadsOption edition ↔ f.StoresOption edition) ↔
    (f.label = .required → f.type.messageName?.isSome = f.proto3Optional) := by
  by_cases required : f.label = .required
  · have stores : f.StoresOption edition ↔ f.proto3Optional := by
      simp [Field.StoresOption, required]
    simp only [Field.LoadsOption, stores, required, if_true, true_implies, Bool.coe_iff_coe]
  · simp [Field.LoadsOption, required]

/-! ## The messages of a schema -/

mutual

/-- A message of a schema comes from a linked message of its full name. -/
theorem exists_listing_of_mem_messagesOf {scope : String} {path : List String}
    {n : Schema.Message} :
    ∀ {m : Message Record}, n ∈ messagesOf p edition scope path m →
      ∃ l ∈ m.listing scope, l.1 = n.fullName ∧ n.fields = l.2.fields.map (fieldOf p edition)
  | ⟨name, isMapEntry, fields, nested, options⟩, mem => by
    rw [messagesOf] at mem
    rw [Message.listing]
    rcases List.mem_cons.1 mem with rfl | mem
    · exact ⟨_, List.mem_cons_self, rfl, rfl⟩
    · obtain ⟨l, listed, same⟩ := exists_listing_of_mem_nestedMessagesOf mem
      exact ⟨l, List.mem_cons_of_mem _ listed, same⟩

theorem exists_listing_of_mem_nestedMessagesOf {scope : String} {path : List String}
    {n : Schema.Message} :
    ∀ {ms : List (Message Record)}, n ∈ nestedMessagesOf p edition scope path ms →
      ∃ l ∈ Message.listingOfAll scope ms, l.1 = n.fullName ∧
        n.fields = l.2.fields.map (fieldOf p edition)
  | [], mem => by simp [nestedMessagesOf] at mem
  | m :: ms, mem => by
    rw [nestedMessagesOf] at mem
    rw [Message.listingOfAll]
    rcases List.mem_append.1 mem with mem | mem
    · split at mem
      case isTrue => simp at mem
      case isFalse =>
        obtain ⟨l, listed, same⟩ := exists_listing_of_mem_messagesOf mem
        exact ⟨l, List.mem_append_left _ listed, same⟩
    · obtain ⟨l, listed, same⟩ := exists_listing_of_mem_nestedMessagesOf mem
      exact ⟨l, List.mem_append_right _ listed, same⟩

end

theorem listingOfAll_eq_flatMap (scope : String) (ms : List (Message ω)) :
    Message.listingOfAll scope ms = ms.flatMap (·.listing scope) := by
  induction ms with
  | nil => rfl
  | cons m ms ih => rw [Message.listingOfAll, ih, List.flatMap_cons]

/-- The message of a schema that a linked message becomes has the fields of the latter. -/
theorem fields_of_mem_messages {wanted : List String} {file : File Record} (mem : file ∈ p.files)
    {m : Schema.Message} (declared : m ∈ (fileOf p wanted file).messages)
    {l : String × Message Record} (listed : l ∈ file.listing) (same : l.1 = m.fullName) :
    m.fields = l.2.fields.map (fieldOf p file.edition) := by
  obtain ⟨top, mem', under⟩ := List.mem_flatMap.1 declared
  obtain ⟨l', listed', same', fields⟩ := exists_listing_of_mem_messagesOf under
  have listed' : l' ∈ file.listing := by
    rw [File.listing, listingOfAll_eq_flatMap]
    exact List.mem_flatMap.2 ⟨top, mem', listed'⟩
  have distinct : file.names.Nodup := (List.nodup_flatMap.1 p.distinct).1 file mem
  have : l' = l := List.inj_on_of_nodup_map distinct listed' listed (same'.trans same.symm)
  rw [fields, this]

/-! ## Loaded fields -/

/-- The entries of a field that is a map have a key and a value. -/
def EntryComplete (p : Pool) (f : Field Record) : Prop :=
  ∀ entry, entryMessage? p f = some entry → (entryTypes? entry).isSome

theorem isSingular_fieldOf_iff (complete : EntryComplete p f) :
    (fieldOf p edition f).isSingular ↔ f.label ≠ .repeated := by
  cases entry : entryMessage? p f with
  | none => simp [Schema.Field.isSingular, fieldOf, entry]
  | some e =>
    obtain ⟨types, found⟩ := Option.isSome_iff_exists.1 (complete e entry)
    have repeated : f.label = .repeated := by
      by_contra other
      simp [entryMessage?, other] at entry
    simp [Schema.Field.isSingular, fieldOf, entry, found, repeated]

/-- A field that stands by itself has a value of its own type that may be missing unless the field
is required or its edition has no such values. -/
theorem isOptional_iff (alone : groupOf f = none) : isOptional edition f ↔
    f.type.messageName? = none ∧ f.label ≠ .repeated ∧ f.label ≠ .required ∧
      (f.proto3Optional ∨ edition = .proto2) := by
  have oneof : f.proto3Optional = false → f.oneof = none := by
    intro plain
    simpa [groupOf, plain] using alone
  simp only [isOptional, Field.hasPresence, alone]
  cases proto3 : f.proto3Optional <;> cases f.type.messageName? <;> simp_all <;> tauto

theorem toSchema_eq_message_iff {type : FieldType} :
    (∃ message, type.toSchema = .message message) ↔ type.messageName?.isSome := by
  cases type <;> simp [FieldType.toSchema, FieldType.messageName?]

end Linked

namespace Emit

open Schema Target

/-- A statement that takes a field for an optional value: it puts a cell for such values around the
field, creates the message in it if there is none, or assigns something that is there. -/
inductive TreatsAsOption (runtime field : String) : Stmt → Prop
  | cell {name : Expr} {codec rest : List Expr} {marks : List Stmt} : TreatsAsOption runtime field
      (.block (.define "name" name :: onFlags "var"
        (.call (inRuntime runtime "Optional::new") (.borrow true (selfField field) :: codec) ::
          rest) ::
          marks))
  | nested {rest : List Expr} : TreatsAsOption runtime field
      (.run (.propagate (.call (inRuntime runtime "Bind::bind") (nestedMessage field :: rest))))
  | nestedDefaults : TreatsAsOption runtime field
      (.run (.call (inRuntime runtime "SetDefaults::set_defaults") [nestedMessage field]))
  | assigned {e : Expr} : TreatsAsOption runtime field (.assign (selfField field) (present e))

/-- The statements that the two functions of a message have for a field. -/
inductive EmittedFor (runtime : String) (f : Field) : Stmt → Prop
  | bind {flags : FieldFlags} {step : BindStep} (has : f.flags = some flags)
      (of : BindStep.of? f flags = some step) : EmittedFor runtime f (step.code runtime)
  | default {flags : FieldFlags} {step : DefaultStep} (has : f.flags = some flags)
      (of : DefaultStep.of? f flags = some step) : EmittedFor runtime f (step.code runtime)

variable {runtime : String}

theorem inRuntime_inj {a b : String} (same : inRuntime runtime a = inRuntime runtime b) :
    a = b := by
  simpa [inRuntime] using same

/-- The code of a cell for optional values is told apart by the name of its constructor. -/
theorem cell_code_eq_optional_iff {cell : CellTerm} {field : String} :
    (∃ args, cell.code runtime field = .call (inRuntime runtime "Optional::new") args) ↔
      ∃ codec, cell = .optional codec := by
  constructor
  · rintro ⟨args, same⟩
    cases cell <;> simp only [CellTerm.code, Expr.call.injEq] at same
    case optional codec => exact ⟨codec, rfl⟩
    all_goals exact absurd (inRuntime_inj same.1) (by decide)
  · rintro ⟨codec, rfl⟩
    exact ⟨_, rfl⟩

theorem treatsAsOption_register_iff {r : Registration} :
    TreatsAsOption runtime r.field (r.code runtime) ↔ ∃ codec, r.cell = .optional codec := by
  constructor
  · generalize code : r.code runtime = stmt
    rintro (_ | _ | _ | _) <;> simp [Registration.code, onFlags] at code
    exact cell_code_eq_optional_iff.1 ⟨_, code.2.1.1⟩
  · rintro ⟨codec, same⟩
    rw [Registration.code, same]
    exact .cell

theorem treatsAsOption_assign_iff {field : String} {mayBeMissing : Bool} {value : DefaultValue} :
    TreatsAsOption runtime field ((DefaultStep.assign field mayBeMissing value).code runtime) ↔
      mayBeMissing := by
  cases mayBeMissing with
  | true => exact iff_of_true .assigned rfl
  | false =>
    refine iff_of_false ?_ Bool.false_ne_true
    generalize code : (DefaultStep.assign field false value).code runtime = stmt
    rintro (_ | _ | _ | _) <;> simp [DefaultStep.code, present] at code

end Emit

namespace Linked

open Descriptor (Edition)
open Options (Record)
open Schema Emit Check

variable {p : Pool} {edition : Edition} {f : Field Record} {s : Schema}

theorem isSome_messageName?_of_wellKnown? {type : FieldType} {known : WellKnown}
    (holds : type.toSchema.wellKnown? = some known) : type.messageName?.isSome := by
  rw [← toSchema_eq_message_iff]
  cases same : type.toSchema with
  | message m => exact ⟨m, rfl⟩
  | _ => simp [same, Schema.FieldType.wellKnown?] at holds

/-- A single value is taken for an optional one if the field stands by itself and does not hold a
message that has to be nested. -/
theorem loadsOption_iff (alone : groupOf f = none) (singular : f.label ≠ .repeated) :
    f.LoadsOption edition ↔ isOptional edition f ∨ f.type.messageName?.isSome := by
  rw [isOptional_iff alone, Field.LoadsOption, Field.StoresOption]
  cases f.type.messageName? <;> cases label : f.label <;> simp_all

theorem mayBeMissing_fieldOf_iff (alone : groupOf f = none) (singular : f.label ≠ .repeated)
    (known : f.type.messageName?.isSome → f.type.toSchema.wellKnown?.isSome) :
    CellTerm.mayBeMissing (fieldOf p edition f) ↔ f.LoadsOption edition := by
  have message : f.type.toSchema.wellKnown?.isSome ↔ f.type.messageName?.isSome := by
    refine ⟨fun present => ?_, known⟩
    obtain ⟨w, holds⟩ := Option.isSome_iff_exists.1 present
    exact isSome_messageName?_of_wellKnown? holds
  rw [loadsOption_iff alone singular, ← message, CellTerm.mayBeMissing, Bool.or_eq_true]
  rfl

end Linked

namespace Emit

open Schema Check

variable {s : Schema} {f : Field} {kind : FlagKind}

theorem exists_single_eq_optional_iff {codec : CodecTerm} :
    (∃ c, CellTerm.single f codec = .optional c) ↔ CellTerm.mayBeMissing f := by
  unfold CellTerm.single
  split <;> simp_all

/-- The cell of a checked field is for an optional value if the field has one value, which may be
missing. -/
theorem exists_cell_eq_optional_iff (fits : Check.Fits s f kind) {cell : CellTerm}
    (of : CellTerm.ofKind? f kind = some cell) :
    (∃ codec, cell = .optional codec) ↔ f.isSingular ∧ CellTerm.mayBeMissing f := by
  cases kind with
  | scalar kind default =>
    obtain rfl := Option.some.inj of
    simp [exists_single_eq_optional_iff, fits.1]
  | bytes encoding =>
    obtain rfl := Option.some.inj of
    simp [exists_single_eq_optional_iff, fits.1]
  | enumeration default =>
    obtain ⟨codec, -, rfl⟩ := Option.map_eq_some_iff.1 of
    simp [exists_single_eq_optional_iff, fits.1]
  | duration =>
    obtain rfl := Option.some.inj of
    simp [exists_single_eq_optional_iff, fits.1]
  | timestamp formats =>
    obtain rfl := Option.some.inj of
    simp [exists_single_eq_optional_iff, fits.1]
  | map format =>
    obtain ⟨entry, isMap, -⟩ := fits
    obtain rfl := Option.some.inj of
    cases format <;> simp [CellTerm.ofMap, Field.isSingular, isMap]
  | repeated element =>
    have plural : ¬ f.isSingular := by simp [Field.isSingular, fits.1]
    refine iff_of_false ?_ fun h => plural h.1
    rintro ⟨codec, rfl⟩
    cases element <;> simp [CellTerm.ofKind?, CellTerm.ofElement?] at of
  | message nested => cases of
  | unknown name => cases of

/-- A single message that is no record to be nested is a well-known one. -/
theorem isSome_wellKnown?_of_fits (fits : Check.Fits s f kind) (singular : f.isSingular)
    (noMessage : ∀ nested, kind ≠ .message nested) {m : MessageType} (holds : f.type = .message m) :
    f.type.wellKnown?.isSome := by
  cases kind with
  | scalar kind default =>
    rcases fits.2.1 with plain | ⟨-, known⟩
    · simp [holds] at plain
    · simp [known]
  | bytes encoding =>
    rcases fits.2.1 with plain | known
    · simp [holds] at plain
    · simp [known]
  | enumeration default =>
    obtain ⟨-, e, type, -⟩ := fits
    simp [holds] at type
  | duration => simp [fits.2]
  | timestamp formats => simp [fits.2.1]
  | map format =>
    obtain ⟨entry, isMap, -⟩ := fits
    simp [Field.isSingular, isMap] at singular
  | repeated element => simp [Field.isSingular, fits.1] at singular
  | message nested => exact absurd rfl (noMessage nested)
  | unknown name => exact fits.elim

end Emit

namespace Linked

open Descriptor (Edition)
open Options (Record)
open Schema Emit Check

variable {p : Pool} {edition : Edition} {f : Field Record} {s : Schema} {runtime : String}

/-- A field that nests a message has been loaded as an optional one. -/
theorem loadsOption_of_nests (complete : EntryComplete p f) {flags : FieldFlags}
    (valid : ValidOptions s (fieldOf p edition f) flags) (nests : flags.nests) :
    f.LoadsOption edition := by
  obtain ⟨on, kind⟩ := nests_iff.1 nests
  have fits := valid.fits on
  rw [kind] at fits
  obtain ⟨singular, message, -, holds, -⟩ := fits rfl
  exact (loadsOption_iff valid.alone ((isSingular_fieldOf_iff complete).1 singular)).2
    (.inr (toSchema_eq_message_iff.1 ⟨message, holds⟩))

/-- The single value of a field that registers a flag may be missing if it has been loaded so. -/
theorem mayBeMissing_iff_loadsOption (complete : EntryComplete p f) {flags : FieldFlags}
    (valid : ValidOptions s (fieldOf p edition f) flags) (registers : flags.registers)
    (singular : (fieldOf p edition f).isSingular) :
    CellTerm.mayBeMissing (fieldOf p edition f) ↔ f.LoadsOption edition := by
  obtain ⟨on, noMessage⟩ := registers_iff.1 registers
  refine mayBeMissing_fieldOf_iff valid.alone ((isSingular_fieldOf_iff complete).1 singular) ?_
  intro message
  obtain ⟨m, holds⟩ := toSchema_eq_message_iff.2 message
  exact isSome_wellKnown?_of_fits (valid.fits on) singular noMessage holds

/-- What a field with valid options is taken for. -/
theorem treatsAsOption_iff_loadsOption (complete : EntryComplete p f)
    (valid : ∀ flags, (fieldOf p edition f).flags = some flags →
      ValidOptions s (fieldOf p edition f) flags)
    {stmt : Target.Stmt} (emitted : EmittedFor runtime (fieldOf p edition f) stmt) :
    TreatsAsOption runtime f.name stmt ↔ f.LoadsOption edition := by
  cases emitted with
  | @bind flags step has of =>
    cases step with
    | register r =>
      obtain ⟨registers, of⟩ := bindStep_eq_register_iff.1 of
      obtain ⟨cell, name, -⟩ := registration_of? of
      have fits := (valid flags has).fits (registers_iff.1 registers).1
      have missing := mayBeMissing_iff_loadsOption complete (valid flags has) registers
      have name : f.name = r.field := name.symm
      rw [BindStep.code, name, treatsAsOption_register_iff, exists_cell_eq_optional_iff fits cell]
      constructor
      · exact fun ⟨singular, optional⟩ => (missing singular).1 optional
      · intro loads
        have singular : (fieldOf p edition f).isSingular :=
          (isSingular_fieldOf_iff complete).2 loads.singular
        exact ⟨singular, (missing singular).2 loads⟩
    | nest field segment target =>
      obtain ⟨nests, rfl, -, -⟩ := bindStep_eq_nest_iff.1 of
      exact iff_of_true .nested (loadsOption_of_nests complete (valid flags has) nests)
  | @default flags step has of =>
    cases step with
    | assign field mayBeMissing value =>
      obtain ⟨on, ⟨kind, scalar, -⟩, rfl, rfl⟩ := defaultStep_eq_assign_iff.1 of
      have fits := (valid flags has).fits on
      rw [scalar] at fits
      obtain ⟨singular, holds, -⟩ := fits
      have registers : flags.registers := registers_iff.2 ⟨on, by simp [scalar]⟩
      have name : f.name = (fieldOf p edition f).name := rfl
      rw [name, treatsAsOption_assign_iff, Binding.scalarMayBeMissing_eq (holdsKind_iff.2 holds)]
      exact mayBeMissing_iff_loadsOption complete (valid flags has) registers singular
    | nest field target =>
      obtain ⟨nests, rfl, -⟩ := defaultStep_eq_nest_iff.1 of
      exact iff_of_true .nestedDefaults (loadsOption_of_nests complete (valid flags has) nests)

end Linked

namespace Pool

open Options (Record)
open Schema Linked Emit Check

/-- The code for a field of a message that is not disabled takes it for an optional value just as it
has been loaded. That is how the generator of message types stores the field, if and only if it is
not a required field that holds a message (or else has a mark for a missing value). -/
theorem treatsAsOption_iff {p : Pool} {wanted : List String} (accepted : Accepted (p.schema wanted))
    {file : File Record} (mem : file ∈ p.files) (generated : file.name ∈ wanted)
    {m : Schema.Message} (declared : m ∈ (fileOf p wanted file).messages)
    (enabled : m.disabled = false)
    {l : String × Linked.Message Record} (listed : l ∈ file.listing) (same : l.1 = m.fullName)
    {f : Linked.Field Record} (field : f ∈ l.2.fields) (complete : EntryComplete p f)
    {runtime : String} {stmt : Target.Stmt}
    (emitted : EmittedFor runtime (fieldOf p file.edition f) stmt) :
    fieldOf p file.edition f ∈ m.fields ∧
      (TreatsAsOption runtime f.name stmt ↔ f.LoadsOption file.edition) ∧
      ((TreatsAsOption runtime f.name stmt ↔ f.StoresOption file.edition) ↔
        (f.label = .required → f.type.messageName?.isSome = f.proto3Optional)) := by
  have fields := fields_of_mem_messages mem declared listed same
  have held : fieldOf p file.edition f ∈ m.fields := fields ▸ List.mem_map_of_mem field
  have generate : (fileOf p wanted file).generate := by simpa [fileOf] using generated
  have file' : fileOf p wanted file ∈ (p.schema wanted).wanted :=
    List.mem_filter.2 ⟨List.mem_map_of_mem mem, generate⟩
  have passes := accepted.passes (List.mem_flatMap.2 ⟨_, file', declared⟩) enabled
  have loads := treatsAsOption_iff_loadsOption complete
    (fun flags has => checkField_eq_ok_iff.1
      (passes.fields (_, flags) (mem_flagged_iff.2 ⟨held, has⟩)))
    emitted
  exact ⟨held, loads, by rw [loads, loadsOption_iff_storesOption]⟩

def legacyOptions (kind : String) (members : Record) : Record :=
  [(⟨"flags.field", 1000, none⟩, .record
    [(⟨kind, 15, some "kind"⟩, .record ((⟨"usage", 3, none⟩, .text "what it is") :: members))])]

/-- A required duration. -/
def timeoutField : Linked.Field Record where
  name := "timeout"
  number := 1
  label := .required
  type := .message "google.protobuf.Duration"
  oneof := none
  proto3Optional := false
  options := legacyOptions "duration" []

/-- A ratio that may be missing, with a default. -/
def ratioField : Linked.Field Record where
  name := "ratio"
  number := 2
  label := .optional
  type := .scalar .double
  oneof := none
  proto3Optional := false
  options := legacyOptions "double" [(⟨"default", 4, none⟩, .plain (.double (.ofRatio false 1 4)))]

def legacyFile : Linked.File Record :=
  ⟨"legacy.proto", "demo", .proto2, [⟨"Job", false, [timeoutField, ratioField], [], []⟩]⟩

def legacyPool : Pool where
  files := [legacyFile]
  extensions := [⟨"flags.field", "google.protobuf.FieldOptions", .proto3,
    { name := "field", number := 1000, label := .optional, type := .message "flags.FieldFlags"
      oneof := none, proto3Optional := false, options := () }⟩]
  distinct := by decide

def legacyMessage : Schema.Message where
  name := "Job"
  fullName := "demo.Job"
  path := ["Job"]
  disabled := false
  fields := [fieldOf legacyPool .proto2 timeoutField, fieldOf legacyPool .proto2 ratioField]

theorem accepted_legacy : Accepted (legacyPool.schema ["legacy.proto"]) := by
  unfold Accepted
  decide +kernel

theorem legacyMessage_declared :
    legacyMessage ∈ (fileOf legacyPool ["legacy.proto"] legacyFile).messages :=
  List.mem_singleton.2 rfl

theorem treatsAsOption_iff_ratio :
    Accepted (legacyPool.schema ["legacy.proto"]) ∧
      EmittedFor "::flags" (fieldOf legacyPool .proto2 ratioField)
        ((DefaultStep.assign "ratio" true (.double (.ofRatio false 1 4))).code "::flags") ∧
      TreatsAsOption "::flags" "ratio"
        ((DefaultStep.assign "ratio" true (.double (.ofRatio false 1 4))).code "::flags") ∧
      ratioField.StoresOption .proto2 := by
  have emitted : EmittedFor "::flags" (fieldOf legacyPool .proto2 ratioField)
      ((DefaultStep.assign "ratio" true (.double (.ofRatio false 1 4))).code "::flags") :=
    .default rfl (by decide +kernel)
  have complete : EntryComplete legacyPool ratioField := fun entry found => by cases found
  obtain ⟨-, -, agree⟩ := treatsAsOption_iff accepted_legacy (List.mem_singleton.2 rfl)
    (List.mem_singleton.2 rfl) legacyMessage_declared rfl (List.mem_singleton.2 rfl) rfl
    (List.mem_cons_of_mem _ (List.mem_singleton.2 rfl)) complete emitted
  have treated : TreatsAsOption "::flags" "ratio"
      ((DefaultStep.assign "ratio" true (.double (.ofRatio false 1 4))).code "::flags") := .assigned
  exact ⟨accepted_legacy, emitted, treated, (agree.2 nofun).1 treated⟩

/-- The duration is stored as it is, but the adapter around it is one for optional values. -/
theorem not_treatsAsOption_iff_storesOption :
    ¬ ∀ (p : Pool) (wanted : List String), Accepted (p.schema wanted) → ∀ file ∈ p.files,
      file.name ∈ wanted → ∀ m ∈ (fileOf p wanted file).messages, m.disabled = false →
      ∀ l ∈ file.listing, l.1 = m.fullName → ∀ f ∈ l.2.fields, EntryComplete p f →
      ∀ runtime stmt, EmittedFor runtime (fieldOf p file.edition f) stmt →
        (TreatsAsOption runtime f.name stmt ↔ f.StoresOption file.edition) := by
  intro all
  have complete : EntryComplete legacyPool timeoutField := fun entry found => by cases found
  obtain ⟨flags, r, has, step, name, cell⟩ : ∃ flags r,
      (fieldOf legacyPool .proto2 timeoutField).flags = some flags ∧
        BindStep.of? (fieldOf legacyPool .proto2 timeoutField) flags = some (.register r) ∧
        r.field = "timeout" ∧ r.cell = .optional .duration := ⟨_, _, rfl, rfl, rfl, rfl⟩
  have treated : TreatsAsOption "::flags" "timeout" (r.code "::flags") :=
    name ▸ treatsAsOption_register_iff.2 ⟨_, cell⟩
  have stored :=
    (all legacyPool ["legacy.proto"] accepted_legacy legacyFile (List.mem_singleton.2 rfl)
      (List.mem_singleton.2 rfl) legacyMessage legacyMessage_declared rfl _
      (List.mem_singleton.2 rfl) rfl timeoutField List.mem_cons_self complete "::flags" _
      (.bind has step)).1 treated
  rcases stored.2 with mark | ⟨label, -⟩
  · cases mark
  · cases label

end Pool

end FlagBinding
