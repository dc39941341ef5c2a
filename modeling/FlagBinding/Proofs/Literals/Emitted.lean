import FlagBinding.Proofs.Emission.Blocks
import FlagBinding.Proofs.Literals.Legal
import FlagBinding.Proofs.Literals.Quoted

/-!
# The literals of generated files

What the options of a schema say stands in literals of the generated code, and so do the names of
enumeration types and of their values. Whatever characters there are in them, a generated file has
these literals, with these values, and no others.

## Main definitions

* `fieldLiterals`: what the options of a field put into code.
* `PlainMessage`, `PlainFile`: messages and files whose names are those of a schema.

## Main statements

* `has_bindImpl`, `has_defaultsImpl`: the literals of the implementations for a message.
* `literals_compile`: the literals of generated files.
-/

namespace FlagBinding.Emit

open Schema Target Check

/-! ## What options say -/

def typeLiterals : FieldType → List Literal
  | .enumeration type => .text type.name :: type.values.map fun v => .text v.name
  | _ => []

/-- What a kind of flag puts into code. -/
def kindLiterals (f : Field) : FlagKind → List Literal
  | .enumeration _ => typeLiterals f.type
  | .timestamp formats => formats.map .text
  | .repeated .enumeration => typeLiterals f.type
  | .repeated (.timestamp formats) => formats.map .text
  | _ => []

/-- What the options of a field put into code: for a flag, its name, what its kind says, its
alias, its usage and the hint for a deprecated flag, and for a nested message the part of names
below it. -/
def fieldLiterals (f : Field) : List Literal :=
  match f.flags with
  | none => []
  | some flags =>
    if flags.common.disabled then []
    else match flags.kind with
      | .message true => [.text (f.flagName flags)]
      | .message false => []
      | kind => [.text (f.flagName flags)] ++ kindLiterals f kind ++
          (flags.common.short.toList.flatMap fun s => s.toList.map .character) ++
          [.text flags.common.usage] ++
          if flags.common.deprecated then [.text flags.common.deprecatedUsage] else []

/-! ## Expressions -/

variable {name runtime : String}

theorem has_inRuntime (plain : IsPlain runtime) (isPlain : IsPlain name) :
    (inRuntime runtime name).Has [] :=
  .path ((plain.append (by decide)).append isPlain)

theorem has_text (s : String) : (text s).Has [.text s] :=
  .literal (moves_textLiteral s)

theorem hasAll_map {α : Type} {g : α → Expr} {value : α → Literal} (each : ∀ a, (g a).Has [value a])
    (l : List α) : Expr.HasAll (l.map g) (l.map value) := by
  induction l with
  | nil => exact .nil
  | cons a l ih => exact .cons (each a) ih

theorem has_enumEntry (v : EnumValue) : (enumEntry v).Has [.text v.name] := by
  have number : (Expr.literal (Number.decimal v.number.toInt ++ "i32")).Has [] :=
    .literal (moves_of_isPlain ((isPlain_decimal _).append (by decide)))
  exact .tuple (.cons (has_text v.name) (.cons number .nil))

def CodecTerm.literals : CodecTerm → List Literal
  | .enumeration type => typeLiterals (.enumeration type)
  | .timestamp formats => formats.map .text
  | _ => []

def CellTerm.literals : CellTerm → List Literal
  | .plain codec | .optional codec | .repeated codec | .stringMap codec => codec.literals
  | .jsonMap => []

theorem CodecTerm.has_code (plain : IsPlain runtime) (codec : CodecTerm) :
    (codec.code runtime).Has codec.literals := by
  cases codec with
  | scalar carrier =>
    have name : IsPlain ("codec::" ++ carrier.codecName) := by cases carrier <;> decide
    exact has_inRuntime plain name
  | base64 => exact has_inRuntime plain (by decide)
  | hex => exact has_inRuntime plain (by decide)
  | duration => exact has_inRuntime plain (by decide)
  | enumeration type =>
    have values : (Expr.borrow false (.array (type.values.map enumEntry))).Has
        (type.values.map fun v => .text v.name) :=
          .borrow (.array (hasAll_map has_enumEntry type.values))
    have new : (inRuntime runtime "codec::Enum::new").Has [] := has_inRuntime plain (by decide)
    have call := Expr.Has.call new (.cons (has_text type.name) (.cons values .nil))
    rw [List.append_nil] at call
    exact call
  | timestamp formats =>
    have texts : (Expr.borrow false (.array (formats.map text))).Has (formats.map .text) :=
      .borrow (.array (hasAll_map has_text formats))
    have new : (inRuntime runtime "codec::Timestamp::new").Has [] := has_inRuntime plain (by decide)
    have call := Expr.Has.call new (.cons texts .nil)
    rw [List.append_nil] at call
    exact call

theorem CellTerm.has_code (plain : IsPlain runtime) (named : IsName name) (cell : CellTerm) :
    (cell.code runtime name).Has cell.literals := by
  have target : (Expr.borrow true (selfField name)).Has [] :=
    .borrow (.field (.path (by decide)) (isPlain_fieldName named))
  have around (cellName : String) (isPlain : IsPlain (cellName ++ "::new")) (codec : CodecTerm) :
      (Expr.call (inRuntime runtime (cellName ++ "::new"))
        [.borrow true (selfField name), codec.code runtime]).Has codec.literals := by
    have call :=
      Expr.Has.call (has_inRuntime plain isPlain) (.cons target (.cons (codec.has_code plain) .nil))
    simpa using call
  cases cell with
  | plain codec => exact around "Plain" (by decide) codec
  | optional codec => exact around "Optional" (by decide) codec
  | repeated codec => exact around "Repeated" (by decide) codec
  | stringMap codec => exact around "StringMap" (by decide) codec
  | jsonMap => exact .call (has_inRuntime plain (by decide)) (.cons target .nil)

/-- A cell puts into code what its kind says. -/
theorem literals_of_ofKind? {f : Field} {kind : FlagKind} {cell : CellTerm}
    (of : CellTerm.ofKind? f kind = some cell) : cell.literals = kindLiterals f kind := by
  have single_ (codec : CodecTerm) : (CellTerm.single f codec).literals = codec.literals := by
    unfold CellTerm.single
    split <;> rfl
  have bytes (encoding : BytesEncoding) : (CodecTerm.ofEncoding encoding).literals = [] := by
    cases encoding <;> rfl
  have enumeration {codec : CodecTerm} (of : CellTerm.enumerationOf? f.type = some codec) :
      codec.literals = typeLiterals f.type := by
    unfold CellTerm.enumerationOf? at of
    split at of
    case h_1 type typed =>
      obtain rfl := Option.some.inj of
      rw [typed]
      rfl
    case h_2 => cases of
  cases kind with
  | scalar | duration | timestamp =>
    obtain rfl := Option.some.inj of
    exact single_ _
  | bytes encoding =>
    obtain rfl := Option.some.inj of
    exact (single_ _).trans (bytes encoding)
  | enumeration =>
    obtain ⟨codec, typed, rfl⟩ := Option.map_eq_some_iff.1 of
    exact (single_ _).trans (enumeration typed)
  | map format =>
    have integers : (CellTerm.integersOf f).literals = [] := by
      unfold CellTerm.integersOf
      split <;> rfl
    obtain rfl := Option.some.inj of
    cases format with
    | textToInteger => exact integers
    | _ => rfl
  | repeated element =>
    cases element with
    | scalar | duration | timestamp =>
      obtain rfl := Option.some.inj of
      rfl
    | bytes encoding =>
      obtain rfl := Option.some.inj of
      exact bytes encoding
    | enumeration =>
      obtain ⟨codec, typed, rfl⟩ := Option.map_eq_some_iff.1 of
      exact enumeration typed
    | unknown => cases of
  | message => cases of
  | unknown => cases of

/-! ## Statements -/

def Registration.literals (r : Registration) : List Literal :=
  [.text r.flag] ++ r.cell.literals ++ r.short.toList.map .character ++ [.text r.usage] ++
    r.deprecation.toList.map .text

theorem has_nameExpr : nameExpr.Has [] :=
  .borrow (.path (by decide))

theorem has_onFlags {method : String} {args : List Expr} {found : List Literal}
    (plain : IsPlain method) (args_ : Expr.HasAll args found) : (onFlags method args).Has found :=
  .run (.propagate (.method (.path (by decide)) plain args_))

theorem has_present {e : Expr} {found : List Literal} (h : e.Has found) :
    (present e).Has found := by
  have call :=
    Expr.Has.call (.path (by decide : IsPlain "::core::option::Option::Some")) (.cons h .nil)
  rw [List.append_nil] at call
  exact call

theorem has_shortExpr (short : Option Char) :
    (shortExpr short).Has (short.toList.map .character) := by
  cases short with
  | none => exact .path (by decide)
  | some c => exact has_present (.literal (moves_character c))

theorem Registration.has_code (plain : IsPlain runtime) {r : Registration}
    (named : IsName r.field) : (r.code runtime).Has r.literals := by
  have define :
      (Stmt.define "name" (.method (.path "names") "build" [text r.flag])).Has [.text r.flag] :=
    .define (by decide) (.method (.path (by decide)) (by decide) (.cons (has_text _) .nil))
  have var :
      (onFlags "var" [r.cell.code runtime r.field, nameExpr, shortExpr r.short, text r.usage]).Has
      (r.cell.literals ++ ([] ++ (r.short.toList.map .character ++ ([.text r.usage] ++ [])))) :=
    has_onFlags (by decide) (.cons (r.cell.has_code plain named) (.cons has_nameExpr
      (.cons (has_shortExpr _) (.cons (has_text _) .nil))))
  have hide : Stmt.HasAll (if r.hidden then [onFlags "mark_hidden" [nameExpr]] else []) [] := by
    split
    · exact .cons (has_onFlags (by decide) (.cons has_nameExpr .nil)) .nil
    · exact .nil
  have warn (hint : String) : (onFlags "mark_deprecated" [nameExpr, text hint]).Has [.text hint] :=
    has_onFlags (by decide) (.cons has_nameExpr (.cons (has_text hint) .nil))
  have body := (Stmt.HasAll.cons define (.cons var .nil)).append hide
  cases hint? : r.deprecation with
  | none =>
    rw [Registration.code, Registration.literals, hint?]
    simpa using Stmt.Has.block body
  | some hint =>
    rw [Registration.code, Registration.literals, hint?]
    simpa using Stmt.Has.block (body.append (.cons (warn hint) .nil))

def BindStep.literals : BindStep → List Literal
  | .register r => r.literals
  | .nest _ segment _ => [.text segment]

def BindStep.field : BindStep → String
  | .register r => r.field
  | .nest field _ _ => field

theorem has_nestedMessage (named : IsName name) : (nestedMessage name).Has [] :=
  .method (.field (.path (by decide)) (isPlain_fieldName named)) (by decide)
    (.cons (.path (by decide)) .nil)

theorem BindStep.has_code (plain : IsPlain runtime) {s : BindStep} (named : IsName s.field) :
    (s.code runtime).Has s.literals := by
  cases s with
  | register r => exact Registration.has_code plain named
  | nest field segment target =>
    have names :
        (Expr.borrow false (.method (.path "names") "nested" [text segment])).Has [.text segment] :=
      .borrow (.method (.path (by decide)) (by decide) (.cons (has_text segment) .nil))
    exact .run (.propagate (.call (has_inRuntime plain (by decide))
      (.cons (has_nestedMessage named) (.cons (.path (by decide)) (.cons names .nil)))))

/-- The steps of a message have the literals of its fields. -/
theorem hasAll_steps (plain : IsPlain runtime) {steps : List BindStep}
    (named : ∀ s ∈ steps, IsName s.field) :
    Stmt.HasAll (steps.map (BindStep.code runtime)) (steps.flatMap BindStep.literals) := by
  induction steps with
  | nil => exact .nil
  | cons s steps ih =>
    rw [List.forall_mem_cons] at named
    exact .cons (BindStep.has_code plain named.1) (ih named.2)

def DefaultStep.field : DefaultStep → String
  | .assign field _ _ => field
  | .nest field _ => field

/-- Defaults are no texts. -/
theorem DefaultStep.has_code (plain : IsPlain runtime) {s : DefaultStep} (named : IsName s.field) :
    (s.code runtime).Has [] := by
  cases s with
  | assign field mayBeMissing value =>
    have literal : (Expr.literal (bareLiteral value)).Has [] :=
      .literal (moves_of_isPlain (isPlain_bareLiteral value))
    have target : (selfField field).Has [] := .field (.path (by decide)) (isPlain_fieldName named)
    cases mayBeMissing with
    | false => exact .assign target literal
    | true => exact .assign target (has_present literal)
  | nest field target =>
    exact .run (.call (has_inRuntime plain (by decide)) (.cons (has_nestedMessage named) .nil))

theorem hasAll_defaults (plain : IsPlain runtime) {steps : List DefaultStep}
    (named : ∀ s ∈ steps, IsName s.field) :
    Stmt.HasAll (steps.map (DefaultStep.code runtime)) [] := by
  induction steps with
  | nil => exact .nil
  | cons s steps ih =>
    rw [List.forall_mem_cons] at named
    exact Stmt.HasAll.cons (DefaultStep.has_code plain named.1) (ih named.2)

/-! ## The implementations for a message -/

/-- A message whose names are those of a schema. -/
structure PlainMessage (m : Message) : Prop where
  fullName : IsLine m.fullName
  path : ∀ name ∈ m.path, IsName name
  fields : ∀ f ∈ m.fields, IsName f.name

variable {m : Message} {s : Schema}

theorem isLine_note {o : Omission} {f : Field} {flags : FieldFlags}
    (of : Omission.of? f flags = some o) (named : IsName f.name) : IsLine o.note := by
  have line := isLine_of_isName named
  have tick : IsLine "\x60" := by decide
  unfold Omission.of? at of
  split at of
  case isTrue =>
    obtain rfl := Option.some.inj of
    exact (tick.append line).append (by decide)
  case isFalse =>
    split at of
    · obtain rfl := Option.some.inj of
      exact (tick.append line).append (by decide)
    · cases of

/-- The documentation of a function stays on its lines. -/
theorem isLine_docs (named : PlainMessage m) : ∀ doc ∈ (Plan.ofMessage m).docs, IsLine doc := by
  have first : IsLine (" Registers the flags of \x60" ++ m.fullName ++ "\x60.") :=
    (IsLine.append (by decide) named.fullName).append (by decide)
  have notes : ∀ t ∈ (Plan.ofMessage m).omissions.map Omission.note, IsLine t := by
    intro t mem
    obtain ⟨o, listed, rfl⟩ := List.mem_map.1 mem
    obtain ⟨x, here, of⟩ := mem_collect_iff.1 listed
    exact isLine_note of (named.fields x.1 (mem_flagged_iff.1 here).1)
  unfold Plan.docs
  rw [List.forall_mem_append]
  refine ⟨List.forall_mem_singleton.2 first, ?_⟩
  split
  · simp
  · rw [List.forall_mem_cons, List.forall_mem_singleton]
    exact ⟨by decide, (IsLine.append (by decide) (isLine_join (by decide) notes)).append
      (by decide)⟩

/-- What a registration puts into code is what the options of its field say. -/
theorem literals_registration {f : Field} {flags : FieldFlags} {r : Registration}
    (of : Registration.of? f flags = some r) (checked : checkCommon flags = .ok ()) :
    r.literals = [.text (f.flagName flags)] ++ kindLiterals f flags.kind ++
      (flags.common.short.toList.flatMap fun s => s.toList.map .character) ++
        [.text flags.common.usage] ++
      if flags.common.deprecated then [.text flags.common.deprecatedUsage] else [] := by
  obtain ⟨cell, -, flag, first, usage, -, deprecation⟩ := registration_of? of
  have short : r.short.toList.map Literal.character =
      flags.common.short.toList.flatMap fun s => s.toList.map .character := by
    rw [eq_map_singleton (checkCommon_ok_iff.1 checked).1, ← first]
    cases r.short <;> simp
  rw [Registration.literals, literals_of_ofKind? cell, short, flag, usage, deprecation]
  split <;> rfl

/-- What the step for a field puts into code is what its options say. -/
theorem literals_step (passes : Passes s m) {f : Field} (mem : f ∈ m.fields) :
    (f.flags.bind (BindStep.of? f)).toList.flatMap BindStep.literals = fieldLiterals f := by
  unfold fieldLiterals
  cases has : f.flags with
  | none => rfl
  | some flags =>
    rw [Option.bind_some]
    cases off : flags.common.disabled with
    | true =>
      have step : BindStep.of? f flags = none := if_pos off
      simp [off, step]
    | false =>
      simp only [off, Bool.false_eq_true, if_false]
      split
      case h_1 kind =>
        have step : BindStep.of? f flags = some (.nest f.name (f.flagName flags) f.type.describe) :=
          bindStep_eq_nest_iff.2 ⟨nests_iff.2 ⟨off, kind⟩, rfl, rfl, rfl⟩
        rw [step]
        rfl
      case h_2 kind =>
        have step : BindStep.of? f flags = none := by simp [BindStep.of?, off, kind]
        rw [step]
        rfl
      case h_3 notNested notApart =>
        have registers := registers_iff.2 ⟨off, fun nested kind => by cases nested <;> simp_all⟩
        obtain ⟨r, of, -, checked⟩ := exists_registration passes mem has registers
        rw [bindStep_eq_register_iff.2 ⟨registers, of⟩, ← literals_registration of checked]
        exact List.flatMap_singleton _ _

/-- What the steps of a message put into code is what the options of its fields say. -/
theorem literals_steps (passes : Passes s m) :
    (Plan.ofMessage m).steps.flatMap BindStep.literals = m.fields.flatMap fieldLiterals := by
  show (collect m BindStep.of?).flatMap BindStep.literals = _
  rw [collect_eq_flatMap, List.flatMap_assoc]
  exact List.flatMap_congr fun f mem => literals_step passes mem

theorem field_of? {f : Field} {flags : FieldFlags} {b : BindStep}
    (of : BindStep.of? f flags = some b) : b.field = f.name := by
  cases b with
  | register r =>
    obtain ⟨-, of⟩ := bindStep_eq_register_iff.1 of
    exact (registration_of? of).2.1
  | nest field segment target => exact (bindStep_eq_nest_iff.1 of).2.1

theorem isName_field_steps (named : PlainMessage m) :
    ∀ b ∈ (Plan.ofMessage m).steps, IsName b.field := by
  intro b mem
  obtain ⟨x, here, of⟩ := mem_collect_iff.1 mem
  rw [field_of? of]
  exact named.fields x.1 (mem_flagged_iff.1 here).1

theorem isName_field_defaults (named : PlainMessage m) :
    ∀ d ∈ (Plan.ofMessage m).defaults, IsName d.field := by
  intro d mem
  obtain ⟨x, here, of⟩ := mem_collect_iff.1 mem
  have field : d.field = x.1.name := by
    cases d with
    | assign => exact (defaultStep_eq_assign_iff.1 of).2.2.1
    | nest => exact (defaultStep_eq_nest_iff.1 of).2.1
  rw [field]
  exact named.fields x.1 (mem_flagged_iff.1 here).1

/-- The function that binds a message has the literals of its fields. -/
theorem has_bindImpl (plain : IsPlain runtime) (passes : Passes s m) (named : PlainMessage m) :
    ((Plan.ofMessage m).bindImpl runtime).Has (m.fields.flatMap fieldLiterals) := by
  have result :
      (TypeExpr.path "::core::result::Result" [.unit,
      .path (runtime ++ "::FlagError") []]).IsBare :=
    .path (by decide) (.cons .unit (.cons (.path (plain.append (by decide)) .nil) .nil))
  have receiver : Moves .ready "&'a mut self" [] .done := by
    have borrow : Moves .ready "&" [] .ready := moves_of_isMark (by decide) .ready
    have self := moves_mark_name (by decide : IsMark " ") (by decide : IsPlain "mut self") .done
    exact (borrow.append moves_lifetime).append self
  have flags : (TypeExpr.borrow true (.path (runtime ++ "::FlagSet") [.lifetime "'a"])).IsBare :=
    .borrow (.path (plain.append (by decide)) (.cons (.lifetime moves_lifetime) .nil))
  have names : (TypeExpr.borrow false (.path (runtime ++ "::NameBuilder") [])).IsBare :=
    .borrow (.path (plain.append (by decide)) .nil)
  have answer : (Stmt.answer (.call (.path "::core::result::Result::Ok") [.tuple []])).Has [] :=
    .answer (.call (.path (by decide)) (.cons (.tuple .nil) .nil))
  have body := (hasAll_steps plain (isName_field_steps named)).append (.cons answer .nil)
  rw [literals_steps passes, List.append_nil, List.append_nil] at body
  exact {
    trait := plain.append (by decide)
    type := isPlain_typePath named.path
    method := {
      docs := isLine_docs named
      attributes := List.forall_mem_singleton.2 (by decide : IsPlain "allow(unused_variables)")
      name := (by decide : IsPlain "bind")
      lifetimes := List.forall_mem_singleton.2 moves_lifetime
      receiver
      params := List.forall_mem_cons.2 ⟨⟨(by decide : IsPlain "fs"), flags⟩,
        List.forall_mem_singleton.2 ⟨(by decide : IsPlain "names"), names⟩⟩
      result := fun type same => Option.some.inj same ▸ result
      body } }

/-- The function that assigns defaults has no literals. -/
theorem has_defaultsImpl (plain : IsPlain runtime) (named : PlainMessage m) :
    ((Plan.ofMessage m).defaultsImpl runtime).Has [] where
  trait := plain.append (by decide)
  type := isPlain_typePath named.path
  method := {
    docs := by simp [Plan.defaultsImpl]
    attributes := by simp [Plan.defaultsImpl]
    name := (by decide : IsPlain "set_defaults")
    lifetimes := by simp [Plan.defaultsImpl]
    receiver := moves_mark_name (by decide : IsMark "&") (by decide : IsPlain "mut self") .ready
    params := by simp [Plan.defaultsImpl]
    result := by simp [Plan.defaultsImpl]
    body := hasAll_defaults plain (isName_field_defaults named) }

end FlagBinding.Emit

namespace FlagBinding

open Schema Target Emit Check

/-! ## Generated files -/

/-- A file whose names are those of a schema. -/
structure PlainFile (file : File) : Prop where
  name : IsLine file.name
  messages : ∀ m ∈ file.messages, m.disabled = false → PlainMessage m

/-- What the options of a file put into code. -/
def fileLiterals (file : File) : List Literal :=
  (file.messages.filter fun m => !m.disabled).flatMap fun m => m.fields.flatMap fieldLiterals

variable {settings : Settings} {s : Schema} {file : File} {runtime : String}

/-- The literals of the implementations for a file. -/
theorem has_impls (plain : IsPlain runtime)
    (passes : ∀ m ∈ file.messages, m.disabled = false → Passes s m) (named : PlainFile file) :
    ∃ founds, List.Forall₂ Impl.Has (impls runtime file) founds ∧
      founds.flatten = fileLiterals file := by
  have enabled : ∀ m ∈ file.messages.filter fun m => !m.disabled, Passes s m ∧ PlainMessage m := by
    intro m mem
    obtain ⟨declared, enabled⟩ := List.mem_filter.1 mem
    rw [Bool.not_eq_true'] at enabled
    exact ⟨passes m declared enabled, named.messages m declared enabled⟩
  rw [impls, plans, fileLiterals, List.flatMap_map]
  generalize file.messages.filter (fun m => !m.disabled) = messages at enabled
  induction messages with
  | nil => exact ⟨[], .nil, rfl⟩
  | cons m messages ih =>
    rw [List.forall_mem_cons] at enabled
    obtain ⟨founds, has, flat⟩ := ih enabled.2
    refine ⟨m.fields.flatMap fieldLiterals :: [] :: founds, ?_, ?_⟩
    · exact .cons (has_bindImpl plain enabled.1.1 enabled.1.2)
        (.cons (has_defaultsImpl plain enabled.1.2) has)
    · rw [List.flatten_cons, List.flatten_cons, List.nil_append, flat, List.flatMap_cons]

/-- What stands at the top of a generated file has no literals. -/
theorem moves_header (line : IsLine file.name) : Moves .ready (header file) [] .ready := by
  have first := moves_comment (by decide : IsLine " @generated by protoc-gen-flags. DO NOT EDIT.")
  have second := moves_comment (IsLine.append (by decide : IsLine " source: ") line)
  have last : Moves .ready "\n" [] .ready := moves_of_isMark (by decide) .ready
  have breaks : "\n\n" = "\n" ++ "\n" := by simp only [String.reduceAppend]
  have form : header file = "//" ++ " @generated by protoc-gen-flags. DO NOT EDIT." ++ "\n" ++
      ("//" ++ (" source: " ++ file.name) ++ "\n") ++ "\n" := by
    unfold header programName
    simp only [← String.append_assoc, String.reduceAppend]
    rw [breaks, ← String.append_assoc]
  rw [form]
  exact (first.append second).append last

/-- The code of a file has the literals of its implementations, laid out or not. -/
theorem moves_compileFile {founds : List (List Literal)} {code : String}
    (has : List.Forall₂ Impl.Has (impls settings.runtime file) founds)
    (done : (compileFile settings file).result = .ok code) :
    Moves .ready code founds.flatten .done := by
  rw [compileFile, Journaled.result_bind, Except.bind] at done
  split at done
  case isTrue =>
    split at done
    case h_1 laidOut legal =>
      obtain rfl := Except.ok.inj done
      obtain ⟨impls', canonical, rfl⟩ := Option.map_eq_some_iff.1 legal
      exact moves_layOut (has_of_mapM has canonical)
    case h_2 => cases done
  case isFalse =>
    obtain rfl := Except.ok.inj done
    exact (moves_texts has).done

/-- A generated file has the literals that the options of its file put into code. -/
theorem literals_outputOf (plain : IsPlain settings.runtime)
    (passes : ∀ m ∈ file.messages, m.disabled = false → Passes s m) (named : PlainFile file)
    {out : Option Output} (done : (outputOf settings file).result = .ok out) :
    out.toList.map (fun o => literals? o.content) =
      if file.hasFlags then [some (fileLiterals file)] else [] := by
  obtain ⟨founds, has, flat⟩ := has_impls plain passes named
  have whole {code : String} (moves : Moves .ready code founds.flatten .done) :
      literals? (header file ++ code) = some (fileLiterals file) := by
    rw [← flat]
    exact (moves.behind (moves_header named.name)).literals?
  unfold outputOf at done
  split at done
  case isTrue flags =>
    rw [if_pos flags]
    cases compiled : (compileFile settings file).result with
    | error fault => simp [compiled, Except.bind] at done
    | ok code =>
      obtain rfl : some ⟨settings.outputName file.name, header file ++ code⟩ = out := by
        simpa [compiled, Except.bind] using done
      simpa using whole (moves_compileFile has compiled)
  case isFalse bare =>
    rw [if_neg bare]
    obtain rfl : out = none := by simpa [Except.bind] using done.symm
    rfl

theorem literals_outputs (plain : IsPlain settings.runtime) {files : List File}
    (passes : ∀ file ∈ files, ∀ m ∈ file.messages, m.disabled = false → Passes s m)
    (named : ∀ file ∈ files, PlainFile file) {outs : List Output}
    (done : (outputs settings files).result = .ok outs) :
    outs.map (fun out => literals? out.content) =
      (files.filter (·.hasFlags)).map fun file => some (fileLiterals file) := by
  induction files generalizing outs with
  | nil =>
    obtain rfl := Except.ok.inj done
    rfl
  | cons file files ih =>
    rw [List.forall_mem_cons] at passes named
    rw [outputs, Journaled.result_bind] at done
    cases first : (outputOf settings file).result with
    | error fault => simp [first, Except.bind] at done
    | ok out =>
      cases rest : (outputs settings files).result with
      | error fault => simp [first, rest, Except.bind] at done
      | ok more =>
        obtain rfl : out.toList ++ more = outs := by simpa [first, rest, Except.bind] using done
        rw [List.map_append, literals_outputOf plain passes.1 named.1 first,
          ih passes.2 named.2 rest, List.filter_cons]
        split <;> rfl

/-- Whatever characters there are in the options of a schema that compiles, its generated files have
the literals that the options ask for, in the order of the fields and with their values, and no
others. -/
theorem literals_compile {s : Schema} {outs : List Output} (plain : IsPlain settings.runtime)
    (named : ∀ file ∈ s.wanted, PlainFile file)
    (compiled : (compile settings s).result = .ok outs) :
    outs.map (fun out => literals? out.content) =
      (s.wanted.filter (·.hasFlags)).map fun file => some (fileLiterals file) := by
  rw [compile, Journaled.result_bind] at compiled
  cases passed : (checkSchema s).result with
  | error fault => simp [passed, Except.bind] at compiled
  | ok _ =>
    have accepted : Accepted s := passed
    have passes : ∀ file ∈ s.wanted, ∀ m ∈ file.messages, m.disabled = false → Passes s m :=
      fun file wanted m declared enabled =>
        accepted.passes (List.mem_flatMap.2 ⟨file, wanted, declared⟩) enabled
    exact literals_outputs plain passes named (by simpa [passed, Except.bind] using compiled)

/-- No text gets out of its literal: a quoted text is a single literal that stands for the text, and
a quoted character is one that stands for the character. So what the options of a schema say is read
back from the generated files, in the order of the fields and unchanged, and there are no other
literals in them. -/
theorem options_read_back :
    (∀ text, Encloses '"' (.text []) (textLiteral text) (.text text)) ∧
    (∀ c, Encloses '\'' .quote (Text.Quoted.character c) (.character c)) ∧
    ∀ (settings : Settings) (s : Schema) (outs : List Output), IsPlain settings.runtime →
      (∀ file ∈ s.wanted, PlainFile file) → (compile settings s).result = .ok outs →
      outs.map (fun out => literals? out.content) =
        (s.wanted.filter (·.hasFlags)).map fun file => some (fileLiterals file) :=
  ⟨encloses_textLiteral, encloses_character, fun _ _ _ plain named compiled =>
    literals_compile plain named compiled⟩

/-- A flag whose options have quotes, backslashes and line breaks in them. -/
def awkwardField : Field where
  name := "mood"
  number := 1
  type := .enumeration ⟨"Mood", "app.Mood", [⟨"\\GOOD", 0⟩]⟩
  flags := some ⟨{ name := some "say \"hi\"", short := some "'", usage := "first\nsecond",
                   deprecated := true, deprecatedUsage := "// gone" }, .enumeration none⟩

def awkwardFile : File :=
  ⟨"app.proto", "app", true, [⟨"Person", "app.Person", ["Person"], false, [awkwardField]⟩]⟩

theorem options_read_back_awkward :
    let settings : Settings := { format := false }
    IsPlain settings.runtime ∧ PlainFile awkwardFile ∧
      (compile settings ⟨[awkwardFile]⟩).result = .ok [plainOutput settings awkwardFile] ∧
      literals? (plainOutput settings awkwardFile).content = some [.text "say \"hi\"", .text "Mood",
        .text "\\GOOD", .character '\'', .text "first\nsecond", .text "// gone"] := by
  intro settings
  have plain : IsPlain settings.runtime := by decide
  have named : PlainFile awkwardFile := by
    refine ⟨by decide, List.forall_mem_singleton.2 fun _ => ⟨by decide, ?_, ?_⟩⟩
    · exact List.forall_mem_singleton.2 (by decide)
    · exact List.forall_mem_singleton.2 (by decide)
  have compiled : (compile settings ⟨[awkwardFile]⟩).result =
      .ok [plainOutput settings awkwardFile] := by
    refine (compile_ok_iff rfl).2 ⟨?_, rfl⟩
    unfold Accepted
    decide +kernel
  have literals := options_read_back.2.2 settings ⟨[awkwardFile]⟩ _ plain
    (List.forall_mem_singleton.2 named) compiled
  exact ⟨plain, named, compiled, (List.cons.inj literals).1⟩

end FlagBinding
