import FlagBinding.Proofs.Emission.Cells
import FlagBinding.Proofs.Emission.Outputs
import FlagBinding.Proofs.Emission.WellTyped
import FlagBinding.Proofs.Registry.Keys

/-!
# The code that binds the fields of a message

The checks let through only options for which there is code. So the function that binds a message
has a block or a call for every field that asks for one, in the order of the fields, and its
documentation lists all other fields with options.

## Main definitions

* `Emits`: the lines that a field adds to the function, and what the documentation says about it.
* `BindsFields`: a function with the lines of all fields of a message.
* `MarksSucceed`: the marks of a flag, once the flag has been registered.

## Main statements

* `Check.Passes.bindsFields`: the function for a message that passes its checks.
* `compile_bindsFields`: all functions of the files that a schema becomes.
-/

namespace FlagBinding.Emit

open Schema Target Check Binding

/-! ## The lines of a field -/

/-- The text of a short alias, or of none. -/
def shortText (short : Option Char) : String :=
  short.elim "::core::option::Option::None" fun c =>
    "::core::option::Option::Some(" ++ Text.Quoted.character c ++ ")"

/-- The lines that register the flag of a field with a cell and mark it. -/
def flagLines (runtime : String) (f : Field) (flags : FieldFlags) (cell : CellTerm)
    (short : Option Char) : List String :=
  [indented 2 "\x7b",
    indented 3 ("let name = names.build(" ++ textLiteral (f.flagName flags) ++ ");"),
    indented 3 ("fs.var(" ++ commas [(cell.code runtime f.name).text, "&name", shortText short,
      textLiteral flags.common.usage] ++ ")?;")] ++
  (if flags.common.hidden then [indented 3 "fs.mark_hidden(&name)?;"] else []) ++
  (if flags.common.deprecated then
    [indented 3 ("fs.mark_deprecated(&name, " ++ textLiteral flags.common.deprecatedUsage ++ ")?;")]
  else []) ++
  [indented 2 "\x7d"]

def nestedLine (runtime : String) (f : Field) (flags : FieldFlags) : String :=
  indented 2 (runtime ++ "::Bind::bind(" ++
    commas ["self." ++ fieldName f.name ++ ".get_or_insert_with(::core::default::Default::default)",
      "fs", "&names.nested(" ++ textLiteral (f.flagName flags) ++ ")"] ++ ")?;")

/-- The lines that a field adds to the function that binds its message, and what the documentation
of the function says about it. -/
inductive Emits (runtime : String) (f : Field) : List String → List String → Prop
  | bare (none : f.flags = none) : Emits runtime f [] []
  | disabled {flags : FieldFlags} (has : f.flags = some flags) (off : flags.common.disabled) :
      Emits runtime f [] ["\x60" ++ f.name ++ "\x60 (disabled)"]
  | apart {flags : FieldFlags} (has : f.flags = some flags) (on : flags.common.disabled = false)
      (kind : flags.kind = .message false) :
      Emits runtime f [] ["\x60" ++ f.name ++ "\x60 (not nested)"]
  | nested {flags : FieldFlags} (has : f.flags = some flags) (nests : flags.nests) :
      Emits runtime f [nestedLine runtime f flags] []
  /-- The alias is all of the text that the options give, and a deprecated flag has a hint. -/
  | flag {flags : FieldFlags} {cell : CellTerm} {short : Option Char} (has : f.flags = some flags)
      (registers : flags.registers) (adapter : CellTerm.ofKind? f flags.kind = some cell)
      (whole : flags.common.short = short.map String.singleton)
      (hint : flags.common.deprecated → flags.common.deprecatedUsage ≠ "") :
      Emits runtime f (flagLines runtime f flags cell short) []

variable {runtime : String} {s : Schema} {m : Message} {f : Field} {flags : FieldFlags}

theorem linesAll_eq_flatMap (level : Nat) (stmts : List Stmt) :
    Stmt.linesAll level stmts = stmts.flatMap (·.lines level) := by
  induction stmts with
  | nil => rfl
  | cons stmt stmts ih => rw [Stmt.linesAll, ih, List.flatMap_cons]

theorem commas_singleton (t : String) : commas [t] = t := by
  simp [commas, Text.join]

theorem lines_propagate_call (level : Nat) (function : Expr) (args : List Expr) :
    (Stmt.run (.propagate (.call function args))).lines level =
      [indented level (function.text ++ "(" ++ commas (Expr.texts args) ++ ")?;")] := by
  simp only [Stmt.lines, Expr.text, String.append_assoc, String.reduceAppend]

theorem lines_onFlags (level : Nat) (method : String) (args : List Expr) :
    (onFlags method args).lines level =
      [indented level ("fs." ++ method ++ "(" ++ commas (Expr.texts args) ++ ")?;")] := by
  simp only [onFlags, Stmt.lines, Expr.text, String.append_assoc, String.reduceAppend]

theorem lines_nest (f : Field) (flags : FieldFlags) :
    ((BindStep.nest f.name (f.flagName flags) f.type.describe).code runtime).lines 2 =
      [nestedLine runtime f flags] := by
  have message : (nestedMessage f.name).text =
      "self." ++ fieldName f.name ++ ".get_or_insert_with(::core::default::Default::default)" := by
    simp only [nestedMessage, selfField, Expr.text, Expr.texts, commas_singleton,
      String.append_assoc, String.reduceAppend]
  have names :
      (Expr.borrow false (.method (.path "names") "nested" [text (f.flagName flags)])).text =
      "&names.nested(" ++ textLiteral (f.flagName flags) ++ ")" := by
    simp only [Expr.text, Expr.texts, borrowMark, text, commas_singleton, String.append_assoc,
      String.reduceAppend]
    rfl
  rw [BindStep.code, lines_propagate_call]
  simp only [Expr.texts, message, names, nestedLine]
  simp only [inRuntime, Expr.text, String.append_assoc, String.reduceAppend]

theorem text_shortExpr (short : Option Char) : (shortExpr short).text = shortText short := by
  cases short with
  | none => rw [shortExpr, Expr.text, shortText, Option.elim_none]
  | some c =>
    simp only [shortExpr, present, Expr.text, Expr.texts, commas_singleton, shortText,
      Option.elim_some, String.append_assoc, String.reduceAppend]

theorem text_nameExpr : nameExpr.text = "&name" := by
  simp only [nameExpr, Expr.text, borrowMark]
  rfl

theorem lines_register {r : Registration} (of : Registration.of? f flags = some r) :
    (r.code runtime).lines 2 = flagLines runtime f flags r.cell r.short := by
  obtain ⟨-, field, flag, -, usage, hidden, deprecation⟩ := registration_of? of
  have define : (Stmt.define "name" (.method (.path "names") "build" [text r.flag])).lines 3 =
      [indented 3 ("let name = names.build(" ++ textLiteral (f.flagName flags) ++ ");")] := by
    simp only [Stmt.lines, Expr.text, Expr.texts, text, commas_singleton, flag, String.append_assoc,
      String.reduceAppend]
    simp only [← String.append_assoc, String.reduceAppend]
  have var :
    (onFlags "var" [r.cell.code runtime r.field, nameExpr, shortExpr r.short,
      text r.usage]).lines 3 =
      [indented 3 ("fs.var(" ++
        commas [(r.cell.code runtime f.name).text, "&name", shortText r.short,
        textLiteral flags.common.usage] ++ ")?;")] := by
    simp only [lines_onFlags, Expr.texts, text_nameExpr, text_shortExpr,
      text, Expr.text, field, usage, String.reduceAppend]
  have hide : (onFlags "mark_hidden" [nameExpr]).lines 3 =
      [indented 3 "fs.mark_hidden(&name)?;"] := by
    simp only [lines_onFlags, Expr.texts, text_nameExpr, commas_singleton, String.reduceAppend]
  have warn : (onFlags "mark_deprecated" [nameExpr, text flags.common.deprecatedUsage]).lines 3 =
      [indented 3 ("fs.mark_deprecated(&name, " ++ textLiteral flags.common.deprecatedUsage ++
        ")?;")] := by
    simp only [lines_onFlags, Expr.texts, text_nameExpr, text, Expr.text, commas, Text.join,
      String.intercalate_cons_cons, String.intercalate_singleton, String.append_assoc,
      String.reduceAppend]
    simp only [← String.append_assoc, String.reduceAppend]
  rw [Registration.code, Stmt.lines, hidden, deprecation, flagLines]
  cases flags.common.hidden <;> cases flags.common.deprecated <;>
    simp only [if_true, Bool.false_eq_true, if_false, Nat.reduceAdd, Stmt.linesAll, define, var,
      hide, warn, List.cons_append, List.nil_append, List.append_nil]

/-! ## Fields that have been checked -/

def linesOf (runtime : String) (f : Field) : List String :=
  (f.flags.bind (BindStep.of? f)).toList.flatMap fun step => (step.code runtime).lines 2

def notesOf (f : Field) : List String :=
  (f.flags.bind (Omission.of? f)).toList.map Omission.note

/-- A short alias that has been checked is a single character. -/
theorem eq_map_singleton {short : Option String}
    (checked : ∀ text, short = some text → text.length = 1) :
    short = (short.bind fun text => text.toList.head?).map String.singleton := by
  cases short with
  | none => rfl
  | some text =>
    have length := checked text rfl
    rw [← String.length_toList, List.length_eq_one_iff] at length
    obtain ⟨c, chars⟩ := length
    have same : text = String.singleton c := String.toList_inj.1 (by simpa using chars)
    rw [Option.bind_some, chars, List.head?_cons, Option.map_some, same]

/-- The hint of a deprecated flag that has been checked is not empty. -/
theorem hint_ne_empty (checked : checkCommon flags = .ok ())
    (deprecated : flags.common.deprecated) : flags.common.deprecatedUsage ≠ "" := by
  intro empty
  simpa [isBlankText, empty] using (checkCommon_ok_iff.1 checked).2.2 deprecated

/-- A field that registers a flag has passed its checks: there is a cell for it. -/
theorem exists_registration (passes : Passes s m) (mem : f ∈ m.fields) (has : f.flags = some flags)
    (registers : flags.registers) : ∃ r, Registration.of? f flags = some r ∧
      CellTerm.ofKind? f flags.kind = some r.cell ∧ checkCommon flags = .ok () := by
  obtain ⟨on, noMessage⟩ := registers_iff.1 registers
  obtain ⟨kind, common⟩ :=
    (checkField_ok_iff.1 (passes.fields (f, flags) (mem_flagged_iff.2 ⟨mem, has⟩))).2 on
  obtain ⟨cell, of, -⟩ := exists_fits_of_checkKind kind noMessage
  exact ⟨_, by rw [Registration.of?, of]; rfl, of, common⟩

/-- Every field of a checked message falls into one of five cases, and the code and the
documentation of the message have what that case asks for. -/
theorem emits_of_passes (passes : Passes s m) (mem : f ∈ m.fields) :
    Emits runtime f (linesOf runtime f) (notesOf f) := by
  cases has : f.flags with
  | none => simpa [linesOf, notesOf, has] using Emits.bare has
  | some flags =>
    have lines : linesOf runtime f =
        (BindStep.of? f flags).toList.flatMap fun step => (step.code runtime).lines 2 := by
      rw [linesOf, has, Option.bind_some]
    have notes : notesOf f = (Omission.of? f flags).toList.map Omission.note := by
      rw [notesOf, has, Option.bind_some]
    rw [lines, notes]
    -- the cases are those of the options, in the order in which the generator looks at them
    cases off : flags.common.disabled with
    | true =>
      have step : BindStep.of? f flags = none := if_pos off
      have left : Omission.of? f flags = some (.disabled f.name) := if_pos off
      rw [step, left]
      exact .disabled has off
    | false =>
      by_cases message : ∃ nested, flags.kind = .message nested
      case pos =>
        obtain ⟨nested, kind⟩ := message
        cases nested with
        | true =>
          have nests := nests_iff.2 ⟨off, kind⟩
          have step : BindStep.of? f flags = some (.nest f.name _ _) :=
            bindStep_eq_nest_iff.2 ⟨nests, rfl, rfl, rfl⟩
          have kept : Omission.of? f flags = none := by simp [Omission.of?, off, kind]
          rw [step, kept, Option.toList_some, List.flatMap_singleton, lines_nest]
          exact .nested has nests
        | false =>
          have step : BindStep.of? f flags = none := by simp [BindStep.of?, off, kind]
          have left : Omission.of? f flags = some (.notNested f.name) := by
            simp [Omission.of?, off, kind]
          rw [step, left]
          exact .apart has off kind
      case neg =>
        have registers := registers_iff.2 ⟨off, fun nested kind => message ⟨nested, kind⟩⟩
        have kept : Omission.of? f flags = none := by
          unfold Omission.of?
          split <;> simp_all
        obtain ⟨r, of, cell, common⟩ := exists_registration passes mem has registers
        obtain ⟨-, -, -, first, -⟩ := registration_of? of
        have whole := eq_map_singleton (checkCommon_ok_iff.1 common).1
        have step := bindStep_eq_register_iff.2 ⟨registers, of⟩
        rw [step, kept, Option.toList_some, List.flatMap_singleton, BindStep.code,
          lines_register of]
        exact .flag has registers cell (first ▸ whole) (hint_ne_empty common)

/-! ## The function of a message -/

/-- The function that binds a message: its lines are those of the fields in their order, with the
answer behind them, and its documentation lists what the fields say. -/
def BindsFields (runtime : String) (m : Message) : Prop :=
  ∃ parts : List (List String × List String),
    List.Forall₂ (fun f part => Emits runtime f part.1 part.2) m.fields parts ∧
    ((Plan.ofMessage m).bindImpl runtime).text = Text.join "\n"
      (["impl " ++ runtime ++ "::Bind for " ++ typePath m.path ++ " \x7b",
        indented 1 ("/// Registers the flags of \x60" ++ m.fullName ++ "\x60.")] ++
      (if parts.flatMap (·.2) = [] then []
      else [indented 1 "///",
        indented 1 ("/// Fields without a flag: " ++
          Text.join ", " (parts.flatMap (·.2)) ++ ".")]) ++
      [indented 1 "#[allow(unused_variables)]",
        indented 1 ("fn bind<'a>(&'a mut self, fs: &mut " ++ runtime ++
          "::FlagSet<'a>, names: &" ++ runtime ++
          "::NameBuilder) -> ::core::result::Result<(), " ++ runtime ++ "::FlagError> \x7b")] ++
      parts.flatMap (·.1) ++
      [indented 2 "::core::result::Result::Ok(())", indented 1 "\x7d", "\x7d"])

/-- What is collected from the fields comes field by field. -/
theorem collect_eq_flatMap {α : Type} (m : Message) (g : Field → FieldFlags → Option α) :
    collect m g = m.fields.flatMap fun f => (f.flags.bind (g f)).toList := by
  rw [collect, List.filterMap_eq_flatMap_toList]

theorem lines_steps (runtime : String) (m : Message) :
    Stmt.linesAll 2 ((Plan.ofMessage m).steps.map (BindStep.code runtime)) =
      m.fields.flatMap (linesOf runtime) := by
  show Stmt.linesAll 2 ((collect m BindStep.of?).map (BindStep.code runtime)) = _
  rw [linesAll_eq_flatMap, List.flatMap_map, collect_eq_flatMap, List.flatMap_assoc]
  rfl

theorem notes_omissions (m : Message) :
    (Plan.ofMessage m).omissions.map Omission.note = m.fields.flatMap notesOf := by
  show (collect m Omission.of?).map Omission.note = _
  rw [collect_eq_flatMap, List.map_flatMap]
  rfl

/-- The lines of documentation of the function that binds a message. -/
theorem lines_docs (m : Message) :
    (Plan.ofMessage m).docs.map (fun doc => indented 1 ("///" ++ doc)) =
    [indented 1 ("/// Registers the flags of \x60" ++ m.fullName ++ "\x60.")] ++
      if m.fields.flatMap notesOf = [] then []
      else [indented 1 "///", indented 1 ("/// Fields without a flag: " ++
        Text.join ", " (m.fields.flatMap notesOf) ++ ".")] := by
  have none : (Plan.ofMessage m).omissions.isEmpty ↔ m.fields.flatMap notesOf = [] := by
    rw [← notes_omissions, List.map_eq_nil_iff, List.isEmpty_iff]
  have name : (Plan.ofMessage m).fullName = m.fullName := rfl
  rw [Plan.docs, notes_omissions, name]
  simp only [none]
  split
  · simp only [List.append_nil, List.map_cons, List.map_nil, ← String.append_assoc,
      String.reduceAppend]
  · simp only [List.cons_append, List.nil_append, List.map_cons, List.map_nil,
      ← String.append_assoc, String.reduceAppend]

theorem head_bindImpl (runtime : String) (m : Message) :
    ((Plan.ofMessage m).bindImpl runtime).method.head =
      "fn bind<'a>(&'a mut self, fs: &mut " ++ runtime ++ "::FlagSet<'a>, names: &" ++ runtime ++
        "::NameBuilder) -> ::core::result::Result<(), " ++ runtime ++ "::FlagError> \x7b" := by
  simp only [Plan.bindImpl, Method.head, Method.generics, List.isEmpty_cons,
    Bool.false_eq_true, if_false, List.map_cons, List.map_nil, TypeExpr.text,
      TypeExpr.texts, commas, Text.join,
    String.intercalate_cons_cons, String.intercalate_singleton, borrowMark, if_true,
    String.append_assoc, String.reduceAppend]
  simp only [← String.append_assoc, String.reduceAppend]

theorem lines_body (runtime : String) (m : Message) :
    Stmt.linesAll 2 ((Plan.ofMessage m).bindImpl runtime).method.body =
      m.fields.flatMap (linesOf runtime) ++ [indented 2 "::core::result::Result::Ok(())"] := by
  have body : ((Plan.ofMessage m).bindImpl runtime).method.body =
      (Plan.ofMessage m).steps.map (BindStep.code runtime) ++
        [.answer (.call (.path "::core::result::Result::Ok") [.tuple []])] := rfl
  rw [body, linesAll_eq_flatMap, List.flatMap_append, ← linesAll_eq_flatMap, lines_steps]
  rfl

theorem bindsFields_of_passes (passes : Passes s m) (runtime : String) : BindsFields runtime m := by
  refine ⟨m.fields.map fun f => (linesOf runtime f, notesOf f), ?_, ?_⟩
  · rw [List.forall₂_map_right_iff, List.forall₂_same]
    exact fun f mem => emits_of_passes passes mem
  · have docs : ((Plan.ofMessage m).bindImpl runtime).method.docs = (Plan.ofMessage m).docs := rfl
    have attributes : ((Plan.ofMessage m).bindImpl runtime).method.attributes.map
        (fun a => indented 1 ("#[" ++ a ++ "]")) = [indented 1 "#[allow(unused_variables)]"] := rfl
    have start : "impl " ++ ((Plan.ofMessage m).bindImpl runtime).trait ++ " for " ++
        ((Plan.ofMessage m).bindImpl runtime).type ++ " \x7b" =
        "impl " ++ runtime ++ "::Bind for " ++ typePath m.path ++ " \x7b" := by
      have trait : "::Bind for " = "::Bind" ++ " for " := by simp only [String.reduceAppend]
      rw [trait]
      simp only [Plan.bindImpl, Plan.ofMessage, String.append_assoc]
    rw [List.flatMap_map, List.flatMap_map, Impl.text, Method.lines, head_bindImpl,
      lines_body, docs, lines_docs, attributes, start]
    simp only [List.append_assoc, List.cons_append, List.nil_append]

/-! ## Marks -/

/-- The marks that options ask for can be set on a flag that has just been registered, whatever
flags there are besides. -/
def MarksSucceed (flags : FieldFlags) : Prop :=
  ∀ (r registered : Registry) (flag : Flag), r.add flag = .ok registered →
    ∃ shown marked,
      (if flags.common.hidden then registered.markHidden flag.name else .ok registered) =
        .ok shown ∧
      (if flags.common.deprecated then shown.markDeprecated flag.name flags.common.deprecatedUsage
        else .ok shown) = .ok marked

theorem marksSucceed (hint : flags.common.deprecated → flags.common.deprecatedUsage ≠ "") :
    MarksSucceed flags := by
  intro r registered flag added
  have mem : flag.toFlagKey ∈ registered.keys := by simp [Registry.keys_add added]
  obtain ⟨shown, hidden, keys⟩ : ∃ shown,
      (if flags.common.hidden then registered.markHidden flag.name else .ok registered) =
        .ok shown ∧
        shown.keys = registered.keys := by
    split
    · exact Registry.markHidden_of_mem mem
    · exact ⟨registered, rfl, rfl⟩
  obtain ⟨marked, deprecated, -⟩ : ∃ marked,
      (if flags.common.deprecated then shown.markDeprecated flag.name flags.common.deprecatedUsage
        else .ok shown) = .ok marked ∧ True := by
    split
    case isTrue deprecated =>
      obtain ⟨marked, done, -⟩ := Registry.markDeprecated_of_mem (keys ▸ mem) (hint deprecated)
      exact ⟨marked, done, trivial⟩
    case isFalse => exact ⟨shown, rfl, trivial⟩
  exact ⟨shown, marked, hidden, deprecated⟩

end FlagBinding.Emit

namespace FlagBinding

open Schema Emit Target Check

/-- When a schema compiles, there is a generated file for each wanted file in which a message that
is not disabled has a field with options, in the order of the files. For each such message there is
a function that binds it, with a block for every flag, a call for every nested message and nothing
else, in the order of the fields, and with all other fields with options in its documentation. The
marks of a flag cannot fail once it has been registered. -/
theorem compile_bindsFields {settings : Settings} {s : Schema} {outs : List Output}
    (plain : settings.format = false) (compiled : (compile settings s).result = .ok outs) :
    outs = (s.wanted.filter fun file =>
      ∃ m ∈ file.messages, m.disabled = false ∧ ∃ f ∈ m.fields, f.flags ≠ none).map
        (plainOutput settings) ∧
    ∀ file ∈ s.wanted, (plainOutput settings file).content = header file ++ Text.join "\n"
        ((file.messages.filter fun m => m.disabled = false).flatMap fun m =>
          [((Plan.ofMessage m).bindImpl settings.runtime).text, "",
            ((Plan.ofMessage m).defaultsImpl settings.runtime).text, ""]) ∧
      ∀ m ∈ file.messages, m.disabled = false → BindsFields settings.runtime m ∧
        ∀ f ∈ m.fields, ∀ flags, f.flags = some flags → flags.registers → MarksSucceed flags := by
  obtain ⟨accepted, only⟩ := (compile_ok_iff plain).1 compiled
  refine ⟨?_, fun file wanted => ⟨?_, fun m declared enabled => ?_⟩⟩
  · rw [only]
    congr 2
    funext file
    rw [Bool.eq_iff_iff, decide_eq_true_iff]
    simp [File.hasFlags, Option.isSome_iff_ne_none]
  · have enabled : (fun m : Message => decide (m.disabled = false)) = fun m => !m.disabled := by
      funext m
      cases m.disabled <;> rfl
    rw [enabled, plainOutput, plainCode, impls, plans, List.flatMap_map, List.flatMap_assoc]
    rfl
  · have passes := accepted.passes (List.mem_flatMap.2 ⟨file, wanted, declared⟩) enabled
    refine ⟨bindsFields_of_passes passes _, fun f mem flags has registers => ?_⟩
    obtain ⟨-, -, -, common⟩ := exists_registration passes mem has registers
    exact marksSucceed (hint_ne_empty common)

theorem compile_bindsFields_config :
    let settings : Settings := { format := false }
    (compile settings Sample.schema).result = .ok (Sample.schema.files.map (plainOutput settings)) ∧
      BindsFields settings.runtime Sample.config ∧ ∀ f ∈ Sample.config.fields, ∀ flags,
        f.flags = some flags → flags.registers → MarksSucceed flags := by
  intro settings
  have compiled : (compile settings Sample.schema).result =
      .ok (Sample.schema.files.map (plainOutput settings)) :=
        (compile_ok_iff rfl).2 ⟨accepted_sample, rfl⟩
  obtain ⟨file, wanted, declared⟩ : ∃ file ∈ Sample.schema.wanted,
      Sample.config ∈ file.messages := by
    decide +kernel
  obtain ⟨-, files⟩ := compile_bindsFields rfl compiled
  exact ⟨compiled, (files file wanted).2 Sample.config declared rfl⟩

end FlagBinding
