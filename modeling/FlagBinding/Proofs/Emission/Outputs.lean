import FlagBinding.Compilation
import FlagBinding.Proofs.Checks.Steps
import FlagBinding.Sample

/-!
# Generated files and nested messages

The code of a message calls the implementations for the messages that it nests. These stand in the
generated file of the file that declares the nested message, and there is one exactly if that file
has options.

## Main definitions

* `plainOutput`: the generated file of a file, if code is not laid out.
* `Occurs`: a text that stands in another one.
* `Output.Implements`: a generated file with the implementations for a message.

## Main statements

* `compile_ok_iff`: the generated files of a schema.
* `compile_nested`: which nested messages have their implementations.
-/

namespace FlagBinding

open Schema Emit Target Check

/-- The generated file of a file, if code is not laid out. -/
def plainOutput (settings : Settings) (file : File) : Output :=
  ⟨settings.outputName file.name, header file ++ plainCode settings.runtime file⟩

/-- A text that stands in another one. -/
def Occurs (part text : String) : Prop :=
  ∃ before after, text = before ++ part ++ after

/-- A generated file with both implementations for a message. -/
def Output.Implements (out : Output) (runtime : String) (m : Message) : Prop :=
  Occurs ((Plan.ofMessage m).bindImpl runtime).text out.content ∧
    Occurs ((Plan.ofMessage m).defaultsImpl runtime).text out.content

variable {settings : Settings} {s : Schema} {file : File} {m : Message} {x : Flagged}

/-! ## The generated files -/

theorem outputOf_plain (plain : settings.format = false) (file : File) :
    (outputOf settings file).result =
      .ok (if file.hasFlags then some (plainOutput settings file) else none) := by
  rw [outputOf]
  split
  · simp [compileFile, plain, Except.bind, plainOutput]
  · simp [Except.bind]

theorem outputs_plain (plain : settings.format = false) (files : List File) :
    (outputs settings files).result =
      .ok ((files.filter (·.hasFlags)).map (plainOutput settings)) := by
  induction files with
  | nil => rfl
  | cons file files ih =>
    rw [outputs, Journaled.result_bind, outputOf_plain plain, Except.bind,
      Journaled.result_bind, ih]
    cases flags : file.hasFlags <;> simp [flags, Except.bind]

/-- A schema that is accepted becomes a file of code for each wanted file with options. -/
theorem compile_ok_iff (plain : settings.format = false) {outs : List Output} :
    (compile settings s).result = .ok outs ↔
      Accepted s ∧ outs = (s.wanted.filter (·.hasFlags)).map (plainOutput settings) := by
  rw [compile, Journaled.result_bind, outputs_plain plain, Accepted]
  cases (checkSchema s).result <;> simp [Except.bind, eq_comm]

/-! ## What stands in them -/

section Occurs

variable {part text other sep : String} {parts : List String}

theorem Occurs.refl (text : String) : Occurs text text :=
  ⟨"", "", by simp⟩

theorem Occurs.append_left (occurs : Occurs part text) (other : String) :
    Occurs part (other ++ text) := by
  obtain ⟨before, after, rfl⟩ := occurs
  exact ⟨other ++ before, after, by simp only [String.append_assoc]⟩

theorem Occurs.append_right (occurs : Occurs part text) (other : String) :
    Occurs part (text ++ other) := by
  obtain ⟨before, after, rfl⟩ := occurs
  exact ⟨before, after ++ other, by simp only [String.append_assoc]⟩

theorem Occurs.join (mem : part ∈ parts) (sep : String) : Occurs part (Text.join sep parts) := by
  rw [Text.join]
  induction parts with
  | nil => simp at mem
  | cons first rest ih =>
    cases rest with
    | nil =>
      obtain rfl := List.mem_singleton.1 mem
      simpa using Occurs.refl part
    | cons second rest =>
      rw [String.intercalate_cons_cons]
      rcases List.mem_cons.1 mem with rfl | mem
      · exact ((Occurs.refl part).append_right sep).append_right _
      · exact (ih mem).append_left _

theorem Occurs.bytes (occurs : Occurs part text) :
    part.toByteArray.data.toList <:+: text.toByteArray.data.toList := by
  obtain ⟨before, after, rfl⟩ := occurs
  simp only [String.toByteArray_append, ByteArray.toList_data_append]
  exact List.infix_append _ _ _

end Occurs

/-- Each message of a file that is not disabled has its implementations in the generated file. -/
theorem implements_plainOutput (settings : Settings) (declared : m ∈ file.messages)
    (enabled : m.disabled = false) : (plainOutput settings file).Implements settings.runtime m := by
  have planned : Plan.ofMessage m ∈ plans file :=
    List.mem_map_of_mem (List.mem_filter.2 ⟨declared, by simp [enabled]⟩)
  have occurs {i : Impl} (mem : i ∈ impls settings.runtime file) :
      Occurs i.text (plainOutput settings file).content := by
    refine Occurs.append_left (Occurs.join (List.mem_flatMap.2 ⟨i, mem, ?_⟩) "\n") (header file)
    exact List.mem_cons_self
  exact ⟨occurs (List.mem_flatMap.2 ⟨_, planned, by simp⟩),
    occurs (List.mem_flatMap.2 ⟨_, planned, by simp⟩)⟩

theorem hasFlags_iff :
    file.hasFlags ↔ ∃ m ∈ file.messages, m.disabled = false ∧ flagged m ≠ [] := by
  simp [File.hasFlags, flagged, Option.isSome_iff_ne_none]

/-- The implementations for a message call those for the messages that it nests. -/
theorem nest_code_mem (mem : x ∈ flagged m) (nests : x.2.nests) (runtime : String) :
    (BindStep.nest x.1.name (x.1.flagName x.2) x.1.type.describe).code runtime ∈
        ((Plan.ofMessage m).bindImpl runtime).method.body ∧
      (DefaultStep.nest x.1.name x.1.type.describe).code runtime ∈
        ((Plan.ofMessage m).defaultsImpl runtime).method.body := by
  have bound : BindStep.of? x.1 x.2 = some (.nest x.1.name (x.1.flagName x.2) x.1.type.describe) :=
    bindStep_eq_nest_iff.2 ⟨nests, rfl, rfl, rfl⟩
  have defaulted : DefaultStep.of? x.1 x.2 = some (.nest x.1.name x.1.type.describe) := by
    obtain ⟨on, kind⟩ := nests_iff.1 nests
    simp [DefaultStep.of?, on, kind]
  refine ⟨List.mem_append_left _ (List.mem_map_of_mem (mem_collect_iff.2 ⟨x, mem, bound⟩)), ?_⟩
  exact List.mem_map_of_mem (mem_collect_iff.2 ⟨x, mem, defaulted⟩)

/-- When a schema compiles, what a message nests is a message that is not disabled, and its
implementations are called. They are there exactly if the file that declares it has options: such a
file has a generated file, with these implementations in it, and a file without options has none. So
they can only be missing for a message without options, in a file other than that of the message
around it. -/
theorem compile_nested (plain : settings.format = false) {outs : List Output}
    (compiled : (compile settings s).result = .ok outs) (wanted : file ∈ s.wanted)
    (declared : m ∈ file.messages) (enabled : m.disabled = false) (mem : x ∈ flagged m)
    (nests : x.2.nests) :
    ∃ n, s.findMessage? x.1.type.describe = some n ∧ n.disabled = false ∧
      ((BindStep.nest x.1.name (x.1.flagName x.2) x.1.type.describe).code settings.runtime ∈
          ((Plan.ofMessage m).bindImpl settings.runtime).method.body ∧
        (DefaultStep.nest x.1.name x.1.type.describe).code settings.runtime ∈
          ((Plan.ofMessage m).defaultsImpl settings.runtime).method.body) ∧
      plainOutput settings file ∈ outs ∧ (plainOutput settings file).Implements settings.runtime m ∧
      outs = (s.wanted.filter (·.hasFlags)).map (plainOutput settings) ∧
      ∀ home ∈ s.wanted, n ∈ home.messages →
        (home.hasFlags →
          plainOutput settings home ∈ outs ∧
            (plainOutput settings home).Implements settings.runtime n) ∧
        (¬ home.hasFlags → home ≠ file ∧ flagged n = []) := by
  obtain ⟨accepted, only⟩ := (compile_ok_iff plain).1 compiled
  have output {home : File} (wanted : home ∈ s.wanted) (flags : home.hasFlags) :
      plainOutput settings home ∈ outs := by
    rw [only]
    exact List.mem_map_of_mem (List.mem_filter.2 ⟨wanted, flags⟩)
  have flags : file.hasFlags := hasFlags_iff.2 ⟨m, declared, enabled, List.ne_nil_of_mem mem⟩
  have passes := accepted.passes (List.mem_flatMap.2 ⟨file, wanted, declared⟩) enabled
  obtain ⟨-, type, n, typed, -, found⟩ := checkNested_ok_iff.1 (passes.nested_ok mem nests)
  obtain ⟨found, enabled'⟩ := target?_eq_some_iff.1 found
  have name : x.1.type.describe = type.fullName := by rw [typed]; rfl
  rw [← name] at found
  refine ⟨n, found, enabled', nest_code_mem mem nests _, output wanted flags,
    implements_plainOutput settings declared enabled, only, fun home wanted' declared' => ⟨?_, ?_⟩⟩
  · exact fun flags' => ⟨output wanted' flags', implements_plainOutput settings declared' enabled'⟩
  · intro none
    refine ⟨?_, ?_⟩
    · rintro rfl
      exact none flags
    · by_contra some
      exact none (hasFlags_iff.2 ⟨n, declared', enabled', some⟩)

def outerMessage : Message where
  name := "Outer"
  fullName := "demo.Outer"
  path := ["Outer"]
  disabled := false
  fields := [{ name := "inner", number := 1, type := .message ⟨"demo.Inner", none⟩,
               flags := some ⟨{}, .message true⟩ }]

def innerMessage (fields : List Field) : Message where
  name := "Inner"
  fullName := "demo.Inner"
  path := ["Inner"]
  disabled := false
  fields := fields

def outerFile : File :=
  ⟨"outer.proto", "demo", true, [outerMessage]⟩

def innerFile (fields : List Field) : File :=
  ⟨"inner.proto", "demo", true, [innerMessage fields]⟩

def twoFiles (fields : List Field) : Schema :=
  ⟨[outerFile, innerFile fields]⟩

theorem compile_nested_twoFiles :
    let settings : Settings := { format := false }
    let fields := [Sample.scalarField "value" 1 .int32 "A number"]
    let outs := [plainOutput settings outerFile, plainOutput settings (innerFile fields)]
    (compile settings (twoFiles fields)).result = .ok outs ∧
      outerFile ∈ (twoFiles fields).wanted ∧ outerMessage ∈ outerFile.messages ∧
      outerMessage.disabled = false ∧ ∃ x ∈ flagged outerMessage, x.2.nests ∧
        (twoFiles fields).findMessage? x.1.type.describe = some (innerMessage fields) ∧
        ∃ out ∈ outs, out.name = "inner.flags.rs" ∧
          out.Implements "::protoflags" (innerMessage fields) := by
  intro settings fields outs
  have accepted : Accepted (twoFiles fields) := by unfold Accepted; decide +kernel
  have compiled : (compile settings (twoFiles fields)).result = .ok outs :=
    (compile_ok_iff rfl).2 ⟨accepted, by rfl⟩
  have wanted : outerFile ∈ (twoFiles fields).wanted := by decide +kernel
  have declared : outerMessage ∈ outerFile.messages := by simp [outerFile]
  obtain ⟨x, mem, nests, look⟩ : ∃ x ∈ flagged outerMessage, x.2.nests ∧
      (twoFiles fields).findMessage? x.1.type.describe = some (innerMessage fields) := by
        decide +kernel
  obtain ⟨n, found, -, -, -, -, -, homes⟩ :=
    compile_nested rfl compiled wanted declared rfl mem nests
  obtain rfl : innerMessage fields = n := Option.some.inj (look.symm.trans found)
  have here := homes (innerFile fields) (by decide +kernel) (by simp [innerFile])
  obtain ⟨output, implements⟩ := here.1 (by decide +kernel)
  exact ⟨compiled, wanted, declared, rfl, x, mem, nests, look, _, output,
    by decide +kernel, implements⟩

/-- Without options in it, the second file is left out. -/
theorem compile_twoFiles : (compile { format := false } (twoFiles [])).result =
    .ok [plainOutput { format := false } outerFile] := by
  have accepted : Accepted (twoFiles []) := by unfold Accepted; decide +kernel
  exact (compile_ok_iff rfl).2 ⟨accepted, by rfl⟩

theorem not_implements_inner :
    ¬ (plainOutput { format := false } outerFile).Implements "::protoflags" (innerMessage []) := by
  intro implements
  exact absurd implements.1.bytes (by decide +kernel)

/-- A message without options, alone in its file, has no implementations, but they are called. -/
theorem not_compile_nested :
    ¬ ∀ (settings : Settings) (s : Schema) (outs : List Output), settings.format = false →
      (compile settings s).result = .ok outs →
      ∀ file ∈ s.wanted, ∀ m ∈ file.messages, m.disabled = false →
        ∀ x ∈ flagged m, x.2.nests → ∀ n, s.findMessage? x.1.type.describe = some n →
          ∀ home ∈ s.wanted, n ∈ home.messages →
            ∃ out ∈ outs, out.Implements settings.runtime n := by
  intro all
  obtain ⟨x, mem, nests, look⟩ : ∃ x ∈ flagged outerMessage, x.2.nests ∧
      (twoFiles []).findMessage? x.1.type.describe = some (innerMessage []) := by decide +kernel
  obtain ⟨out, only, implements⟩ := all _ _ _ rfl compile_twoFiles outerFile (by decide +kernel)
    outerMessage (by simp [outerFile]) rfl x mem nests (innerMessage []) look (innerFile [])
    (by decide +kernel) (by simp [innerFile])
  obtain rfl := List.mem_singleton.1 only
  exact not_implements_inner implements

end FlagBinding
