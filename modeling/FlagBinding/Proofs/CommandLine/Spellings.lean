import FlagBinding.Proofs.Registry.Keys
import FlagBinding.Registry.CommandLine
import Mathlib.Data.List.Nodup

/-!
# The spellings of a flag

An input for a flag can be written in several ways: behind the name or the alias of the flag, after
an equals sign or as the next word. Whatever the input looks like and whatever other flags there
are, all of them have the effect of assigning the input to the flag.

## Main definitions

* `Spells`: the command lines that give one input to one flag.
* `Registry.Outcome.alone`: the outcome of an assignment, as that of a whole command line.

## Main statements

* `Registry.scan_append_of_spells`: such words are cut into the one assignment.
* `Registry.scan_cluster`: aliases behind one dash are cut like aliases behind a dash each.
* `Registry.parse_spelled`: all spellings have the outcome of the assignment itself.
-/

namespace FlagBinding

open Text

namespace Registry

variable {r : Registry} {flag : Flag}

/-! ## One assignment -/

/-- The outcome of an assignment, as that of a command line that leaves no arguments over. -/
def Outcome.alone (o : Outcome Unit) : Outcome (List String) :=
  ⟨o.registry, o.warnings, o.result.map fun _ => []⟩

/-- A flag that is there refuses an input only for what its cell says of it. -/
theorem set_error_of_mem (mem : flag ∈ r.flags) {input : String} {e : FlagError}
    (refused : (r.set flag.name input).result = .error e) :
    ∃ cause, flag.cell.parse input = .error cause ∧ e = .invalidArgument flag.name input cause := by
  rw [set, lookup?_of_mem mem] at refused
  cases parsed : flag.cell.parse input with
  | error cause => exact ⟨cause, rfl, by simpa [parsed] using refused.symm⟩
  | ok cell => simp [parsed] at refused

/-- The only assignment of a command line is made to the flag of its name and to no other. -/
theorem assignments_single (mem : flag ∈ r.flags) (input : String) :
    r.assignments [.assign flag.name input] = [(flag.name, input)] := by
  obtain ⟨before, after, split⟩ := List.append_of_mem mem
  have names := r.nodup_names
  have others : ∀ f ∈ before ++ after, f.name ≠ flag.name := by
    rw [split, List.map_append, List.map_cons, List.nodup_middle, List.nodup_cons,
      ← List.map_append] at names
    exact fun f hf same => names.1 (List.mem_map.2 ⟨f, hf, same⟩)
  have none : ∀ fs ⊆ before ++ after, (fs.flatMap fun f =>
      (inputsOf f.name [.assign flag.name input]).map fun i => (f.name, i)) = [] := by
    intro fs sub
    simp only [List.flatMap_eq_nil_iff, List.map_eq_nil_iff]
    intro f hf
    simp [inputsOf, (others f (sub hf)).symm]
  rw [assignments, split, List.flatMap_append, List.flatMap_cons, none before (by simp),
    none after (by simp)]
  simp [inputsOf]

/-- A command line that is cut into one assignment has the outcome of the assignment. -/
theorem parse_of_scan (mem : flag ∈ r.flags) {input : String} {args : List String}
    (cut : r.scan .word args = .ok [.assign flag.name input]) :
    r.parse args = (r.set flag.name input).alone := by
  rw [parse, cut]
  simp only [assignments_single mem, setAll]
  obtain ⟨registry, warnings, result⟩ := r.set flag.name input
  cases result <;> simp [Outcome.alone, argumentsOf, Except.map]

/-! ## Words -/

theorem scanLong_equals (mem : flag ∈ r.flags) (input : List Char) :
    r.scanLong (flag.name.toList ++ '=' :: input) =
      .ok ⟨[.assign flag.name (String.ofList input)], .word⟩ := by
  have plain := (FlagKey.fault?_eq_none_iff.1 (fault?_of_mem mem)).2.2.1
  rw [scanLong, splitFirst?_append plain]
  simp [lookup?_of_mem mem]

theorem scanLong_name (mem : flag ∈ r.flags) : r.scanLong flag.name.toList =
    .ok (match flag.cell.implicit with
      | some value => ⟨[.assign flag.name value], .word⟩
      | none => ⟨[], .valueOf flag.name⟩) := by
  have plain := (FlagKey.fault?_eq_none_iff.1 (fault?_of_mem mem)).2.2.1
  rw [scanLong, splitFirst?_eq_none plain]
  cases h : flag.cell.implicit <;> simp [lookup?_of_mem mem, h]

/-- A word after two dashes, if it is not a double dash alone. -/
theorem scanWord_long {word : String} {c : Char} {rest : List Char}
    (shape : word.toList = '-' :: '-' :: c :: rest) : r.scanWord word = r.scanLong (c :: rest) := by
  rw [scanWord, shape]
  rfl

/-- A word after one dash. -/
theorem scanWord_short {word : String} {c : Char} {rest : List Char}
    (shape : word.toList = '-' :: c :: rest) (other : c ≠ '-') :
    r.scanWord word = r.scanShorts (c :: rest) := by
  rw [scanWord, shape]
  grind

theorem scanShorts_equals (mem : flag ∈ r.flags) {c : Char} (short : flag.short = some c)
    (input : List Char) : r.scanShorts (c :: '=' :: input) =
      .ok ⟨[.assign flag.name (String.ofList input)], .word⟩ := by
  cases h : flag.cell.implicit <;> simp [scanShorts, lookupShort?_of_mem mem short, h, dropEquals]

theorem scanShorts_attached (mem : flag ∈ r.flags) {c : Char} (short : flag.short = some c)
    (bare : flag.cell.implicit = none) {input : List Char} (given : input ≠ [])
    (plain : input.head? ≠ some '=') :
    r.scanShorts (c :: input) = .ok ⟨[.assign flag.name (String.ofList input)], .word⟩ := by
  have whole : dropEquals input = input := by
    unfold dropEquals
    split <;> simp_all
  simp [scanShorts, lookupShort?_of_mem mem short, bare, given, whole]

/-- A flag with a value of its own leaves the rest of the word to other flags. -/
theorem scanShorts_cons_implicit (mem : flag ∈ r.flags) {c : Char} (short : flag.short = some c)
    {value : String} (implicit : flag.cell.implicit = some value) {rest : List Char}
    (plain : rest.head? ≠ some '=') :
    r.scanShorts (c :: rest) = do
      let more ← r.scanShorts rest
      return { more with tokens := .assign flag.name value :: more.tokens } := by
  rw [scanShorts, lookupShort?_of_mem mem short]
  simp only [implicit]
  grind

/-! ## Command lines -/

theorem scan_cons_of_word {word : String} {tokens : List Token}
    (first : r.scanWord word = .ok ⟨tokens, .word⟩) {args : List String} {others : List Token}
    (rest : r.scan .word args = .ok others) :
    r.scan .word (word :: args) = .ok (tokens ++ others) := by
  rw [scan, first]
  simp [bind, Except.bind, pure, Except.pure, rest]

theorem scan_cons_of_value {word : String} {name : String}
    (first : r.scanWord word = .ok ⟨[], .valueOf name⟩) (input : String) {args : List String}
    {others : List Token} (rest : r.scan .word args = .ok others) :
    r.scan .word (word :: input :: args) = .ok (.assign name input :: others) := by
  rw [scan, first]
  simp [bind, Except.bind, pure, Except.pure, scan, rest]

end Registry

/-- The command lines that give one input to one flag. -/
inductive Spells (flag : Flag) : String → List String → Prop
  | longEquals (input : String) : Spells flag input ["--" ++ flag.name ++ "=" ++ input]
  | shortEquals {c : Char} (short : flag.short = some c) (input : String) :
    Spells flag input ["-" ++ c.toString ++ "=" ++ input]
  | longThenWord (bare : flag.cell.implicit = none) (input : String) :
    Spells flag input ["--" ++ flag.name, input]
  | shortThenWord (bare : flag.cell.implicit = none) {c : Char} (short : flag.short = some c)
      (input : String) : Spells flag input ["-" ++ c.toString, input]
  | shortAttached (bare : flag.cell.implicit = none) {c : Char} (short : flag.short = some c)
      {input : String} (given : input ≠ "") (plain : input.toList.head? ≠ some '=') :
    Spells flag input ["-" ++ c.toString ++ input]
  | longAlone {value : String} (implicit : flag.cell.implicit = some value) :
    Spells flag value ["--" ++ flag.name]
  | shortAlone {value : String} (implicit : flag.cell.implicit = some value) {c : Char}
      (short : flag.short = some c) : Spells flag value ["-" ++ c.toString]

namespace Registry

variable {r : Registry} {flag : Flag}

theorem scanWord_name (mem : flag ∈ r.flags) : r.scanWord ("--" ++ flag.name) =
    .ok (match flag.cell.implicit with
      | some value => ⟨[.assign flag.name value], .word⟩
      | none => ⟨[], .valueOf flag.name⟩) := by
  have nonempty := (FlagKey.fault?_eq_none_iff.1 (fault?_of_mem mem)).1
  obtain ⟨c, rest, name⟩ := List.exists_cons_of_ne_nil (mt String.toList_eq_nil_iff.1 nonempty)
  rw [scanWord_long (by rw [String.toList_append, name]; rfl), ← name, scanLong_name mem]

theorem scanWord_name_equals (mem : flag ∈ r.flags) (input : String) :
    r.scanWord ("--" ++ flag.name ++ "=" ++ input) = .ok ⟨[.assign flag.name input], .word⟩ := by
  have nonempty := (FlagKey.fault?_eq_none_iff.1 (fault?_of_mem mem)).1
  obtain ⟨c, rest, name⟩ := List.exists_cons_of_ne_nil (mt String.toList_eq_nil_iff.1 nonempty)
  have shape : ("--" ++ flag.name ++ "=" ++ input).toList =
      '-' :: '-' :: c :: (rest ++ '=' :: input.toList) := by simp [name]
  rw [scanWord_long shape, ← List.cons_append, ← name, scanLong_equals mem, String.ofList_toList]

/-- A word of one dash and the alias of a flag, with more behind it. -/
theorem scanWord_short_of_mem (mem : flag ∈ r.flags) {c : Char} (short : flag.short = some c)
    {word : String} {rest : List Char} (shape : word.toList = '-' :: c :: rest) :
    r.scanWord word = r.scanShorts (c :: rest) := by
  refine scanWord_short shape fun dash => ?_
  exact (FlagKey.fault?_eq_none_iff.1 (fault?_of_mem mem)).2.2.2.2 (dash ▸ short)

theorem scanShorts_alone (mem : flag ∈ r.flags) {c : Char} (short : flag.short = some c) :
    r.scanShorts [c] = .ok (match flag.cell.implicit with
      | some value => ⟨[.assign flag.name value], .word⟩
      | none => ⟨[], .valueOf flag.name⟩) := by
  cases h : flag.cell.implicit <;> simp [scanShorts, lookupShort?_of_mem mem short, h]

/-- A spelling is cut into the one assignment that it stands for, whatever comes next. -/
theorem scan_append_of_spells (mem : flag ∈ r.flags) {input : String} {words : List String}
    (spells : Spells flag input words) {args : List String} {others : List Token}
    (rest : r.scan .word args = .ok others) :
    r.scan .word (words ++ args) = .ok (.assign flag.name input :: others) := by
  cases spells with
  | longEquals => exact scan_cons_of_word (scanWord_name_equals mem input) rest
  | @shortEquals c short =>
    have shape : ("-" ++ c.toString ++ "=" ++ input).toList = '-' :: c :: '=' :: input.toList := by
      simp
    have word := (scanWord_short_of_mem mem short shape).trans (scanShorts_equals mem short _)
    rw [String.ofList_toList] at word
    exact scan_cons_of_word word rest
  | longThenWord bare => exact scan_cons_of_value (by rw [scanWord_name mem, bare]) input rest
  | @shortThenWord bare c short =>
    have shape : ("-" ++ c.toString).toList = ['-', c] := by simp
    have word := (scanWord_short_of_mem mem short shape).trans (scanShorts_alone mem short)
    exact scan_cons_of_value (by rw [word, bare]) input rest
  | @shortAttached bare c short _ given plain =>
    have shape : ("-" ++ c.toString ++ input).toList = '-' :: c :: input.toList := by simp
    have word := (scanWord_short_of_mem mem short shape).trans
      (scanShorts_attached mem short bare (mt String.toList_eq_nil_iff.1 given) plain)
    rw [String.ofList_toList] at word
    exact scan_cons_of_word word rest
  | longAlone implicit => exact scan_cons_of_word (by rw [scanWord_name mem, implicit]) rest
  | @shortAlone _ implicit c short =>
    have shape : ("-" ++ c.toString).toList = ['-', c] := by simp
    exact scan_cons_of_word
      (by rw [scanWord_short_of_mem mem short shape, scanShorts_alone mem short, implicit]) rest

theorem scan_of_spells (mem : flag ∈ r.flags) {input : String} {args : List String}
    (spells : Spells flag input args) : r.scan .word args = .ok [.assign flag.name input] := by
  have nothing : r.scan .word [] = .ok [] := rfl
  simpa using scan_append_of_spells mem spells nothing

/-- Aliases that share a dash are cut like the same aliases with a dash each. -/
theorem scanShorts_cluster {cs : List Char} (flags : ∀ c ∈ cs, c ≠ '=' ∧
      ∃ flag ∈ r.flags, flag.short = some c ∧ flag.cell.implicit.isSome) :
    ∃ tokens, r.scanShorts cs = .ok ⟨tokens, .word⟩ ∧
      r.scan .word (cs.map fun c => "-" ++ c.toString) = .ok tokens := by
  induction cs with
  | nil => exact ⟨[], rfl, rfl⟩
  | cons c cs ih =>
    rw [List.forall_mem_cons] at flags
    obtain ⟨⟨-, flag, mem, short, some⟩, flags⟩ := flags
    obtain ⟨value, implicit⟩ := Option.isSome_iff_exists.1 some
    obtain ⟨tokens, together, apart⟩ := ih flags
    have plain : cs.head? ≠ .some '=' := fun h => (flags '=' (List.mem_of_head? h)).1 rfl
    have alone : r.scanWord ("-" ++ c.toString) = .ok ⟨[.assign flag.name value], .word⟩ := by
      have shape : ("-" ++ c.toString).toList = ['-', c] := by simp
      rw [scanWord_short_of_mem mem short shape, scanShorts_alone mem short, implicit]
    refine ⟨.assign flag.name value :: tokens, ?_, scan_cons_of_word alone apart⟩
    rw [scanShorts_cons_implicit mem short implicit plain, together]
    rfl

/-- A word of aliases of flags that have values of their own, and the same aliases in words of their
own. -/
theorem scan_cluster {cs : List Char} (nonempty : cs ≠ []) (flags : ∀ c ∈ cs, c ≠ '=' ∧
      ∃ flag ∈ r.flags, flag.short = some c ∧ flag.cell.implicit.isSome) :
    r.scan .word ["-" ++ String.ofList cs] = r.scan .word (cs.map fun c => "-" ++ c.toString) := by
  obtain ⟨tokens, together, apart⟩ := scanShorts_cluster flags
  obtain ⟨c, rest, rfl⟩ := List.exists_cons_of_ne_nil nonempty
  obtain ⟨-, flag, mem, short, -⟩ := flags c (by simp)
  have shape : ("-" ++ String.ofList (c :: rest)).toList = '-' :: c :: rest := by simp
  have word := (scanWord_short_of_mem mem short shape).trans together
  rw [scan_cons_of_word word rfl, apart, List.append_nil]

/-- Every spelling of an input for a flag has the outcome of the assignment of the input, which is
refused only with the flag, the input and the reason of the cell. Aliases of flags with values of
their own have the same outcome behind one dash as behind a dash each. -/
theorem parse_spelled (r : Registry) :
    (∀ flag ∈ r.flags, ∀ input args, Spells flag input args →
      r.parse args = (r.set flag.name input).alone) ∧
    (∀ flag ∈ r.flags, ∀ input e, (r.set flag.name input).result = .error e →
      ∃ cause, flag.cell.parse input = .error cause ∧ e = .invalidArgument flag.name input cause) ∧
    (∀ cs : List Char, cs ≠ [] → (∀ c ∈ cs, c ≠ '=' ∧
        ∃ flag ∈ r.flags, flag.short = some c ∧ flag.cell.implicit.isSome) →
      r.parse ["-" ++ String.ofList cs] = r.parse (cs.map fun c => "-" ++ c.toString)) := by
  refine ⟨fun flag mem input args spells => ?_, fun flag mem input e => set_error_of_mem mem,
    fun cs nonempty flags => ?_⟩
  · exact parse_of_scan mem (scan_of_spells mem spells)
  · rw [parse, scan_cluster nonempty flags, ← parse]

def port : Flag :=
  { name := "port", short := some 'p', usage := "a port", cell := .plain .int32 80 }

/-- A flag that needs no value. -/
def verbose : Flag :=
  { name := "verbose", short := some 'v', usage := "say more", cell := .plain .bool false }

/-- A deprecated flag that needs no value. -/
def quiet : Flag :=
  { name := "quiet", short := some 'q', usage := "say less", cell := .optional .bool none,
    deprecation := some "use --verbose=false" }

def console : Registry where
  flags := [port, verbose, quiet]
  wellNamed := by unfold WellNamed; decide

theorem parse_spelled_console :
    (∀ flag ∈ [port, verbose, quiet], flag ∈ console.flags) ∧
      Spells port "--" ["--port", "--"] ∧ Spells quiet "true" ["-q"] ∧
      console.parse ["--port", "--"] = (console.set "port" "--").alone ∧
      console.parse ["-q"] = (console.set "quiet" "true").alone ∧
      (∃ cause, (console.parse ["--port", "--"]).result =
        .error (.invalidArgument "port" "--" cause)) ∧
      (console.parse ["-q"]).warnings = ["flag --quiet has been deprecated, use --verbose=false"] ∧
      console.parse ["-vq"] = console.parse ["-v", "-q"] := by
  have ⟨spelled, refused, cluster⟩ := parse_spelled console
  have mem : ∀ flag ∈ [port, verbose, quiet], flag ∈ console.flags := fun _ h => h
  have word : Spells port "--" ["--port", "--"] := .longThenWord rfl "--"
  have alone : Spells quiet "true" ["-q"] :=
    @Spells.shortAlone quiet "true" rfl 'q' rfl
  have first : console.parse ["--port", "--"] = (console.set "port" "--").alone :=
    spelled port (mem port (by simp)) "--" _ word
  have bad : (console.set "port" "--").result =
      .error (.invalidArgument "port" "--" (.invalid "int32" "--" (.integer .invalidDigit))) := by
    decide +kernel
  refine ⟨mem, word, alone, first, spelled quiet (mem quiet (by simp)) "true" _ alone, ?_, ?_, ?_⟩
  · obtain ⟨cause, -, same⟩ := refused port (mem port (by simp)) "--" _ bad
    exact ⟨cause, by rw [first, Outcome.alone, bad, same]; rfl⟩
  · decide +kernel
  · refine cluster ['v', 'q'] (by simp) fun c hc => ⟨by grind, ?_⟩
    rcases List.mem_cons.1 hc with rfl | hc
    · exact ⟨verbose, mem verbose (by simp), rfl, rfl⟩
    · obtain rfl : c = 'q' := by simpa using hc
      exact ⟨quiet, mem quiet (by simp), rfl, rfl⟩

end Registry
end FlagBinding
