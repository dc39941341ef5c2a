import FlagBinding.Proofs.CommandLine.Spellings
import Mathlib.Data.List.Forall2

/-!
# The effect of a command line

A command line is cut as a whole before any flag is touched. Then each flag reads the inputs that
were given to it, the flags one after the other in the order of their registration, and the first
input that is refused ends it all.

## Main definitions

* `Flag.Reads`: a flag reads inputs, up to the first that its cell refuses.
* `ReadsEach`: flags read their inputs, up to the first flag that refuses one.

## Main statements

* `Registry.setAll_readsEach`: assignments flag by flag, as changes of the flags.
* `Registry.parse_effect`: how far a command line takes effect, by its result.
-/

namespace FlagBinding

/-- A flag before and after it reads inputs. The first input that its cell refuses ends the reading
and leaves the flag as it is then. -/
inductive Flag.Reads : Flag → List String → Flag → Except FlagError Unit → Prop
  | nothing (flag : Flag) : Reads flag [] flag (.ok ())
  | taken {flag flag' : Flag} {input : String} {inputs : List String} {cell : Cell}
      {result : Except FlagError Unit} (parsed : flag.cell.parse input = .ok cell)
      (rest : Reads { flag with cell, changed := true } inputs flag' result) :
    Reads flag (input :: inputs) flag' result
  | refused {flag : Flag} {input : String} {inputs : List String} {cause : ValueError}
      (parsed : flag.cell.parse input = .error cause) :
    Reads flag (input :: inputs) flag (.error (.invalidArgument flag.name input cause))

/-- Flags before and after each has read the inputs for its name. The first flag that refuses an
input is the last that reads any. -/
inductive ReadsEach (inputs : String → List String) :
    List Flag → List Flag → Except FlagError Unit → Prop
  | done : ReadsEach inputs [] [] (.ok ())
  | next {flag flag' : Flag} {rest rest' : List Flag} {result : Except FlagError Unit}
      (reads : flag.Reads (inputs flag.name) flag' (.ok ()))
      (others : ReadsEach inputs rest rest' result) :
    ReadsEach inputs (flag :: rest) (flag' :: rest') result
  | stop {flag flag' : Flag} {rest : List Flag} {e : FlagError}
      (reads : flag.Reads (inputs flag.name) flag' (.error e)) :
    ReadsEach inputs (flag :: rest) (flag' :: rest) (.error e)

section Reads

variable {flag flag' : Flag} {inputs : List String} {result : Except FlagError Unit} {e : FlagError}

theorem Flag.Reads.eq_of_nil (reads : flag.Reads [] flag' result) : flag' = flag := by
  cases reads
  rfl

/-- A flag that refuses an input has taken those before it. -/
theorem Flag.Reads.exists_refused (reads : flag.Reads inputs flag' result)
    (stopped : result = .error e) :
    ∃ before input behind cause, inputs = before ++ input :: behind ∧
      flag.Reads before flag' (.ok ()) ∧ flag'.cell.parse input = .error cause ∧
      e = .invalidArgument flag.name input cause := by
  induction reads with
  | nothing => cases stopped
  | @taken flag flag' input inputs cell result parsed rest ih =>
    obtain ⟨before, bad, behind, cause, split, reads, refused, named⟩ := ih stopped
    exact ⟨input :: before, bad, behind, cause, by simp [split], .taken parsed reads,
      refused, named⟩
  | @refused flag input inputs cause parsed =>
    obtain rfl := Except.error.inj stopped
    exact ⟨[], input, inputs, cause, rfl, .nothing flag, parsed, rfl⟩

variable {given : String → List String} {flags flags' : List Flag}

theorem ReadsEach.forall₂ (reads : ReadsEach given flags flags' result)
    (finished : result = .ok ()) :
    List.Forall₂ (fun f f' => f.Reads (given f.name) f' (.ok ())) flags flags' := by
  induction reads with
  | done => exact .nil
  | next here _ ih => exact .cons here (ih finished)
  | stop => cases finished

/-- Flags of which one refuses an input: those before it have read all of theirs, and those behind
it are as they were. -/
theorem ReadsEach.exists_stop (reads : ReadsEach given flags flags' result)
    (stopped : result = .error e) :
    ∃ before flag behind before' flag', flags = before ++ flag :: behind ∧
      flags' = before' ++ flag' :: behind ∧
      List.Forall₂ (fun f f' => f.Reads (given f.name) f' (.ok ())) before before' ∧
      flag.Reads (given flag.name) flag' (.error e) := by
  induction reads with
  | done => cases stopped
  | @next first first' rest rest' result reads others ih =>
    obtain ⟨before, flag, behind, before', flag', split, split', whole, last⟩ := ih stopped
    exact ⟨first :: before, flag, behind, first' :: before', flag', by simp [split],
      by simp [split'], .cons reads whole, last⟩
  | @stop flag flag' rest e' reads =>
    obtain rfl := Except.error.inj stopped
    exact ⟨[], flag, rest, [], flag', rfl, rfl, .nil, reads⟩

end Reads

namespace Registry

variable {r : Registry} {flag : Flag} {before behind : List Flag}

/-! ## One flag -/

/-- A change reaches the flag of the name and no other. -/
theorem flags_update (split : r.flags = before ++ flag :: behind) (change : Flag → Flag) :
    (r.update flag.name change).flags = before ++ keepingKey change flag :: behind := by
  have place : r.place? flag.name = some before.length :=
    place?_eq_some_iff.2 ⟨flag, by simp [split], rfl⟩
  rw [update, place]
  simp [split, List.modify_eq_take_drop]

theorem set_of_ok (split : r.flags = before ++ flag :: behind) {input : String} {cell : Cell}
    (parsed : flag.cell.parse input = .ok cell) :
    (r.set flag.name input).registry.flags =
        before ++ { flag with cell, changed := true } :: behind ∧
      (r.set flag.name input).result = .ok () := by
  have mem : flag ∈ r.flags := by simp [split]
  rw [set, lookup?_of_mem mem]
  simp only [parsed]
  exact ⟨flags_update split _, trivial⟩

theorem set_of_error (mem : flag ∈ r.flags) {input : String} {cause : ValueError}
    (parsed : flag.cell.parse input = .error cause) :
    (r.set flag.name input).registry = r ∧
      (r.set flag.name input).result = .error (.invalidArgument flag.name input cause) := by
  rw [set, lookup?_of_mem mem]
  simp only [parsed, and_self]

/-! ## Assignments one after the other -/

theorem setAll_cons_ok {name input : String} (rest : List (String × String))
    (ok : (r.set name input).result = .ok ()) :
    (r.setAll ((name, input) :: rest)).registry =
      ((r.set name input).registry.setAll rest).registry ∧
      (r.setAll ((name, input) :: rest)).result =
        ((r.set name input).registry.setAll rest).result := by
  rw [setAll]
  generalize r.set name input = first at ok ⊢
  obtain ⟨registry, warnings, result⟩ := first
  obtain rfl : result = .ok () := ok
  exact ⟨rfl, rfl⟩

theorem setAll_cons_error {name input : String} (rest : List (String × String)) {e : FlagError}
    (error : (r.set name input).result = .error e) :
    (r.setAll ((name, input) :: rest)).registry = (r.set name input).registry ∧
      (r.setAll ((name, input) :: rest)).result = .error e := by
  rw [setAll]
  generalize r.set name input = first at error ⊢
  obtain ⟨registry, warnings, result⟩ := first
  obtain rfl : result = .error e := error
  exact ⟨rfl, rfl⟩

/-- Inputs for one flag are read by it and change no other. Further assignments are made only if
none of them is refused. -/
theorem setAll_reads (split : r.flags = before ++ flag :: behind) (inputs : List String)
    (rest : List (String × String)) :
    let assigned := r.setAll ((inputs.map fun input => (flag.name, input)) ++ rest)
    (∃ flag' e, flag.Reads inputs flag' (.error e) ∧
      assigned.registry.flags = before ++ flag' :: behind ∧ assigned.result = .error e) ∨
    (∃ (flag' : Flag) (r' : Registry), flag.Reads inputs flag' (.ok ()) ∧
      r'.flags = before ++ flag' :: behind ∧
      assigned.registry = (r'.setAll rest).registry ∧
        assigned.result = (r'.setAll rest).result) := by
  induction inputs generalizing r flag with
  | nil => exact .inr ⟨flag, r, .nothing flag, split, rfl, rfl⟩
  | cons input inputs ih =>
    intro assigned
    cases parsed : flag.cell.parse input with
    | error cause =>
      have mem : flag ∈ r.flags := by simp [split]
      obtain ⟨same, refused⟩ := set_of_error mem parsed
      obtain ⟨registry, result⟩ := setAll_cons_error _ refused
      exact .inl ⟨flag, _, .refused parsed,
        (congrArg Registry.flags (registry.trans same)).trans split, result⟩
    | ok cell =>
      obtain ⟨changed, accepted⟩ := set_of_ok split parsed
      obtain ⟨registry, result⟩ := setAll_cons_ok _ accepted
      rcases ih changed with ⟨flag', e, reads, flags, stopped⟩ |
        ⟨flag', r', reads, flags, goOn, finish⟩
      · exact .inl ⟨flag', e, .taken parsed reads, (congrArg Registry.flags registry).trans flags,
          result.trans stopped⟩
      · exact .inr ⟨flag', r', .taken parsed reads, flags, registry.trans goOn, result.trans finish⟩

/-- The assignments of a command line, flag by flag. -/
theorem setAll_readsEach {flags : List Flag} (split : r.flags = before ++ flags)
    (inputs : String → List String) :
    let assigned := r.setAll (flags.flatMap fun flag =>
      (inputs flag.name).map fun input => (flag.name, input))
    ∃ flags', assigned.registry.flags = before ++ flags' ∧
      ReadsEach inputs flags flags' assigned.result := by
  induction flags generalizing r before with
  | nil => exact ⟨[], split, .done⟩
  | cons flag flags ih =>
    rw [List.flatMap_cons]
    rcases setAll_reads split (inputs flag.name) _ with
      ⟨flag', e, reads, here, stopped⟩ | ⟨flag', r', reads, here, goOn, finish⟩
    · refine ⟨flag' :: flags, here, ?_⟩
      rw [stopped]
      exact .stop reads
    · have here : r'.flags = (before ++ [flag']) ++ flags := by simpa using here
      obtain ⟨flags', others, rest⟩ := ih here
      refine ⟨flag' :: flags', ?_, ?_⟩
      · rw [goOn, others]
        simp
      · rw [finish]
        exact .next reads rest

/-! ## Command lines -/

/-- A command line that can be cut lets each flag read its inputs. -/
theorem parse_readsEach {args : List String} {tokens : List Token}
    (cut : r.scan .word args = .ok tokens) :
    ∃ result, ReadsEach (inputsOf · tokens) r.flags (r.parse args).registry.flags result ∧
      (r.parse args).result = result.map fun _ => argumentsOf tokens := by
  have whole : r.flags = [] ++ r.flags := rfl
  obtain ⟨flags', flags, reads⟩ := setAll_readsEach whole (inputsOf · tokens)
  rw [parse, cut]
  exact ⟨_, by simpa [assignments, flags] using reads, rfl⟩

/-- A command line that cannot be cut changes nothing. One that is refused at an input has given
each flag before that of the input all that was meant for it, in order; the flag of the input has
taken what came before the input, and the flags behind it are as they were. One that succeeds has
given each flag all that was meant for it, in order, and so nothing to the flags that it does not
mention. There are no other results. -/
theorem parse_effect (r : Registry) (args : List String) :
    (∀ fault, (r.parse args).result = .error (.command fault) → (r.parse args).registry = r) ∧
    (∀ name input cause, (r.parse args).result = .error (.invalidArgument name input cause) →
      ∃ tokens before flag behind before' flag' given rest,
        r.scan .word args = .ok tokens ∧
        r.flags = before ++ flag :: behind ∧ flag.name = name ∧
        (r.parse args).registry.flags = before' ++ flag' :: behind ∧
        List.Forall₂ (fun f f' => f.Reads (inputsOf f.name tokens) f' (.ok ())) before before' ∧
        inputsOf name tokens = given ++ input :: rest ∧
        flag.Reads given flag' (.ok ()) ∧ flag'.cell.parse input = .error cause) ∧
    (∀ arguments, (r.parse args).result = .ok arguments →
      ∃ tokens, r.scan .word args = .ok tokens ∧ arguments = argumentsOf tokens ∧
        List.Forall₂ (fun f f' => f.Reads (inputsOf f.name tokens) f' (.ok ()) ∧
          (inputsOf f.name tokens = [] → f' = f)) r.flags (r.parse args).registry.flags) ∧
    (∀ e, (r.parse args).result = .error e →
      (∃ fault, e = .command fault) ∨ ∃ name input cause,
        e = .invalidArgument name input cause) := by
  cases cut : r.scan .word args with
  | error fault =>
    have outcome : r.parse args = ⟨r, [], .error (.command fault)⟩ := by rw [parse, cut]
    simp [outcome]
  | ok tokens =>
    obtain ⟨result, reads, answer⟩ := parse_readsEach cut
    rw [answer]
    cases result with
    | ok =>
      refine ⟨by simp [Except.map], by simp [Except.map], ?_, by simp [Except.map]⟩
      intro arguments same
      refine ⟨tokens, rfl, by simpa [Except.map] using same.symm, (reads.forall₂ rfl).imp ?_⟩
      intro f f' read
      exact ⟨read, fun none => (none ▸ read).eq_of_nil⟩
    | error e =>
      obtain ⟨before, flag, behind, before', flag', split, split', whole, last⟩ :=
        reads.exists_stop rfl
      obtain ⟨given, input, rest, cause, inputs, taken, refused, rfl⟩ := last.exists_refused rfl
      refine ⟨by simp [Except.map], ?_, by simp [Except.map], by simp [Except.map]⟩
      intro name input' cause' same
      obtain ⟨rfl, rfl, rfl⟩ : flag.name = name ∧ input = input' ∧ cause = cause' := by
        simpa [Except.map] using same
      exact ⟨tokens, before, flag, behind, before', flag', given, rest,
        rfl, split, rfl, split', whole, inputs, taken, refused⟩

end Registry

end FlagBinding
