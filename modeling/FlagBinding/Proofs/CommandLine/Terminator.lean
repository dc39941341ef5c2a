import FlagBinding.Proofs.CommandLine.Effect
import FlagBinding.Proofs.CommandLine.Tokens

/-!
# The end of the flags

Words are cut one after the other, and all that a word hands on to the next is how that is to be
read. So a command line is cut like its first words, and then like the others from there. A double
dash in the place of a word ends the flags: what comes behind it is an argument, whatever it looks
like.

## Main definitions

* `Registry.Cuts`: words are cut into tokens, and it is known how the next word is read.
* `Registry.DashesAreValues`: no double dash among the words ends the flags.

## Main statements

* `Registry.Cuts.scan_append`: words in front of others.
* `Registry.exists_cuts_of_scan`: a command line that can be cut leaves no flag without its value.
* `Registry.parse_append_dashes`: what a double dash and words behind it add to a command line.
-/

namespace FlagBinding

namespace Registry

/-- Words that are cut into tokens, from how the first one is read to how the next one would be. -/
inductive Cuts (r : Registry) : ScanMode → List String → List Token → ScanMode → Prop
  | nothing (mode : ScanMode) : Cuts r mode [] [] mode
  | value {flag word : String} {words : List String} {tokens : List Token} {mode : ScanMode}
      (rest : Cuts r .word words tokens mode) :
    Cuts r (.valueOf flag) (word :: words) (.assign flag word :: tokens) mode
  | argument {word : String} {words : List String} {tokens : List Token} {mode : ScanMode}
      (rest : Cuts r .argument words tokens mode) :
    Cuts r .argument (word :: words) (.argument word :: tokens) mode
  | word {word : String} {here tokens : List Token} {words : List String} {next mode : ScanMode}
      (first : r.scanWord word = .ok ⟨here, next⟩) (rest : Cuts r next words tokens mode) :
    Cuts r .word (word :: words) (here ++ tokens) mode

/-- Every double dash among the words is the value of a flag. -/
def DashesAreValues (r : Registry) (args : List String) : Prop :=
  ∀ before behind, args = before ++ "--" :: behind →
    ∃ tokens flag, r.Cuts .word before tokens (.valueOf flag)

variable {r : Registry} {mode next : ScanMode} {words args : List String} {tokens : List Token}

/-! ## Words in front of others -/

/-- Behind words that have been cut, the others are cut from there. -/
theorem Cuts.scan_append (cuts : r.Cuts mode words tokens next) (rest : List String) :
    r.scan mode (words ++ rest) = (r.scan next rest).map (tokens ++ ·) := by
  induction cuts with
  | nothing mode =>
    rw [List.nil_append]
    cases r.scan mode rest <;> rfl
  | value others ih =>
    rw [List.cons_append, scan, ih]
    cases r.scan _ rest <;> rfl
  | argument others ih =>
    rw [List.cons_append, scan, ih]
    cases r.scan _ rest <;> rfl
  | word first others ih =>
    rw [List.cons_append, scan, first]
    simp only [bind, Except.bind, ih]
    cases r.scan _ rest <;> simp [Except.map, pure, Except.pure]

/-- Words can be cut in one way only. -/
theorem Cuts.unique {others : List Token} {last : ScanMode} (cuts : r.Cuts mode words tokens next)
    (cuts' : r.Cuts mode words others last) : tokens = others ∧ next = last := by
  induction cuts generalizing others with
  | nothing => cases cuts'; exact ⟨rfl, rfl⟩
  | value rest ih | argument rest ih =>
    cases cuts' with
    | _ rest' =>
      obtain ⟨rfl, rfl⟩ := ih rest'
      exact ⟨rfl, rfl⟩
  | word first rest ih =>
    cases cuts' with
    | word first' rest' =>
      obtain ⟨rfl, rfl⟩ : _ ∧ _ := by simpa using first.symm.trans first'
      obtain ⟨rfl, rfl⟩ := ih rest'
      exact ⟨rfl, rfl⟩

/-- A command line that can be cut leaves no flag without its value. -/
theorem exists_cuts_of_scan (cut : r.scan mode args = .ok tokens) :
    ∃ next, r.Cuts mode args tokens next ∧ ∀ flag, next ≠ .valueOf flag := by
  induction args generalizing mode tokens with
  | nil =>
    cases mode with
    | valueOf flag => simp [scan] at cut
    | word | argument =>
      obtain rfl : [] = tokens := by simpa [scan] using cut
      exact ⟨_, .nothing _, by simp⟩
  | cons word words ih =>
    cases mode with
    | valueOf flag =>
      cases rest : r.scan .word words with
      | error fault => simp [scan, rest] at cut
      | ok others =>
        obtain rfl : .assign flag word :: others = tokens := by simpa [scan, rest] using cut
        obtain ⟨next, cuts, served⟩ := ih rest
        exact ⟨next, .value cuts, served⟩
    | argument =>
      cases rest : r.scan .argument words with
      | error fault => simp [scan, rest] at cut
      | ok others =>
        obtain rfl : .argument word :: others = tokens := by simpa [scan, rest] using cut
        obtain ⟨next, cuts, served⟩ := ih rest
        exact ⟨next, .argument cuts, served⟩
    | word =>
      cases first : r.scanWord word with
      | error fault => simp [scan, first, bind, Except.bind] at cut
      | ok here =>
        cases rest : r.scan here.mode words with
        | error fault => simp [scan, first, rest, bind, Except.bind] at cut
        | ok others =>
          obtain rfl : here.tokens ++ others = tokens := by
            simpa [scan, first, rest, bind, Except.bind, pure, Except.pure] using cut
          obtain ⟨next, cuts, served⟩ := ih rest
          exact ⟨next, .word first cuts, served⟩

/-! ## The end of the flags -/

theorem mode_scanLong {chars : List Char} {here : List Token}
    (cut : r.scanLong chars = .ok ⟨here, next⟩) : next ≠ .argument := by
  unfold scanLong at cut
  grind

theorem mode_scanShorts {chars : List Char} {here : List Token}
    (cut : r.scanShorts chars = .ok ⟨here, next⟩) : next ≠ .argument := by
  induction chars generalizing here with
  | nil => grind [scanShorts]
  | cons c rest ih =>
    rcases scanShorts_cases (r := r) c rest with ⟨fault, refused⟩ |
      ⟨flag, mem, short, ⟨input, rfl⟩ | ⟨plain, ⟨value, implicit⟩ | bare⟩⟩
    · simp [refused] at cut
    · grind [scanShorts_equals mem short input]
    · obtain ⟨more, others, -⟩ := exists_scanShorts_of_cons mem short implicit plain cut
      exact ih others
    · by_cases alone : rest = []
      · grind [scanShorts_alone mem short]
      · grind [scanShorts_attached mem short bare alone plain]

/-- Only a double dash ends the flags, and it stands for nothing. -/
theorem eq_dashes_of_scanWord {word : String} {here : List Token}
    (cut : r.scanWord word = .ok ⟨here, .argument⟩) : word = "--" ∧ here = [] := by
  unfold scanWord at cut
  split at cut
  case h_1 shape => exact ⟨String.toList_inj.1 shape, by simpa using cut.symm⟩
  case h_2 => exact absurd rfl (mode_scanLong cut)
  case h_3 => exact absurd rfl (mode_scanShorts cut)
  case h_4 => simp at cut

theorem scanWord_dashes (r : Registry) : r.scanWord "--" = .ok ⟨[], .argument⟩ := rfl

/-- Where words are arguments, whatever they look like, there is a double dash in front of them that
was read as a word. -/
theorem Cuts.exists_dashes (cuts : r.Cuts mode words tokens next) (start : mode ≠ .argument)
    (ended : next = .argument) :
    ∃ before behind others, words = before ++ "--" :: behind ∧ r.Cuts mode before others .word := by
  induction cuts with
  | nothing => exact absurd ended start
  | @value flag word words tokens mode rest ih =>
    obtain ⟨before, behind, others, split, cuts⟩ := ih (by simp) ended
    exact ⟨word :: before, behind, _, by rw [split, List.cons_append], .value cuts⟩
  | argument => exact absurd rfl start
  | @word word here tokens words middle mode first rest ih =>
    by_cases ends : middle = .argument
    · obtain ⟨rfl, -⟩ := eq_dashes_of_scanWord (ends ▸ first)
      exact ⟨[], words, [], rfl, .nothing .word⟩
    · obtain ⟨before, behind, others, split, cuts⟩ := ih ends ended
      exact ⟨word :: before, behind, _, by rw [split, List.cons_append], .word first cuts⟩

/-- A command line in which double dashes are values of flags goes on with words. -/
theorem cuts_of_dashesAreValues (cut : r.scan .word args = .ok tokens)
    (values : r.DashesAreValues args) : r.Cuts .word args tokens .word := by
  obtain ⟨next, cuts, served⟩ := exists_cuts_of_scan cut
  cases next with
  | word => exact cuts
  | valueOf flag => exact absurd rfl (served flag)
  | argument =>
    obtain ⟨before, behind, others, split, read⟩ := cuts.exists_dashes (by simp) rfl
    obtain ⟨_, flag, value⟩ := values before behind split
    exact absurd (read.unique value).2 (by simp)

theorem scan_arguments (xs : List String) :
    r.scan .argument xs = .ok (xs.map Token.argument) := by
  induction xs with
  | nil => rfl
  | cons x xs ih => rw [scan, ih]; rfl

/-- Behind a double dash in the place of a word, every word is an argument. -/
theorem scan_append_dashes (cuts : r.Cuts .word args tokens .word) (xs : List String) :
    r.scan .word (args ++ "--" :: xs) = .ok (tokens ++ xs.map Token.argument) := by
  have behind : r.scan .word ("--" :: xs) = .ok (xs.map Token.argument) := by
    rw [scan, scanWord_dashes]
    simp [bind, Except.bind, pure, Except.pure, scan_arguments]
  rw [cuts.scan_append, behind]
  rfl

/-! ## Command lines -/

theorem inputsOf_append_arguments (name : String) (tokens : List Token) (xs : List String) :
    inputsOf name (tokens ++ xs.map Token.argument) = inputsOf name tokens := by
  simp [inputsOf, List.filterMap_append]

theorem argumentsOf_append_arguments (tokens : List Token) (xs : List String) :
    argumentsOf (tokens ++ xs.map Token.argument) = argumentsOf tokens ++ xs := by
  simp [argumentsOf, List.filterMap_append, List.filterMap_map]

/-- A command line that can be cut fails only if a flag refuses an input. -/
theorem exists_refused_of_parse (cut : r.scan .word args = .ok tokens) {e : FlagError}
    (failed : (r.parse args).result = .error e) :
    ∃ flag ∈ r.flags, ∃ input cause, e = .invalidArgument flag.name input cause := by
  obtain ⟨result, reads, answer⟩ := parse_readsEach cut
  rw [answer] at failed
  cases result with
  | ok => simp [Except.map] at failed
  | error e' =>
    obtain rfl : e' = e := by simpa [Except.map] using failed
    obtain ⟨before, flag, behind, _, _, split, -, -, last⟩ := reads.exists_stop rfl
    obtain ⟨_, input, _, cause, -, -, -, rfl⟩ := last.exists_refused rfl
    exact ⟨flag, by simp [split], input, cause, rfl⟩

/-- A command line that can be cut and in which every double dash is the value of a flag has the
same effect on all flags with a double dash and any words behind it: the flags and the warnings are
the same, the words are added to the arguments just as they are, and where a flag refuses an input,
it is the same refusal. -/
theorem parse_append_dashes (cut : r.scan .word args = .ok tokens) (values : r.DashesAreValues args)
    (xs : List String) :
    (r.parse (args ++ "--" :: xs)).registry = (r.parse args).registry ∧
    (r.parse (args ++ "--" :: xs)).warnings = (r.parse args).warnings ∧
    (r.parse (args ++ "--" :: xs)).result = (r.parse args).result.map (· ++ xs) ∧
    ∀ e, (r.parse args).result = .error e →
      ∃ flag ∈ r.flags, ∃ input cause, e = .invalidArgument flag.name input cause := by
  have whole := scan_append_dashes (cuts_of_dashesAreValues cut values) xs
  have assignments : r.assignments (tokens ++ xs.map Token.argument) = r.assignments tokens := by
    simp only [Registry.assignments, inputsOf_append_arguments]
  rw [parse, parse, whole, cut]
  simp only [assignments, argumentsOf_append_arguments]
  refine ⟨trivial, trivial, ?_, fun e failed => ?_⟩
  · cases (r.setAll (r.assignments tokens)).result <;> rfl
  · refine exists_refused_of_parse cut ?_
    rw [parse, cut]
    exact failed

def host : Flag :=
  { name := "host", short := none, usage := "a host", cell := .plain .text "" }

/-- A flag that takes a text, one that takes a number, and one that needs no value. -/
def service : Registry where
  flags := [host, port, verbose]
  wellNamed := by unfold WellNamed; decide

theorem dashesAreValues_service : service.DashesAreValues ["--host", "--", "-v", "a"] := by
  intro before behind split
  have first : service.Cuts .word ["--host"] ([] ++ []) (.valueOf "host") :=
    .word (by decide +kernel) (.nothing _)
  rcases before with _ | ⟨a, _ | ⟨b, _ | ⟨c, _ | ⟨d, before⟩⟩⟩⟩
  · simp at split
  · obtain rfl : "--host" = a := by simpa using (List.cons.inj split).1
    exact ⟨_, _, first⟩
  all_goals simp at split

theorem parse_append_dashes_service :
    let args := ["--host", "--", "-v", "a"]
    let xs := ["--host", "-p", "--", ""]
    (∃ tokens, service.scan .word args = .ok tokens) ∧ service.DashesAreValues args ∧
      (service.parse args).result = .ok ["a"] ∧
      (service.parse (args ++ "--" :: xs)).result = .ok (["a"] ++ xs) ∧
      (service.parse (args ++ "--" :: xs)).registry = (service.parse args).registry := by
  intro args xs
  have cut : service.scan .word args =
      .ok [.assign "host" "--", .assign "verbose" "true", .argument "a"] := by decide +kernel
  obtain ⟨registry, -, result, -⟩ := parse_append_dashes cut dashesAreValues_service xs
  have alone : (service.parse args).result = .ok ["a"] := by decide +kernel
  exact ⟨⟨_, cut⟩, dashesAreValues_service, alone, by rw [result, alone]; rfl, registry⟩

end Registry

end FlagBinding
