import FlagBinding.Proofs.CommandLine.Spellings

/-!
# Words that stand for one token

The spellings of a flag are all there are: a word that is cut into one assignment is a spelling of
it, and so is a word that waits for a value together with whatever comes next.

## Main definitions

* `Registry.StandsFor`: the words that are cut into one token.

## Main statements

* `Registry.spells_of_standsFor`: words that stand for an assignment are a spelling of it.
-/

namespace FlagBinding

open Text

namespace Registry

variable {r : Registry} {flag : Flag} {word : String}

/-- Words that are cut into one token and leave nothing open. -/
inductive StandsFor (r : Registry) : List String → Token → Prop
  | alone {word : String} {t : Token} (cut : r.scanWord word = .ok ⟨[t], .word⟩) :
    StandsFor r [word] t
  | withValue {word name : String} (cut : r.scanWord word = .ok ⟨[], .valueOf name⟩)
      (input : String) : StandsFor r [word, input] (.assign name input)

/-- A word of a flag as it is cut: what it stands for, alone or with a value, is spelled by it. -/
structure Spelled (r : Registry) (word : String) (cut : Except CommandFault WordTokens) : Prop where
  alone : ∀ t, cut = .ok ⟨[t], .word⟩ →
    ∃ flag ∈ r.flags, ∃ input, t = .assign flag.name input ∧ Spells flag input [word]
  withValue : ∀ name, cut = .ok ⟨[], .valueOf name⟩ →
    ∃ flag ∈ r.flags, name = flag.name ∧ ∀ input, Spells flag input [word, input]

theorem Spelled.error (fault : CommandFault) : Spelled r word (.error fault) := by
  constructor <;> simp

theorem Spelled.of_input (mem : flag ∈ r.flags) {input : String}
    (spells : Spells flag input [word]) :
    Spelled r word (.ok ⟨[.assign flag.name input], .word⟩) := by
  constructor
  · intro t cut
    exact ⟨flag, mem, input, by simpa using cut.symm, spells⟩
  · simp

theorem Spelled.of_name (mem : flag ∈ r.flags)
    (spells : ∀ value, flag.cell.implicit = some value → Spells flag value [word])
    (spells' : flag.cell.implicit = none → ∀ input, Spells flag input [word, input]) :
    Spelled r word (.ok (match flag.cell.implicit with
      | some value => ⟨[.assign flag.name value], .word⟩
      | none => ⟨[], .valueOf flag.name⟩)) := by
  cases implicit : flag.cell.implicit with
  | some value => exact .of_input mem (spells value implicit)
  | none =>
    constructor
    · simp
    · intro name cut
      exact ⟨flag, mem, by simpa using cut.symm, spells' implicit⟩

/-! ## Names -/

theorem spelled_scanLong {chars : List Char} (shape : word.toList = '-' :: '-' :: chars) :
    Spelled r word (r.scanLong chars) := by
  have refused (name : String) (value? : Option String) : Spelled r word
      (if r.offersHelp && name = "help" then
        .error (if value?.isSome then .helpWithValue else .helpRequested)
      else .error (.unknownArgument ("--" ++ name))) := by
    split <;> exact .error _
  cases parts : splitFirst? '=' chars with
  | some parts' =>
    obtain ⟨before, after⟩ := parts'
    cases found : r.lookup? (String.ofList before) with
    | none =>
      simpa [scanLong, parts, found] using
        refused (String.ofList before) (some (String.ofList after))
    | some flag =>
      obtain ⟨mem, named⟩ := of_lookup? found
      have text : word = "--" ++ flag.name ++ "=" ++ String.ofList after := by
        rw [← String.toList_inj, shape, eq_append_of_splitFirst? parts, named]
        simp
      have spells : Spells flag (String.ofList after) [word] := text ▸ .longEquals _
      simpa [scanLong, parts, found, named] using Spelled.of_input mem spells
  | none =>
    cases found : r.lookup? (String.ofList chars) with
    | none => simpa [scanLong, parts, found] using refused (String.ofList chars) none
    | some flag =>
      obtain ⟨mem, named⟩ := of_lookup? found
      have name : chars = flag.name.toList := by rw [named, String.toList_ofList]
      have text : word = "--" ++ flag.name := by
        rw [← String.toList_inj, shape, name]
        simp
      rw [name, scanLong_name mem, text]
      exact .of_name mem (fun _ implicit => .longAlone implicit) fun bare => .longThenWord bare

/-! ## Aliases -/

/-- Behind the alias of a flag with a value of its own, the other aliases are cut as they are
alone. -/
theorem exists_scanShorts_of_cons (mem : flag ∈ r.flags) {c : Char} (short : flag.short = some c)
    {value : String} (implicit : flag.cell.implicit = some value) {rest : List Char}
    (plain : rest.head? ≠ some '=') {tokens : List Token} {mode : ScanMode}
    (cut : r.scanShorts (c :: rest) = .ok ⟨tokens, mode⟩) :
    ∃ more, r.scanShorts rest = .ok ⟨more, mode⟩ ∧ tokens = .assign flag.name value :: more := by
  rw [scanShorts_cons_implicit mem short implicit plain] at cut
  cases others : r.scanShorts rest with
  | error e => simp [others, bind, Except.bind] at cut
  | ok more =>
    obtain ⟨rfl, rfl⟩ : .assign flag.name value :: more.tokens = tokens ∧ more.mode = mode := by
      simpa [others, bind, Except.bind, pure, Except.pure] using cut
    exact ⟨more.tokens, rfl, rfl⟩

/-- The ways in which a run of aliases can be cut. -/
theorem scanShorts_cases (c : Char) (rest : List Char) :
    (∃ fault, r.scanShorts (c :: rest) = .error fault) ∨
    ∃ flag ∈ r.flags, flag.short = some c ∧
      ((∃ input, rest = '=' :: input) ∨
        rest.head? ≠ some '=' ∧
          ((∃ value, flag.cell.implicit = some value) ∨ flag.cell.implicit = none)) := by
  cases found : r.lookupShort? c with
  | none =>
    left
    rw [scanShorts, found]
    simp only
    split <;> exact ⟨_, rfl⟩
  | some flag =>
    obtain ⟨mem, short⟩ := of_lookupShort? found
    refine .inr ⟨flag, mem, short, ?_⟩
    by_cases equals : rest.head? = some '='
    · exact .inl (List.head?_eq_some_iff.1 equals)
    · refine .inr ⟨equals, ?_⟩
      cases flag.cell.implicit <;> simp

/-- Only an empty run of aliases stands for nothing. -/
theorem eq_nil_of_scanShorts {chars : List Char} (cut : r.scanShorts chars = .ok ⟨[], .word⟩) :
    chars = [] := by
  cases chars with
  | nil => rfl
  | cons c rest =>
    rcases scanShorts_cases (r := r) c rest with ⟨fault, refused⟩ |
      ⟨flag, mem, short, ⟨input, rfl⟩ | ⟨plain, ⟨value, implicit⟩ | bare⟩⟩
    · simp [refused] at cut
    · simp [scanShorts_equals mem short] at cut
    · obtain ⟨more, -, tokens⟩ := exists_scanShorts_of_cons mem short implicit plain cut
      simp at tokens
    · by_cases alone : rest = []
      · simp [alone, scanShorts_alone mem short, bare] at cut
      · simp [scanShorts_attached mem short bare alone plain] at cut

theorem spelled_scanShorts {c : Char} {rest : List Char} (shape : word.toList = '-' :: c :: rest) :
    Spelled r word (r.scanShorts (c :: rest)) := by
  rcases scanShorts_cases (r := r) c rest with ⟨fault, refused⟩ |
    ⟨flag, mem, short, ⟨input, rfl⟩ | ⟨plain, own⟩⟩
  · exact refused ▸ .error fault
  · have text : word = "-" ++ c.toString ++ "=" ++ String.ofList input := by
      rw [← String.toList_inj, shape]
      simp
    rw [scanShorts_equals mem short, text]
    exact .of_input mem (.shortEquals short _)
  by_cases alone : rest = []
  · subst alone
    have text : word = "-" ++ c.toString := by
      rw [← String.toList_inj, shape]
      simp
    rw [scanShorts_alone mem short, text]
    exact .of_name mem (fun _ implicit => .shortAlone implicit short)
      fun bare => .shortThenWord bare short
  rcases own with ⟨value, implicit⟩ | bare
  · -- More aliases follow, so the word stands for more than one token.
    constructor
    · intro t cut
      obtain ⟨more, others, tokens⟩ := exists_scanShorts_of_cons mem short implicit plain cut
      obtain rfl : [] = more := by simpa using (List.cons.inj tokens).2
      exact absurd (eq_nil_of_scanShorts others) alone
    · intro name cut
      obtain ⟨more, -, tokens⟩ := exists_scanShorts_of_cons mem short implicit plain cut
      simp at tokens
  · have text : word = "-" ++ c.toString ++ String.ofList rest := by
      rw [← String.toList_inj, shape]
      simp
    rw [scanShorts_attached mem short bare alone plain, text]
    exact .of_input mem (.shortAttached bare short (by simpa using alone) (by simpa using plain))

/-! ## Words -/

/-- A word that is no argument is one of a flag, or it ends the flags. -/
theorem spelled_scanWord (word : String) :
    r.scanWord word = .ok ⟨[.argument word], .word⟩ ∧ (word = "-" ∨ word.toList.head? ≠ some '-') ∨
      Spelled r word (r.scanWord word) := by
  unfold scanWord
  split
  case h_1 => exact .inr (by constructor <;> simp)
  case h_2 rest _ shape => exact .inr (spelled_scanLong shape)
  case h_3 c rest _ _ shape => exact .inr (spelled_scanShorts shape)
  case h_4 dashes long short =>
    refine .inl ⟨rfl, ?_⟩
    by_cases dash : word.toList.head? = some '-'
    · obtain ⟨rest, shape⟩ := List.head?_eq_some_iff.1 dash
      cases rest with
      | nil => exact .inl (by rw [← String.toList_inj, shape]; rfl)
      | cons c rest => exact absurd shape (short c rest)
    · exact .inr dash

/-- Words that stand for one token are a spelling of an assignment, or one argument. -/
theorem spells_of_standsFor {words : List String} {t : Token} (stands : r.StandsFor words t) :
    (∃ flag ∈ r.flags, ∃ input, t = .assign flag.name input ∧ Spells flag input words) ∨
      ∃ text, t = .argument text ∧ words = [text] ∧
        (text = "-" ∨ text.toList.head? ≠ some '-') := by
  cases stands with
  | @alone word t cut =>
    rcases spelled_scanWord (r := r) word with ⟨argument, plain⟩ | spelled
    · obtain rfl : .argument word = t := by simpa [argument] using cut
      exact .inr ⟨word, rfl, rfl, plain⟩
    · exact .inl (spelled.alone t cut)
  | @withValue word name cut input =>
    rcases spelled_scanWord (r := r) word with ⟨argument, -⟩ | spelled
    · simp [argument] at cut
    · obtain ⟨flag, mem, rfl, spells⟩ := spelled.withValue name cut
      exact .inl ⟨flag, mem, input, rfl, spells input⟩

end Registry

end FlagBinding
