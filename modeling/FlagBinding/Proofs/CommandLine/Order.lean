import FlagBinding.Proofs.CommandLine.Effect
import FlagBinding.Proofs.CommandLine.Tokens

/-!
# The order of a command line

Flags read their inputs one flag after the other, in the order of their registration. So only the
order among the inputs for one flag matters, and that among the arguments: pieces of a command line
that belong to different owners can change places, also if one of them is refused.

## Main definitions

* `Registry.Piece`: one occurrence of a flag in any spelling, or one argument.
* `Registry.Piece.SameOrder`: for each owner the same pieces in the same order.

## Main statements

* `Registry.scan_pieces`: pieces are cut apart from each other, whatever their values look like.
* `Registry.parse_congr`: a command line counts only by what it holds for each owner.
* `Registry.parse_interleaved`: pieces that are interleaved in another way have the same outcome.
-/

namespace FlagBinding

/-- The flag that a token is for; none for an argument. -/
def Token.owner : Token → Option String
  | .assign flag _ => some flag
  | .argument _ => none

namespace Registry

/-- A piece of a command line: one occurrence of a flag with its value, or one argument. -/
inductive Piece (r : Registry)
  | occurrence (flag : Flag) (mem : flag ∈ r.flags) (input : String) (words : List String)
      (spells : Spells flag input words)
  | argument (text : String) (plain : text = "-" ∨ text.toList.head? ≠ some '-')

namespace Piece

variable {r : Registry}

def words : r.Piece → List String
  | occurrence _ _ _ words _ => words
  | argument text _ => [text]

def token : r.Piece → Token
  | occurrence flag _ input _ _ => .assign flag.name input
  | argument text _ => .argument text

def owner (piece : r.Piece) : Option String :=
  piece.token.owner

/-- Pieces that are interleaved in two ways: each owner has the same pieces in the same order. -/
def SameOrder (ps qs : List (r.Piece)) : Prop :=
  ∀ owner, (ps.filter fun p => p.owner = owner) = qs.filter fun p => p.owner = owner

theorem filter_map_token (ps : List (r.Piece)) (owner : Option String) :
    ((ps.map token).filter fun t => t.owner = owner) =
      (ps.filter fun p => p.owner = owner).map token := by
  rw [List.filter_map]
  rfl

end Piece

variable {r : Registry}

/-! ## Tokens and their owners -/

/-- What a flag is given depends on the tokens that it owns. -/
theorem inputsOf_filter_owner (name : String) (tokens : List Token) :
    inputsOf name (tokens.filter fun t => t.owner = some name) = inputsOf name tokens := by
  induction tokens with
  | nil => rfl
  | cons t tokens ih =>
    cases t with
    | argument text => simpa [inputsOf, Token.owner] using ih
    | assign flag input =>
      by_cases own : flag = name
      · simpa [inputsOf, Token.owner, own] using ih
      · simpa [inputsOf, Token.owner, own] using ih

theorem argumentsOf_filter_owner (tokens : List Token) :
    argumentsOf (tokens.filter fun t => t.owner = none) = argumentsOf tokens := by
  induction tokens with
  | nil => rfl
  | cons t tokens ih =>
    cases t <;> simpa [argumentsOf, Token.owner] using ih

/-- Command lines that hold the same tokens for each owner have the same outcome. -/
theorem parse_congr {args args' : List String} {tokens tokens' : List Token}
    (cut : r.scan .word args = .ok tokens) (cut' : r.scan .word args' = .ok tokens')
    (same : ∀ owner, (tokens.filter fun t => t.owner = owner) =
      tokens'.filter fun t => t.owner = owner) :
    r.parse args = r.parse args' := by
  have inputs (name : String) : inputsOf name tokens = inputsOf name tokens' := by
    rw [← inputsOf_filter_owner, same, inputsOf_filter_owner]
  have arguments : argumentsOf tokens = argumentsOf tokens' := by
    rw [← argumentsOf_filter_owner, same, argumentsOf_filter_owner]
  have assignments : r.assignments tokens = r.assignments tokens' := by
    rw [Registry.assignments, Registry.assignments]
    simp only [inputs]
  rw [parse, parse, cut, cut']
  simp only [assignments, arguments]

/-! ## Pieces -/

/-- A word that does not begin with a dash stands for itself, and so does a dash alone. -/
theorem scanWord_argument {text : String} (plain : text = "-" ∨ text.toList.head? ≠ some '-') :
    r.scanWord text = .ok ⟨[.argument text], .word⟩ := by
  unfold scanWord
  rcases plain with rfl | plain
  · rfl
  · split <;> simp_all

/-- Each piece is cut into its own token. -/
theorem scan_pieces (ps : List (r.Piece)) :
    r.scan .word (ps.flatMap Piece.words) = .ok (ps.map Piece.token) := by
  induction ps with
  | nil => rfl
  | cons p ps ih =>
    rw [List.flatMap_cons, List.map_cons]
    cases p with
    | occurrence flag mem input words spells => exact scan_append_of_spells mem spells ih
    | argument text plain => exact scan_cons_of_word (scanWord_argument plain) ih

/-- Pieces succeed with the arguments among them, or one of the inputs among them is refused. -/
theorem result_parse_pieces (ps : List (r.Piece)) :
    (r.parse (ps.flatMap Piece.words)).result = .ok (argumentsOf (ps.map Piece.token)) ∨
      ∃ flag ∈ r.flags, ∃ input cause, .assign flag.name input ∈ ps.map Piece.token ∧
        (r.parse (ps.flatMap Piece.words)).result =
          .error (.invalidArgument flag.name input cause) := by
  obtain ⟨result, reads, answer⟩ := parse_readsEach (scan_pieces ps)
  rw [answer]
  cases result with
  | ok => exact .inl rfl
  | error e =>
    obtain ⟨before, flag, behind, _, flag', split, -, -, last⟩ := reads.exists_stop rfl
    obtain ⟨given, input, rest, cause, inputs, -, -, rfl⟩ := last.exists_refused rfl
    refine .inr ⟨flag, by simp [split], input, cause, ?_, rfl⟩
    have mem : input ∈ inputsOf flag.name (ps.map Piece.token) := by simp [inputs]
    obtain ⟨t, here, own⟩ := List.mem_filterMap.1 mem
    cases t with
    | argument text => simp at own
    | assign name given =>
      obtain ⟨rfl, rfl⟩ : name = flag.name ∧ given = input := by simpa using own
      exact here

/-- Whatever stands for one token is a piece. -/
theorem exists_piece {words : List String} {t : Token} (stands : r.StandsFor words t) :
    ∃ p : r.Piece, p.words = words ∧ p.token = t := by
  rcases spells_of_standsFor stands with ⟨flag, mem, input, rfl, spells⟩ | ⟨text, rfl, rfl, plain⟩
  · exact ⟨.occurrence flag mem input words spells, rfl, rfl⟩
  · exact ⟨.argument text plain, rfl, rfl⟩

/-- Occurrences of flags, in all spellings that there are, and arguments can be interleaved in any
way that keeps the order of the occurrences of each flag and that of the arguments: the flags, the
warnings and the result are the same. The result is either the arguments or the refusal of an input,
and never that the command line cannot be cut. -/
theorem parse_interleaved (r : Registry) :
    (∀ words t, r.StandsFor words t → ∃ p : r.Piece, p.words = words ∧ p.token = t) ∧
    ∀ ps qs : List r.Piece, Piece.SameOrder ps qs →
      r.parse (ps.flatMap Piece.words) = r.parse (qs.flatMap Piece.words) ∧
      ((r.parse (ps.flatMap Piece.words)).result = .ok (argumentsOf (ps.map Piece.token)) ∨
        ∃ flag ∈ r.flags, ∃ input cause, .assign flag.name input ∈ ps.map Piece.token ∧
          (r.parse (ps.flatMap Piece.words)).result =
            .error (.invalidArgument flag.name input cause)) := by
  refine ⟨fun words t stands => exists_piece stands, fun ps qs same => ⟨?_, result_parse_pieces ps⟩⟩
  apply parse_congr (scan_pieces ps) (scan_pieces qs)
  intro owner
  rw [Piece.filter_map_token, same owner, ← Piece.filter_map_token]

def givePort (input : String) : console.Piece :=
  .occurrence port (by simp [console]) input ["--port", input] (.longThenWord rfl input)

/-- An occurrence of a flag that needs no value. -/
def giveQuiet : console.Piece :=
  .occurrence quiet (by simp [console]) "true" ["-q"] (@Spells.shortAlone quiet "true" rfl 'q' rfl)

theorem parse_interleaved_console :
    let a : console.Piece := .argument "a" (by decide)
    let b : console.Piece := .argument "b" (by decide)
    let ps := [givePort "80", a, giveQuiet, givePort "-q", b]
    let qs := [a, giveQuiet, b, givePort "80", givePort "-q"]
    Piece.SameOrder ps qs ∧ console.StandsFor ["-v"] (.assign "verbose" "true") ∧
      (∃ p : console.Piece, p.words = ["-v"] ∧ p.token = .assign "verbose" "true") ∧
      console.parse ["--port", "80", "a", "-q", "--port", "-q", "b"] =
        console.parse ["a", "-q", "b", "--port", "80", "--port", "-q"] := by
  intro a b ps qs
  obtain ⟨complete, interleaved⟩ := parse_interleaved console
  have same : Piece.SameOrder ps qs := by
    intro owner
    by_cases toPort : some "port" = owner
    · subst toPort
      rfl
    by_cases toQuiet : some "quiet" = owner
    · subst toQuiet
      rfl
    simp [ps, qs, a, b, givePort, giveQuiet, Piece.owner, Piece.token, Token.owner, toPort, toQuiet,
      port, quiet, List.filter_cons]
  have stands : console.StandsFor ["-v"] (.assign "verbose" "true") := .alone (by decide +kernel)
  exact ⟨same, stands, complete _ _ stands, (interleaved ps qs same).1⟩

end Registry

end FlagBinding
