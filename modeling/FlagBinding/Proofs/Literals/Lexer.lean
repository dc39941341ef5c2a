import FlagBinding.Target.Legal

/-!
# Literals in code

Code is read character by character, and what comes out are its texts and characters with their
values. A quote starts a literal, unless it stands in a comment, in another literal or at the name
of a lifetime. What emitted code has no use for is refused: marks in front of a literal and names
right behind it, comments other than those to the end of a line, and lines that a literal goes on
over.

## Main definitions

* `Literal`: what a literal stands for.
* `Escape.step`, `Mode.step`: a character more.
* `Mode.Reads`: what is read from a place in code to another one.
* `literals?`: the literals of code.
* `Moves`: code that can be read wherever a piece of an expression, or what stands between two, can
  be.

## Main statements

* `Mode.Reads.append`: code is read part by part.
* `moves_of_isPlain`, `moves_of_isMark`: code without quotes and slashes has no literals.
-/

namespace FlagBinding.Target

/-- What a literal stands for. -/
inductive Literal
  | text (s : String)
  | character (c : Char)
  deriving DecidableEq

/-! ## Escapes -/

/-- The value of a hexadecimal digit of either case. -/
def hexValue? (c : Char) : Option Nat :=
  if c.isDigit then some (c.toNat - 48)
  else if 'a' ≤ c && c ≤ 'f' then some (c.toNat - 87)
  else if 'A' ≤ c && c ≤ 'F' then some (c.toNat - 55)
  else none

/-- What has been read of an escape. -/
inductive Escape
  | backslash
  /-- Two digits are to come. -/
  | byte
  | byteLow (high : Nat)
  /-- A number between braces is to come. -/
  | brace
  | number (digits value : Nat)

/-- A character more of an escape: either its end and what it stands for, or what has been read
then. -/
def Escape.step : Escape → Char → Option (Char ⊕ Escape)
  | .backslash, 'n' => some (.inl '\n')
  | .backslash, 'r' => some (.inl '\r')
  | .backslash, 't' => some (.inl '\t')
  | .backslash, '0' => some (.inl '\x00')
  | .backslash, '\\' => some (.inl '\\')
  | .backslash, '\'' => some (.inl '\'')
  | .backslash, '"' => some (.inl '"')
  | .backslash, 'x' => some (.inr .byte)
  | .backslash, 'u' => some (.inr .brace)
  | .backslash, _ => none
  | .byte, c => (hexValue? c).bind fun high =>
      if high < 8 then some (.inr (.byteLow high)) else none
  | .byteLow high, c => (hexValue? c).map fun low => .inl (Char.ofNat (16 * high + low))
  | .brace, c => if c = '\x7b' then some (.inr (.number 0 0)) else none
  | .number digits value, c =>
    if c = '\x7d' then
      if 0 < digits ∧ value.isValidChar then some (.inl (Char.ofNat value)) else none
    else if c = '_' then
      if 0 < digits then some (.inr (.number digits value)) else none
    else if digits < 6 then
      (hexValue? c).map fun digit => .inr (.number (digits + 1) (16 * value + digit))
    else none

/-! ## Code -/

/-- A place in code. -/
inductive Mode
  /-- Behind a character of a name, a number, an operator or a blank, or behind a literal. -/
  | code (last : Char)
  | slash
  | comment
  /-- In a text, of which some has been read, in reverse. -/
  | text (read : List Char)
  | textEscape (read : List Char) (e : Escape)
  /-- Behind a single quote. -/
  | quote
  /-- Behind a single quote and a character: either a literal or the name of a lifetime. -/
  | quoted (c : Char)
  | quoteEscape (e : Escape)
  /-- In front of the quote behind an escape. -/
  | closing (c : Char)

def glues (last : Char) : Bool :=
  continuesName last || last == '#'

/-- A character more of code outside of literals and comments. -/
def codeStep (last c : Char) : Option Mode :=
  if c = '"' then if glues last then none else some (.text [])
  else if c = '\'' then if glues last then none else some .quote
  else if c = '/' then some .slash
  else if (last = '"' ∨ last = '\'') ∧ continuesName c then none
  else some (.code c)

namespace Mode

/-- A character more of code, and the literal that ends with it. -/
def step : Mode → Char → Option (Mode × List Literal)
  | .code last, c => (codeStep last c).map (·, [])
  | .slash, c => if c = '/' then some (.comment, []) else none
  | .comment, c =>
    if c = '\n' then some (.code c, [])
    else if c = '\r' then none
    else some (.comment, [])
  | .text read, c =>
    if c = '"' then some (.code c, [.text (String.ofList read.reverse)])
    else if c = '\\' then some (.textEscape read .backslash, [])
    else if c = '\r' then none
    else some (.text (c :: read), [])
  | .textEscape read e, c => (e.step c).map fun
    | .inl value => (.text (value :: read), [])
    | .inr e => (.textEscape read e, [])
  | .quote, c =>
    if c = '\\' then some (.quoteEscape .backslash, [])
    else if c ∈ ['\'', '\n', '\r', '\t'] then none
    else some (.quoted c, [])
  | .quoted value, c =>
    if c = '\'' then some (.code c, [.character value])
    else if startsName value then (codeStep value c).map (·, [])
    else none
  | .quoteEscape e, c => (e.step c).map fun
    | .inl value => (.closing value, [])
    | .inr e => (.quoteEscape e, [])
  | .closing value, c => if c = '\'' then some (.code c, [.character value]) else none

/-- What is read from a place on: the literals, and the place behind. -/
def read : Mode → List Char → Option (Mode × List Literal)
  | a, [] => some (a, [])
  | a, c :: rest => do
    let (next, found) ← a.step c
    let (b, more) ← next.read rest
    return (b, found ++ more)

/-- Code that leads from a place to another one, with the literals in it. -/
def Reads (a : Mode) (l : List Char) (found : List Literal) (b : Mode) : Prop :=
  a.read l = some (b, found)

/-- Whether code may end: no literal is open. -/
def isComplete : Mode → Bool
  | .code _ => true
  | .comment => true
  | .quoted c => startsName c
  | _ => false

end Mode

/-- The literals of code. -/
def literals? (code : String) : Option (List Literal) :=
  ((Mode.code '\n').read code.toList).bind fun (b, found) =>
    if b.isComplete then some found else none

namespace Mode

variable {a b c : Mode} {l rest : List Char} {found more : List Literal}

@[simp] theorem reads_nil : Reads a [] found b ↔ b = a ∧ found = [] := by
  simp [Reads, read, eq_comm]

theorem Reads.cons {x : Char} (step : a.step x = some (b, found)) (reads : b.Reads rest more c) :
    a.Reads (x :: rest) (found ++ more) c := by
  simp only [Reads] at reads
  simp [Reads, read, step, reads]

theorem reads_singleton {x : Char} (step : a.step x = some (b, found)) : a.Reads [x] found b := by
  simpa using Reads.cons step (reads_nil.2 ⟨rfl, rfl⟩)

/-- Code is read part by part. -/
theorem Reads.append (first : a.Reads l found b) (second : b.Reads rest more c) :
    a.Reads (l ++ rest) (found ++ more) c := by
  induction l generalizing a found with
  | nil =>
    obtain ⟨rfl, rfl⟩ := reads_nil.1 first
    exact second
  | cons x l ih =>
    simp only [Reads, read, Option.bind_eq_bind, Option.bind_eq_some_iff] at first
    obtain ⟨⟨next, start⟩, step, ⟨last, behind⟩, inner, same⟩ := first
    obtain ⟨rfl, rfl⟩ : last = b ∧ start ++ behind = found := by simpa using same
    simpa using Reads.cons step (ih inner)

end Mode

/-! ## Code without literals -/

def isPlainChar (c : Char) : Bool :=
  c != '"' && c != '\'' && c != '/'

/-- A character that cannot be next to a name: the quotes of a literal can stand on either side. -/
def isMarkChar (c : Char) : Bool :=
  isPlainChar c && !glues c

/-- Code without quotes and slashes. -/
def IsPlain (text : String) : Prop :=
  ∀ c ∈ text.toList, isPlainChar c

/-- What stands between names or literals. -/
def IsMark (text : String) : Prop :=
  text.toList ≠ [] ∧ ∀ c ∈ text.toList, isMarkChar c

instance (text : String) : Decidable (IsPlain text) :=
  List.decidableBAll _ _

instance (text : String) : Decidable (IsMark text) :=
  have : Decidable (∀ c ∈ text.toList, isMarkChar c) := List.decidableBAll _ _
  inferInstanceAs (Decidable (_ ∧ _))

/-- Where a piece of code may stand. -/
inductive Spot
  /-- Where a literal may start. -/
  | ready
  /-- Behind a name or a literal. -/
  | done

/-- A place where a piece of code may stand. -/
inductive Mode.At : Spot → Mode → Prop
  | ready {c : Char} (mark : isMarkChar c) : Mode.At .ready (.code c)
  | code {c : Char} : Mode.At .done (.code c)
  | lifetime {c : Char} (name : startsName c) : Mode.At .done (.quoted c)

theorem Mode.At.done {P : Spot} {a : Mode} (h : a.At P) : a.At .done := by
  cases h with
  | ready => exact .code
  | code => exact .code
  | lifetime name => exact .lifetime name

theorem Mode.At.of_ready {a : Mode} (h : a.At .ready) (P : Spot) : a.At P := by
  cases P with
  | ready => exact h
  | done => exact h.done

/-- Code that leads from any place of one sort to a place of another one, with the literals in
it. -/
def Moves (P : Spot) (text : String) (found : List Literal) (Q : Spot) : Prop :=
  ∀ a : Mode, a.At P → ∃ b : Mode, b.At Q ∧ a.Reads text.toList found b

section Moves

variable {P Q R : Spot} {text other : String} {found more : List Literal}

theorem moves_empty (P : Spot) : Moves P "" [] P :=
  fun a spot => ⟨a, spot, Mode.reads_nil.2 ⟨rfl, rfl⟩⟩

theorem Moves.append (first : Moves P text found Q) (second : Moves Q other more R) :
    Moves P (text ++ other) (found ++ more) R := by
  intro a atP
  obtain ⟨b, atQ, reads⟩ := first a atP
  obtain ⟨c, atR, reads'⟩ := second b atQ
  rw [String.toList_append]
  exact ⟨c, atR, reads.append reads'⟩

/-- Code with something without literals behind it. -/
theorem Moves.before (h : Moves P text found Q) (behind : Moves Q other [] R) :
    Moves P (text ++ other) found R := by
  simpa using h.append behind

/-- Code with something without literals in front of it. -/
theorem Moves.behind (h : Moves Q text found R) (front : Moves P other [] Q) :
    Moves P (other ++ text) found R := by
  simpa using front.append h

theorem Moves.done (h : Moves P text found Q) : Moves P text found .done := by
  intro a atP
  obtain ⟨b, atQ, reads⟩ := h a atP
  exact ⟨b, atQ.done, reads⟩

end Moves

theorem isPlainChar_of_isMarkChar {c : Char} (mark : isMarkChar c) : isPlainChar c := by
  rw [isMarkChar, Bool.and_eq_true] at mark
  exact mark.1

theorem glues_of_isMarkChar {c : Char} (mark : isMarkChar c) : glues c = false := by
  rw [isMarkChar, Bool.and_eq_true, Bool.not_eq_true'] at mark
  exact mark.2

theorem codeStep_of_isPlainChar {last c : Char} (apart : isPlainChar last) (plain : isPlainChar c) :
    codeStep last c = some (.code c) := by
  simp only [isPlainChar, Bool.and_eq_true, bne_iff_ne, ne_eq] at apart plain
  simp [codeStep, apart, plain]

/-- A mark is no part of what stands in front of it. -/
theorem codeStep_of_isMarkChar {last c : Char} (mark : isMarkChar c) :
    codeStep last c = some (.code c) := by
  simp only [isMarkChar, isPlainChar, glues, Bool.and_eq_true, bne_iff_ne, ne_eq, Bool.not_eq_true',
    Bool.or_eq_false_iff] at mark
  simp [codeStep, mark]

theorem moves_of_isPlain {text : String} (plain : IsPlain text) : Moves .ready text [] .done := by
  have reads : ∀ (l : List Char) (last : Char), (∀ c ∈ l, isPlainChar c) → isPlainChar last →
      ∃ next, (Mode.code last).Reads l [] (.code next) := by
    intro l
    induction l with
    | nil => exact fun last _ _ => ⟨last, by simp⟩
    | cons c l ih =>
      intro last plain apart
      rw [List.forall_mem_cons] at plain
      obtain ⟨next, reads⟩ := ih c plain.2 plain.1
      have step : (Mode.code last).step c = some (.code c, []) := by
        rw [Mode.step, codeStep_of_isPlainChar apart plain.1, Option.map_some]
      exact ⟨next, .cons step reads⟩
  intro a spot
  cases spot with
  | ready mark =>
    obtain ⟨next, reads⟩ := reads text.toList _ plain (isPlainChar_of_isMarkChar mark)
    exact ⟨.code next, .code, reads⟩

/-- A literal may start behind a mark. -/
theorem Mode.At.step_mark {a : Mode} {c : Char} (spot : a.At .done) (mark : isMarkChar c) :
    a.step c = some (.code c, []) := by
  cases spot with
  | code => rw [Mode.step, codeStep_of_isMarkChar mark, Option.map_some]
  | lifetime name =>
    have other : c ≠ '\'' := by
      rintro rfl
      exact absurd mark (by decide)
    rw [Mode.step, if_neg other, if_pos name, codeStep_of_isMarkChar mark, Option.map_some]

theorem moves_of_isMark {text : String} (mark : IsMark text) (P : Spot) :
    Moves P text [] .ready := by
  have reads : ∀ (c : Char) (l : List Char) (a : Mode), (∀ d ∈ c :: l, isMarkChar d) → a.At .done →
      ∃ b : Mode, b.At .ready ∧ a.Reads (c :: l) [] b := by
    intro c l
    induction l generalizing c with
    | nil =>
      intro a marks spot
      rw [List.forall_mem_singleton] at marks
      exact ⟨.code c, .ready marks, Mode.reads_singleton (spot.step_mark marks)⟩
    | cons d l ih =>
      intro a marks spot
      rw [List.forall_mem_cons] at marks
      obtain ⟨b, ready, reads⟩ := ih d (.code c) marks.2 .code
      exact ⟨b, ready, .cons (spot.step_mark marks.1) reads⟩
  intro a spot
  obtain ⟨c, rest, chars⟩ := List.exists_cons_of_ne_nil mark.1
  rw [chars]
  exact reads c rest a (chars ▸ mark.2) spot.done

/-- A lifetime is no literal. -/
theorem moves_lifetime : Moves .ready "'a" [] .done := by
  intro a spot
  cases spot with
  | @ready before mark =>
    have first : (Mode.code before).step '\'' = some (.quote, []) := by
      simp [Mode.step, codeStep, glues_of_isMarkChar mark]
    exact ⟨.quoted 'a', .lifetime (by decide), .cons first (Mode.reads_singleton rfl)⟩

/-- What is read wherever code may start has the literals that are read. -/
theorem Moves.literals? {code : String} {found : List Literal} (h : Moves .ready code found .done) :
    literals? code = some found := by
  obtain ⟨b, done, reads⟩ := h (.code '\n') (.ready (by decide))
  have complete : b.isComplete := by
    cases done with
    | code => rfl
    | lifetime name => exact name
  rw [Target.literals?, reads, Option.bind_some]
  exact if_pos complete

end FlagBinding.Target
