import FlagBinding.Proofs.Literals.Lexer
import Mathlib.Data.List.Forall2

/-!
# The literals of emitted code

The text of code has the literals of its parts, in the order of the parts, if its names are plain.
What stands between the parts keeps them apart.

## Main definitions

* `Expr.Has`, `Stmt.Has`, `Method.Has`, `Impl.Has`: code with plain names and some literals.
* `HasLines`: lines with some literals.

## Main statements

* `Expr.Has.moves`, `Stmt.Has.lines`, `Method.Has.lines`, `Impl.Has.moves`: the literals of the text
  of code.
-/

namespace FlagBinding.Target

variable {P Q R : Spot} {text name : String} {found more : List Literal}

/-! ## Expressions -/

theorem IsPlain.append {other : String} (h : IsPlain text) (h' : IsPlain other) :
    IsPlain (text ++ other) := by
  intro c mem
  rw [String.toList_append, List.mem_append] at mem
  exact mem.elim (h c) (h' c)

mutual

/-- An expression with plain names and some literals. -/
inductive Expr.Has : Expr → List Literal → Prop
  | path {text : String} (plain : IsPlain text) : Expr.Has (.path text) []
  | literal {text : String} {found : List Literal} (reads : Moves .ready text found .done) :
    Expr.Has (.literal text) found
  | field {base : Expr} {name : String} {found : List Literal} (base_ : base.Has found)
    (plain : IsPlain name) : Expr.Has (.field base name) found
  | call {function : Expr} {args : List Expr} {found more : List Literal}
      (function_ : function.Has found)
    (args_ : Expr.HasAll args more) : Expr.Has (.call function args) (found ++ more)
  | method {receiver : Expr} {name : String} {args : List Expr} {found more : List Literal}
    (receiver_ : receiver.Has found) (plain : IsPlain name) (args_ : Expr.HasAll args more) :
    Expr.Has (.method receiver name args) (found ++ more)
  | borrow {isMutable : Bool} {e : Expr} {found : List Literal} (e_ : e.Has found) :
    Expr.Has (.borrow isMutable e) found
  | tuple {elements : List Expr} {found : List Literal} (elements_ : Expr.HasAll elements found) :
    Expr.Has (.tuple elements) found
  | array {elements : List Expr} {found : List Literal} (elements_ : Expr.HasAll elements found) :
    Expr.Has (.array elements) found
  | propagate {e : Expr} {found : List Literal} (e_ : e.Has found) : Expr.Has (.propagate e) found

/-- Expressions with plain names, and their literals. -/
inductive Expr.HasAll : List Expr → List Literal → Prop
  | nil : Expr.HasAll [] []
  | cons {e : Expr} {rest : List Expr} {found more : List Literal} (e_ : e.Has found)
    (rest_ : Expr.HasAll rest more) : Expr.HasAll (e :: rest) (found ++ more)

end

/-- A name behind a mark. -/
theorem moves_mark_name {mark : String} (isMark : IsMark mark) (plain : IsPlain name) (P : Spot) :
    Moves P (mark ++ name) [] .done :=
  (moves_of_isMark isMark P).append (moves_of_isPlain plain)

theorem moves_borrowMark (isMutable : Bool) : Moves .ready (borrowMark isMutable) [] .ready := by
  cases isMutable with
  | false => exact moves_of_isMark (by decide) .ready
  | true =>
    have first : Moves .ready "&" [] .ready := moves_of_isMark (by decide) .ready
    have word : Moves .ready "mut" [] .done := moves_of_isPlain (by decide)
    have last : Moves .done " " [] .ready := moves_of_isMark (by decide) .done
    exact (first.append word).append last

/-- Texts with commas between them. -/
theorem moves_commas_cons (first : Moves .ready text found .done) {texts : List String}
    (some : texts ≠ []) (rest : Moves .ready (commas texts) more .done) :
    Moves .ready (commas (text :: texts)) (found ++ more) .done := by
  have comma : Moves .done ", " [] .ready := moves_of_isMark (by decide) .done
  obtain ⟨next, others, rfl⟩ := List.exists_cons_of_ne_nil some
  have cut : commas (text :: next :: others) = text ++ ", " ++ commas (next :: others) := by
    simp only [commas, Text.join, String.intercalate_cons_cons]
  rw [cut]
  exact (first.before comma).append rest

/-- Code between two marks. -/
theorem Moves.enclosed (inner : Moves .ready text found .done) {start ending : String}
    (opens : IsMark start) (closes : IsMark ending) (P : Spot)
    : Moves P (start ++ (text ++ ending)) found .done :=
  (inner.before (moves_of_isMark closes .done).done).behind (moves_of_isMark opens P)

mutual

/-- The text of an expression has the literals of the expression. -/
theorem Expr.Has.moves {e : Expr} {found : List Literal} (h : e.Has found) :
    Moves .ready e.text found .done :=
  match h with
  | .path plain => by
    rw [Expr.text]
    exact moves_of_isPlain plain
  | .literal reads => by
    rw [Expr.text]
    exact reads
  | .field base plain => by
    rw [Expr.text, String.append_assoc]
    exact base.moves.before (moves_mark_name (by decide) plain .done)
  | .call function args => by
    rw [Expr.text, String.append_assoc, String.append_assoc]
    exact function.moves.append (args.moves.enclosed (by decide) (by decide) .done)
  | .method receiver plain args => by
    have dot : Moves .done "." [] .ready := moves_of_isMark (by decide) .done
    have call := args.moves.enclosed (by decide : IsMark "(") (by decide : IsMark ")") .done
    simp only [Expr.text, String.append_assoc]
    exact receiver.moves.append ((call.behind (moves_of_isPlain plain)).behind dot)
  | .borrow e => by
    rw [Expr.text]
    exact e.moves.behind (moves_borrowMark _)
  | .tuple elements => by
    rw [Expr.text, String.append_assoc]
    exact elements.moves.enclosed (by decide) (by decide) .ready
  | .array elements => by
    rw [Expr.text, String.append_assoc]
    exact elements.moves.enclosed (by decide) (by decide) .ready
  | .propagate e => by
    rw [Expr.text]
    exact (e.moves.before (moves_of_isMark (by decide) .done)).done

theorem Expr.HasAll.moves {es : List Expr} {found : List Literal} (h : Expr.HasAll es found) :
    Moves .ready (commas (Expr.texts es)) found .done :=
  match h with
  | .nil => (moves_empty .ready).done
  | .cons e .nil => by
    simpa [Expr.texts, commas, Text.join] using e.moves
  | .cons e (.cons next rest) =>
    moves_commas_cons e.moves (by simp [Expr.texts]) (Expr.HasAll.cons next rest).moves

end

/-! ## Types -/

mutual

/-- A type with plain names and lifetimes. -/
inductive TypeExpr.IsBare : TypeExpr → Prop
  | lifetime {name : String} (reads : Moves .ready name [] .done) : TypeExpr.IsBare (.lifetime name)
  | path {text : String} {args : List TypeExpr} (plain : IsPlain text)
      (args_ : TypeExpr.AreBare args) :
    TypeExpr.IsBare (.path text args)
  | borrow {isMutable : Bool} {type : TypeExpr} (type_ : type.IsBare) :
    TypeExpr.IsBare (.borrow isMutable type)
  | unit : TypeExpr.IsBare .unit

/-- Types with plain names and lifetimes. -/
inductive TypeExpr.AreBare : List TypeExpr → Prop
  | nil : TypeExpr.AreBare []
  | cons {type : TypeExpr} {rest : List TypeExpr} (type_ : type.IsBare)
      (rest_ : TypeExpr.AreBare rest) :
    TypeExpr.AreBare (type :: rest)

end

theorem moves_commas {texts : List String} (bare : ∀ t ∈ texts, Moves .ready t [] .done) :
    Moves .ready (commas texts) [] .done := by
  induction texts with
  | nil => exact (moves_empty .ready).done
  | cons t texts ih =>
    rw [List.forall_mem_cons] at bare
    cases texts with
    | nil => simpa [commas, Text.join] using bare.1
    | cons next texts => simpa using moves_commas_cons bare.1 (by simp) (ih bare.2)

mutual

/-- The text of a type has no literals. -/
theorem TypeExpr.IsBare.moves {type : TypeExpr} (h : type.IsBare) :
    Moves .ready type.text [] .done :=
  match h with
  | .lifetime reads => by
    rw [TypeExpr.text]
    exact reads
  | .path plain .nil => by
    rw [TypeExpr.text]
    exact moves_of_isPlain plain
  | .path plain (.cons type rest) => by
    rw [TypeExpr.text, String.append_assoc, String.append_assoc]
    · exact (moves_of_isPlain plain).append (moves_commas
        (TypeExpr.AreBare.cons type rest).moves |>.enclosed (by decide) (by decide) .done)
    · simp
  | .borrow type => by
    rw [TypeExpr.text]
    exact type.moves.behind (moves_borrowMark _)
  | .unit => by
    rw [TypeExpr.text]
    exact (moves_of_isMark (by decide) .ready).done

theorem TypeExpr.AreBare.moves {types : List TypeExpr} (h : TypeExpr.AreBare types) :
    ∀ t ∈ TypeExpr.texts types, Moves .ready t [] .done :=
  match h with
  | .nil => by simp [TypeExpr.texts]
  | .cons type rest => by
    rw [TypeExpr.texts, List.forall_mem_cons]
    exact ⟨type.moves, rest.moves⟩

end

/-! ## Lines -/

def withBreaks : List String → String
  | [] => ""
  | line :: rest => line ++ "\n" ++ withBreaks rest

theorem withBreaks_append (lines rest : List String) :
    withBreaks (lines ++ rest) = withBreaks lines ++ withBreaks rest := by
  induction lines with
  | nil => simp [withBreaks]
  | cons line lines ih => simp only [List.cons_append, withBreaks, ih, String.append_assoc]

/-- Lines with some literals. -/
def HasLines (lines : List String) (found : List Literal) : Prop :=
  Moves .ready (withBreaks lines) found .ready

theorem HasLines.nil : HasLines [] [] :=
  moves_empty .ready

theorem HasLines.append {lines rest : List String} (first : HasLines lines found)
    (second : HasLines rest more) : HasLines (lines ++ rest) (found ++ more) := by
  rw [HasLines, withBreaks_append]
  exact Moves.append first second

/-- Lines without literals. -/
theorem HasLines.of_forall {lines : List String} (bare : ∀ line ∈ lines, HasLines [line] []) :
    HasLines lines [] := by
  induction lines with
  | nil => exact .nil
  | cons line lines ih =>
    rw [List.forall_mem_cons] at bare
    have both := bare.1.append (ih bare.2)
    exact both

theorem moves_indentation (n : Nat) :
    Moves .ready (String.ofList (List.replicate n ' ')) [] .ready := by
  cases n with
  | zero => exact moves_empty .ready
  | succ n =>
    refine moves_of_isMark ⟨by simp, fun c mem => ?_⟩ .ready
    rw [String.toList_ofList] at mem
    rw [List.eq_of_mem_replicate mem]
    decide

@[simp] theorem indented_zero (line : String) : indented 0 line = line := by
  simp [indented]

/-- A line of code. -/
theorem Moves.line (h : Moves .ready text found .done) (level : Nat) :
    HasLines [indented level text] found := by
  have ends : Moves .done "\n" [] .ready := moves_of_isMark (by decide) .done
  simpa [HasLines, withBreaks, indented] using (h.behind (moves_indentation _)).before ends

/-- A line of code with a semicolon at its end. -/
theorem Moves.statement (h : Moves .ready text found .done) (level : Nat) :
    HasLines [indented level (text ++ ";")] found :=
  (h.before (moves_of_isMark (by decide) .done).done).line level

/-- A text on a single line, as comments are. -/
def IsLine (text : String) : Prop :=
  ∀ c ∈ text.toList, c ≠ '\n' ∧ c ≠ '\r'

instance (text : String) : Decidable (IsLine text) :=
  List.decidableBAll _ _

/-- A comment ends where its line ends. -/
theorem moves_comment (line : IsLine text) : Moves .ready ("//" ++ text ++ "\n") [] .ready := by
  have inside : ∀ l : List Char, (∀ c ∈ l, c ≠ '\n' ∧ c ≠ '\r') →
      Mode.comment.Reads l [] .comment := by
    intro l
    induction l with
    | nil => simp
    | cons c l ih =>
      intro line
      rw [List.forall_mem_cons] at line
      have step : Mode.comment.step c = some (.comment, []) := by simp [Mode.step, line.1]
      exact .cons step (ih line.2)
  intro a spot
  cases spot with
  | @ready before mark =>
    have first : (Mode.code before).step '/' = some (.slash, []) := by simp [Mode.step, codeStep]
    have second : Mode.slash.step '/' = some (.comment, []) := rfl
    have ends : Mode.comment.Reads ['\n'] [] (.code '\n') := Mode.reads_singleton rfl
    have whole : ("//" ++ text ++ "\n").toList = '/' :: '/' :: (text.toList ++ ['\n']) := by simp
    refine ⟨.code '\n', .ready (by decide), ?_⟩
    rw [whole]
    exact .cons first (.cons second ((inside _ line).append ends))

theorem IsLine.append {other : String} (h : IsLine text) (h' : IsLine other) :
    IsLine (text ++ other) := by
  intro c mem
  rw [String.toList_append, List.mem_append] at mem
  exact mem.elim (h c) (h' c)

/-- A line of documentation. -/
theorem hasLines_doc {doc : String} (line : IsLine doc) :
    HasLines [indented 1 ("///" ++ doc)] [] := by
  have comment :=
    (moves_comment (IsLine.append (by decide : IsLine "/") line)).behind (moves_indentation 4)
  have marks : "//" ++ "/" = "///" := rfl
  simpa only [HasLines, withBreaks, indented, ← String.append_assoc, marks,
    String.append_empty] using comment

/-! ## Statements -/

mutual

/-- A statement with plain names and some literals. -/
inductive Stmt.Has : Stmt → List Literal → Prop
  | define {name : String} {value : Expr} {found : List Literal} (plain : IsPlain name)
    (value_ : value.Has found) : Stmt.Has (.define name value) found
  | run {e : Expr} {found : List Literal} (e_ : e.Has found) : Stmt.Has (.run e) found
  | assign {target value : Expr} {found more : List Literal} (target_ : target.Has found)
    (value_ : value.Has more) : Stmt.Has (.assign target value) (found ++ more)
  | block {body : List Stmt} {found : List Literal} (body_ : Stmt.HasAll body found) :
    Stmt.Has (.block body) found
  | answer {e : Expr} {found : List Literal} (e_ : e.Has found) : Stmt.Has (.answer e) found

/-- Statements with plain names, and their literals. -/
inductive Stmt.HasAll : List Stmt → List Literal → Prop
  | nil : Stmt.HasAll [] []
  | cons {s : Stmt} {rest : List Stmt} {found more : List Literal} (s_ : s.Has found)
    (rest_ : Stmt.HasAll rest more) : Stmt.HasAll (s :: rest) (found ++ more)

end

theorem Stmt.HasAll.append {stmts others : List Stmt} {found more : List Literal}
    (first : Stmt.HasAll stmts found) (second : Stmt.HasAll others more) :
    Stmt.HasAll (stmts ++ others) (found ++ more) := by
  induction stmts generalizing found with
  | nil =>
    cases first
    exact second
  | cons s stmts ih =>
    cases first with
    | cons s_ rest_ =>
      rw [List.append_assoc]
      exact .cons s_ (ih rest_)

theorem moves_let (plain : IsPlain name) : Moves .ready ("let " ++ name ++ " = ") [] .ready := by
  have word : Moves .ready "let" [] .done := moves_of_isPlain (by decide)
  have blank : Moves .done " " [] .ready := moves_of_isMark (by decide) .done
  have equals : Moves .done " = " [] .ready := moves_of_isMark (by decide) .done
  exact ((word.append blank).append (moves_of_isPlain plain)).append equals

mutual

/-- The lines of a statement have the literals of the statement. -/
theorem Stmt.Has.lines {s : Stmt} {found : List Literal} (h : s.Has found) (level : Nat) :
    HasLines (s.lines level) found :=
  match h with
  | .define plain value => by
    rw [Stmt.lines]
    exact (value.moves.behind (moves_let plain)).statement level
  | .run e => by
    rw [Stmt.lines]
    exact e.moves.statement level
  | .assign target value => by
    have equals : Moves .done " = " [] .ready := moves_of_isMark (by decide) .done
    rw [Stmt.lines]
    exact ((target.moves.before equals).append value.moves).statement level
  | .block body => by
    have opens : HasLines [indented level "\x7b"] [] :=
      (moves_of_isMark (by decide) .ready).done.line level
    have closes : HasLines [indented level "\x7d"] [] :=
      (moves_of_isMark (by decide) .ready).done.line level
    rw [Stmt.lines]
    simpa using (opens.append (body.lines (level + 1))).append closes
  | .answer e => by
    rw [Stmt.lines]
    exact e.moves.line level

theorem Stmt.HasAll.lines {stmts : List Stmt} {found : List Literal} (h : Stmt.HasAll stmts found)
    (level : Nat) : HasLines (Stmt.linesAll level stmts) found :=
  match h with
  | .nil => by
    rw [Stmt.linesAll]
    exact HasLines.nil
  | .cons s rest => by
    rw [Stmt.linesAll]
    exact (s.lines level).append (rest.lines level)

end

/-! ## Functions and implementations -/

/-- A function with plain names and some literals, which are those of its body. -/
structure Method.Has (m : Method) (found : List Literal) : Prop where
  docs : ∀ doc ∈ m.docs, IsLine doc
  attributes : ∀ a ∈ m.attributes, IsPlain a
  name : IsPlain m.name
  lifetimes : ∀ l ∈ m.lifetimes, Moves .ready l [] .done
  receiver : Moves .ready m.receiver [] .done
  params : ∀ p ∈ m.params, IsPlain p.1 ∧ p.2.IsBare
  result : ∀ type, m.result = some type → type.IsBare
  body : Stmt.HasAll m.body found

/-- An implementation with plain names and some literals. -/
structure Impl.Has (i : Impl) (found : List Literal) : Prop where
  trait : IsPlain i.trait
  type : IsPlain i.type
  method : i.method.Has found

theorem moves_attribute {a : String} (plain : IsPlain a) :
    Moves .ready ("#[" ++ a ++ "]") [] .done :=
  moves_of_isPlain ((IsPlain.append (by decide) plain).append (by decide))

namespace Method

variable {m : Method}

theorem Has.moves_generics (h : m.Has found) : Moves .done m.generics [] .done := by
  rw [generics]
  split
  · exact moves_empty .done
  · rw [String.append_assoc]
    exact (moves_commas h.lifetimes).enclosed (by decide) (by decide) .done

theorem moves_param {type : TypeExpr} (plain : IsPlain name) (bare : type.IsBare) :
    Moves .ready (name ++ ": " ++ type.text) [] .done :=
  ((moves_of_isPlain plain).before (moves_of_isMark (by decide) .done)).append bare.moves

theorem Has.moves_params (h : m.Has found) : ∀ t ∈ m.receiver :: m.params.map fun (name, type) =>
    name ++ ": " ++ type.text, Moves .ready t [] .done := by
  rw [List.forall_mem_cons, List.forall_mem_map]
  exact ⟨h.receiver, fun p mem => moves_param (h.params p mem).1 (h.params p mem).2⟩

/-- The first line of a function has no literals. -/
theorem Has.moves_head (h : m.Has found) : Moves .ready m.head [] .done := by
  have start : Moves .ready "fn " [] .ready := by
    have word : Moves .ready "fn" [] .done := moves_of_isPlain (by decide)
    exact word.append (moves_of_isMark (by decide : IsMark " ") .done)
  have params :=
    (moves_commas h.moves_params).enclosed (by decide : IsMark "(") (by decide : IsMark ")") .done
  have brace : Moves .done " \x7b" [] .done := (moves_of_isMark (by decide) .done).done
  have front := (((moves_of_isPlain h.name).append h.moves_generics).append params).behind start
  cases answer : m.result with
  | none =>
    rw [head, answer]
    simpa only [String.append_assoc, String.append_empty, List.append_nil] using front.append brace
  | some type =>
    have result :=
      (h.result type answer).moves.behind (moves_of_isMark (by decide : IsMark " -> ") .done)
    rw [head, answer]
    simpa only [String.append_assoc, List.append_nil] using front.append (result.append brace)

theorem Has.lines (h : m.Has found) : HasLines m.lines found := by
  have docs : HasLines (m.docs.map fun doc => indented 1 ("///" ++ doc)) [] :=
    .of_forall fun line mem => by
      obtain ⟨doc, listed, rfl⟩ := List.mem_map.1 mem
      exact hasLines_doc (h.docs doc listed)
  have attributes : HasLines (m.attributes.map fun a => indented 1 ("#[" ++ a ++ "]")) [] :=
    .of_forall fun line mem => by
      obtain ⟨a, listed, rfl⟩ := List.mem_map.1 mem
      exact (moves_attribute (h.attributes a listed)).line 1
  have closes : HasLines [indented 1 "\x7d"] [] := (moves_of_isMark (by decide) .ready).done.line 1
  simpa [Method.lines] using
    (((docs.append attributes).append (h.moves_head.line 1)).append (h.body.lines 2)).append closes

end Method

theorem withBreaks_eq_join {lines : List String} (some : lines ≠ []) :
    withBreaks lines = Text.join "\n" lines ++ "\n" := by
  induction lines with
  | nil => exact absurd rfl some
  | cons line lines ih =>
    cases lines with
    | nil => simp [withBreaks, Text.join]
    | cons next lines =>
      rw [withBreaks, ih (by simp), Text.join, Text.join, String.intercalate_cons_cons]
      simp only [String.append_assoc]

/-- The text of an implementation has the literals of its function. -/
theorem Impl.Has.moves {i : Impl} (h : i.Has found) :
    Moves .ready (i.text ++ "\n") found .ready := by
  have plain : IsPlain ("impl " ++ i.trait ++ " for " ++ i.type ++ " \x7b") :=
    .append (.append (.append (.append (by decide) h.trait) (by decide)) h.type) (by decide)
  have head := (moves_of_isPlain plain).line 0
  have closes : HasLines [indented 0 "\x7d"] [] := (moves_of_isMark (by decide) .ready).done.line 0
  rw [indented_zero] at head closes
  have lines := (head.append h.method.lines).append closes
  rw [HasLines, withBreaks_eq_join (by simp)] at lines
  simpa [Impl.text] using lines

/-- The literals of implementations with an empty line behind each, in the order of the
implementations. -/
theorem moves_texts {impls : List Impl} {founds : List (List Literal)}
    (has : List.Forall₂ Impl.Has impls founds) :
    Moves .ready (Text.join "\n" (impls.flatMap fun i => [i.text, ""])) founds.flatten .ready := by
  induction has with
  | nil => exact moves_empty .ready
  | @cons i found impls founds first rest ih =>
    rw [List.flatten_cons, List.flatMap_cons]
    cases rest with
    | nil => simpa [Text.join] using first.moves
    | @cons next _ others _ =>
      have gap : Moves .ready "\n" [] .ready := moves_of_isMark (by decide) .ready
      have cut : Text.join "\n" ([i.text, ""] ++ (next :: others).flatMap fun i => [i.text, ""]) =
          i.text ++ "\n" ++ ("\n" ++
            Text.join "\n" ((next :: others).flatMap fun i => [i.text, ""])) := by
        simp [Text.join, String.intercalate_cons_cons, String.append_assoc]
      rw [cut]
      exact first.moves.append (ih.behind gap)

end FlagBinding.Target
