import FlagBinding.Proofs.Literals.Code
import FlagBinding.Target.Layout

/-!
# The literals of code that is laid out

A layout puts down all words of its pieces in their order, with blanks, line breaks or commas in the
gaps. So code has the same literals wherever its lines are broken. Comments are the exception: they
have to end with their lines, and they do, since a group that always has breaks never fits on a
line.

## Main definitions

* `Pen.At`: the literals in what has been put down.
* `Sets`: pieces with some literals, wherever they are put down.

## Main statements

* `Expr.Has.sets`, `Stmt.Has.sets`: the literals of code as pieces.
* `moves_layOut`: the literals of code that is laid out.
-/

namespace FlagBinding

open Target

/-- What has been put down leads from a place in code to a place where the next word may stand. -/
def Pen.At (start : Mode) (P : Spot) (pen : Pen) (found : List Literal) : Prop :=
  ∃ a : Mode, a.At .done ∧ start.Reads pen.text.toList found a ∧ (pen.pending = 0 → a.At P)

namespace Pen.At

variable {start : Mode} {P Q : Spot} {pen : Pen} {text : String} {found more : List Literal}

theorem write (h : pen.At start P found) (moves : Moves P text more Q) :
    (pen.write text).At start Q (found ++ more) := by
  obtain ⟨a, done, reads, spot⟩ := h
  obtain ⟨b, atP, reads⟩ : ∃ b : Mode, b.At P ∧
      start.Reads (pen.text ++ pen.indentation).toList found b := by
    by_cases none : pen.pending = 0
    case pos =>
      refine ⟨a, spot none, ?_⟩
      simpa [indentation, none] using reads
    case neg =>
      have blanks : IsMark pen.indentation := by
        refine ⟨by simpa [indentation] using none, fun c mem => ?_⟩
        rw [indentation, String.toList_ofList] at mem
        rw [List.eq_of_mem_replicate mem]
        decide
      obtain ⟨b, ready, reads'⟩ := moves_of_isMark blanks .done a done
      refine ⟨b, ready.of_ready P, ?_⟩
      rw [String.toList_append]
      simpa using reads.append reads'
  obtain ⟨c, atQ, reads'⟩ := moves b atP
  refine ⟨c, atQ.done, ?_, fun _ => atQ⟩
  rw [Pen.write, String.toList_append]
  exact reads.append reads'

theorem newLine (h : pen.At start P found) (indent : Int) (Q : Spot) :
    (pen.newLine indent).At start Q found := by
  obtain ⟨a, done, reads, -⟩ := h
  obtain ⟨b, ready, reads'⟩ := moves_of_isMark (by decide : IsMark "\n") .done a done
  refine ⟨b, ready.done, ?_, fun _ => ready.of_ready Q⟩
  rw [Pen.newLine, String.toList_append]
  simpa using reads.append reads'

theorem skip (h : pen.At start P found) (n : Nat) : (pen.skip n).At start P found := by
  obtain ⟨a, done, reads, spot⟩ := h
  exact ⟨a, done, reads, fun none => spot (Nat.eq_zero_of_add_eq_zero none).1⟩

/-- Behind a blank, a literal may start. -/
theorem skip_pos (h : pen.At start P found) {n : Nat} (pos : 0 < n) (Q : Spot) :
    (pen.skip n).At start Q found := by
  obtain ⟨a, done, reads, -⟩ := h
  exact ⟨a, done, reads,
    fun none => absurd (Nat.eq_zero_of_add_eq_zero none).2 (Nat.pos_iff_ne_zero.1 pos)⟩

/-- A break is a line break, perhaps with a comma in front of it. A gap that is never empty keeps
names and literals apart. -/
theorem putGap (h : pen.At start P found) {g : Gap} (keeps : Q = P ∨ 0 < g.blank) (mode : GapMode)
    (indent : Int) (size : Nat) : (Piece.putGap mode indent pen g size).At start Q found := by
  rw [Piece.putGap]
  split
  case isTrue =>
    split
    · have comma := h.write (moves_of_isMark (by decide : IsMark ",") P)
      simpa using comma.newLine (indent + g.offset) Q
    · exact h.newLine (indent + g.offset) Q
  case isFalse =>
    rcases keeps with rfl | pos
    · exact h.skip g.blank
    · exact h.skip_pos pos Q

end Pen.At

namespace Piece

/-- Pieces with some literals that lead from places of one sort to places of another one, wherever
they are put down and whatever comes behind them. -/
def Sets (P : Spot) (pieces : List Piece) (found : List Literal) (Q : Spot) : Prop :=
  ∀ (start : Mode) (before : List Literal) (mode : GapMode) (indent : Int)
    (after : Nat) (pen : Pen), pen.At start P before →
    (putAll mode indent after pen pieces).At start Q (before ++ found)

variable {P Q R : Spot} {pieces rest : List Piece} {found more : List Literal} {text : String}

theorem reach_append (after : Nat) (pieces rest : List Piece) :
    reach after (pieces ++ rest) = reach (reach after rest) pieces := by
  fun_induction reach (reach after rest) pieces <;> grind [reach]

theorem putAll_append (mode : GapMode) (indent : Int) (after : Nat) (pen : Pen)
    (pieces rest : List Piece) :
    putAll mode indent after pen (pieces ++ rest) =
      putAll mode indent after (putAll mode indent (reach after rest) pen pieces) rest := by
  induction pieces generalizing pen with
  | nil => rw [putAll, List.nil_append]
  | cons p pieces ih => rw [List.cons_append, putAll, putAll, ih, reach_append]

theorem sets_nil (P : Spot) : Sets P [] [] P := by
  intro start before mode indent after pen spot
  rw [putAll, List.append_nil]
  exact spot

theorem Sets.append (first : Sets P pieces found Q) (second : Sets Q rest more R) :
    Sets P (pieces ++ rest) (found ++ more) R := by
  intro start before mode indent after pen spot
  rw [putAll_append, ← List.append_assoc]
  exact second _ _ _ _ _ _ (first _ _ _ _ _ _ spot)

/-- Pieces with something without literals behind them. -/
theorem Sets.before (h : Sets P pieces found Q) (behind : Sets Q rest [] R) :
    Sets P (pieces ++ rest) found R := by
  simpa using h.append behind

/-- Pieces with something without literals in front of them. -/
theorem Sets.behind (h : Sets Q pieces found R) (front : Sets P rest [] Q) :
    Sets P (rest ++ pieces) found R := by
  simpa using front.append h

theorem Sets.done (h : Sets P pieces found Q) : Sets P pieces found .done := by
  intro start before mode indent after pen spot
  obtain ⟨a, done, reads, -⟩ := h start before mode indent after pen spot
  exact ⟨a, done, reads, fun _ => done⟩

theorem sets_word (moves : Moves P text found Q) : Sets P [.word text] found Q := by
  intro start before mode indent after pen spot
  simp only [putAll, put]
  exact spot.write moves

theorem sets_gap {g : Gap} (keeps : Q = P ∨ 0 < g.blank) : Sets P [.gap g] [] Q := by
  intro start before mode indent after pen spot
  simp only [putAll, put, List.append_nil]
  exact spot.putGap keeps mode indent _

theorem Sets.group (h : Sets P pieces found Q) (whole : Bool) (offset : Int) :
    Sets P [.group whole offset pieces] found Q := by
  intro start before mode indent after pen spot
  simp only [putAll, put]
  split
  · exact h _ _ _ _ _ _ spot
  · exact h _ _ _ _ _ _ spot

theorem sets_mark (mark : IsMark text) (P : Spot) : Sets P [.word text] [] .ready :=
  sets_word (moves_of_isMark mark P)

end Piece

namespace Target

open Piece

variable {P Q : Spot} {pieces rest : List Piece} {items : List (List Piece)}
    {text start ending : String}
  {found more : List Literal}

/-- Items with some literals. -/
inductive Items : List (List Piece) → List Literal → Prop
  | nil : Items [] []
  | cons {item : List Piece} {rest : List (List Piece)} {found more : List Literal}
    (item_ : Sets .ready item found .done) (rest_ : Items rest more) :
    Items (item :: rest) (found ++ more)

theorem sets_softBreak (offset : Int) (P : Spot) : Sets P [softBreak offset] [] P :=
  sets_gap (.inl rfl)

theorem sets_hardBreak (offset : Int) (P Q : Spot) : Sets P [hardBreak offset] [] Q :=
  sets_gap (.inr (by decide : 0 < hardWidth))

theorem Items.sets_spread (h : Items items found) : Sets .ready (spread items) found .done := by
  induction h with
  | nil => exact (sets_nil .ready).done
  | @cons item rest found more item_ rest_ ih =>
    cases rest_ with
    | nil =>
      have comma : Sets .done [commaBreak (-step)] [] .done := sets_gap (.inl rfl)
      simpa [spread] using item_.before comma
    | cons next others =>
      have comma : Sets .done [.word ",", .gap { blank := 1 }] [] .ready :=
        (sets_mark (by decide : IsMark ",") .done).append (sets_gap (.inl rfl))
      exact (item_.before comma).append ih

theorem Items.sets_enclosed (h : Items items found) (opens : IsMark start) (closes : IsMark ending)
    (indent : Int) (P : Spot) : Sets P (enclosed start ending indent items) found .done := by
  have first := sets_mark opens P
  have last := (sets_mark closes .done).done
  unfold enclosed
  split
  case isTrue none =>
    obtain rfl : items = [] := by simpa using none
    cases h
    exact first.append (sets_mark closes .ready).done
  case isFalse =>
    have inner := (h.sets_spread.behind (sets_softBreak 0 .ready)).group true indent
    exact (inner.behind first).before last

theorem sets_dotBreak (lineStart : Bool) (base : Expr) (P : Spot) :
    Sets P (dotBreak lineStart base) [] P := by
  unfold dotBreak
  split
  · exact sets_nil P
  · exact sets_softBreak 0 P

theorem sets_dotted {name : String} (h : Sets .ready pieces found .done) (plain : IsPlain name)
    (lineStart : Bool) (base : Expr) :
    Sets .ready (pieces ++ dotBreak lineStart base ++ [.word ("." ++ name)]) found .done :=
  (h.before (sets_dotBreak lineStart base .done)).before
    (sets_word (moves_mark_name (by decide) plain .done))

mutual

/-- The pieces of an expression have the literals of the expression, also inside a chain. -/
theorem Expr.Has.sets {e : Expr} {found : List Literal} (h : e.Has found) (lineStart : Bool) :
    Sets .ready (e.pieces lineStart) found .done ∧ Sets .ready (e.chain lineStart) found .done :=
  match h with
  | .path plain => by
    have word := sets_word (moves_of_isPlain plain)
    rw [Expr.pieces, Expr.chain]
    exact ⟨word, word.group true _⟩
  | .literal reads => by
    rw [Expr.pieces, Expr.chain]
    exact ⟨sets_word reads, (sets_word reads).group true _⟩
  | .field base plain => by
    have dotted := sets_dotted (base.sets lineStart).2 plain lineStart
    rw [Expr.pieces, Expr.chain]
    exact ⟨(dotted _).group true _, dotted _⟩
  | .call function args => by
    have call :=
      args.items.sets_enclosed (by decide : IsMark "(") (by decide : IsMark ")") step .done
    rw [Expr.pieces, Expr.chain]
    exact ⟨(function.sets lineStart).1.append call, (function.sets false).2.append call⟩
  | .method receiver plain args => by
    have dotted := sets_dotted (receiver.sets lineStart).2 plain lineStart
    have call :=
      args.items.sets_enclosed (by decide : IsMark "(") (by decide : IsMark ")") step .done
    have whole := fun base offset => (dotted base).append (call.group true offset)
    simp only [List.append_assoc, List.cons_append, List.nil_append] at whole
    rw [Expr.pieces, Expr.chain]
    simp only [List.append_assoc]
    exact ⟨(whole _ _).group true _, whole _ _⟩
  | .borrow e => by
    have borrow := fun isMutable => (e.sets false).1.behind (sets_word (moves_borrowMark isMutable))
    rw [Expr.pieces, Expr.chain]
    exact ⟨borrow _, (borrow _).group true _⟩
  | .tuple elements => by
    have tuple :=
      elements.items.sets_enclosed (by decide : IsMark "(") (by decide : IsMark ")") step .ready
    rw [Expr.pieces, Expr.chain]
    exact ⟨tuple, tuple.group true _⟩
  | .array elements => by
    have array :=
      elements.items.sets_enclosed (by decide : IsMark "[") (by decide : IsMark "]") step .ready
    rw [Expr.pieces, Expr.chain]
    exact ⟨array, array.group true _⟩
  | .propagate e => by
    have mark := (sets_mark (by decide : IsMark "?") .done).done
    rw [Expr.pieces, Expr.chain]
    exact ⟨(e.sets lineStart).1.before mark, (e.sets lineStart).2.before mark⟩

theorem Expr.HasAll.items {es : List Expr} {found : List Literal} (h : Expr.HasAll es found) :
    Items (Expr.piecesAll es) found :=
  match h with
  | .nil => by
    rw [Expr.piecesAll]
    exact .nil
  | .cons e rest => by
    rw [Expr.piecesAll]
    exact .cons (e.sets false).1 rest.items

end

/-! ## Types -/

mutual

/-- The pieces of a type have no literals. -/
theorem TypeExpr.IsBare.sets {type : TypeExpr} (h : type.IsBare) :
    Sets .ready type.pieces [] .done :=
  match h with
  | .lifetime reads => by
    rw [TypeExpr.pieces]
    exact sets_word reads
  | .path plain .nil => by
    rw [TypeExpr.pieces]
    exact sets_word (moves_of_isPlain plain)
  | .path plain (.cons type rest) => by
    have args := (TypeExpr.AreBare.cons type rest).items.sets_enclosed (by decide : IsMark "<")
      (by decide : IsMark ">") step .done
    rw [TypeExpr.pieces]
    · exact (sets_word (moves_of_isPlain plain)).append args
    · simp
  | .borrow type => by
    have borrow := fun isMutable => type.sets.behind (sets_word (moves_borrowMark isMutable))
    rw [TypeExpr.pieces]
    exact borrow _
  | .unit => by
    rw [TypeExpr.pieces]
    exact (sets_mark (by decide) .ready).done

theorem TypeExpr.AreBare.items {types : List TypeExpr} (h : TypeExpr.AreBare types) :
    Items (TypeExpr.piecesAll types) [] :=
  match h with
  | .nil => by
    rw [TypeExpr.piecesAll]
    exact .nil
  | .cons type rest => by
    rw [TypeExpr.piecesAll]
    exact Items.cons type.sets rest.items

end

/-! ## Statements -/

/-- Items without literals. -/
theorem items_of_forall (bare : ∀ item ∈ items, Sets .ready item [] .done) : Items items [] := by
  induction items with
  | nil => exact .nil
  | cons item items ih =>
    rw [List.forall_mem_cons] at bare
    exact Items.cons bare.1 (ih bare.2)

theorem Items.sets_linesOf (h : Items items found) : Sets .ready (linesOf items) found .ready := by
  induction h with
  | nil => exact sets_nil .ready
  | @cons item rest found more item_ rest_ ih =>
    cases rest_ with
    | nil => simpa [linesOf] using item_.before (sets_hardBreak (-step) .done .ready)
    | cons next others =>
      exact (item_.before (sets_hardBreak 0 .done .ready)).append ih

theorem Items.sets_braced (h : Items items found) (P : Spot) :
    Sets P (braced items) found .done := by
  have opens := sets_mark (by decide : IsMark "\x7b") P
  have closes := (sets_mark (by decide : IsMark "\x7d") .ready).done
  unfold braced
  split
  case isTrue none =>
    obtain rfl : items = [] := by simpa using none
    cases h
    exact opens.append closes
  case isFalse =>
    exact (h.sets_linesOf.behind (opens.before (sets_hardBreak 0 .ready .ready))).before closes

mutual

/-- The pieces of a statement have the literals of the statement. -/
theorem Stmt.Has.sets {s : Stmt} {found : List Literal} (h : s.Has found) :
    Sets .ready s.pieces found .done :=
  match h with
  | .define plain value => by
    have semicolon := (sets_mark (by decide : IsMark ";") .done).done
    rw [Stmt.pieces]
    exact (((value.sets false).1.behind
      (sets_word (moves_let plain))).before semicolon).group false 0
  | .run e => by
    have semicolon := (sets_mark (by decide : IsMark ";") .done).done
    rw [Stmt.pieces]
    exact ((e.sets true).1.before semicolon).group false 0
  | .assign target value => by
    have equals := sets_mark (by decide : IsMark " = ") .done
    have semicolon := (sets_mark (by decide : IsMark ";") .done).done
    rw [Stmt.pieces]
    exact (((((target.sets false).1.before equals).append
      (value.sets false).1).group false 0).before
      semicolon).group false 0
  | .block body => by
    rw [Stmt.pieces]
    exact (body.items.sets_braced .ready).group true step
  | .answer e => by
    rw [Stmt.pieces]
    exact (e.sets true).1

theorem Stmt.HasAll.items {stmts : List Stmt} {found : List Literal} (h : Stmt.HasAll stmts found) :
    Items (Stmt.piecesAll stmts) found :=
  match h with
  | .nil => by
    rw [Stmt.piecesAll]
    exact .nil
  | .cons s rest => by
    rw [Stmt.piecesAll]
    exact .cons s.sets rest.items

end

/-! ## Functions and implementations -/

/-- The pieces of documentation. -/
def documentation (docs : List String) : List Piece :=
  docs.flatMap fun doc => [.word ("///" ++ doc), hardBreak]

theorem sets_attributes {attributes : List String} (plain : ∀ a ∈ attributes, IsPlain a) :
    Sets .ready (attributes.flatMap fun a => [.word ("#[" ++ a ++ "]"), hardBreak]) [] .ready := by
  induction attributes with
  | nil => exact sets_nil .ready
  | cons a attributes ih =>
    rw [List.forall_mem_cons] at plain
    have first := (sets_word (moves_attribute plain.1)).append (sets_hardBreak 0 .done .ready)
    exact first.append (ih plain.2)

namespace Method.Has

variable {m : Method}

theorem sets_generics (h : m.Has found) : Sets .done (if m.lifetimes.isEmpty then []
    else enclosed "<" ">" 0 (m.lifetimes.map fun l => [.word l])) [] .done := by
  split
  · exact sets_nil .done
  · refine (items_of_forall fun item mem => ?_).sets_enclosed (by decide) (by decide) 0 .done
    obtain ⟨l, listed, rfl⟩ := List.mem_map.1 mem
    exact sets_word (h.lifetimes l listed)

theorem items_params (h : m.Has found) :
    Items ([.word m.receiver] :: m.params.map fun (name, type) =>
    .word (name ++ ": ") :: type.pieces) [] := by
  refine items_of_forall ?_
  rw [List.forall_mem_cons, List.forall_mem_map]
  refine ⟨sets_word h.receiver, fun p mem => ?_⟩
  obtain ⟨plain, bare⟩ := h.params p mem
  have colon : Moves .done ": " [] .ready := moves_of_isMark (by decide) .done
  have param := bare.sets.behind (sets_word ((moves_of_isPlain plain).append colon))
  exact param

theorem sets_resultPieces (h : m.Has found) : Sets .done m.resultPieces [] .done := by
  unfold resultPieces
  split
  case h_1 type answer =>
    exact ((h.result type answer).sets.behind
      (sets_mark (by decide : IsMark " -> ") .done)).group true _
  case h_2 => exact sets_nil .done

theorem sets_params (h : m.Has found) : Sets .done [.word "(", .gap { fixed := true },
    box 0 (softBreak :: spread ([.word m.receiver] :: m.params.map fun (name, type) =>
      .word (name ++ ": ") :: type.pieces)), .word ")"] [] .done := by
  have opens := sets_mark (by decide : IsMark "(") .done
  have closes := (sets_mark (by decide : IsMark ")") .done).done
  have first : Sets .ready [.gap { fixed := true }] [] .ready := sets_gap (.inl rfl)
  have inner := (h.items_params.sets_spread.behind (sets_softBreak 0 .ready)).group true 0
  exact ((opens.append first).append inner).append closes

/-- What stands behind the documentation of a function. -/
theorem exists_sets (h : m.Has found) :
    ∃ behind, m.pieces = documentation m.docs ++ behind ∧ Sets .ready behind found .done := by
  have name : Sets .ready [.word ("fn " ++ m.name)] [] .done :=
    sets_word (moves_of_isPlain (IsPlain.append (by decide) h.name))
  have blank : Sets .done [.word " "] [] .ready := sets_mark (by decide) .done
  have head :=
    (((name.append h.sets_generics).append h.sets_params).append h.sets_resultPieces).append blank
  refine ⟨_, by rw [pieces, List.append_assoc, documentation], ?_⟩
  exact (((h.body.items.sets_braced .ready).behind head).group true _).behind
    (sets_attributes h.attributes)

end Method.Has

/-- A comment ends with its line. -/
theorem at_comment {start : Mode} {pen : Pen} {before : List Literal}
    (h : pen.At start .ready before) (line : IsLine text) (indent : Int) :
    ((pen.write ("//" ++ text)).newLine indent).At start .ready before := by
  obtain ⟨a, done, reads, spot⟩ := h.write (moves_comment line)
  refine ⟨a, done, ?_, fun _ => spot rfl⟩
  simpa [Pen.write, Pen.newLine, String.append_assoc] using reads

/-- Where all gaps are breaks, documentation is a line for each of its lines. -/
theorem at_docs {start : Mode} {pen : Pen} {before : List Literal} (h : pen.At start .ready before)
    {docs : List String} (lines : ∀ doc ∈ docs, IsLine doc) (indent : Int) (after : Nat) :
    (putAll .breaks indent after pen (documentation docs)).At start .ready before := by
  induction docs generalizing pen with
  | nil => simpa [documentation, putAll] using h
  | cons doc docs ih =>
    rw [List.forall_mem_cons] at lines
    have first := at_comment h (IsLine.append (by decide : IsLine "/") lines.1) (indent + 0)
    rw [← String.append_assoc] at first
    simpa [documentation, putAll, put, hardBreak, putGap, breaksAt] using ih first lines.2

theorem hardWidth_le_widthAll {offset : Int} (mem : hardBreak offset ∈ pieces) :
    hardWidth ≤ widthAll pieces := by
  induction pieces with
  | nil => simp at mem
  | cons p pieces ih =>
    rw [widthAll]
    rcases List.mem_cons.1 mem with rfl | mem
    · simp [width, hardBreak]
    · have := ih mem
      omega

/-- The first line of an implementation. -/
theorem Impl.Has.sets_head {i : Impl} (h : i.Has found) : Sets .ready
    [.group false (-step) [box step [.word "impl"], .word (" " ++ i.trait),
      blank, .word ("for " ++ i.type)], .word " \x7b", hardBreak] [] .ready := by
  have impl := (sets_word (moves_of_isPlain (by decide : IsPlain "impl"))).group true step
  have trait := sets_word (moves_mark_name (by decide : IsMark " ") h.trait .done)
  have gap : Sets .done [blank] [] .ready := sets_gap (.inr (by decide))
  have type := sets_word (moves_of_isPlain (IsPlain.append (by decide : IsPlain "for ") h.type))
  have brace := sets_mark (by decide : IsMark " \x7b") .done
  exact (((((impl.append trait).append gap).append type).group false (-step)).append brace).append
    (sets_hardBreak 0 .ready .ready)

/-- The last line of an implementation starts where no line is indented. -/
theorem at_end {start : Mode} {pen : Pen} (h : pen.At start .done found) (after : Nat) :
    (putAll .breaks step after pen [hardBreak (-step), .word "\x7d"]).At start .ready found ∧
      (putAll .breaks step after pen [hardBreak (-step), .word "\x7d"]).room ≤ lineWidth := by
  have last : putAll .breaks step after pen [hardBreak (-step), .word "\x7d"] =
      (pen.newLine 0).write "\x7d" := by
    simp [putAll, put, hardBreak, putGap, breaksAt, step]
  have room : ((pen.newLine 0).write "\x7d").room = max (lineWidth - 0) leastRoom - 1 := rfl
  rw [last]
  refine ⟨?_, by rw [room]; decide⟩
  simpa using (h.newLine 0 .ready).write (moves_of_isMark (by decide : IsMark "\x7d") .ready)

/-- Documentation between other pieces, in a group that has a break at its end. Such a group never
fits on a line, so documentation ends with its lines, and behind the group no line is longer than
the others. -/
theorem at_box {head behind : List Piece} {docs : List String} (front : Sets .ready head [] .ready)
    (lines : ∀ doc ∈ docs, IsLine doc) (sets : Sets .ready behind found .done)
    {start : Mode} {pen : Pen} {before : List Literal} (spot : pen.At start .ready before)
    (room : pen.room ≤ lineWidth) (after : Nat) :
    let last := put .fill 0 after pen
      (box step (head ++ (documentation docs ++ behind) ++ [hardBreak (-step), .word "\x7d"]))
    last.At start .ready (before ++ found) ∧ last.room ≤ lineWidth := by
  intro last
  have broken : pen.room < (widthAll (head ++ (documentation docs ++ behind) ++
      [hardBreak (-step), .word "\x7d"]) + after : Nat) := by
    have inside : hardBreak (-step) ∈ head ++ (documentation docs ++ behind) ++
      [hardBreak (-step), .word "\x7d"] := by simp
    have wide := hardWidth_le_widthAll inside
    have narrow : lineWidth < (hardWidth : Int) := by decide
    omega
  have spread : last = putAll .breaks step after pen
      (head ++ (documentation docs ++ behind) ++ [hardBreak (-step), .word "\x7d"]) := by
    simp only [last, box, put, if_pos broken, if_true, Int.zero_add]
  rw [spread, putAll_append, putAll_append, putAll_append]
  have first := fun size => front start before .breaks step size pen spot
  simp only [List.append_nil] at first
  exact at_end (sets _ _ _ _ _ _ (at_docs (first _) lines step _)) after

/-- A break behind a group of the first level. -/
theorem at_break {start : Mode} {pen : Pen} (h : pen.At start P found) (room : pen.room ≤ lineWidth)
    (after : Nat) :
    let last := put .fill 0 after pen hardBreak
    last.At start .ready found ∧ last.room ≤ lineWidth := by
  intro last
  have gap : last = putGap .fill 0 pen { blank := hardWidth } (hardWidth + after) := by
    simp only [last, hardBreak, put]
  rw [gap]
  refine ⟨h.putGap (.inr (by decide)) _ _ _, ?_⟩
  unfold putGap
  split
  · exact Int.le_refl _
  · show pen.room - (hardWidth : Int) ≤ lineWidth
    omega

/-- The pieces of an implementation have the literals of the implementation. -/
theorem Impl.Has.at_pieces {i : Impl} (h : i.Has found) {start : Mode}
    {pen : Pen} {before : List Literal} (spot : pen.At start .ready before)
    (room : pen.room ≤ lineWidth) (after : Nat) :
    (putAll .fill 0 after pen i.pieces).At start .ready (before ++ found) ∧
      (putAll .fill 0 after pen i.pieces).room ≤ lineWidth := by
  obtain ⟨behind, form, sets⟩ := h.method.exists_sets
  obtain ⟨inside, short⟩ :=
    at_box h.sets_head h.method.docs sets spot room (reach after [hardBreak])
  rw [Impl.pieces, form, putAll, putAll, putAll]
  exact at_break inside short (reach after [])

/-- The literals of implementations that are laid out, in the order of the implementations. -/
theorem moves_layOut {impls : List Impl} {founds : List (List Literal)}
    (has : List.Forall₂ Impl.Has impls founds) :
    Moves .ready (layOut impls) founds.flatten .done := by
  have each : ∀ (start : Mode) (pen : Pen) (before : List Literal), pen.At start .ready before →
      pen.room ≤ lineWidth →
      (putAll .fill 0 0 pen (impls.flatMap Impl.pieces)).At start .ready
        (before ++ founds.flatten) := by
    induction has with
    | nil =>
      intro start pen before spot _
      simpa [putAll] using spot
    | @cons i found impls founds first _ ih =>
      intro start pen before spot room
      obtain ⟨at_, room⟩ := first.at_pieces spot room (reach 0 (impls.flatMap Impl.pieces))
      rw [List.flatMap_cons, putAll_append, List.flatten_cons, ← List.append_assoc]
      exact ih start _ _ at_ room
  intro start ready
  have none : ({} : Pen).At start .ready [] := ⟨start, ready.done, by simp, fun _ => ready⟩
  obtain ⟨a, done, reads, -⟩ := each start {} [] none (Int.le_refl _)
  exact ⟨a, done, reads⟩

end Target

end FlagBinding
