import FlagBinding.Proofs.Csv.ReadWrite
import Mathlib.Tactic.ByContra
import Mathlib.Tactic.SplitIfs

/-!
# Records spelled in another alphabet

The symbols of a record can be spelled in another alphabet, as characters are spelled in bytes. If
each mark is spelled as the same mark, and no other symbol has a mark in its spelling, then the
format does not see the difference: a spelled record is read as the spelled fields, and spelled
fields are written as the spelled record.

## Main definitions

* `Marks.Plain`: a symbol that has no meaning in a record.
* `Spelling`: a way to spell one alphabet in another that keeps the marks.

## Main statements

* `readRecord_flatMap`, `writeRecord_flatMap`: reading and writing commute with a spelling.
* `trimEnd_flatMap`: so does the trimming of line breaks.
-/

namespace FlagBinding.Text.Csv

variable {α β : Type}

/-! ## Symbols in front of a record -/

theorem exists_prepend (c : α) (fields : List (List α)) :
    ∃ field others, prepend c fields = (c :: field) :: others := by
  cases fields with
  | nil => exact ⟨[], [], rfl⟩
  | cons field fields => exact ⟨field, fields, rfl⟩

theorem foldr_prepend_nil {run : List α} (nonempty : run ≠ []) : run.foldr prepend [] = [run] := by
  induction run with
  | nil => contradiction
  | cons c run ih =>
    cases run with
    | nil => rfl
    | cons d run => rw [List.foldr_cons, ih (by simp), prepend]

theorem foldr_prepend_cons (run field : List α) (fields : List (List α)) :
    run.foldr prepend (field :: fields) = (run ++ field) :: fields := by
  induction run with
  | nil => rfl
  | cons c run ih => rw [List.foldr_cons, ih, prepend, List.cons_append]

variable [DecidableEq α] [DecidableEq β] {m : Marks α} {n : Marks β} {spell : α → List β}

/-! ## Spellings -/

/-- A symbol that has no meaning in a record. -/
def Marks.Plain (m : Marks α) (c : α) : Prop :=
  c ≠ m.comma ∧ c ≠ m.quote ∧ m.isBreak c = false

/-- The symbols of one alphabet are spelled in another: each mark as the same mark, and any other
symbol by symbols that are no marks. -/
structure Spelling (m : Marks α) (n : Marks β) (spell : α → List β) : Prop where
  apart : m.Apart
  apart' : n.Apart
  comma : spell m.comma = [n.comma]
  quote : spell m.quote = [n.quote]
  cr : spell m.cr = [n.cr]
  lf : spell m.lf = [n.lf]
  nonempty : ∀ c, spell c ≠ []
  plain : ∀ c, m.Plain c → ∀ d ∈ spell c, n.Plain d

theorem Marks.mark_cases {c : α} (mark : ¬ m.Plain c) :
    c = m.comma ∨ c = m.quote ∨ c = m.cr ∨ c = m.lf := by
  by_contra other
  simp only [not_or] at other
  exact mark ⟨other.1, other.2.1, by simp [Marks.isBreak, other.2.2]⟩

@[simp] theorem Marks.isBreak_cr : m.isBreak m.cr = true := by simp [Marks.isBreak]

@[simp] theorem Marks.isBreak_lf : m.isBreak m.lf = true := by simp [Marks.isBreak]

/-- A mark is spelled as one symbol, on which every test of the reader and the writer comes out the
same. -/
theorem Spelling.mark (spelling : Spelling m n spell) {c : α} (mark : ¬ m.Plain c) :
    ∃ d, spell c = [d] ∧ (d = n.comma ↔ c = m.comma) ∧ (d = n.quote ↔ c = m.quote) ∧
      n.isBreak d = m.isBreak c := by
  obtain ⟨ne, quote, comma⟩ := spelling.apart
  obtain ⟨ne', quote', comma'⟩ := spelling.apart'
  rcases Marks.mark_cases mark with rfl | rfl | rfl | rfl
  · exact ⟨_, spelling.comma, by grind⟩
  · exact ⟨_, spelling.quote, by grind⟩
  · exact ⟨_, spelling.cr, by grind [Marks.isBreak_cr]⟩
  · exact ⟨_, spelling.lf, by grind [Marks.isBreak_lf]⟩

theorem Spelling.flatMap_eq_nil_iff (spelling : Spelling m n spell) {input : List α} :
    input.flatMap spell = [] ↔ input = [] := by
  cases input with
  | nil => simp
  | cons c input => simp [spelling.nonempty c]

/-- Spelled backwards the marks are still marks. -/
theorem Spelling.reverse (spelling : Spelling m n spell) :
    Spelling m n fun c => (spell c).reverse where
  apart := spelling.apart
  apart' := spelling.apart'
  comma := by simp [spelling.comma]
  quote := by simp [spelling.quote]
  cr := by simp [spelling.cr]
  lf := by simp [spelling.lf]
  nonempty := by simp [spelling.nonempty]
  plain := by simpa using spelling.plain

/-! ## Reading -/

/-- Where the reader stands behind a symbol that is no mark. -/
def Position.behindPlain : Position → Position
  | .quoted => .quoted
  | _ => .bare

theorem fieldsFrom_cons_plain {p : Position} {c : α} (plain : m.Plain c) (rest : List α) :
    fieldsFrom m p (c :: rest) = prepend c (fieldsFrom m p.behindPlain rest) := by
  obtain ⟨comma, quote, noBreak⟩ := plain
  cases p <;> simp [fieldsFrom, comma, quote, noBreak, Position.behindPlain]

theorem readRecord_cons_plain {c : α} (plain : m.Plain c) (rest : List α) :
    readRecord m (c :: rest) = prepend c (fieldsFrom m .bare rest) := by
  rw [readRecord, trimStart, List.dropWhile_cons_of_neg (by simp [plain.2.2])]
  exact fieldsFrom_cons_plain plain rest

theorem fieldsFrom_append_plain {p : Position} {run : List α} (nonempty : run ≠ [])
    (plain : ∀ c ∈ run, m.Plain c) (rest : List α) :
    fieldsFrom m p (run ++ rest) = run.foldr prepend (fieldsFrom m p.behindPlain rest) := by
  induction run generalizing p with
  | nil => contradiction
  | cons c run ih =>
    obtain ⟨first, plain⟩ := List.forall_mem_cons.1 plain
    rw [List.cons_append, fieldsFrom_cons_plain first, List.foldr_cons]
    cases run with
    | nil => rfl
    | cons d run =>
      rw [ih (by simp) plain]
      cases p <;> rfl

theorem map_prepend (spelling : Spelling m n spell) (c : α) (fields : List (List α)) :
    (prepend c fields).map (List.flatMap spell) =
      (spell c).foldr prepend (fields.map (List.flatMap spell)) := by
  cases fields with
  | nil =>
    rw [List.map_nil, foldr_prepend_nil (spelling.nonempty c)]
    simp [prepend]
  | cons field fields =>
    rw [List.map_cons, foldr_prepend_cons]
    simp [prepend]

/-- A spelled record is read as the spelled fields. -/
theorem fieldsFrom_flatMap (spelling : Spelling m n spell) (p : Position) (input : List α) :
    fieldsFrom n p (input.flatMap spell) = (fieldsFrom m p input).map (List.flatMap spell) := by
  induction input generalizing p with
  | nil => cases p <;> rfl
  | cons c input ih =>
    rw [List.flatMap_cons]
    by_cases plain : m.Plain c
    · rw [fieldsFrom_append_plain (spelling.nonempty c) (spelling.plain c plain), ih,
        fieldsFrom_cons_plain plain, map_prepend spelling]
    · obtain ⟨d, single, comma, quote, noBreak⟩ := spelling.mark plain
      rw [single, List.singleton_append]
      -- Wherever the two readers stand, they take the same branch.
      cases p <;> simp only [fieldsFrom, comma, quote, noBreak] <;> split_ifs <;>
        simp [ih, map_prepend spelling, single]

theorem trimStart_flatMap (spelling : Spelling m n spell) (input : List α) :
    trimStart n.isBreak (input.flatMap spell) = (trimStart m.isBreak input).flatMap spell := by
  unfold trimStart
  induction input with
  | nil => rfl
  | cons c input ih =>
    rw [List.flatMap_cons]
    by_cases plain : m.Plain c
    · obtain ⟨d, run, shape⟩ := List.exists_cons_of_ne_nil (spelling.nonempty c)
      have first : n.Plain d := spelling.plain c plain d (by simp [shape])
      rw [List.dropWhile_cons_of_neg (by simp [plain.2.2]), List.flatMap_cons,
        shape, List.cons_append, List.dropWhile_cons_of_neg (by simp [first.2.2])]
    · obtain ⟨d, single, -, -, same⟩ := spelling.mark plain
      rw [single, List.singleton_append, List.dropWhile_cons, List.dropWhile_cons, same, ih]
      split <;> simp [single]

theorem trimEnd_flatMap (spelling : Spelling m n spell) (input : List α) :
    trimEnd n.isBreak (input.flatMap spell) = (trimEnd m.isBreak input).flatMap spell := by
  have backwards := trimStart_flatMap spelling.reverse input.reverse
  unfold trimStart at backwards
  rw [trimEnd, trimEnd, List.reverse_flatMap, Function.comp_def, backwards, List.reverse_flatMap]
  simp [Function.comp_def]

/-- A spelled text is read as the spelled fields of the text. -/
theorem readRecord_flatMap (spelling : Spelling m n spell) (input : List α) :
    readRecord n (input.flatMap spell) = (readRecord m input).map (List.flatMap spell) := by
  rw [readRecord, trimStart_flatMap spelling, readRecord]
  cases trimStart m.isBreak input with
  | nil => rfl
  | cons c rest =>
    have filled : (c :: rest).flatMap spell ≠ [] := mt spelling.flatMap_eq_nil_iff.1 (by simp)
    have fields := fieldsFrom_flatMap spelling .fieldStart (c :: rest)
    obtain ⟨d, run, shape⟩ := List.exists_cons_of_ne_nil filled
    rw [shape] at fields ⊢
    exact fields

/-! ## Writing -/

theorem Spelling.plain_iff (spelling : Spelling m n spell) (c : α) :
    (∀ d ∈ spell c, n.Plain d) ↔ m.Plain c := by
  refine ⟨fun plain => ?_, spelling.plain c⟩
  by_contra mark
  obtain ⟨d, single, comma, quote, same⟩ := spelling.mark mark
  rw [single, List.forall_mem_singleton, Marks.Plain, ne_eq, ne_eq, comma, quote, same] at plain
  exact mark plain

theorem needsQuotes_flatMap (spelling : Spelling m n spell) (field : List α) :
    n.needsQuotes (field.flatMap spell) = m.needsQuotes field := by
  have plain : n.needsQuotes (field.flatMap spell) = false ↔ m.needsQuotes field = false := by
    rw [needsQuotes_eq_false, needsQuotes_eq_false, List.forall_mem_flatMap]
    exact forall₂_congr fun c _ => spelling.plain_iff c
  cases quoted : m.needsQuotes field <;> simp_all

theorem doubleQuotes_append (left right : List α) :
    doubleQuotes m (left ++ right) = doubleQuotes m left ++ doubleQuotes m right :=
  List.flatMap_append

theorem doubleQuotes_eq_self {field : List α} (none : m.quote ∉ field) :
    doubleQuotes m field = field := by
  induction field with
  | nil => rfl
  | cons c field ih =>
    rw [List.mem_cons, not_or] at none
    unfold doubleQuotes at ih ⊢
    rw [List.flatMap_cons, ih none.2, if_neg (Ne.symm none.1), List.singleton_append]

theorem Spelling.quote_mem_iff (spelling : Spelling m n spell) (c : α) :
    n.quote ∈ spell c ↔ c = m.quote := by
  by_cases plain : m.Plain c
  · refine iff_of_false (fun mem => ?_) plain.2.1
    exact (spelling.plain c plain _ mem).2.1 rfl
  · obtain ⟨d, single, -, quote, -⟩ := spelling.mark plain
    rw [single, List.mem_singleton, eq_comm, quote]

theorem doubleQuotes_flatMap (spelling : Spelling m n spell) (field : List α) :
    doubleQuotes n (field.flatMap spell) = (doubleQuotes m field).flatMap spell := by
  induction field with
  | nil => rfl
  | cons c field ih =>
    rw [List.flatMap_cons, doubleQuotes_append, ih, ← List.singleton_append,
      doubleQuotes_append, List.flatMap_append]
    congr 1
    by_cases quote : c = m.quote
    · simp [quote, doubleQuotes, spelling.quote]
    · rw [doubleQuotes_eq_self (mt (spelling.quote_mem_iff c).1 quote)]
      simp [doubleQuotes, quote]

theorem writeField_flatMap (spelling : Spelling m n spell) (field : List α) :
    writeField n (field.flatMap spell) = (writeField m field).flatMap spell := by
  rw [writeField, writeField, needsQuotes_flatMap spelling]
  split
  · simp [doubleQuotes_flatMap spelling, spelling.quote]
  · rfl

theorem joinFields_flatMap (spelling : Spelling m n spell) (fields : List (List α)) :
    joinFields n (fields.map (List.flatMap spell)) = (joinFields m fields).flatMap spell := by
  induction fields with
  | nil => rfl
  | cons field fields ih =>
    cases fields with
    | nil => simp [writeField_flatMap spelling]
    | cons next fields =>
      rw [List.map_cons] at ih
      rw [List.map_cons, List.map_cons, joinFields_cons_cons, joinFields_cons_cons, ih,
        writeField_flatMap spelling]
      simp [spelling.comma]

/-- The spelled fields are written as the spelled record of the fields. -/
theorem writeRecord_flatMap (spelling : Spelling m n spell) (fields : List (List α)) :
    writeRecord n (fields.map (List.flatMap spell)) = (writeRecord m fields).flatMap spell := by
  by_cases none : fields = []
  · rw [none]
    rfl
  by_cases empty : fields = [[]]
  · rw [empty]
    simp [writeRecord, spelling.quote, spelling.lf]
  have filled : fields.map (List.flatMap spell) ≠ [[]] := by
    intro single
    obtain ⟨field, rfl, nothing⟩ := List.map_eq_singleton_iff.1 single
    exact empty (by rw [spelling.flatMap_eq_nil_iff.1 nothing])
  rw [writeRecord_eq_joinFields none empty, writeRecord_eq_joinFields (by simpa using none) filled,
    joinFields_flatMap spelling]
  simp [spelling.lf]

end FlagBinding.Text.Csv
