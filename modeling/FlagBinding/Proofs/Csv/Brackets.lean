import FlagBinding.Proofs.Csv.Unquoted

/-!
# Written records and the brackets of shown lists

Lists are shown in square brackets, which a reader takes off before it looks for fields. The writer
does not put a field between quotes for a bracket in it. So a written record can begin and end with
brackets that belong to its fields, and then it is the text of a shown list of other fields.

## Main definitions

* `Bracketed`: the written list begins and ends with brackets.
* `inside`: what is read from it, the brackets taken off.

## Main statements

* `stripBrackets_write_eq_self_iff`: brackets are taken off just these lists.
* `read_stripBrackets_of_bracketed`: what is read from such a list, which is never the list itself.
-/

namespace FlagBinding.Text.Csv

section Alphabet

variable {α : Type} [DecidableEq α] {m : Marks α} {field : List α} {fields : List (List α)} {c : α}

/-! ## The ends of a written record -/

theorem head?_writeField (other : c ≠ m.quote) :
    (writeField m field).head? = some c ↔ m.needsQuotes field = false ∧ field.head? = some c := by
  unfold writeField
  split
  case isTrue quoted => simp [quoted, Ne.symm other]
  case isFalse plain => simp [plain]

theorem getLast?_writeField (other : c ≠ m.quote) :
    (writeField m field).getLast? = some c ↔ m.needsQuotes field = false ∧
      field.getLast? = some c := by
  unfold writeField
  split
  case isTrue quoted =>
    rw [List.getLast?_concat]
    simp [quoted, Ne.symm other]
  case isFalse plain => simp [plain]

/-- A symbol that is none of the writer's own can only begin a record if it begins the first
field. -/
theorem head?_joinFields_iff (other : c ≠ m.quote ∧ c ≠ m.comma) :
    (joinFields m fields).head? = some c ↔
      ∃ first, fields.head? = some first ∧ m.needsQuotes first = false ∧ first.head? = some c := by
  cases fields with
  | nil => simp [joinFields]
  | cons field fields =>
    rw [List.head?_cons]
    simp only [Option.some.injEq, exists_eq_left', ← head?_writeField other.1]
    cases fields with
    | nil => simp
    | cons next fields =>
      rw [joinFields_cons_cons, List.head?_append]
      cases (writeField m field).head? <;> simp [Ne.symm other.2]

theorem getLast?_joinFields_iff (other : c ≠ m.quote ∧ c ≠ m.comma) :
    (joinFields m fields).getLast? = some c ↔
      ∃ last, fields.getLast? = some last ∧ m.needsQuotes last = false ∧
        last.getLast? = some c := by
  induction fields with
  | nil => simp [joinFields]
  | cons field fields ih =>
    cases fields with
    | nil => simp [getLast?_writeField other.1]
    | cons next fields =>
      rw [List.getLast?_cons_cons, ← ih, joinFields_cons_cons, List.getLast?_append,
        List.getLast?_cons]
      cases (joinFields m (next :: fields)).getLast? <;> simp [Ne.symm other.2]

/-! ## Records without their first and last symbols -/

/-- Fields of which the first has lost its first symbol. -/
def dropFirstSymbol : List (List α) → List (List α)
  | [] => []
  | field :: fields => field.tail :: fields

/-- Fields of which the last has lost its last symbol. -/
def dropLastSymbol : List (List α) → List (List α)
  | [] => []
  | [field] => [field.dropLast]
  | field :: next :: fields => field :: dropLastSymbol (next :: fields)

theorem needsQuotes_of_subset {part : List α} (subset : part ⊆ field)
    (plain : m.needsQuotes field = false) : m.needsQuotes part = false := by
  rw [needsQuotes_eq_false] at plain ⊢
  exact fun c mem => plain c (subset mem)

theorem joinFields_dropFirstSymbol (other : c ≠ m.quote ∧ c ≠ m.comma)
    (first : (joinFields m fields).head? = some c) :
    joinFields m fields = c :: joinFields m (dropFirstSymbol fields) := by
  obtain ⟨field, here, plain, starts⟩ := (head?_joinFields_iff other).1 first
  obtain ⟨fields, rfl⟩ := List.head?_eq_some_iff.1 here
  obtain ⟨field, rfl⟩ := List.head?_eq_some_iff.1 starts
  have still : m.needsQuotes field = false :=
    needsQuotes_of_subset (List.subset_cons_self c field) plain
  obtain ⟨tail, shape⟩ := exists_joinFields_cons (m := m) fields
  rw [dropFirstSymbol, List.tail_cons, shape, shape]
  simp [writeField, plain, still]

omit [DecidableEq α] in
/-- The first field is still there, but perhaps for its own last symbol. -/
theorem exists_dropLastSymbol_cons (field : List α) (fields : List (List α)) :
    ∃ first rest, dropLastSymbol (field :: fields) = first :: rest ∧
      first.length ≤ field.length := by
  cases fields with
  | nil => exact ⟨field.dropLast, [], rfl, by simp⟩
  | cons next fields => exact ⟨field, dropLastSymbol (next :: fields), rfl, Nat.le_refl _⟩

theorem joinFields_dropLastSymbol (other : c ≠ m.quote ∧ c ≠ m.comma)
    (last : (joinFields m fields).getLast? = some c) :
    joinFields m fields = joinFields m (dropLastSymbol fields) ++ [c] := by
  induction fields with
  | nil => simp [joinFields] at last
  | cons field fields ih =>
    cases fields with
    | nil =>
      rw [joinFields_singleton] at last
      obtain ⟨plain, ends⟩ := (getLast?_writeField other.1).1 last
      obtain ⟨front, rfl⟩ := List.getLast?_eq_some_iff.1 ends
      have still : m.needsQuotes front = false := needsQuotes_of_subset (by simp) plain
      simp [dropLastSymbol, writeField, plain, still]
    | cons next fields =>
      have behind : (joinFields m (next :: fields)).getLast? = some c := by
        rw [getLast?_joinFields_iff other] at last ⊢
        rwa [List.getLast?_cons_cons] at last
      obtain ⟨first, rest, shape, -⟩ := exists_dropLastSymbol_cons next fields
      rw [joinFields_cons_cons, ih behind, dropLastSymbol, shape, joinFields_cons_cons]
      simp

end Alphabet

/-! ## Texts in brackets -/

theorem stripBrackets_eq_self {input : String}
    (bare : input.toList.head? = some '[' → input.toList.getLast? ≠ some ']') :
    stripBrackets input = input := by
  unfold stripBrackets
  split
  case h_1 rest shape =>
    refine if_neg fun ends => bare (by simp [shape]) ?_
    rw [shape, List.getLast?_cons, ends]
    rfl
  case h_2 => rfl

/-- The written list begins with a bracket of its first text and ends with one of its last. -/
structure Bracketed (texts : List String) : Prop where
  opens : ∃ first, texts.head? = some first ∧ charMarks.needsQuotes first.toList = false ∧
    first.toList.head? = some '['
  closes : ∃ last, texts.getLast? = some last ∧ charMarks.needsQuotes last.toList = false ∧
    last.toList.getLast? = some ']'

def innerFields (texts : List String) : List (List Char) :=
  dropLastSymbol (dropFirstSymbol (texts.map String.toList))

/-- What is read between the brackets. -/
def inside (texts : List String) : List String :=
  let inner := unmarked ((innerFields texts).map String.ofList)
  if inner = [""] then [] else inner

theorem opening_apart : '[' ≠ charMarks.quote ∧ '[' ≠ charMarks.comma := by decide

theorem closing_apart : ']' ≠ charMarks.quote ∧ ']' ≠ charMarks.comma := by decide

theorem toList_write_of_head? {texts : List String}
    (first : (write texts).toList.head? = some '[') :
    (write texts).toList = joinFields charMarks (texts.map String.toList) := by
  refine toList_write ?_ ?_
  · rintro rfl
    exact absurd first (by decide)
  · rintro rfl
    exact absurd first (by decide)

theorem toList_write_of_bracketed {texts : List String} (bracketed : Bracketed texts) :
    (write texts).toList = joinFields charMarks (texts.map String.toList) := by
  obtain ⟨first, here, -, starts⟩ := bracketed.opens
  refine toList_write ?_ ?_
  · rintro rfl
    simp at here
  · rintro rfl
    obtain rfl : "" = first := by simpa using here
    simp at starts

theorem bracketed_iff {texts : List String} : Bracketed texts ↔
    (write texts).toList.head? = some '[' ∧ (write texts).toList.getLast? = some ']' := by
  have ends : Bracketed texts ↔
      (joinFields charMarks (texts.map String.toList)).head? = some '[' ∧
        (joinFields charMarks (texts.map String.toList)).getLast? = some ']' := by
    rw [head?_joinFields_iff opening_apart, getLast?_joinFields_iff closing_apart, List.head?_map,
      List.getLast?_map]
    simp only [Option.map_eq_some_iff, exists_exists_and_eq_and]
    constructor
    · intro bracketed
      exact ⟨bracketed.opens, bracketed.closes⟩
    · intro both
      exact ⟨both.1, both.2⟩
  constructor
  · intro bracketed
    rw [toList_write_of_bracketed bracketed]
    exact ends.1 bracketed
  · rintro ⟨first, last⟩
    have shape := toList_write_of_head? first
    rw [shape] at first last
    exact ends.2 ⟨first, last⟩

/-- A written list that has brackets at both ends is another text between brackets. -/
theorem write_of_bracketed {texts : List String} (bracketed : Bracketed texts) :
    write texts = "[" ++ String.ofList (joinFields charMarks (innerFields texts)) ++ "]" := by
  obtain ⟨first, last⟩ := bracketed_iff.1 bracketed
  have shape := toList_write_of_bracketed bracketed
  rw [shape] at first last
  have opened := joinFields_dropFirstSymbol opening_apart first
  -- The closing bracket is still there: it is not the symbol that the first field has lost.
  have closes : (joinFields charMarks (dropFirstSymbol (texts.map String.toList))).getLast? =
      some ']' := by
    rw [opened, List.getLast?_cons] at last
    cases inner : (joinFields charMarks (dropFirstSymbol (texts.map String.toList))).getLast? with
    | none => simp [inner] at last
    | some d => simpa [inner] using last
  have closed := joinFields_dropLastSymbol closing_apart closes
  apply String.toList_inj.1
  rw [shape, opened, closed]
  simp [innerFields]

/-- Brackets are taken off a written list exactly if it has them at both ends. -/
theorem stripBrackets_write_eq_self_iff {texts : List String} :
    stripBrackets (write texts) = write texts ↔ ¬ Bracketed texts := by
  constructor
  · intro same bracketed
    rw [write_of_bracketed bracketed, stripBrackets_wrap] at same
    have lengths := congrArg String.length same
    rw [String.length_append, String.length_append] at lengths
    have closing : "]".length = 1 := rfl
    omega
  · intro other
    apply stripBrackets_eq_self
    intro first last
    exact other (bracketed_iff.2 ⟨first, last⟩)

/-! ## Reading -/

theorem dropByteOrderMark_joinFields (field : List Char) (fields : List (List Char)) :
    dropByteOrderMark (joinFields charMarks (field :: fields)) =
      joinFields charMarks (unmarkedField field :: fields) := by
  by_cases empty : field = []
  · subst empty
    cases fields with
    | nil => rfl
    | cons next fields =>
      rw [joinFields_cons_cons]
      exact dropByteOrderMark_of_head? (by decide : some ',' ≠ some byteOrderMark)
  · obtain ⟨tail, shape⟩ := exists_joinFields_cons (m := charMarks) fields
    rw [shape, shape, dropByteOrderMark_writeField empty]

/-- Fields that are joined are read back, but for a byte-order mark at the start; nothing at all is
no field. -/
theorem read_joinFields {fields : List (List Char)} (nonempty : fields ≠ []) :
    read (String.ofList (joinFields charMarks fields)) =
      let texts := unmarked (fields.map String.ofList)
      if texts = [""] then [] else texts := by
  obtain ⟨field, fields, rfl⟩ := List.exists_cons_of_ne_nil nonempty
  have shape : unmarked ((field :: fields).map String.ofList) =
      (unmarkedField field :: fields).map String.ofList := by
    simp [unmarked]
  rw [read, String.toList_ofList, dropByteOrderMark_joinFields, shape]
  generalize unmarkedField field = first
  dsimp only
  split
  case isTrue empty =>
    obtain ⟨rfl, rfl⟩ : first = [] ∧ fields = [] := by simpa using empty
    rfl
  case isFalse filled =>
    have filled : first :: fields ≠ [[]] := by
      intro same
      exact filled (by rw [same]; rfl)
    rw [← writeLine_eq_joinFields charMarks_apart (by simp) filled,
      readRecord_writeLine charMarks_apart]

/-- Between the brackets the first text is a shorter one. -/
theorem exists_innerFields_cons {texts : List String} (bracketed : Bracketed texts) :
    ∃ first inner rest, texts.head? = some first ∧ innerFields texts = inner :: rest ∧
      inner.length < first.toList.length := by
  obtain ⟨first, here, -, starts⟩ := bracketed.opens
  obtain ⟨texts, rfl⟩ := List.head?_eq_some_iff.1 here
  obtain ⟨field, shape⟩ := List.head?_eq_some_iff.1 starts
  obtain ⟨inner, rest, dropped, shorter⟩ :=
    exists_dropLastSymbol_cons field (texts.map String.toList)
  refine ⟨first, inner, rest, rfl, ?_, ?_⟩
  · rw [innerFields, List.map_cons, shape]
    exact dropped
  · rw [shape, List.length_cons]
    omega

/-- From a written list with brackets at both ends is read what stands between them. -/
theorem read_stripBrackets_of_bracketed {texts : List String} (bracketed : Bracketed texts) :
    read (stripBrackets (write texts)) = inside texts := by
  obtain ⟨_, inner, rest, -, shape, -⟩ := exists_innerFields_cons bracketed
  rw [write_of_bracketed bracketed, stripBrackets_wrap, read_joinFields (by simp [shape])]
  rfl

theorem inside_of_innerFields {texts : List String} {inner : List Char} {rest : List (List Char)}
    (shape : innerFields texts = inner :: rest) :
    inside texts = if unmarkedField inner :: rest = [[]] then []
      else (unmarkedField inner :: rest).map String.ofList := by
  have same : unmarked ((innerFields texts).map String.ofList) =
      (unmarkedField inner :: rest).map String.ofList := by
    simp [shape, unmarked]
  have empty : (unmarkedField inner :: rest).map String.ofList = [""] ↔
      unmarkedField inner :: rest = [[]] := by
    simp
  rw [inside, same]
  simp only [empty]

/-- That is never the list itself. -/
theorem inside_ne_self {texts : List String} (bracketed : Bracketed texts) :
    inside texts ≠ texts := by
  obtain ⟨first, inner, rest, here, shape, shorter⟩ := exists_innerFields_cons bracketed
  rw [inside_of_innerFields shape]
  rintro rfl
  split at here
  case isTrue => simp at here
  case isFalse =>
    obtain rfl : String.ofList (unmarkedField inner) = first := by simpa using here
    rw [String.toList_ofList] at shorter
    rcases unmarkedField_eq inner with same | mark
    · rw [same] at shorter
      omega
    · have longer := congrArg List.length mark
      rw [List.length_cons] at longer
      omega

/-- If no byte-order mark stands behind the bracket, the text is the one that is shown for what is
read from it. -/
theorem wrap_write_inside {texts : List String} (bracketed : Bracketed texts)
    (clean : (write texts).toList[1]? ≠ some byteOrderMark) :
    "[" ++ write (inside texts) ++ "]" = write texts := by
  obtain ⟨_, inner, rest, -, shape, -⟩ := exists_innerFields_cons bracketed
  rw [write_of_bracketed bracketed, shape] at clean ⊢
  have unmarked : unmarkedField inner = inner := by
    refine unmarkedField_eq_self_iff.2 fun starts => ?_
    by_contra plain
    have first : (joinFields charMarks (inner :: rest)).head? = some byteOrderMark :=
      (head?_joinFields_iff (by decide)).2 ⟨inner, rfl, by simpa using plain, starts⟩
    obtain ⟨tail, shape⟩ := List.head?_eq_some_iff.1 first
    simp [shape] at clean
  rw [inside_of_innerFields shape, unmarked]
  congr 2
  split
  case isTrue empty =>
    rw [empty]
    rfl
  case isFalse filled =>
    have filled : (inner :: rest).map String.ofList ≠ [""] := by simpa using filled
    apply String.toList_inj.1
    rw [toList_write (by simp) filled]
    simp [Function.comp_def]

end FlagBinding.Text.Csv
