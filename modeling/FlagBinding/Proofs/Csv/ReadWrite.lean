import FlagBinding.Text.Csv

/-!
# Written records are read back

The writer quotes a field exactly where the reader would otherwise cut it, so reading a written
record gives its fields: the reader is followed through a field up to what can stand behind one.

## Main statements

* `writeRecord_eq_writeLine_append`: only the line feed that ends a record is trimmed.
* `readRecord_writeLine`: any list of fields is read back, over any alphabet.
* `read_write`: so is any list of texts, unless the first begins with a byte-order mark.
-/

namespace FlagBinding.Text.Csv

section Alphabet

variable {α : Type} [DecidableEq α] {m : Marks α} {field : List α} {fields : List (List α)}

/-- Marks that the reader can tell from each other; only the two line breaks may be one symbol. -/
structure Marks.Apart (m : Marks α) : Prop where
  quote_ne_comma : m.quote ≠ m.comma
  quote_not_break : m.isBreak m.quote = false
  comma_not_break : m.isBreak m.comma = false

theorem needsQuotes_eq_false : m.needsQuotes field = false ↔
    ∀ c ∈ field, c ≠ m.comma ∧ c ≠ m.quote ∧ m.isBreak c = false := by
  simp [Marks.needsQuotes, and_assoc]

/-! ## Reading one field -/

/-- What can stand behind a field: it ends the field, and the fields after it are `more`. -/
def Closes (m : Marks α) (tail : List α) (more : List (List α)) : Prop :=
  ∀ p, p ≠ .quoted → fieldsFrom m p tail = [] :: more

theorem closes_nil : Closes m [] [] := fun p _ => by cases p <;> rfl

theorem closes_comma (apart : m.Apart) (rest : List α) :
    Closes m (m.comma :: rest) (fieldsFrom m .fieldStart rest) := by
  intro p hp
  have h := apart.quote_ne_comma.symm
  cases p with
  | quoted => exact absurd rfl hp
  | fieldStart | bare | afterQuote => simp [fieldsFrom, h]

variable {tail : List α} {more : List (List α)}

theorem fieldsFrom_bare (plain : m.needsQuotes field = false) (closes : Closes m tail more) :
    fieldsFrom m .bare (field ++ tail) = field :: more := by
  rw [needsQuotes_eq_false] at plain
  induction field with
  | nil => exact closes _ (by simp)
  | cons c field ih =>
    obtain ⟨hc, -, hb⟩ := plain c (by simp)
    have rest := ih fun d hd => plain d (by simp [hd])
    simp [fieldsFrom, hc, hb, rest, prepend]

theorem fieldsFrom_quoted (closes : Closes m tail more) :
    fieldsFrom m .quoted (doubleQuotes m field ++ m.quote :: tail) = field :: more := by
  induction field with
  | nil => simpa [doubleQuotes, fieldsFrom] using closes .afterQuote (by simp)
  | cons c field ih =>
    by_cases hc : c = m.quote
    · simpa [doubleQuotes, fieldsFrom, hc, prepend] using congrArg (prepend m.quote) ih
    · simpa [doubleQuotes, fieldsFrom, hc, prepend] using congrArg (prepend c) ih

/-- A written field is read as the field, whatever comes next. -/
theorem fieldsFrom_writeField (closes : Closes m tail more) :
    fieldsFrom m .fieldStart (writeField m field ++ tail) = field :: more := by
  unfold writeField
  split
  case isTrue => simpa [fieldsFrom] using fieldsFrom_quoted closes
  case isFalse plain =>
    rw [Bool.not_eq_true] at plain
    cases field with
    | nil => exact closes _ (by simp)
    | cons c field =>
      obtain ⟨hc, hq, hb⟩ := needsQuotes_eq_false.1 plain c (by simp)
      have plain : m.needsQuotes field = false :=
        needsQuotes_eq_false.2 fun d hd => needsQuotes_eq_false.1 plain d (by simp [hd])
      have rest := fieldsFrom_bare plain closes
      simp [fieldsFrom, hc, hq, hb, rest, prepend]

/-! ## Reading a record -/

def joinFields (m : Marks α) (fields : List (List α)) : List α :=
  ((fields.map (writeField m)).intersperse [m.comma]).flatten

@[simp] theorem joinFields_singleton : joinFields m [field] = writeField m field := by
  simp [joinFields]

@[simp] theorem joinFields_cons_cons (next : List α) :
    joinFields m (field :: next :: fields) =
      writeField m field ++ m.comma :: joinFields m (next :: fields) := by
  simp [joinFields]

theorem fieldsFrom_joinFields (apart : m.Apart) (h : fields ≠ []) :
    fieldsFrom m .fieldStart (joinFields m fields) = fields := by
  induction fields with
  | nil => exact absurd rfl h
  | cons field fields ih =>
    cases fields with
    | nil =>
      have whole : fieldsFrom m .fieldStart (writeField m field ++ []) = [field] :=
        fieldsFrom_writeField closes_nil
      simpa using whole
    | cons next fields =>
      rw [joinFields_cons_cons, fieldsFrom_writeField (closes_comma apart _), ih (by simp)]

/-- The first symbol of a written record: one of the writer's own, or that of the first field. -/
theorem head?_joinFields {c : α} (h : (joinFields m (field :: fields)).head? = some c) :
    c = m.quote ∨ c = m.comma ∨ (m.needsQuotes field = false ∧ field.head? = some c) := by
  have first (hf : (writeField m field).head? = some c) :
      c = m.quote ∨ (m.needsQuotes field = false ∧ field.head? = some c) := by
    unfold writeField at hf
    split at hf
    · exact .inl (by simpa using hf.symm)
    · exact .inr ⟨by simp_all, hf⟩
  cases fields with
  | nil => grind [joinFields_singleton]
  | cons next fields =>
    rw [joinFields_cons_cons] at h
    cases hw : writeField m field with
    | nil => grind
    | cons d rest => grind

theorem isBreak_of_getLast?_writeField (apart : m.Apart) {c : α}
    (h : (writeField m field).getLast? = some c) : m.isBreak c = false := by
  unfold writeField at h
  split at h
  case isTrue =>
    rw [List.getLast?_concat, Option.some.injEq] at h
    exact h ▸ apart.quote_not_break
  case isFalse plain =>
    rw [Bool.not_eq_true] at plain
    exact (needsQuotes_eq_false.1 plain c (List.mem_of_getLast? h)).2.2

/-- A record does not end in a line break of its own. -/
theorem isBreak_of_getLast?_joinFields (apart : m.Apart) {c : α}
    (h : (joinFields m fields).getLast? = some c) : m.isBreak c = false := by
  induction fields with
  | nil => simp [joinFields] at h
  | cons field fields ih =>
    cases fields with
    | nil => exact isBreak_of_getLast?_writeField apart (by simpa using h)
    | cons next fields =>
      rw [joinFields_cons_cons, List.getLast?_append] at h
      cases hl : (joinFields m (next :: fields)).getLast? with
      | none =>
        rw [List.getLast?_eq_none_iff] at hl
        have : c = m.comma := by simpa [hl] using h.symm
        exact this ▸ apart.comma_not_break
      | some d =>
        have : d = c := by simpa [List.getLast?_cons, hl] using h
        exact ih (this ▸ hl)

/-- The fields are joined and ended by a line feed. A record of one empty field is the exception: it
is written as a pair of quotes. -/
theorem writeRecord_eq_joinFields (h : fields ≠ []) (h' : fields ≠ [[]]) :
    writeRecord m fields = joinFields m fields ++ [m.lf] := by
  unfold writeRecord
  split <;> simp_all [joinFields]

theorem writeLine_eq_joinFields (apart : m.Apart) (h : fields ≠ []) (h' : fields ≠ [[]]) :
    writeLine m fields = joinFields m fields := by
  rw [writeLine, writeRecord_eq_joinFields h h']
  exact trimEnd_append_singleton (by simp [Marks.isBreak])
    fun c hc => isBreak_of_getLast?_joinFields apart hc

theorem writeLine_nil : writeLine m [] = [] := rfl

theorem writeLine_empty_field (apart : m.Apart) : writeLine m [[]] = [m.quote, m.quote] :=
  trimEnd_append_singleton (l := [m.quote, m.quote]) (by simp [Marks.isBreak])
    fun c hc => by
      have : m.quote = c := by simpa using hc
      exact this ▸ apart.quote_not_break

/-- Nothing but the final line feed is trimmed from a record, whatever line breaks are in its
fields. -/
theorem writeRecord_eq_writeLine_append (apart : m.Apart) (h : fields ≠ []) :
    writeRecord m fields = writeLine m fields ++ [m.lf] := by
  by_cases h' : fields = [[]]
  · rw [h', writeLine_empty_field apart]
    rfl
  · rw [writeLine_eq_joinFields apart h h', writeRecord_eq_joinFields h h']

/-- Any list of fields is read back. -/
theorem readRecord_writeLine (apart : m.Apart) (fields : List (List α)) :
    readRecord m (writeLine m fields) = fields := by
  by_cases none : fields = []
  · rw [none, writeLine_nil]; rfl
  by_cases empty : fields = [[]]
  · rw [empty, writeLine_empty_field apart]
    simp [readRecord, trimStart, apart.quote_not_break, fieldsFrom]
  rw [writeLine_eq_joinFields apart none empty]
  have whole := fieldsFrom_joinFields apart none
  cases hj : joinFields m fields with
  | nil =>
    rw [hj] at whole
    exact absurd whole.symm empty
  | cons c rest =>
    rw [hj] at whole
    obtain ⟨field, others, rfl⟩ := List.exists_cons_of_ne_nil none
    have noBreak : m.isBreak c = false := by
      rcases head?_joinFields (by rw [hj]; rfl) with rfl | rfl | ⟨plain, hc⟩
      · exact apart.quote_not_break
      · exact apart.comma_not_break
      · exact (needsQuotes_eq_false.1 plain c (List.mem_of_head? hc)).2.2
    simpa [readRecord, trimStart, noBreak] using whole

end Alphabet

/-! ## Texts -/

theorem charMarks_apart : charMarks.Apart := ⟨by decide, by decide, by decide⟩

theorem dropByteOrderMark_of_head? {input : List Char}
    (h : input.head? ≠ some byteOrderMark) : dropByteOrderMark input = input := by
  cases input with
  | nil => rfl
  | cons c rest => exact if_neg (by simpa using h)

/-- A written list starts with a byte-order mark only if its first text does. -/
theorem head?_writeLine_ne_byteOrderMark {fields : List (List Char)}
    (h : ∀ field, fields.head? = some field → field.head? ≠ some byteOrderMark) :
    (writeLine charMarks fields).head? ≠ some byteOrderMark := by
  by_cases none : fields = []
  · simp [none, writeLine_nil]
  by_cases empty : fields = [[]]
  · rw [empty, writeLine_empty_field charMarks_apart]; decide
  rw [writeLine_eq_joinFields charMarks_apart none empty]
  obtain ⟨field, others, rfl⟩ := List.exists_cons_of_ne_nil none
  intro mark
  rcases head?_joinFields mark with hq | hc | ⟨-, hf⟩
  · exact absurd hq (by decide)
  · exact absurd hc (by decide)
  · exact h field rfl hf

/-- A list of texts is read back, unless its first text begins with a byte-order mark. -/
theorem read_write {fields : List String}
    (h : ∀ field, fields.head? = some field → field.toList.head? ≠ some byteOrderMark) :
    read (write fields) = fields := by
  have unmarked : (writeLine charMarks (fields.map String.toList)).head? ≠ some byteOrderMark := by
    refine head?_writeLine_ne_byteOrderMark fun field hf => ?_
    rw [List.head?_map, Option.map_eq_some_iff] at hf
    obtain ⟨text, ht, rfl⟩ := hf
    exact h text ht
  rw [read, write, String.toList_ofList, dropByteOrderMark_of_head? unmarked,
    readRecord_writeLine charMarks_apart, List.map_map]
  simp [Function.comp_def, String.ofList_toList]

theorem stripBrackets_wrap (text : String) : stripBrackets ("[" ++ text ++ "]") = text := by
  have shape : ("[" ++ text ++ "]").toList = '[' :: (text.toList ++ [']']) := by
    simp [String.toList_append]
  simp [stripBrackets, shape, String.ofList_toList]

end FlagBinding.Text.Csv
