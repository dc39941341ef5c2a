import FlagBinding.Proofs.Csv.ReadWrite
import Mathlib.Data.List.Perm.Basic

/-!
# Written records and quotes left over from a shell

The reader that ignores the quotes of a shell removes them before it looks for fields. The writer
does not know of them, so what is read from a written list are its texts without these quotes; and
the first one also without its byte-order mark, if it is not written between quotes.

## Main definitions

* `unquoted`, `unmarked`: what is lost of a text, and of the first of several.
* `Durable`: nothing is lost.

## Main statements

* `readUnquoted_write`: what is read from a written list.
* `perm_unmarked_unquoted_iff`: the texts are the same, in whatever order, exactly if nothing is
  lost.
-/

namespace FlagBinding.Text.Csv

/-! ## Symbols that the format does not know -/

section Alphabet

variable {α : Type} [DecidableEq α] {m : Marks α} {p : α → Bool} {field : List α}
  {fields : List (List α)}

/-- A class of symbols that has all marks of the format. -/
structure Marks.Within (m : Marks α) (p : α → Bool) : Prop where
  comma : p m.comma = true
  quote : p m.quote = true
  isBreak : ∀ c, m.isBreak c = true → p c = true

theorem needsQuotes_filter (within : m.Within p) :
    m.needsQuotes (field.filter p) = m.needsQuotes field := by
  have mark (c : α) (h : c = m.comma ∨ c = m.quote ∨ m.isBreak c = true) : p c = true := by
    rcases h with rfl | rfl | h
    · exact within.comma
    · exact within.quote
    · exact within.isBreak c h
  rw [Bool.eq_iff_iff]
  simp only [Marks.needsQuotes, List.any_filter, List.any_eq_true, Bool.and_eq_true,
    Bool.or_eq_true, decide_eq_true_eq, or_assoc]
  exact exists_congr fun c => and_congr_right fun _ => and_iff_right_of_imp (mark c)

theorem doubleQuotes_filter (within : m.Within p) :
    (doubleQuotes m field).filter p = doubleQuotes m (field.filter p) := by
  induction field with
  | nil => rfl
  | cons c field ih =>
    unfold doubleQuotes at ih ⊢
    rw [List.flatMap_cons, List.filter_append, ih]
    by_cases hc : c = m.quote
    · simp [hc, within.quote]
    · cases hp : p c <;> simp [hc, hp]

theorem writeField_filter (within : m.Within p) :
    (writeField m field).filter p = writeField m (field.filter p) := by
  rw [writeField, writeField, needsQuotes_filter within]
  split
  · simp [doubleQuotes_filter within, within.quote]
  · rfl

/-- Symbols that are no marks can be removed from a written record as well as from its fields. -/
theorem joinFields_filter (within : m.Within p) :
    (joinFields m fields).filter p = joinFields m (fields.map (List.filter p)) := by
  induction fields with
  | nil => rfl
  | cons field fields ih =>
    cases fields with
    | nil => simp [writeField_filter within]
    | cons next fields =>
      rw [joinFields_cons_cons, List.filter_append, List.filter_cons_of_pos within.comma, ih,
        writeField_filter within]
      simp

/-- What stands behind the first field of a record does not depend on it. -/
theorem exists_joinFields_cons (fields : List (List α)) :
    ∃ tail, ∀ field, joinFields m (field :: fields) = writeField m field ++ tail := by
  cases fields with
  | nil => exact ⟨[], fun field => by simp⟩
  | cons next fields =>
    exact ⟨m.comma :: joinFields m (next :: fields), fun field => joinFields_cons_cons next⟩

end Alphabet

/-! ## What the reader loses -/

def unquoted (text : String) : String :=
  String.ofList (text.toList.filter fun c => !isShellQuote c)

/-- A field without its byte-order mark, unless it is written between quotes. -/
def unmarkedField (field : List Char) : List Char :=
  if charMarks.needsQuotes field then field else dropByteOrderMark field

/-- Texts of which the first has lost its byte-order mark, unless it is written between quotes. -/
def unmarked : List String → List String
  | [] => []
  | first :: rest => String.ofList (unmarkedField first.toList) :: rest

theorem charMarks_within : charMarks.Within fun c => !isShellQuote c where
  comma := rfl
  quote := rfl
  isBreak c h := by
    rw [Marks.isBreak, Bool.or_eq_true, decide_eq_true_eq, decide_eq_true_eq] at h
    rcases h with rfl | rfl <;> rfl

theorem toList_write {texts : List String} (nonempty : texts ≠ []) (filled : texts ≠ [""]) :
    (write texts).toList = joinFields charMarks (texts.map String.toList) := by
  have noEmpty : texts.map String.toList ≠ [[]] := by
    intro h
    obtain ⟨t, rfl, empty⟩ := List.map_eq_singleton_iff.1 h
    exact filled (by rw [String.toList_eq_nil_iff.1 empty])
  rw [write, String.toList_ofList, writeLine_eq_joinFields charMarks_apart (by simpa) noEmpty]

theorem ne_singleton_empty {texts : List String} (filled : ∀ t ∈ texts, t ≠ "") : texts ≠ [""] := by
  rintro rfl
  exact filled "" (by simp) rfl

/-- The quotes of a shell are removed from a written list as well as from its texts. -/
theorem unquoted_write {texts : List String} (filled : ∀ t ∈ texts, unquoted t ≠ "") :
    unquoted (write texts) = write (texts.map unquoted) := by
  by_cases none : texts = []
  · rw [none]; rfl
  have before : ∀ t ∈ texts, t ≠ "" := fun t ht empty => filled t ht (by rw [empty]; rfl)
  have after : ∀ t ∈ texts.map unquoted, t ≠ "" := by simpa using filled
  apply String.toList_inj.1
  rw [toList_write (by simpa using none) (ne_singleton_empty after), unquoted, String.toList_ofList,
    toList_write none (ne_singleton_empty before), joinFields_filter charMarks_within,
      List.map_map, List.map_map]
  simp [Function.comp_def, unquoted]

theorem dropByteOrderMark_append {a : List Char} (h : a ≠ []) (b : List Char) :
    dropByteOrderMark (a ++ b) = dropByteOrderMark a ++ b := by
  obtain ⟨c, a, rfl⟩ := List.exists_cons_of_ne_nil h
  simp only [List.cons_append, dropByteOrderMark]
  split <;> rfl

theorem needsQuotes_dropByteOrderMark {field : List Char}
    (plain : charMarks.needsQuotes field = false) :
    charMarks.needsQuotes (dropByteOrderMark field) = false := by
  rw [needsQuotes_eq_false] at plain ⊢
  cases field with
  | nil => exact plain
  | cons c field =>
    rw [dropByteOrderMark]
    split
    · exact fun d mem => plain d (List.mem_cons_of_mem c mem)
    · exact plain

/-- The byte-order mark of a written field is the field's own, unless quotes stand around it. -/
theorem dropByteOrderMark_writeField {field : List Char} (filled : field ≠ []) (tail : List Char) :
    dropByteOrderMark (writeField charMarks field ++ tail) =
      writeField charMarks (unmarkedField field) ++ tail := by
  unfold unmarkedField
  split
  case isTrue quoted =>
    rw [writeField, if_pos quoted]
    exact dropByteOrderMark_of_head? (by decide : some '"' ≠ some byteOrderMark)
  case isFalse plain =>
    rw [Bool.not_eq_true] at plain
    have still := needsQuotes_dropByteOrderMark plain
    rw [writeField, writeField, if_neg (by simp [plain]), if_neg (by simp [still]),
      dropByteOrderMark_append filled]

/-- Nothing but a byte-order mark is lost. -/
theorem unmarkedField_eq (field : List Char) :
    unmarkedField field = field ∨ field = byteOrderMark :: unmarkedField field := by
  unfold unmarkedField
  split
  · exact .inl rfl
  cases field with
  | nil => exact .inl rfl
  | cons c field =>
    rw [dropByteOrderMark]
    split
    case isTrue mark => exact .inr (mark ▸ rfl)
    case isFalse => exact .inl rfl

theorem mem_unmarkedField {field : List Char} {c : Char} (mem : c ∈ field)
    (other : c ≠ byteOrderMark) : c ∈ unmarkedField field := by
  rcases unmarkedField_eq field with same | mark
  · rwa [same]
  · rw [mark] at mem
    exact List.mem_of_ne_of_mem other mem

theorem mem_of_mem_unmarkedField {field : List Char} {c : Char} (mem : c ∈ unmarkedField field) :
    c ∈ field := by
  rcases unmarkedField_eq field with same | mark
  · rwa [same] at mem
  · rw [mark]
    exact List.mem_cons_of_mem _ mem

@[simp] theorem length_unmarked (texts : List String) : (unmarked texts).length = texts.length := by
  cases texts <;> rfl

/-- A list of texts is read back, but for a byte-order mark at its start. -/
theorem read_write_eq_unmarked {texts : List String}
    (filled : ∀ t ∈ texts, ∃ c ∈ t.toList, c ≠ byteOrderMark) :
    read (write texts) = unmarked texts := by
  cases texts with
  | nil => rfl
  | cons first rest =>
    have ⟨⟨d, mem, other⟩, filled⟩ := List.forall_mem_cons.1 filled
    have nonempty : ∀ t ∈ rest, t ≠ "" := by
      rintro t ht rfl
      obtain ⟨c, mem, -⟩ := filled "" ht
      simp at mem
    obtain ⟨tail, shape⟩ := exists_joinFields_cons (m := charMarks) (rest.map String.toList)
    have written (t : String) (ht : t ≠ "") :
        (write (t :: rest)).toList = writeField charMarks t.toList ++ tail := by
      have filled : ∀ u ∈ t :: rest, u ≠ "" := List.forall_mem_cons.2 ⟨ht, nonempty⟩
      rw [toList_write (by simp) (ne_singleton_empty filled), List.map_cons, shape]
    have back (t : String) (ht : t ≠ "") :
        (readRecord charMarks (writeField charMarks t.toList ++ tail)).map String.ofList =
          t :: rest := by
      rw [← written t ht, write, String.toList_ofList, readRecord_writeLine charMarks_apart]
      simp [Function.comp_def]
    have filled : first.toList ≠ [] := List.ne_nil_of_mem mem
    have kept : String.ofList (unmarkedField first.toList) ≠ "" := by
      rw [ne_eq, ← String.toList_eq_nil_iff, String.toList_ofList]
      exact List.ne_nil_of_mem (mem_unmarkedField mem other)
    have := back _ kept
    rwa [String.toList_ofList, ← dropByteOrderMark_writeField filled,
      ← written first (by simpa using filled)] at this

/-- What the reader that ignores the quotes of a shell reads from a written list. -/
theorem readUnquoted_write {texts : List String}
    (filled : ∀ t ∈ texts, ∃ c ∈ t.toList, isShellQuote c = false ∧ c ≠ byteOrderMark) :
    readUnquoted (write texts) = unmarked (texts.map unquoted) := by
  have kept : ∀ t ∈ texts.map unquoted, ∃ c ∈ t.toList, c ≠ byteOrderMark := by
    intro _ hu
    obtain ⟨t, ht, rfl⟩ := List.mem_map.1 hu
    obtain ⟨c, mem, plain, other⟩ := filled t ht
    exact ⟨c, by simp [unquoted, mem, plain], other⟩
  have nonempty : ∀ t ∈ texts, unquoted t ≠ "" := by
    intro t ht empty
    obtain ⟨c, mem, -⟩ := kept _ (List.mem_map_of_mem ht)
    simp [empty] at mem
  rw [← read_write_eq_unmarked kept, ← unquoted_write nonempty]
  rfl

/-! ## Texts of which nothing is lost -/

/-- No text has a quote of a shell, and the first begins with a byte-order mark only between
quotes. -/
structure Durable (texts : List String) : Prop where
  quotes : ∀ t ∈ texts, ∀ c ∈ t.toList, isShellQuote c = false
  mark : ∀ first, texts.head? = some first → first.toList.head? = some byteOrderMark →
    charMarks.needsQuotes first.toList

theorem unquoted_eq_self {t : String} (plain : ∀ c ∈ t.toList, isShellQuote c = false) :
    unquoted t = t := by
  have : t.toList.filter (fun c => !isShellQuote c) = t.toList :=
    List.filter_eq_self.2 fun c mem => by simp [plain c mem]
  rw [unquoted, this, String.ofList_toList]

theorem map_unquoted_eq_self {texts : List String}
    (plain : ∀ t ∈ texts, ∀ c ∈ t.toList, isShellQuote c = false) :
    texts.map unquoted = texts :=
  List.map_congr_left (fun t ht => unquoted_eq_self (plain t ht)) |>.trans (List.map_id texts)

theorem isShellQuote_of_mem_unquoted {t : String} :
    ∀ c ∈ (unquoted t).toList, isShellQuote c = false := by
  intro c mem
  rw [unquoted, String.toList_ofList, List.mem_filter] at mem
  simpa using mem.2

theorem isShellQuote_of_mem_unmarked {texts : List String} :
    ∀ t ∈ unmarked (texts.map unquoted), ∀ c ∈ t.toList, isShellQuote c = false := by
  intro t ht c mem
  cases texts with
  | nil => simp [unmarked] at ht
  | cons first rest =>
    rw [List.map_cons, unmarked] at ht
    rcases List.mem_cons.1 ht with rfl | ht
    · rw [String.toList_ofList] at mem
      exact isShellQuote_of_mem_unquoted c (mem_of_mem_unmarkedField mem)
    · obtain ⟨t, -, rfl⟩ := List.mem_map.1 ht
      exact isShellQuote_of_mem_unquoted c mem

theorem unmarkedField_eq_self_iff {field : List Char} :
    unmarkedField field = field ↔
      (field.head? = some byteOrderMark → charMarks.needsQuotes field) := by
  unfold unmarkedField
  split
  case isTrue quoted => simp [quoted]
  case isFalse plain =>
    cases field with
    | nil => simp [dropByteOrderMark]
    | cons c field =>
      rw [dropByteOrderMark]
      split
      case isTrue mark => simpa [mark] using plain
      case isFalse other => simp [other]

/-- A text that is lost cannot be made up for by the others. -/
theorem perm_unmarked_iff {texts : List String} : (unmarked texts).Perm texts ↔
    ∀ first, texts.head? = some first → first.toList.head? = some byteOrderMark →
      charMarks.needsQuotes first.toList := by
  cases texts with
  | nil => simp [unmarked]
  | cons first rest =>
    have cancel (a b : String) : (a :: rest).Perm (b :: rest) ↔ a = b := by
      have : ([a] ++ rest).Perm ([b] ++ rest) ↔ [a].Perm [b] := List.perm_append_right_iff rest
      simpa using this
    rw [unmarked, cancel, ← String.toList_inj, String.toList_ofList, unmarkedField_eq_self_iff]
    simp

/-- The texts that are left are the same, in whatever order, exactly if nothing is lost. -/
theorem perm_unmarked_unquoted_iff {texts : List String} :
    (unmarked (texts.map unquoted)).Perm texts ↔ Durable texts := by
  constructor
  · intro perm
    have plain : ∀ t ∈ texts, ∀ c ∈ t.toList, isShellQuote c = false :=
      fun t ht => isShellQuote_of_mem_unmarked t (perm.symm.subset ht)
    rw [map_unquoted_eq_self plain] at perm
    exact ⟨plain, perm_unmarked_iff.1 perm⟩
  · intro durable
    rw [map_unquoted_eq_self durable.quotes]
    exact perm_unmarked_iff.2 durable.mark

end FlagBinding.Text.Csv
