import FlagBinding.Cell.StringMap
import FlagBinding.Element.Format
import FlagBinding.Proofs.Csv.Unquoted
import FlagBinding.Proofs.Elements.Integers
import Mathlib.Data.List.Nodup
import Mathlib.Data.List.Perm.Subperm

/-!
# Maps through text

A map cell shows its entries in the form in which it reads them, but its reader also removes the
quotes of a shell and a byte-order mark. What is shown can always be read, and it is read as the
same map exactly if there is none of these in its way.

## Main statements

* `Dict.ofList_eq_iff_perm`: entries give a map of as many entries exactly if they are its entries.
* `StringMap.parse_shown`: the effect of a shown map on a fresh cell.
-/

namespace FlagBinding

open Text

/-! ## Maps and their entries -/

namespace Dict

variable {α : Type} {k : String} {v : α} {l : List (String × α)} {d : Dict α}

theorem keys_nodup (d : Dict α) : (d.entries.map Prod.fst).Nodup :=
  List.pairwise_map.2 (d.sorted.imp fun h => String.ne_of_lt h)

theorem insertEntry_perm (fresh : ∀ e ∈ l, e.1 ≠ k) : (insertEntry k v l).Perm ((k, v) :: l) := by
  induction l with
  | nil => exact .refl _
  | cons e rest ih =>
    obtain ⟨other, fresh⟩ := List.forall_mem_cons.1 fresh
    rw [insertEntry]
    split
    · exact .refl _
    · rw [if_neg other.symm]
      exact ((ih fresh).cons e).trans (.swap _ _ _)

/-- Entries with new keys are added to those that are there. -/
theorem insertAll_perm (distinct : ((d.entries ++ l).map Prod.fst).Nodup) :
    (d.insertAll l).entries.Perm (d.entries ++ l) := by
  induction l generalizing d with
  | nil => simp [insertAll]
  | cons e rest ih =>
    have fresh : ∀ x ∈ d.entries, x.1 ≠ e.1 := by
      rw [List.map_append, List.nodup_append] at distinct
      exact fun x mem => distinct.2.2 _ (List.mem_map_of_mem mem) _ (by simp)
    have step : (d.insert e.1 e.2).entries.Perm (e :: d.entries) := insertEntry_perm fresh
    have order : (e :: d.entries ++ rest).Perm (d.entries ++ e :: rest) := List.perm_middle.symm
    have all := (step.append_right rest).trans order
    exact (ih ((all.map Prod.fst).nodup_iff.2 distinct)).trans all

theorem mem_insertAll {x : String × α} (mem : x ∈ (d.insertAll l).entries) :
    x ∈ d.entries ∨ x ∈ l := by
  induction l generalizing d with
  | nil => exact .inl mem
  | cons e rest ih =>
    rcases ih mem with mem | mem
    · rcases mem_insertEntry mem with rfl | mem
      · exact .inr List.mem_cons_self
      · exact .inl mem
    · exact .inr (List.mem_cons_of_mem e mem)

theorem eq_of_perm {d e : Dict α} (perm : d.entries.Perm e.entries) : d = e := by
  have same : d.entries = e.entries :=
    perm.eq_of_pairwise (fun a b _ _ hab hba =>
      absurd (String.lt_trans hab hba) (String.lt_irrefl _))
      d.sorted e.sorted
  cases d
  cases e
  cases same
  rfl

/-- As many entries as a map has give the map exactly if they are its entries, in whatever order. -/
theorem ofList_eq_iff_perm (size : l.length = d.entries.length) :
    ofList l = d ↔ l.Perm d.entries := by
  constructor
  · rintro rfl
    have subset : (ofList l).entries ⊆ l := fun x mem => by
      rcases mem_insertAll mem with mem | mem
      · exact absurd mem List.not_mem_nil
      · exact mem
    have distinct := List.Nodup.of_map Prod.fst (keys_nodup (ofList l))
    have size := Nat.le_of_eq size
    exact ((List.subperm_of_subset distinct subset).perm_of_length_le size).symm
  · intro perm
    have distinct : (l.map Prod.fst).Nodup := (perm.map Prod.fst).nodup_iff.2 d.keys_nodup
    exact eq_of_perm ((insertAll_perm (d := empty) distinct).trans perm)

end Dict

/-! ## Elements whose texts are written plainly -/

/-- A codec that reads its own texts back, whose texts are texts of elements without their quotes
too. -/
structure Codec.Unquotes {α : Type} (c : Codec α) : Prop where
  exact : ∀ x, c.Exact x
  unquoted : ∀ x, ∃ y, c.encode y = Csv.unquoted (c.encode x)

namespace ElementFormat

/-- The formats of the values of a map: texts, and integers of any width and sign. -/
inductive Structured : ElementFormat → Prop
  | text : Structured .text
  | int32 : Structured .int32
  | int64 : Structured .int64
  | uint32 : Structured .uint32
  | uint64 : Structured .uint64

theorem isShellQuote_decimal (n : Int) :
    ∀ c ∈ (Number.decimal n).toList, Csv.isShellQuote c = false := by
  have digit {k : Nat} : ∀ c ∈ Number.digits k, Csv.isShellQuote c = false := by
    intro c mem
    have digit : c.isDigit := (Number.isDigits_digits k).2 c mem
    by_contra quote
    have : c = '\x60' ∨ c = '\'' := by simpa [Csv.isShellQuote, imp_iff_not_or] using quote
    rcases this with rfl | rfl <;> contradiction
  cases n with
  | ofNat n => simpa [Number.decimal, Number.decimalNat] using digit
  | negSucc n =>
    rw [Number.decimal, String.toList_ofList]
    exact List.forall_mem_cons.2 ⟨rfl, digit⟩

theorem unquotes_of_decimal {α : Type} {c : Codec α} (exact : ∀ x, c.Exact x)
    (integer : ∀ x, ∃ n, c.encode x = Number.decimal n) : c.Unquotes := by
  refine ⟨exact, fun x => ⟨x, ?_⟩⟩
  obtain ⟨n, text⟩ := integer x
  rw [text, Csv.unquoted_eq_self (isShellQuote_decimal n)]

theorem Structured.unquotes {f : ElementFormat} (structured : f.Structured) : f.codec.Unquotes := by
  cases structured with
  | text => exact ⟨fun x => rfl, fun x => ⟨Csv.unquoted x, rfl⟩⟩
  | int32 => exact unquotes_of_decimal Codec.int32_exact fun x => ⟨_, rfl⟩
  | int64 => exact unquotes_of_decimal Codec.int64_exact fun x => ⟨_, rfl⟩
  | uint32 => exact unquotes_of_decimal Codec.uint32_exact fun x => ⟨x.toNat, rfl⟩
  | uint64 => exact unquotes_of_decimal Codec.uint64_exact fun x => ⟨x.toNat, rfl⟩

end ElementFormat

namespace StringMap

variable {α : Type} {c : Codec α} {e : String × α}

/-! ## Entries -/

theorem toList_writeEntry :
    (writeEntry c e).toList = e.1.toList ++ '=' :: (c.encode e.2).toList := by
  simp [writeEntry]

theorem readEntry_writeEntry (key : '=' ∉ e.1.toList) (exact : c.Exact e.2) :
    readEntry c (writeEntry c e) = .ok e := by
  have cut : cutFirst? '=' (writeEntry c e) = some (e.1, c.encode e.2) := by
    rw [cutFirst?, toList_writeEntry, splitFirst?_append key]
    simp
  have back : c.decode (c.encode e.2) = .ok e.2 := exact
  rw [readEntry, cut]
  simp only [back]

theorem readAll_writeEntry {es : List (String × α)} (keys : ∀ e ∈ es, '=' ∉ e.1.toList)
    (exact : ∀ x, c.Exact x) : (es.map (writeEntry c)).mapM (readEntry c) = .ok es := by
  induction es with
  | nil => rfl
  | cons e es ih =>
    obtain ⟨key, keys⟩ := List.forall_mem_cons.1 keys
    rw [List.map_cons, List.mapM_cons, readEntry_writeEntry key (exact e.2), ih keys]
    rfl

/-- Entries are told apart by their texts. -/
theorem map_writeEntry_perm_iff {es es' : List (String × α)} (exact : ∀ x, c.Exact x)
    (keys : ∀ e ∈ es, '=' ∉ e.1.toList) (keys' : ∀ e ∈ es', '=' ∉ e.1.toList) :
    (es.map (writeEntry c)).Perm (es'.map (writeEntry c)) ↔ es.Perm es' := by
  have back {es : List (String × α)} (keys : ∀ e ∈ es, '=' ∉ e.1.toList) :
      (es.map (writeEntry c)).map (readEntry c) = es.map .ok := by
    rw [List.map_map]
    exact List.map_congr_left fun e mem => readEntry_writeEntry (keys e mem) (exact e.2)
  constructor
  · intro perm
    have perm := perm.map (readEntry c)
    rw [back keys, back keys'] at perm
    exact (List.map_perm_map_iff fun _ _ => Except.ok.inj).1 perm
  · exact List.Perm.map _

/-! ## What is left of an entry -/

/-- Without its quotes, the text of an entry is the text of an entry. -/
theorem exists_unquoted_entry (codec : c.Unquotes) (key : '=' ∉ e.1.toList) :
    ∃ e' : String × α, '=' ∉ e'.1.toList ∧ writeEntry c e' = Csv.unquoted (writeEntry c e) := by
  obtain ⟨y, hy⟩ := codec.unquoted e.2
  refine ⟨(Csv.unquoted e.1, y), ?_, ?_⟩
  · simpa [Csv.unquoted] using fun h => absurd h key
  · rw [← String.toList_inj, toList_writeEntry, hy]
    simp [Csv.unquoted, toList_writeEntry, Csv.isShellQuote]

/-- Without a byte-order mark, the text of an entry is the text of an entry. -/
theorem exists_unmarked_entry (key : '=' ∉ e.1.toList) : ∃ e' : String × α, '=' ∉ e'.1.toList ∧
    (writeEntry c e').toList = Csv.unmarkedField (writeEntry c e).toList := by
  rcases Csv.unmarkedField_eq (writeEntry c e).toList with same | mark
  · exact ⟨e, key, same.symm⟩
  · rw [toList_writeEntry] at mark ⊢
    cases chars : e.1.toList with
    | nil =>
      rw [chars] at mark
      exact absurd (List.cons.inj mark).1 (by decide)
    | cons d k =>
      rw [chars] at mark key
      refine ⟨(String.ofList k, e.2), ?_, ?_⟩
      · simpa using fun h => key (List.mem_cons_of_mem d h)
      · simpa [toList_writeEntry] using (List.cons.inj mark).2

/-- What is left of a list of entries is a list of entries. -/
theorem exists_entries (codec : c.Unquotes) {es : List (String × α)}
    (keys : ∀ e ∈ es, '=' ∉ e.1.toList) :
    ∃ read : List (String × α), (∀ e ∈ read, '=' ∉ e.1.toList) ∧
      read.map (writeEntry c) = Csv.unmarked ((es.map (writeEntry c)).map Csv.unquoted) := by
  have unquoted : ∃ mid : List (String × α), (∀ e ∈ mid, '=' ∉ e.1.toList) ∧
      mid.map (writeEntry c) = (es.map (writeEntry c)).map Csv.unquoted := by
    induction es with
    | nil => exact ⟨[], by simp, rfl⟩
    | cons e es ih =>
      obtain ⟨key, keys⟩ := List.forall_mem_cons.1 keys
      obtain ⟨e', key', text⟩ := exists_unquoted_entry codec key
      obtain ⟨mid, keys', texts⟩ := ih keys
      exact ⟨e' :: mid, List.forall_mem_cons.2 ⟨key', keys'⟩, by simp [text, texts]⟩
  obtain ⟨mid, keys, texts⟩ := unquoted
  rw [← texts]
  cases mid with
  | nil => exact ⟨[], by simp, rfl⟩
  | cons e mid =>
    obtain ⟨key, keys⟩ := List.forall_mem_cons.1 keys
    obtain ⟨e', key', text⟩ := exists_unmarked_entry (c := c) key
    refine ⟨e' :: mid, List.forall_mem_cons.2 ⟨key', keys⟩, ?_⟩
    rw [List.map_cons, List.map_cons, Csv.unmarked, ← text, String.ofList_toList]

/-! ## Maps -/

/-- The entries are shown in increasing order of their texts. -/
theorem exists_encoded (c : Codec α) (cell : StringMap α) :
    ∃ es : List (String × α), es.Perm cell.entries.entries ∧
      cell.encoded c = es.map (writeEntry c) :=
  ⟨_, List.mergeSort_perm _ fun a b => decide (writeEntry c a ≤ writeEntry c b),
    (List.map_mergeSort (f := writeEntry c) fun _ _ _ _ => rfl).symm⟩

/-- The reader of a shown map finds the texts of its entries without the quotes of a shell. -/
theorem readEntries_format (codec : c.Unquotes) {cell : StringMap α}
    (keys : ∀ e ∈ cell.entries.entries, '=' ∉ e.1.toList) :
    ∃ read : List (String × α), readEntries c (cell.format c) = .ok read ∧
      (∀ e ∈ read, '=' ∉ e.1.toList) ∧
      read.map (writeEntry c) = Csv.unmarked ((cell.encoded c).map Csv.unquoted) := by
  obtain ⟨es, perm, texts⟩ := exists_encoded c cell
  obtain ⟨read, keys, left⟩ := exists_entries codec fun e mem => keys e (perm.subset mem)
  rw [← texts] at left
  have filled : ∀ t ∈ cell.encoded c,
      ∃ d ∈ t.toList, Csv.isShellQuote d = false ∧ d ≠ Csv.byteOrderMark := by
    intro t mem
    rw [texts] at mem
    obtain ⟨e, -, rfl⟩ := List.mem_map.1 mem
    exact ⟨'=', by simp [toList_writeEntry], by decide, by decide⟩
  refine ⟨read, ?_, keys, left⟩
  rw [readEntries, format, Csv.stripBrackets_wrap, Csv.readUnquoted_write filled, ← left]
  exact readAll_writeEntry keys codec.exact

/-- A map with texts or integers that is shown can be read into a fresh cell, whatever that held.
What is read are the entries without the quotes of a shell and without a byte-order mark at the
start, and it is the same map exactly if the entries are without these. -/
theorem parse_shown {f : ElementFormat} (structured : f.Structured) (shown : StringMap f.Item)
    (keys : ∀ e ∈ shown.entries.entries, '=' ∉ e.1.toList) (prior : Dict f.Item) :
    ∃ read : List (String × f.Item),
      parse f.codec { entries := prior } (shown.format f.codec) = .ok ⟨.ofList read, true⟩ ∧
      read.map (writeEntry f.codec) =
        Csv.unmarked ((shown.encoded f.codec).map Csv.unquoted) ∧
      (Dict.ofList read = shown.entries ↔ Csv.Durable (shown.encoded f.codec)) := by
  have codec := structured.unquotes
  obtain ⟨read, found, keys', texts⟩ := readEntries_format codec keys
  have order : (shown.encoded f.codec).Perm (shown.entries.entries.map (writeEntry f.codec)) :=
    List.mergeSort_perm _ _
  refine ⟨read, by rw [parse, found]; rfl, texts, ?_⟩
  have size : read.length = shown.entries.entries.length := by
    have := congrArg List.length texts
    simpa [order.length_eq] using this
  rw [Dict.ofList_eq_iff_perm size, ← map_writeEntry_perm_iff codec.exact keys' keys, texts,
    ← Csv.perm_unmarked_unquoted_iff]
  exact ⟨fun perm => perm.trans order.symm, fun perm => perm.trans order⟩

def labels : Dict String :=
  .ofList [("motto", "a,b\n\"c\""), ("n", "x=y")]

theorem parse_shown_labels : ElementFormat.text.Structured ∧
    (∀ e ∈ labels.entries, '=' ∉ e.1.toList) ∧
    parse Codec.text { entries := .ofList [("stale", "9")] }
      (format Codec.text { entries := labels }) = .ok ⟨labels, true⟩ := by
  have keys : ∀ e ∈ labels.entries, '=' ∉ e.1.toList := by decide
  have entries : labels.entries = [("motto", "a,b\n\"c\""), ("n", "x=y")] := rfl
  have texts : encoded Codec.text { entries := labels } = ["motto=a,b\n\"c\"", "n=x=y"] := by
    simp [encoded, entries, List.mergeSort, writeEntry, Codec.text]
  have durable : Csv.Durable (encoded Codec.text { entries := labels }) := by
    rw [texts]
    exact ⟨by simp [Csv.isShellQuote], by simp [Csv.byteOrderMark]⟩
  obtain ⟨read, parsed, -, same⟩ :=
    parse_shown .text { entries := labels } keys (.ofList [("stale", "9")])
  rw [same.2 durable] at parsed
  exact ⟨.text, keys, parsed⟩

/-- A text with an apostrophe. -/
def motto : Dict String :=
  .ofList [("motto", "it's")]

/-- A shown map whose quotes are no quotes of a shell is not read back. -/
theorem parse_shown_motto : (∀ e ∈ motto.entries, '=' ∉ e.1.toList) ∧
    parse Codec.text { entries := .empty } (format Codec.text { entries := motto }) =
      .ok ⟨.ofList [("motto", "its")], true⟩ ∧
    Dict.ofList [("motto", "its")] ≠ motto := by
  refine ⟨by decide, ?_, by decide⟩
  have entries : motto.entries = [("motto", "it's")] := rfl
  have texts : encoded Codec.text { entries := motto } = ["motto=it's"] := by
    simp [encoded, entries, writeEntry, Codec.text]
  rw [format, texts]
  rfl

end StringMap

end FlagBinding
