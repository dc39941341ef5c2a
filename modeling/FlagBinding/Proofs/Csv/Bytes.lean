import FlagBinding.Proofs.Csv.Spellings
import FlagBinding.Proofs.Text.Utf8
import Mathlib.Data.Set.List

/-!
# Records of bytes

A list of byte strings is written as one record of bytes, and only the record as a whole is decoded.
No byte of a mark is part of another character, so UTF-8 spells the characters of a record in bytes
as the format needs it. Hence the fields of a record that is a text are texts themselves, and what
the reader of characters finds in the text are these fields.

## Main statements

* `spelling_utf8`: characters are spelled in bytes so that the marks are kept.
* `writeBytes_encode`: the bytes of texts are written as the texts are.
* `decode_writeRecord`: only the line feed at the end of a record is trimmed.
* `writeBytes_keeps_fields`: just the lists of texts are written, and they are read back.
-/

namespace FlagBinding.Text.Csv

/-! ## Characters and bytes -/

theorem byteMarks_apart : byteMarks.Apart := ⟨by decide, by decide, by decide⟩

theorem plain_charMarks_iff {c : Char} : charMarks.Plain c ↔
    c.toNat ≠ 44 ∧ c.toNat ≠ 34 ∧ c.toNat ≠ 13 ∧ c.toNat ≠ 10 := by
  simp [Marks.Plain, Marks.isBreak, charMarks, ← Char.toNat_inj]

theorem plain_byteMarks_iff {b : UInt8} : byteMarks.Plain b ↔
    b.toNat ≠ 44 ∧ b.toNat ≠ 34 ∧ b.toNat ≠ 13 ∧ b.toNat ≠ 10 := by
  simp [Marks.Plain, Marks.isBreak, byteMarks, ← UInt8.toNat_inj]

theorem spelling_utf8 : Spelling charMarks byteMarks String.utf8EncodeChar where
  apart := charMarks_apart
  apart' := byteMarks_apart
  comma := by decide
  quote := by decide
  cr := by decide
  lf := by decide
  nonempty c := String.utf8EncodeChar_ne_nil
  plain c plain b mem := by
    rw [plain_charMarks_iff] at plain
    rw [plain_byteMarks_iff]
    rcases (Utf8.encodes_utf8EncodeChar c).single_or_high with ⟨d, single, number⟩ | high
    · obtain rfl : b = d := by simpa [single] using mem
      omega
    · have := high b mem
      omega

variable {fields : List (List UInt8)} {text : String}

/-! ## Writing -/

/-- The writers of texts and of bytes agree. -/
theorem writeBytes_encode (texts : List String) :
    writeBytes (texts.map Utf8.encode) = .ok (write texts) := by
  have record : Utf8.encode (String.ofList (writeRecord charMarks (texts.map String.toList))) =
      writeRecord byteMarks (texts.map Utf8.encode) := by
    rw [Utf8.encode, String.toList_ofList, Utf8.encodeChars, ← writeRecord_flatMap spelling_utf8,
      List.map_map]
    rfl
  rw [writeBytes, Utf8.decode_eq_ok_iff.2 record]
  exact congrArg (Except.ok ∘ String.ofList ∘ trimEnd charMarks.isBreak) String.toList_ofList

/-- Trimming the decoded record is trimming its bytes. -/
theorem encode_of_writeBytes (written : writeBytes fields = .ok text) :
    Utf8.encode text = writeLine byteMarks fields := by
  unfold writeBytes at written
  cases decoded : Utf8.decode (writeRecord byteMarks fields) with
  | error fault =>
    rw [decoded] at written
    cases written
  | ok record =>
    rw [decoded] at written
    obtain rfl : String.ofList (trimEnd charMarks.isBreak record.toList) = text :=
      Except.ok.inj written
    rw [writeLine, ← Utf8.decode_eq_ok_iff.1 decoded, Utf8.encode, String.toList_ofList]
    exact (trimEnd_flatMap spelling_utf8 record.toList).symm

/-- What is decoded is the text and the line feed that ends the record. Only a list of no fields is
written without it. -/
theorem decode_writeRecord (written : writeBytes fields = .ok text) :
    Utf8.decode (writeRecord byteMarks fields) =
      .ok (text ++ if fields = [] then "" else "\n") := by
  have line := encode_of_writeBytes written
  rw [Utf8.decode_eq_ok_iff]
  split
  case isTrue none =>
    rw [String.append_empty, line, none]
    rfl
  case isFalse filled =>
    have terminator : Utf8.encode "\n" = [byteMarks.lf] := by decide
    rw [Utf8.encode_append, terminator, line,
      writeRecord_eq_writeLine_append byteMarks_apart filled]

/-! ## Reading -/

/-- The bytes are read back as bytes, so the characters are read as the texts of the fields. -/
theorem map_encodeChars_readRecord (written : writeBytes fields = .ok text) :
    (readRecord charMarks text.toList).map Utf8.encodeChars = fields := by
  have back := readRecord_writeLine byteMarks_apart fields
  rw [← encode_of_writeBytes written] at back
  rw [← back]
  exact (readRecord_flatMap spelling_utf8 text.toList).symm

/-- A text that begins with a byte-order mark has a first field that does. -/
theorem head?_ne_byteOrderMark (written : writeBytes fields = .ok text)
    (unmarked : ∀ first, fields.head? = some first → ¬ Utf8.encodeChars [byteOrderMark] <+: first) :
    text.toList.head? ≠ some byteOrderMark := by
  intro mark
  obtain ⟨rest, shape⟩ := List.head?_eq_some_iff.1 mark
  have back := map_encodeChars_readRecord written
  rw [shape, readRecord_cons_plain (plain_charMarks_iff.2 (by decide))] at back
  obtain ⟨field, others, front⟩ := exists_prepend byteOrderMark (fieldsFrom charMarks .bare rest)
  rw [front, List.map_cons] at back
  refine unmarked _ (by rw [← back]; rfl) ⟨Utf8.encodeChars field, ?_⟩
  simp [Utf8.encodeChars]

theorem read_of_writeBytes (written : writeBytes fields = .ok text)
    (unmarked : ∀ first, fields.head? = some first → ¬ Utf8.encodeChars [byteOrderMark] <+: first) :
    (read text).map Utf8.encode = fields := by
  rw [read, dropByteOrderMark_of_head? (head?_ne_byteOrderMark written unmarked), List.map_map]
  simpa [Function.comp_def, Utf8.encode] using map_encodeChars_readRecord written

theorem exists_texts (valid : ∀ field ∈ fields, field.toByteArray.IsValidUTF8) :
    ∃ texts : List String, texts.map Utf8.encode = fields := by
  have range : fields ∈ Set.range (List.map Utf8.encode) := by
    rw [Set.range_list_map]
    intro field mem
    exact Utf8.isValidUTF8_iff.1 (valid field mem)
  exact range

theorem isValidUTF8_of_writeBytes (written : writeBytes fields = .ok text) :
    ∀ field ∈ fields, field.toByteArray.IsValidUTF8 := by
  intro field mem
  rw [← map_encodeChars_readRecord written] at mem
  obtain ⟨cs, -, rfl⟩ := List.mem_map.1 mem
  exact ⟨cs, rfl⟩

/-- A list of byte strings is written exactly if each of them is a text. Then only the line feed
that ends the record is trimmed, so line breaks in the fields are kept, and the fields are read
back, unless the first begins with a byte-order mark. Any number of empty fields is read as so
many. -/
theorem writeBytes_keeps_fields (fields : List (List UInt8)) :
    ((∃ text, writeBytes fields = .ok text) ↔ ∀ field ∈ fields, field.toByteArray.IsValidUTF8) ∧
    (∀ text, writeBytes fields = .ok text →
      Utf8.decode (writeRecord byteMarks fields) = .ok (text ++ if fields = [] then "" else "\n") ∧
      ((∀ first, fields.head? = some first → ¬ Utf8.encodeChars [byteOrderMark] <+: first) →
        (read text).map Utf8.encode = fields)) ∧
    (∀ n, ∃ text, writeBytes (List.replicate n []) = .ok text ∧
      read text = List.replicate n "") := by
  refine ⟨⟨?_, ?_⟩, ?_, ?_⟩
  · rintro ⟨text, written⟩
    exact isValidUTF8_of_writeBytes written
  · intro valid
    obtain ⟨texts, rfl⟩ := exists_texts valid
    exact ⟨write texts, writeBytes_encode texts⟩
  · intro text written
    exact ⟨decode_writeRecord written, read_of_writeBytes written⟩
  · intro n
    have written := writeBytes_encode (List.replicate n "")
    rw [List.map_replicate] at written
    refine ⟨_, written, read_write fun first here => ?_⟩
    obtain rfl : first = "" := List.eq_of_mem_replicate (List.mem_of_head? here)
    simp

theorem writeBytes_keeps_fields_breaks :
    let fields : List (List UInt8) := [[97, 10], [13, 10], [], [195, 169]]
    let text := "\"a\n\",\"\r\n\",,é"
    writeBytes fields = .ok text ∧
      (∀ first, fields.head? = some first → ¬ Utf8.encodeChars [byteOrderMark] <+: first) ∧
      Utf8.decode (writeRecord byteMarks fields) = .ok (text ++ "\n") ∧
      (read text).map Utf8.encode = fields ∧
      ¬ ∀ field ∈ ([[195], [169]] : List (List UInt8)), field.toByteArray.IsValidUTF8 := by
  intro fields text
  have written : writeBytes fields = .ok text := by decide +kernel
  have unmarked : ∀ first, fields.head? = some first →
      ¬ Utf8.encodeChars [byteOrderMark] <+: first := by
    intro first here
    obtain rfl : [97, 10] = first := Option.some.inj here
    decide
  obtain ⟨trimmed, back⟩ := (writeBytes_keeps_fields fields).2.1 text written
  refine ⟨written, unmarked, trimmed, back unmarked, fun halves => ?_⟩
  -- The two halves of a character are no texts, although they would be one together.
  obtain ⟨text, written⟩ := (writeBytes_keeps_fields [[195], [169]]).1.2 halves
  have refused : (writeBytes [[195], [169]]).isOk = false := by decide +kernel
  rw [written] at refused
  cases refused

end FlagBinding.Text.Csv
