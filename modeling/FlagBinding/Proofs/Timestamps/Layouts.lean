import FlagBinding.Element.Moment
import FlagBinding.Proofs.Timestamps.Written

/-!
# Timestamps through text

A timestamp is written in RFC 3339 and read with layouts that are tried in order. No other layout
with a name takes that text: each of them expects something else where the text has a digit, the
letter between the date and the time, or the letter of universal time. So the text is read back
wherever RFC 3339 stands among the layouts.

## Main definitions

* `Layout.names`: the layouts that have a name.
* `Refuses`: a pattern that no text like the given one fits.
* `Timestamp.Printable`: a timestamp in a year of four digits.

## Main statements

* `Layout.parse?_text`: what the layouts with a name make of a text in RFC 3339.
* `Codec.exact_timestamp`: timestamps through text.
-/

namespace FlagBinding

namespace Time

open Number PatternItem

/-- A pattern that does not take up all of a text, whatever has been read before it. -/
def Refuses (items : List PatternItem) (cs : List Char) : Prop :=
  ∀ p q, scanItems? p items cs ≠ some (q, [])

namespace Refuses

variable {item : PatternItem} {items : List PatternItem} {cs rest : List Char}

theorem scan?_eq_none (refuses : Refuses items cs) : scan? items cs = none := by
  rw [scan?]
  cases found : scanItems? {} items cs with
  | none => rfl
  | some read =>
    obtain ⟨q, left⟩ := read
    cases left with
    | nil => exact absurd found (refuses {} q)
    | cons c left => rfl

/-- A text that is left over. -/
theorem of_left (c : Char) (rest : List Char) : Refuses [] (c :: rest) := by
  rintro p q ⟨⟩

/-- The first item does not fit. -/
theorem of_none (fails : ∀ p, scanItem? p item cs = none) : Refuses (item :: items) cs := by
  intro p q
  rw [scanItems?, fails]
  exact nofun

/-- The first item takes up a part of the text and the others refuse the rest. -/
theorem of_rest (takes : ∀ p q left, scanItem? p item cs = some (q, left) → left = rest)
    (refuses : Refuses items rest) : Refuses (item :: items) cs := by
  intro p q
  rw [scanItems?]
  cases found : scanItem? p item cs with
  | none => exact nofun
  | some read =>
    obtain ⟨p', left⟩ := read
    obtain rfl := takes p p' left found
    exact refuses p' q

end Refuses

/-! ## Items at digits -/

/-- A text that starts with a digit. -/
def StartsWithDigit (cs : List Char) : Prop :=
  ∃ c rest, cs = c :: rest ∧ c.isDigit

namespace StartsWithDigit

variable {items : List PatternItem} {cs : List Char}

theorem range {c : Char} (digit : c.isDigit) : 48 ≤ c.toNat ∧ c.toNat ≤ 57 := by
  rw [Char.isDigit, Bool.and_eq_true, decide_eq_true_eq, decide_eq_true_eq] at digit
  exact digit

theorem skipBlanks_eq (starts : StartsWithDigit cs) : skipBlanks cs = cs := by
  obtain ⟨c, rest, rfl, digit⟩ := starts
  have bounds := range digit
  have visible : ¬ Text.isBlank c = true := by
    simp only [Text.isBlank, Bool.or_eq_true, Bool.and_eq_true, decide_eq_true_eq, beq_iff_eq]
    omega
  exact List.dropWhile_cons_of_neg visible

/-- No name starts with a digit. -/
theorem scanName?_eq_none (starts : StartsWithDigit cs) (long : Bool) (index : Int)
    {names : List (String × String)}
    (words : ∀ name ∈ names, name.1.toList.head?.any fun w => !w.isDigit) :
    scanName? long index names cs = none := by
  obtain ⟨c, rest, rfl, digit⟩ := starts
  have lower : c.toLower = c := by
    have bounds := range digit
    refine dif_neg fun upper => ?_
    have : 65 ≤ c.toNat := upper.1
    omega
  induction names generalizing index with
  | nil => rfl
  | cons name names ih =>
    obtain ⟨named, words⟩ := List.forall_mem_cons.1 words
    obtain ⟨w, first, other⟩ := (Option.any_eq_true _ _).1 named
    obtain ⟨word, spelled⟩ := List.head?_eq_some_iff.1 first
    have differ : ¬ w = c := by
      rintro rfl
      simp [digit] at other
    rw [scanName?, spelled, scanWord?, lower, if_neg differ]
    exact ih (index + 1) words

theorem refuses_monthName (starts : StartsWithDigit cs) (long : Bool) :
    Refuses (monthName long :: items) cs :=
  .of_none fun p => by
    have none : scanName? long 1 monthNames cs = none := scanName?_eq_none starts long 1 (by decide)
    rw [scanItem?, none]
    rfl

theorem refuses_weekdayName (starts : StartsWithDigit cs) (long : Bool) :
    Refuses (weekdayName long :: items) cs :=
  .of_none fun p => by
    have none : scanName? long 0 weekdayNames cs = none :=
      scanName?_eq_none starts long 0 (by decide)
    rw [scanItem?, none]
    rfl

theorem refuses_literal (starts : StartsWithDigit cs) {c : Char} (other : c.isDigit = false) :
    Refuses (literal c :: items) cs := by
  obtain ⟨d, rest, rfl, digit⟩ := starts
  have differ : ¬ c = d := by
    rintro rfl
    simp [digit] at other
  exact .of_none fun p => if_neg differ

end StartsWithDigit

/-! ## Items that fit -/

theorem scanItem?_literal (p : Parts) (c d : Char) (rest : List Char) :
    scanItem? p (.literal c) (d :: rest) = if c = d then some (p, rest) else none := rfl

theorem scanItem?_blanks (p : Parts) (cs : List Char) :
    scanItem? p .blanks cs = some (p, skipBlanks cs) := rfl

theorem scanItem?_number (p : Parts) (field : Field) (cs : List Char) :
    scanItem? p (.number field) cs = (scanField? field (skipBlanks cs)).bind fun (v, rest) =>
      (p.set? field v).bind fun q => some (q, rest) := rfl

namespace Refuses

variable {items : List PatternItem} {ds cs rest : List Char}

theorem literal (c : Char) (refuses : Refuses items rest) :
    Refuses (PatternItem.literal c :: items) (c :: rest) := by
  refine .of_rest (fun p q left found => ?_) refuses
  rw [scanItem?_literal, if_pos rfl] at found
  exact (Prod.mk.inj (Option.some.inj found)).2.symm

theorem blanks (refuses : Refuses items (skipBlanks cs)) :
    Refuses (PatternItem.blanks :: items) cs := by
  refine .of_rest (fun p q left found => ?_) refuses
  rw [scanItem?_blanks] at found
  exact (Prod.mk.inj (Option.some.inj found)).2.symm

/-- Of digits as many are taken as the width says. -/
theorem rest_of_scanDigits? {least count acc n k : Nat} {left : List Char}
    (digits : ∀ c ∈ ds, c.isDigit)
    (found : scanDigits? least ds.length count acc (ds ++ rest) = some (n, k, left)) :
    left = rest := by
  induction ds generalizing count acc with
  | nil =>
    rw [List.length_nil, scanDigits?] at found
    exact (by simpa using found : acc = n ∧ count = k ∧ rest = left).2.2.symm
  | cons c ds ih =>
    obtain ⟨digit, digits⟩ := List.forall_mem_cons.1 digits
    rw [List.length_cons, List.cons_append, scanDigits?, digitValue?_of_isDigit digit] at found
    simp only at found
    split at found
    case isTrue => cases found
    case isFalse => exact ih digits found

/-- A number without a sign takes up as many digits as its width says. -/
theorem rest_of_scanField? {field : Field} {v : Int} {left : List Char}
    (digits : ∀ c ∈ ds, c.isDigit) (nonempty : ds ≠ [])
    (width : field.width (ds ++ rest) = ds.length)
    (found : scanField? field (ds ++ rest) = some (v, left)) : left = rest := by
  have unsigned : scanField? field (ds ++ rest) =
      (scanNumber? 1 ds.length (ds ++ rest)).map fun x => ((x.1 : Int), x.2) := by
    obtain ⟨c, more, rfl⟩ := List.exists_cons_of_ne_nil nonempty
    have digit := digits c (by simp)
    rw [← width]
    unfold scanField?
    split
    case h_1 shape =>
      obtain ⟨rfl, -⟩ := List.cons.inj shape
      exact absurd digit (by decide)
    case h_2 shape =>
      obtain ⟨rfl, -⟩ := List.cons.inj shape
      exact absurd digit (by decide)
    case h_3 => rfl
  rw [unsigned, scanNumber?, Option.map_map, Option.map_eq_some_iff] at found
  obtain ⟨⟨n, k, left'⟩, read, same⟩ := found
  obtain ⟨-, rfl⟩ := Prod.mk.inj same
  exact rest_of_scanDigits? digits read

theorem number {field : Field} (digits : ∀ c ∈ ds, c.isDigit) (nonempty : ds ≠ [])
    (width : field.width (ds ++ rest) = ds.length) (refuses : Refuses items rest) :
    Refuses (PatternItem.number field :: items) (ds ++ rest) := by
  have starts : StartsWithDigit (ds ++ rest) := by
    obtain ⟨c, more, rfl⟩ := List.exists_cons_of_ne_nil nonempty
    exact ⟨c, more ++ rest, rfl, digits c (by simp)⟩
  refine .of_rest (fun p q left found => ?_) refuses
  simp only [scanItem?_number, starts.skipBlanks_eq, Option.bind_eq_some_iff] at found
  obtain ⟨⟨v, left'⟩, read, q', -, same⟩ := found
  obtain ⟨-, rfl⟩ := Prod.mk.inj (Option.some.inj same)
  exact rest_of_scanField? digits nonempty width read

/-- A number of two digits leaves two of the four digits of a year. -/
theorem of_year {field : Field} (width : ∀ cs, field.width cs = 2) {n : Nat} (fits : n < 10 ^ 4)
    (refuses : ∀ cs, StartsWithDigit cs → Refuses items cs) :
    Refuses (PatternItem.number field :: items) (paddedDigits 4 n ++ rest) := by
  have length := Duration.length_paddedDigits (by decide) fits
  have digits : ∀ c ∈ paddedDigits 4 n, c.isDigit := isDigit_of_mem_paddedDigits
  match paddedDigits 4 n, length, digits with
  | [a, b, c, d], _, digits =>
    simp only [List.forall_mem_cons] at digits
    obtain ⟨ha, hb, hc, -⟩ := digits
    have first : ∀ x ∈ [a, b], x.isDigit := by simp [ha, hb]
    have split : [a, b, c, d] ++ rest = [a, b] ++ (c :: d :: rest) := rfl
    rw [split]
    exact number first (by simp) (width _) (refuses _ ⟨c, d :: rest, rfl, hc⟩)

theorem of_paddedDigits {field : Field} {width n : Nat} (positive : 0 < width)
    (fits : n < 10 ^ width) (fills : ∀ cs, field.width cs = width) (refuses : Refuses items rest) :
    Refuses (PatternItem.number field :: items) (paddedDigits width n ++ rest) := by
  have length := Duration.length_paddedDigits positive fits
  exact number isDigit_of_mem_paddedDigits
    (List.ne_nil_of_length_pos (by rw [length]; exact positive))
    ((fills _).trans length.symm) refuses

/-- An offset starts with a sign. -/
theorem offset (unsigned : rest.head? = some 'Z' ∨ rest.head? = some '.') :
    Refuses (PatternItem.offset false :: items) rest := by
  obtain ⟨more, rfl⟩ | ⟨more, rfl⟩ := unsigned.imp List.head?_eq_some_iff.1 List.head?_eq_some_iff.1
  all_goals exact .of_none fun p => rfl

variable {d : Date} {c : Clock}

theorem isoDate (shown : Rfc3339.Shown d c) (refuses : Refuses items rest) :
    Refuses (PatternItem.isoDate ++ items) (Rfc3339.dateText d rest) := by
  have years := shown.year
  have months := shown.day.month
  have days := shown.day.day_le
  exact .of_paddedDigits (by decide) (by omega) (fun _ => rfl) <| .literal '-' <|
    .of_paddedDigits (by decide) (by omega) (fun _ => rfl) <| .literal '-' <|
    .of_paddedDigits (by decide) (by omega) (fun _ => rfl) refuses

theorem clockTime (time : c.IsTime) (refuses : Refuses items rest) :
    Refuses (PatternItem.clockTime ++ items) (Rfc3339.clockText c rest) := by
  have hours := time.hour
  have minutes := time.minute
  have seconds := time.second
  exact .of_paddedDigits (by decide) (by omega) (fun _ => rfl) <| .literal ':' <|
    .of_paddedDigits (by decide) (by omega) (fun _ => rfl) <| .literal ':' <|
    .of_paddedDigits (by decide) (by omega) (fun _ => rfl) refuses

/-- A fraction of a second leaves the letter of universal time. -/
theorem fraction (time : c.IsTime) (refuses : Refuses items ['Z']) :
    Refuses (PatternItem.fraction none :: items) (Rfc3339.formatFraction c.nanos ++ ['Z']) := by
  refine .of_rest (fun p q left found => ?_) refuses
  have same : scanItem? p (.fraction none) (Rfc3339.formatFraction c.nanos ++ ['Z']) =
      Rfc3339.fraction? p (Rfc3339.formatFraction c.nanos ++ ['Z']) := rfl
  rw [same, Rfc3339.fraction?_formatFraction p time.nanos] at found
  split at found
  case isTrue => exact (Prod.mk.inj (Option.some.inj found)).2.symm
  case isFalse =>
    obtain ⟨q', -, same⟩ := Option.map_eq_some_iff.1 found
    exact (Prod.mk.inj same).2.symm

end Refuses

/-! ## Patterns that refuse a text in RFC 3339 -/

namespace Rfc3339

variable {d : Date} {c : Clock}

theorem head?_formatFraction (time : c.IsTime) :
    (formatFraction c.nanos ++ ['Z']).head? = some 'Z' ∨
      (formatFraction c.nanos ++ ['Z']).head? = some '.' := by
  rcases Nat.eq_zero_or_pos c.nanos with zero | positive
  · exact .inl (by rw [zero]; rfl)
  · obtain ⟨places, n, -, -, -, -, form⟩ :=
      formatFraction_eq (Nat.pos_iff_ne_zero.1 positive) time.nanos
    exact .inr (by rw [form]; rfl)

/-- The text has no blank in it. -/
theorem blank_notMem_text (time : c.IsTime) : ' ' ∉ text d c := by
  have digits (width n : Nat) : ' ' ∉ paddedDigits width n := fun mem =>
    absurd (isDigit_of_mem_paddedDigits _ mem) (by decide)
  have fraction : ' ' ∉ formatFraction c.nanos := by
    rcases Nat.eq_zero_or_pos c.nanos with zero | positive
    · rw [zero]
      exact List.not_mem_nil
    · obtain ⟨places, n, -, -, -, -, form⟩ :=
        formatFraction_eq (Nat.pos_iff_ne_zero.1 positive) time.nanos
      simp [form, digits]
  simp [text, dateText, clockText, digits, fraction]

theorem startsWithDigit_text (shown : Shown d c) : StartsWithDigit (text d c) := by
  have years := shown.year
  have length : (paddedDigits 4 d.year.toNat).length = 4 :=
    Duration.length_paddedDigits (by decide) (by omega)
  obtain ⟨a, more, digits⟩ := List.exists_cons_of_length_eq_add_one length
  have digit : a ∈ paddedDigits 4 d.year.toNat := by simp [digits]
  exact ⟨a, _, by rw [text, dateText, digits]; rfl, isDigit_of_mem_paddedDigits a digit⟩

theorem refuses_rfc822z (shown : Shown d c) : Refuses (pattern "%d %b %y %H:%M %z") (text d c) := by
  have years := shown.year
  rw [show pattern "%d %b %y %H:%M %z" = [number .day, blanks, monthName false, blanks,
    number .yearOfCentury, blanks, number .hour, literal ':', number .minute, blanks, offset false]
    from rfl]
  refine .of_year (fun _ => rfl) (by omega) fun cs starts => .blanks ?_
  rw [starts.skipBlanks_eq]
  exact starts.refuses_monthName false

theorem refuses_rfc1123z (shown : Shown d c) :
    Refuses (pattern "%a, %d %b %Y %H:%M:%S %z") (text d c) := by
  rw [show pattern "%a, %d %b %Y %H:%M:%S %z" = weekdayName false ::
    pattern ", %d %b %Y %H:%M:%S %z" from rfl]
  exact (startsWithDigit_text shown).refuses_weekdayName false

theorem refuses_iso8601 (shown : Shown d c) :
    Refuses (pattern "%Y-%m-%dT%H:%M:%S%z") (text d c) := by
  rw [show pattern "%Y-%m-%dT%H:%M:%S%z" =
    isoDate ++ literal 'T' :: (clockTime ++ [offset false]) from rfl]
  exact .isoDate shown <| .literal 'T' <| .clockTime shown.time <|
    .offset (head?_formatFraction shown.time)

theorem refuses_iso8601Time (shown : Shown d c) :
    Refuses (pattern "%Y-%m-%dT%H:%M:%S%.f%z") (text d c) := by
  rw [show pattern "%Y-%m-%dT%H:%M:%S%.f%z" =
    isoDate ++ literal 'T' :: (clockTime ++ [fraction none, offset false]) from rfl]
  exact .isoDate shown <| .literal 'T' <| .clockTime shown.time <| .fraction shown.time <|
    .offset (.inl rfl)

theorem refuses_kitchen (shown : Shown d c) : Refuses (pattern "%I:%M%p") (text d c) := by
  have years := shown.year
  rw [show pattern "%I:%M%p" = [number .hourOfHalf, literal ':', number .minute, halfDay] from rfl]
  exact .of_year (fun _ => rfl) (by omega) fun cs starts => starts.refuses_literal (by decide)

theorem refuses_timeOnly (shown : Shown d c) : Refuses (pattern "%H:%M:%S") (text d c) := by
  have years := shown.year
  rw [show pattern "%H:%M:%S" = clockTime from rfl]
  exact .of_year (fun _ => rfl) (by omega) fun cs starts => starts.refuses_literal (by decide)

theorem refuses_dateOnly (shown : Shown d c) : Refuses (pattern "%Y-%m-%d") (text d c) := by
  rw [show pattern "%Y-%m-%d" = isoDate ++ [] from rfl]
  exact .isoDate shown <| .of_left 'T' _

theorem refuses_dateTime (shown : Shown d c) :
    Refuses (pattern "%Y-%m-%d %H:%M:%S") (text d c) := by
  rw [show pattern "%Y-%m-%d %H:%M:%S" = isoDate ++ blanks :: clockTime from rfl]
  exact .isoDate shown <| .blanks <| .of_none fun p => rfl

/-- A layout without a year is read behind the year zero. -/
theorem refuses_stamp (shown : Shown d c) :
    Refuses (pattern ("%Y " ++ "%b %e %H:%M:%S%.f")) ("0000 ".toList ++ text d c) := by
  have starts := startsWithDigit_text shown
  rw [show pattern ("%Y " ++ "%b %e %H:%M:%S%.f") =
    number .year :: blanks :: monthName false :: pattern " %e %H:%M:%S%.f" from rfl,
    show "0000 ".toList ++ text d c = "0000".toList ++ ' ' :: text d c from rfl]
  have digits : ∀ c ∈ "0000".toList, c.isDigit := List.all_eq_true.1 rfl
  refine .number digits (by decide) rfl <| .blanks ?_
  rw [show skipBlanks (' ' :: text d c) = skipBlanks (text d c) from rfl, starts.skipBlanks_eq]
  exact starts.refuses_monthName false

end Rfc3339

/-! ## Layouts -/

namespace Layout

def names : List String :=
  ["RFC3339", "RFC3339Nano", "RFC822", "RFC822Z", "RFC850", "RFC1123", "RFC1123Z", "ISO8601",
   "ISO8601Time", "Kitchen", "Stamp", "StampMilli", "StampMicro", "StampNano", "DateTime",
   "DateOnly", "TimeOnly"]

open Rfc3339 (Shown text)

variable {d : Date} {c : Clock} {p : String}

/-- A layout for an abbreviation of a zone looks for it behind a blank. -/
theorem abbreviated_eq_none (p : String) (time : c.IsTime) :
    (abbreviated p).parse? (String.ofList (text d c)) = none := by
  have whole : Text.splitLast? ' ' (text d c) = none := by
    rw [Text.splitLast?, Text.splitFirst?_eq_none (by simpa using Rfc3339.blank_notMem_text time),
      Option.map_none]
  rw [parse?, String.toList_ofList, whole]
  rfl

theorem zoned_eq_none (refuses : Refuses (pattern p) (text d c)) :
    (zoned p).parse? (String.ofList (text d c)) = none := by
  rw [parse?, String.toList_ofList, readZoned?, refuses.scan?_eq_none]
  rfl

theorem naive_eq_none (refuses : Refuses (pattern p) (text d c)) :
    (naive p).parse? (String.ofList (text d c)) = none := by
  rw [parse?, String.toList_ofList, readNaive?, refuses.scan?_eq_none]
  rfl

theorem yearless_eq_none
    (refuses : Refuses (pattern ("%Y " ++ p)) ("0000 ".toList ++ text d c)) :
    (yearless p).parse? (String.ofList (text d c)) = none := by
  have characters : (String.ofList (text d c)).toList = text d c := String.toList_ofList
  rw [parse?, characters, readNaive?, refuses.scan?_eq_none]
  rfl

theorem dateOnly_eq_none (refuses : Refuses (pattern p) (text d c)) :
    (dateOnly p).parse? (String.ofList (text d c)) = none := by
  rw [parse?, String.toList_ofList, readDate?, refuses.scan?_eq_none]
  rfl

theorem timeOnly_eq_none (refuses : Refuses (pattern p) (text d c)) :
    (timeOnly p).parse? (String.ofList (text d c)) = none := by
  rw [parse?, String.toList_ofList, readClock?, refuses.scan?_eq_none]
  rfl

/-- Of the layouts with a name, only RFC 3339 reads a text in RFC 3339. -/
theorem parse?_text {name : String} (named : name ∈ names) (shown : Shown d c) :
    (resolve name).parse? (String.ofList (text d c)) =
      if resolve name = rfc3339 then Rfc3339.parse? (String.ofList (text d c)) else none := by
  simp only [names, List.mem_cons, List.not_mem_nil, or_false] at named
  rcases named with rfl | rfl | rfl | rfl | rfl | rfl | rfl | rfl | rfl |
    rfl | rfl | rfl | rfl | rfl |
    rfl | rfl | rfl
  · rfl
  · rfl
  · exact abbreviated_eq_none _ shown.time
  · exact zoned_eq_none (Rfc3339.refuses_rfc822z shown)
  · exact abbreviated_eq_none _ shown.time
  · exact abbreviated_eq_none _ shown.time
  · exact zoned_eq_none (Rfc3339.refuses_rfc1123z shown)
  · exact zoned_eq_none (Rfc3339.refuses_iso8601 shown)
  · exact zoned_eq_none (Rfc3339.refuses_iso8601Time shown)
  · exact timeOnly_eq_none (Rfc3339.refuses_kitchen shown)
  · exact yearless_eq_none (Rfc3339.refuses_stamp shown)
  · exact yearless_eq_none (Rfc3339.refuses_stamp shown)
  · exact yearless_eq_none (Rfc3339.refuses_stamp shown)
  · exact yearless_eq_none (Rfc3339.refuses_stamp shown)
  · exact naive_eq_none (Rfc3339.refuses_dateTime shown)
  · exact dateOnly_eq_none (Rfc3339.refuses_dateOnly shown)
  · exact timeOnly_eq_none (Rfc3339.refuses_timeOnly shown)

end Layout

end Time

/-! ## Timestamps -/

namespace Timestamp

open Time

/-- A timestamp from the start of the year 1 to the end of the year 9999, with less than a second of
nanoseconds. -/
structure Printable (t : Timestamp) : Prop where
  least : (Instant.ofDateClock ⟨1, 1, 1⟩ ⟨0, 0, 0, 0⟩).seconds ≤ t.seconds.toInt
  most : t.seconds.toInt ≤ (Instant.ofDateClock ⟨9999, 12, 31⟩ ⟨23, 59, 59, 0⟩).seconds
  nanos : 0 ≤ t.nanos.toInt ∧ t.nanos.toInt ≤ 999999999

theorem ofInstant_instant {t : Timestamp} (nanos : 0 ≤ t.nanos.toInt) :
    ofInstant t.instant = t := by
  obtain ⟨seconds, fraction⟩ := t
  simp only [ofInstant, instant, mk.injEq]
  refine ⟨Int64.ofInt_toInt seconds, ?_⟩
  rw [← Int32.ofInt_eq_ofNat, Int.toNat_of_nonneg nanos, Int32.ofInt_toInt]

end Timestamp

namespace Codec

open Time

/-- Timestamps are read back from their texts in RFC 3339, wherever that stands among the
layouts. -/
theorem exact_timestamp {formats : List String} {t : Timestamp}
    (named : ∀ name ∈ formats, name ∈ Layout.names)
    (internet : "RFC3339" ∈ formats ∨ "RFC3339Nano" ∈ formats) (printable : t.Printable) :
    (timestamp formats).Exact t := by
  obtain ⟨d, c, shown, written, read⟩ := Rfc3339.exists_text (i := t.instant)
    ⟨printable.least, printable.most,
      by have := printable.nanos; simp only [Timestamp.instant]; omega⟩
  have first : firstLayout? formats (String.ofList (Rfc3339.text d c)) = some t.instant := by
    rw [firstLayout?]
    cases found : formats.findSome? fun name =>
        (Layout.resolve name).parse? (String.ofList (Rfc3339.text d c)) with
    | none =>
      have refused := List.findSome?_eq_none_iff.1 found
      rcases internet with mem | mem
      · exact nomatch (refused _ mem).symm.trans read
      · exact nomatch (refused _ mem).symm.trans read
    | some i =>
      obtain ⟨name, mem, parsed⟩ := List.exists_of_findSome?_eq_some found
      rw [Layout.parse?_text (named name mem) shown, read] at parsed
      split at parsed
      case isTrue => exact parsed.symm
      case isFalse => cases parsed
  rw [Exact]
  simp only [timestamp, written, Option.getD_some, first,
    Timestamp.ofInstant_instant printable.nanos.1]

/-- A leap day of a year with two digits, behind layouts of the same form but without a fraction or
without the letter of universal time. -/
theorem exact_timestamp_leapDay :
    (∀ name ∈ ["DateTime", "ISO8601Time", "Stamp", "RFC3339Nano", "DateOnly"],
      name ∈ Layout.names) ∧
      Timestamp.Printable ⟨-59132505601, 999000000⟩ ∧
      (timestamp ["DateTime", "ISO8601Time", "Stamp", "RFC3339Nano", "DateOnly"]).Exact
        ⟨-59132505601, 999000000⟩ :=
  have named : ∀ name ∈ ["DateTime", "ISO8601Time", "Stamp", "RFC3339Nano", "DateOnly"],
      name ∈ Layout.names := by decide
  have printable : Timestamp.Printable ⟨-59132505601, 999000000⟩ :=
    ⟨by decide, by decide, by decide⟩
  ⟨named, printable, exact_timestamp named (.inr (by decide)) printable⟩

end Codec

end FlagBinding
