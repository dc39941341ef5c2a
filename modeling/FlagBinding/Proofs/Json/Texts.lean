import FlagBinding.Json.Read
import FlagBinding.Proofs.Cells.Maps
import FlagBinding.Proofs.Numbers.ReadBack

/-!
# JSON texts are read back

A string is read back whatever its characters are. An integer of 64 bits is read back where
something follows that cannot belong to a number. From these a value without doubles is read back,
as deep as values may be nested, and so are the members of an object.

## Main definitions

* `Json.Value.Plain`: values without doubles, nested to a limited depth.
* `Json.Value.ReadBack`: values whose text is read back, wherever it stands.

## Main statements

* `Json.scanString?_escapes`: the contents of a string.
* `Json.scanNumber?_decimal`: integers.
* `Json.Value.Plain.readBack`: plain values.
* `Json.parseObject?_members`: the members of an object.
-/

namespace FlagBinding.Json

open Number

/-! ## Strings -/

theorem hex4_of_lt {n : Nat} (small : n < 32) :
    hex4 n = ['0', '0', (n / 16).digitChar, (n % 16).digitChar] := by
  have all : ∀ n < 32, hex4 n = ['0', '0', (n / 16).digitChar, (n % 16).digitChar] := by decide
  exact all n small

theorem hex4?_of_lt {n : Nat} (small : n < 32) :
    hex4? '0' '0' (n / 16).digitChar (n % 16).digitChar = some n := by
  have all : ∀ n < 32, hex4? '0' '0' (n / 16).digitChar (n % 16).digitChar = some n := by decide
  exact all n small

theorem scanString?_escape (c : Char) (rest : List Char) :
    scanString? (escape c ++ rest) = push c (scanString? rest) := by
  unfold escape
  iterate 7
    split
    case isTrue same =>
      obtain rfl := eq_of_beq same
      rfl
  split
  case isTrue control =>
    have low : c.toNat < 0xD800 := by omega
    rw [hex4_of_lt control]
    simp [scanString?, hex4?_of_lt control, low]
  case isFalse quote backslash _ _ _ _ _ printable =>
    rw [List.singleton_append, scanString?, if_neg printable]
    all_goals grind

/-- The contents of a string are read back, whatever follows the closing quote. -/
theorem scanString?_escapes (s rest : List Char) :
    scanString? (s.flatMap escape ++ '"' :: rest) = some (s, rest) := by
  induction s with
  | nil => rfl
  | cons c s ih =>
    rw [List.flatMap_cons, List.append_assoc, scanString?_escape, ih]
    rfl

/-! ## Integers -/

/-- A text that does not continue a number: it ends, or the next element or the end of an array or
object follows. -/
def Follows (rest : List Char) : Prop :=
  ∀ c ∈ rest.head?, c = ',' ∨ c = ']' ∨ c = '\x7d'

@[simp] theorem follows_cons_iff {c : Char} {rest : List Char} :
    Follows (c :: rest) ↔ c = ',' ∨ c = ']' ∨ c = '\x7d' := by
  simp [Follows]

theorem Follows.endsDigits {rest : List Char} (follows : Follows rest) : EndsDigits rest := by
  intro c first
  rcases follows c first with rfl | rfl | rfl <;> decide

theorem takeDigits_append {ds rest : List Char} {n : Nat} (count : Nat) (all : ∀ c ∈ ds, c.isDigit)
    (fits : Nat.ofDigitChars 10 ds n ≤ greatestWord) (ends : EndsDigits rest) :
    takeDigits n count (ds ++ rest) =
      (Nat.ofDigitChars 10 ds n, count + ds.length, false, rest) := by
  induction ds generalizing n count with
  | nil =>
    cases rest with
    | nil => simp [takeDigits]
    | cons c rest => simp [takeDigits, ends c rfl]
  | cons c ds ih =>
    obtain ⟨digit, all⟩ := List.forall_mem_cons.1 all
    rw [Nat.ofDigitChars_cons, Nat.mul_comm 10] at fits ⊢
    have step : n * 10 + (c.toNat - '0'.toNat) ≤ greatestWord :=
      Nat.le_trans (le_ofDigitChars ds _) fits
    rw [List.cons_append, takeDigits, digitValue?_of_isDigit digit]
    simp only [if_neg (Nat.not_lt.2 step), ih _ all fits, List.length_cons, Nat.add_assoc,
      Nat.add_comm 1]

theorem exists_digits_eq_cons (n : Nat) : ∃ c ds, digits n = c :: ds ∧ c.isDigit := by
  obtain ⟨c, ds, shape⟩ := List.exists_cons_of_ne_nil (isDigits_digits n).1
  exact ⟨c, ds, shape, (isDigits_digits n).2 c (by simp [shape])⟩

theorem head?_digits {n : Nat} (nonzero : n ≠ 0) : (digits n).head? ≠ some '0' := by
  induction n using Nat.strongRecOn with
  | ind n ih =>
    rw [digits, Nat.toDigits_eq_if (by decide)]
    split
    case isTrue small => simpa using nonzero
    case isFalse large =>
      have shorter : n / 10 ≠ 0 := by omega
      rw [List.head?_append_of_ne_nil _ Nat.toDigits_ne_nil]
      exact ih (n / 10) (by omega) shorter

/-- No other digit follows a zero at the start of a number. -/
theorem leadingZero_digits (n : Nat) {rest : List Char} (ends : EndsDigits rest) :
    leadingZero (digits n ++ rest) = false := by
  unfold leadingZero
  split
  case h_2 => rfl
  case h_1 c others shape =>
    by_cases zero : n = 0
    · subst zero
      obtain ⟨-, rfl⟩ := List.cons.inj shape
      rw [ends c rfl]
      rfl
    · have first := head?_digits zero
      rw [← List.head?_append_of_ne_nil _ (isDigits_digits n).1, shape] at first
      exact absurd rfl first

theorem scanUnsigned?_digits {n : Nat} (negative : Bool) (fits : n ≤ greatestWord)
    {rest : List Char} (follows : Follows rest) : scanUnsigned? negative (digits n ++ rest) =
      if !negative then some (.integer n, rest)
      else if n = 0 ∨ 2 ^ 63 < n then some (.float (.ofRatio true n 1), rest)
      else some (.integer (-n), rest) := by
  have value : Nat.ofDigitChars 10 (digits n) 0 = n := Nat.ofDigitChars_ten_toDigits
  have ends := follows.endsDigits
  have taken := takeDigits_append 0 (isDigits_digits n).2 (value.symm ▸ fits) ends
  have span := spanDigits_append (isDigits_digits n).2 ends
  rw [scanUnsigned?, leadingZero_digits n ends, span,
    List.isEmpty_eq_false_iff.2 (isDigits_digits n).1, Bool.or_false,
      if_neg Bool.false_ne_true, taken,
    value]
  have other {c : Char} {cs : List Char} (shape : rest = c :: cs) : c = ',' ∨
      c = ']' ∨ c = '\x7d' :=
    follows c (by simp [shape])
  simp only
  split
  case h_1 => simpa using other rfl
  case h_2 => simpa using other rfl
  case h_3 => simpa using other rfl
  case h_4 => rfl

/-- An integer of 64 bits is read back from its text, unless the text around it continues a
number. -/
theorem scanNumber?_decimal {n : Int} (least : -2 ^ 63 ≤ n) (most : n < 2 ^ 64) {rest : List Char}
    (follows : Follows rest) :
    scanNumber? ((decimal n).toList ++ rest) = some (.integer n, rest) := by
  cases n with
  | ofNat n =>
    have fits : n ≤ greatestWord := by
      rw [Int.ofNat_eq_natCast] at most
      rw [greatestWord]
      omega
    have unsigned := scanUnsigned?_digits false fits follows
    have plain : ∀ others, digits n ++ rest ≠ '-' :: others := by
      obtain ⟨c, ds, shape, digit⟩ := exists_digits_eq_cons n
      rintro others minus
      rw [shape] at minus
      obtain ⟨rfl, -⟩ := List.cons.inj minus
      exact absurd digit (by decide)
    rw [decimal, decimalNat, String.toList_ofList, scanNumber?]
    · exact unsigned
    · exact plain
  | negSucc n =>
    have fits : n + 1 ≤ greatestWord := by
      rw [greatestWord]
      omega
    have unsigned := scanUnsigned?_digits true fits follows
    have inside : ¬ (n + 1 = 0 ∨ 2 ^ 63 < n + 1) := by omega
    rw [decimal, String.toList_ofList, List.cons_append, scanNumber?, unsigned, if_neg inside]
    rfl

/-! ## Values -/

/-- Values without doubles and with integers of 64 bits, in which at most `depth` arrays and objects
are nested. -/
inductive Value.Plain : Nat → Value → Prop
  | null {depth : Nat} : Plain depth .null
  | bool {depth : Nat} (b : Bool) : Plain depth (.bool b)
  | integer {depth : Nat} {n : Int} (least : -2 ^ 63 ≤ n) (most : n < 2 ^ 64) :
    Plain depth (.integer n)
  | string {depth : Nat} (s : String) : Plain depth (.string s)
  | array {depth : Nat} {vs : List Value} (all : ∀ v ∈ vs, Plain depth v) :
    Plain (depth + 1) (.array vs)
  | object {depth : Nat} {members : Dict Value} (all : ∀ m ∈ members.entries, Plain depth m.2) :
    Plain (depth + 1) (.object members.entries)

/-- A value that is read from its own text, wherever this stands. -/
structure Value.ReadBack (depth : Nat) (v : Value) : Prop where
  starts : ∃ c cs, v.render.toList = c :: cs ∧ isSpace c = false ∧ c ≠ ']'
  scans : ∀ fuel rest, v.render.length < fuel → Follows rest →
    scanValue? depth fuel (v.render.toList ++ rest) = some (v, rest)

theorem Value.renderAll_eq_map (vs : List Value) : renderAll vs = vs.map render := by
  induction vs with
  | nil => rfl
  | cons v vs ih => rw [renderAll, ih, List.map_cons]

def renderMember (m : String × Value) : String :=
  member m.1 m.2.render

theorem Value.renderMembers_eq_map (ms : List (String × Value)) :
    renderMembers ms = ms.map renderMember := by
  induction ms with
  | nil => rfl
  | cons m ms ih => rw [renderMembers, ih, List.map_cons, renderMember]

theorem skipSpace_cons {c : Char} (visible : isSpace c = false) (cs : List Char) :
    skipSpace (c :: cs) = c :: cs := by
  rw [skipSpace, List.dropWhile_cons_of_neg (by simp [visible])]

/-! ## Lists -/

def listed (texts : List String) : List Char :=
  (String.intercalate "," texts).toList

@[simp] theorem listed_singleton (text : String) : listed [text] = text.toList := by
  simp [listed]

theorem listed_cons_cons (first second : String) (texts : List String) :
    listed (first :: second :: texts) = first.toList ++ ',' :: listed (second :: texts) := by
  simp [listed, String.intercalate_cons_cons]

theorem listed_cons (first : String) (texts : List String) :
    ∃ others, listed (first :: texts) = first.toList ++ others := by
  cases texts with
  | nil => exact ⟨[], by simp⟩
  | cons second texts => exact ⟨_, listed_cons_cons first second texts⟩

theorem toList_enclose (start ending : String) (texts : List String) :
    (enclose start ending texts).toList = start.toList ++ (listed texts ++ ending.toList) := by
  simp [enclose, listed]

theorem toList_renderMember (m : String × Value) : (renderMember m).toList =
    '"' :: (m.1.toList.flatMap escape ++ '"' :: ':' :: m.2.render.toList) := by
  simp [renderMember, member, quote, quoteChars]

theorem length_lt_renderMember (m : String × Value) :
    m.2.render.length < (renderMember m).toList.length := by
  simp only [toList_renderMember, List.length_cons, List.length_append, String.length_toList]
  omega

variable {depth fuel : Nat} {rest : List Char}

theorem Value.ReadBack.skipSpace_append {v : Value} (back : v.ReadBack depth) (rest : List Char) :
    skipSpace (v.render.toList ++ rest) = v.render.toList ++ rest := by
  obtain ⟨c, cs, shape, visible, -⟩ := back.starts
  rw [shape]
  exact skipSpace_cons visible _

theorem Value.ReadBack.skipSpace_listed {v : Value} (back : v.ReadBack depth) (texts : List String)
    (rest : List Char) :
    skipSpace (listed (v.render :: texts) ++ rest) = listed (v.render :: texts) ++ rest := by
  obtain ⟨others, shape⟩ := listed_cons v.render texts
  rw [shape, List.append_assoc]
  exact back.skipSpace_append _

/-- The text of members starts with the quote of a name. -/
theorem exists_members_eq_cons (m : String × Value) (ms : List (String × Value))
    (rest : List Char) :
    ∃ cs, listed ((m :: ms).map renderMember) ++ rest = '"' :: cs := by
  obtain ⟨others, shape⟩ := listed_cons (renderMember m) (ms.map renderMember)
  rw [List.map_cons, shape, toList_renderMember]
  exact ⟨_, rfl⟩

/-- The elements of an array are read back, if each of them is. -/
theorem scanElements?_renders {v : Value} {vs : List Value} (rest : List Char)
    (all : ∀ x ∈ v :: vs, x.ReadBack depth)
    (enough : (listed ((v :: vs).map Value.render)).length + 1 < fuel) :
    scanElements? depth fuel (listed ((v :: vs).map Value.render) ++ ']' :: rest) =
      some (v :: vs, rest) := by
  induction vs generalizing v fuel with
  | nil =>
    obtain ⟨fuel, rfl⟩ := Nat.exists_eq_succ_of_ne_zero (Nat.ne_zero_of_lt enough)
    rw [List.map_singleton, listed_singleton] at enough ⊢
    rw [String.length_toList] at enough
    have first := (all v (by simp)).scans fuel (']' :: rest) (by omega) (by simp)
    simp [scanElements?, first, skipSpace, isSpace]
  | cons w ws ih =>
    obtain ⟨fuel, rfl⟩ := Nat.exists_eq_succ_of_ne_zero (Nat.ne_zero_of_lt enough)
    obtain ⟨back, others⟩ := List.forall_mem_cons.1 all
    rw [List.map_cons, List.map_cons, listed_cons_cons, ← List.map_cons] at enough ⊢
    rw [List.length_append, List.length_cons, String.length_toList] at enough
    have first := back.scans fuel (',' :: (listed ((w :: ws).map Value.render) ++ ']' :: rest))
      (by omega) (by simp)
    have visible := (others w (by simp)).skipSpace_listed (ws.map Value.render) (']' :: rest)
    rw [← List.map_cons] at visible
    have shorter : (listed ((w :: ws).map Value.render)).length + 1 < fuel := by omega
    have next := ih others shorter
    rw [List.append_assoc, List.cons_append, scanElements?, first]
    simp only [Option.bind_eq_bind, Option.bind_some, skipSpace_cons (c := ',') rfl,
      visible, next]

/-- A member is read back, if its value is: it is the last one, or the scan goes on behind it. -/
theorem scanMembers?_member {m : String × Value} {ms : List (String × Value)} {final : List Char}
    (back : m.2.ReadBack depth) (enough : m.2.render.length < fuel) (follows : Follows rest)
    (behind : ms = [] ∧ skipSpace rest = '\x7d' :: final ∨
      ∃ others, skipSpace rest = ',' :: others ∧
        scanMembers? depth fuel (skipSpace others) = some (ms, final)) :
    scanMembers? depth (fuel + 1) ((renderMember m).toList ++ rest) = some (m :: ms, final) := by
  have value := back.scans fuel rest enough follows
  have visible := back.skipSpace_append rest
  rw [toList_renderMember, List.cons_append, List.append_assoc, List.cons_append, List.cons_append,
    scanMembers?, scanString?_escapes]
  rcases behind with ⟨rfl, behind⟩ | ⟨others, behind, next⟩
  · simp only [Option.bind_eq_bind, Option.bind_some, skipSpace_cons (c := ':') rfl,
      visible, value, behind, String.ofList_toList]
  · simp only [Option.bind_eq_bind, Option.bind_some, skipSpace_cons (c := ':') rfl,
      visible, value, behind, next, String.ofList_toList]

/-- The members of an object are read back, if the value of each of them is. -/
theorem scanMembers?_renders {m : String × Value} {ms : List (String × Value)} (rest : List Char)
    (all : ∀ x ∈ m :: ms, x.2.ReadBack depth)
    (enough : (listed ((m :: ms).map renderMember)).length + 1 < fuel) :
    scanMembers? depth fuel (listed ((m :: ms).map renderMember) ++ '\x7d' :: rest) =
      some (m :: ms, rest) := by
  have shorter := length_lt_renderMember m
  induction ms generalizing m fuel with
  | nil =>
    obtain ⟨fuel, rfl⟩ := Nat.exists_eq_succ_of_ne_zero (Nat.ne_zero_of_lt enough)
    rw [List.map_singleton, listed_singleton] at enough ⊢
    exact scanMembers?_member (all m (by simp)) (by omega) (by simp)
      (.inl ⟨rfl, skipSpace_cons rfl _⟩)
  | cons n ms ih =>
    obtain ⟨fuel, rfl⟩ := Nat.exists_eq_succ_of_ne_zero (Nat.ne_zero_of_lt enough)
    obtain ⟨back, others⟩ := List.forall_mem_cons.1 all
    rw [List.map_cons, List.map_cons, listed_cons_cons, ← List.map_cons] at enough ⊢
    rw [List.length_append, List.length_cons] at enough
    have fewer : (listed ((n :: ms).map renderMember)).length + 1 < fuel := by omega
    have next := ih others fewer (length_lt_renderMember n)
    obtain ⟨cs, body⟩ := exists_members_eq_cons n ms ('\x7d' :: rest)
    rw [List.append_assoc, List.cons_append]
    refine scanMembers?_member back (by omega) (by simp) (.inr ⟨_, skipSpace_cons rfl _, ?_⟩)
    rw [body] at next ⊢
    rwa [skipSpace_cons rfl]

/-! ## Values -/

theorem exists_decimal_eq_cons (n : Int) :
    ∃ c cs, (decimal n).toList = c :: cs ∧ (c.isDigit ∨ c = '-') := by
  cases n with
  | ofNat n =>
    obtain ⟨c, ds, shape, digit⟩ := exists_digits_eq_cons n
    exact ⟨c, ds, by rw [decimal, decimalNat, String.toList_ofList, shape], .inl digit⟩
  | negSucc n => exact ⟨'-', _, by rw [decimal, String.toList_ofList], .inr rfl⟩

theorem Value.readBack_integer {n : Int} (least : -2 ^ 63 ≤ n) (most : n < 2 ^ 64) :
    (Value.integer n).ReadBack depth := by
  obtain ⟨c, cs, shape, kind⟩ := exists_decimal_eq_cons n
  have other : ∀ d : Char, d.isDigit = false → d ≠ '-' → c ≠ d := by
    rintro d letter sign rfl
    simp [letter, sign] at kind
  refine ⟨⟨c, cs, shape, ?_, other ']' rfl (by decide)⟩, ?_⟩
  · simp [isSpace, other]
  · intro fuel rest enough follows
    obtain ⟨fuel, rfl⟩ := Nat.exists_eq_succ_of_ne_zero (Nat.ne_zero_of_lt enough)
    have number := scanNumber?_decimal least most follows
    rw [render, shape] at *
    rw [List.cons_append, scanValue?]
    · exact number
    all_goals
      intro others same
      exact other _ (by decide) (by decide) (List.cons.inj same).1

theorem Value.readBack_null : Value.null.ReadBack depth := by
  have shape : Value.null.render.toList = "null".toList := by rw [render]
  refine ⟨⟨_, _, shape, rfl, by decide⟩, fun fuel rest enough _ => ?_⟩
  obtain ⟨fuel, rfl⟩ := Nat.exists_eq_succ_of_ne_zero (Nat.ne_zero_of_lt enough)
  rw [shape]
  rfl

theorem Value.readBack_bool (b : Bool) : (Value.bool b).ReadBack depth := by
  have shape : (Value.bool b).render.toList = (if b then "true" else "false").toList := by
    rw [render]
  cases b with
  | true =>
    refine ⟨⟨_, _, shape, rfl, by decide⟩, fun fuel rest enough _ => ?_⟩
    obtain ⟨fuel, rfl⟩ := Nat.exists_eq_succ_of_ne_zero (Nat.ne_zero_of_lt enough)
    rw [shape]
    rfl
  | false =>
    refine ⟨⟨_, _, shape, rfl, by decide⟩, fun fuel rest enough _ => ?_⟩
    obtain ⟨fuel, rfl⟩ := Nat.exists_eq_succ_of_ne_zero (Nat.ne_zero_of_lt enough)
    rw [shape]
    rfl

theorem Value.readBack_string (s : String) : (Value.string s).ReadBack depth := by
  have shape : (quote s).toList = '"' :: (s.toList.flatMap escape ++ ['"']) := by
    rw [quote, String.toList_ofList, quoteChars, List.cons_append]
  refine ⟨⟨_, _, shape, rfl, by decide⟩, fun fuel rest enough _ => ?_⟩
  obtain ⟨fuel, rfl⟩ := Nat.exists_eq_succ_of_ne_zero (Nat.ne_zero_of_lt enough)
  rw [render, shape, List.cons_append, List.append_assoc, scanValue?, List.singleton_append,
    scanString?_escapes]
  simp

theorem Value.readBack_array {vs : List Value} (all : ∀ v ∈ vs, v.ReadBack depth) :
    (Value.array vs).ReadBack (depth + 1) := by
  have shape : (Value.array vs).render.toList = '[' :: (listed (vs.map render) ++ [']']) := by
    rw [render, renderAll_eq_map, toList_enclose]
    rfl
  refine ⟨⟨_, _, shape, rfl, by decide⟩, fun fuel rest enough _ => ?_⟩
  obtain ⟨fuel, rfl⟩ := Nat.exists_eq_succ_of_ne_zero (Nat.ne_zero_of_lt enough)
  rw [← String.length_toList, shape, List.length_cons, List.length_append, List.length_singleton]
    at enough
  rw [shape, List.cons_append, List.append_assoc, List.singleton_append, scanValue?,
    if_neg (Nat.succ_ne_zero depth), Nat.add_sub_cancel]
  cases vs with
  | nil => rfl
  | cons v vs =>
    have visible := (all v (by simp)).skipSpace_listed (vs.map render) (']' :: rest)
    rw [← List.map_cons] at visible
    obtain ⟨c, cs, first, -, inner⟩ := (all v (by simp)).starts
    obtain ⟨others, body⟩ := listed_cons v.render (vs.map render)
    rw [← List.map_cons, first] at body
    have elements := scanElements?_renders rest all (Nat.lt_of_succ_lt_succ enough)
    rw [body] at visible elements ⊢
    rw [visible]
    split
    case h_1 same => exact absurd (List.cons.inj same).1 inner
    case h_2 =>
      rw [elements]
      rfl

theorem foldl_insertEntry (d : Dict Value) :
    d.entries.foldl (fun l m => Dict.insertEntry m.1 m.2 l) [] = d.entries := by
  have insertions (ms : List (String × Value)) (d : Dict Value) :
      ms.foldl (fun l m => Dict.insertEntry m.1 m.2 l) d.entries = (d.insertAll ms).entries := by
    induction ms generalizing d with
    | nil => rfl
    | cons m ms ih => exact ih (d.insert m.1 m.2)
  have same : Dict.ofList d.entries = d := (Dict.ofList_eq_iff_perm rfl).2 (.refl _)
  exact (insertions d.entries .empty).trans (congrArg Dict.entries same)

theorem Value.readBack_object {members : Dict Value}
    (all : ∀ m ∈ members.entries, m.2.ReadBack depth) :
    (Value.object members.entries).ReadBack (depth + 1) := by
  have shape : (Value.object members.entries).render.toList =
      '\x7b' :: (listed (members.entries.map renderMember) ++ ['\x7d']) := by
    rw [render, renderMembers_eq_map, toList_enclose]
    rfl
  refine ⟨⟨_, _, shape, rfl, by decide⟩, fun fuel rest enough _ => ?_⟩
  obtain ⟨fuel, rfl⟩ := Nat.exists_eq_succ_of_ne_zero (Nat.ne_zero_of_lt enough)
  rw [← String.length_toList, shape, List.length_cons, List.length_append, List.length_singleton]
    at enough
  have folded := foldl_insertEntry members
  rw [shape, List.cons_append, List.append_assoc, List.singleton_append, scanValue?,
    if_neg (Nat.succ_ne_zero depth), Nat.add_sub_cancel]
  generalize members.entries = ms at *
  cases ms with
  | nil => rfl
  | cons m ms =>
    have scanned := scanMembers?_renders rest all (Nat.lt_of_succ_lt_succ enough)
    obtain ⟨cs, body⟩ := exists_members_eq_cons m ms ('\x7d' :: rest)
    rw [body] at scanned ⊢
    rw [skipSpace_cons rfl]
    split
    case h_1 same => exact absurd (List.cons.inj same).1 (by decide)
    case h_2 =>
      rw [scanned, Option.map_some]
      simp only [folded]

/-- A plain value is read back. -/
theorem Value.Plain.readBack {v : Value} (plain : v.Plain depth) : v.ReadBack depth := by
  induction plain with
  | null => exact readBack_null
  | bool b => exact readBack_bool b
  | integer least most => exact readBack_integer least most
  | string s => exact readBack_string s
  | array _ ih => exact readBack_array ih
  | object _ ih => exact readBack_object ih

/-- The members of an object are read back in their order. -/
theorem parseObject?_members {ms : List (String × Value)}
    (all : ∀ m ∈ ms, m.2.Plain (depthLimit - 1)) :
    parseObject? (enclose "\x7b" "\x7d" (ms.map renderMember)) = some ms := by
  have shape : (enclose "\x7b" "\x7d" (ms.map renderMember)).toList =
      '\x7b' :: (listed (ms.map renderMember) ++ ['\x7d']) := by
    rw [toList_enclose]
    rfl
  rw [parseObject?, ← String.length_toList, shape]
  simp only [skipSpace_cons (c := '\x7b') rfl]
  cases ms with
  | nil => rfl
  | cons m ms =>
    have enough : (listed ((m :: ms).map renderMember)).length + 1 <
        2 * (listed ((m :: ms).map renderMember) ++ ['\x7d']).length.succ + 2 := by
      rw [List.length_append]
      omega
    have scanned := scanMembers?_renders [] (fun x mem => (all x mem).readBack) enough
    obtain ⟨cs, body⟩ := exists_members_eq_cons m ms ['\x7d']
    rw [body] at scanned
    simp only [List.length_cons, body, skipSpace_cons (c := '"') rfl]
    simp only [List.length_cons, Nat.succ_eq_add_one] at scanned
    simp [scanned, skipSpace]

end FlagBinding.Json
