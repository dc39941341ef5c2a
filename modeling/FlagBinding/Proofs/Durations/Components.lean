import FlagBinding.Proofs.Elements.Integers
import FlagBinding.Time.Duration
import Mathlib.Algebra.GroupWithZero.Nat

/-!
# Durations as sums of components

A text of components, each a decimal with a unit, is read as the sum of the components. It is
refused as too long only if a number has too many digits or the sum passes the limit, wherever in
the text that shows.

## Main definitions

* `TimeUnit.spellings`: the ways to write a unit.
* `Spells`, `SpellsAll`: the texts of a component and of components.

## Main statements

* `readComponent?_append`: a component is read from the start of a text.
* `sumFrom_of_spellsAll`, `magnitude_of_spellsAll`: the sum of the components of a text.
-/

namespace FlagBinding.Time

open Number

/-! ## Units -/

namespace TimeUnit

def spellings : TimeUnit → List (List Char)
  | .nanosecond => [['n', 's']]
  | .microsecond => [['u', 's'], ['µ', 's'], ['μ', 's']]
  | .millisecond => [['m', 's']]
  | .second => [['s']]
  | .minute => [['m']]
  | .hour => [['h']]

variable {u : TimeUnit} {unit rest : List Char}

/-- A unit is read from the start of a text. Only a minute could be taken for another unit, before
an s. -/
theorem read?_append (spelled : unit ∈ u.spellings) (apart : rest.head? ≠ some 's') :
    read? (unit ++ rest) = some (u, rest) := by
  cases u with
  | minute =>
    obtain rfl : unit = ['m'] := by simpa [spellings] using spelled
    cases rest with
    | nil => rfl
    | cons c rest =>
      have other : c ≠ 's' := by simpa using apart
      simp [read?, other]
  | microsecond =>
    rcases (by simpa [spellings] using spelled :
        unit = ['u', 's'] ∨ unit = ['µ', 's'] ∨ unit = ['μ', 's']) with rfl | rfl | rfl <;> rfl
  | _ =>
    obtain rfl := List.mem_singleton.1 spelled
    rfl

/-- A unit starts with what is neither a digit nor a point. -/
theorem exists_cons_of_mem_spellings (spelled : unit ∈ u.spellings) :
    ∃ c more, unit = c :: more ∧ Duration.isDigit c = false ∧ c ≠ '.' := by
  cases u <;> simp only [spellings, List.mem_cons, List.not_mem_nil, or_false] at spelled
  case microsecond =>
    rcases spelled with rfl | rfl | rfl <;> exact ⟨_, _, rfl, by decide, by decide⟩
  all_goals
    subst spelled
    exact ⟨_, _, rfl, by decide, by decide⟩

end TimeUnit

namespace Duration

/-- A component and a text of it. The point may be there without digits behind it. -/
inductive Spells : Component → List Char → Prop
  | plain {whole unit : List Char} {u : TimeUnit} (digits : ∀ c ∈ whole, isDigit c)
      (spelled : unit ∈ u.spellings) : Spells ⟨whole, [], u⟩ (whole ++ unit)
  | pointed {whole fraction unit : List Char} {u : TimeUnit} (digits : ∀ c ∈ whole, isDigit c)
      (digits' : ∀ c ∈ fraction, isDigit c) (spelled : unit ∈ u.spellings) :
      Spells ⟨whole, fraction, u⟩ (whole ++ '.' :: (fraction ++ unit))

/-- Components, each with a number, and a text of them. -/
inductive SpellsAll : List Component → List Char → Prop
  | nil : SpellsAll [] []
  | cons {c : Component} {cs : List Component} {text more : List Char} (spells : Spells c text)
      (filled : c.whole ≠ [] ∨ c.fraction ≠ []) (rest : SpellsAll cs more) :
      SpellsAll (c :: cs) (text ++ more)

variable {c : Component} {cs : List Component} {text rest : List Char}

/-! ## Reading a component -/

theorem isDigit_of_isDigit {d : Char} (digit : d.isDigit) : isDigit d := by
  rw [isDigit, digitValue?_of_isDigit digit, Option.isSome_some]

theorem isDigit_iff {d : Char} : isDigit d ↔ '0' ≤ d ∧ d ≤ '9' := by
  rw [isDigit, digitValue?]
  split <;> simp_all

theorem toNat_sub_le_of_isDigit {d : Char} (digit : isDigit d) : d.toNat - '0'.toNat ≤ 9 :=
  Nat.sub_le_sub_right (isDigit_iff.1 digit).2 '0'.toNat

theorem ofDigitChars_cons_zero (d : Char) (ds : List Char) : Nat.ofDigitChars 10 (d :: ds) 0 =
    10 ^ ds.length * (d.toNat - '0'.toNat) + Nat.ofDigitChars 10 ds 0 := by
  rw [Nat.ofDigitChars_cons, Nat.mul_zero, Nat.zero_add, Nat.ofDigitChars_eq_ofDigitChars_zero]

theorem ofDigitChars_lt {ds : List Char} (digits : ∀ d ∈ ds, isDigit d) :
    Nat.ofDigitChars 10 ds 0 < 10 ^ ds.length := by
  induction ds with
  | nil => simp
  | cons d ds ih =>
    obtain ⟨digit, digits⟩ := List.forall_mem_cons.1 digits
    have first : 10 ^ ds.length * (d.toNat - '0'.toNat) ≤ 10 ^ ds.length * 9 :=
      Nat.mul_le_mul_left _ (toNat_sub_le_of_isDigit digit)
    have others := ih digits
    rw [ofDigitChars_cons_zero, List.length_cons, Nat.pow_succ]
    omega

/-- Digits end before the first character that is none. -/
theorem span_digits {digits : List Char} (all : ∀ d ∈ digits, isDigit d) (rest : List Char)
    (stop : ∀ d, rest.head? = some d → isDigit d = false) :
    (digits ++ rest).takeWhile isDigit = digits ∧ (digits ++ rest).dropWhile isDigit = rest := by
  rw [List.takeWhile_append_of_pos all, List.dropWhile_append_of_pos all]
  cases rest with
  | nil => simp
  | cons d rest =>
    have other : ¬ isDigit d = true := by simp [stop d rfl]
    rw [List.takeWhile_cons_of_neg other, List.dropWhile_cons_of_neg other]
    simp

theorem Spells.digits (spells : Spells c text) :
    (∀ d ∈ c.whole, isDigit d) ∧ ∀ d ∈ c.fraction, isDigit d := by
  cases spells with
  | plain digits => exact ⟨digits, nofun⟩
  | pointed digits digits' => exact ⟨digits, digits'⟩

/-- A component is read from the start of a text, unless its unit goes on behind it. -/
theorem readComponent?_append (spells : Spells c text) (apart : rest.head? ≠ some 's') :
    readComponent? (text ++ rest) = some (c, rest) := by
  cases spells with
  | @plain whole unit u digits spelled =>
    obtain ⟨d, more, rfl, other, noPoint⟩ := TimeUnit.exists_cons_of_mem_spellings spelled
    have cut := span_digits digits (d :: more ++ rest) (by simp [other])
    have none : readFraction (d :: more ++ rest) = ([], d :: more ++ rest) := by
      simp [readFraction, noPoint]
    rw [readComponent?, List.append_assoc, cut.1, cut.2, none]
    simp only [TimeUnit.read?_append spelled apart, Option.map_some]
  | @pointed whole fraction unit u digits digits' spelled =>
    obtain ⟨d, more, rfl, other, -⟩ := TimeUnit.exists_cons_of_mem_spellings spelled
    have cut := span_digits digits ('.' :: (fraction ++ (d :: more ++ rest)))
      (by simp [show isDigit '.' = false by decide])
    have cut' := span_digits digits' (d :: more ++ rest) (by simp [other])
    have some : readFraction ('.' :: (fraction ++ (d :: more ++ rest))) =
        (fraction, d :: more ++ rest) := by
      rw [readFraction, cut'.1, cut'.2]
    rw [readComponent?, List.append_assoc, List.cons_append, List.append_assoc, cut.1, cut.2, some]
    simp only [TimeUnit.read?_append spelled apart, Option.map_some]

/-! ## Sums -/

def sum (cs : List Component) : Nat :=
  (cs.map Component.nanos).sum

/-- The numbers of components are short enough to be read. -/
def Narrow (cs : List Component) : Prop :=
  ∀ c ∈ cs, c.whole.length ≤ greatestWidth

instance (cs : List Component) : Decidable (Narrow cs) :=
  inferInstanceAs (Decidable (∀ c ∈ cs, c.whole.length ≤ greatestWidth))

@[simp] theorem sum_nil : sum [] = 0 := rfl

@[simp] theorem sum_cons (c : Component) (cs : List Component) :
    sum (c :: cs) = c.nanos + sum cs := by
  simp [sum]

@[simp] theorem sum_append (cs cs' : List Component) : sum (cs ++ cs') = sum cs + sum cs' := by
  simp [sum]

@[simp] theorem narrow_nil : Narrow [] := by simp [Narrow]

@[simp] theorem narrow_cons : Narrow (c :: cs) ↔ c.whole.length ≤ greatestWidth ∧ Narrow cs := by
  simp [Narrow]

@[simp] theorem narrow_append {cs' : List Component} :
    Narrow (cs ++ cs') ↔ Narrow cs ∧ Narrow cs' :=
  List.forall_mem_append

/-- Each component is written with a digit or a point in front. -/
theorem SpellsAll.head?_ne {d : Char} (spells : SpellsAll cs text) (other : isDigit d = false)
    (noPoint : d ≠ '.') : text.head? ≠ some d := by
  cases spells with
  | nil => simp
  | @cons c cs text more spells filled rest =>
    cases spells with
    | @plain whole unit u digits spelled =>
      obtain ⟨e, es, rfl⟩ := List.exists_cons_of_ne_nil (by simpa using filled : whole ≠ [])
      have digit : isDigit e := digits e (by simp)
      rintro ⟨⟩
      simp [digit] at other
    | @pointed whole fraction unit u digits digits' spelled =>
      cases whole with
      | nil => simpa using noPoint.symm
      | cons e es =>
        have digit : isDigit e := digits e (by simp)
        rintro ⟨⟩
        simp [digit] at other

/-- A component is added to what has been read before it. -/
theorem sumFrom_append (spells : Spells c text) (filled : c.whole ≠ [] ∨ c.fraction ≠ [])
    (apart : rest.head? ≠ some 's') (limit total : Nat) :
    sumFrom limit total (text ++ rest) =
      if c.whole.length ≤ greatestWidth ∧ total + c.nanos ≤ limit then
        sumFrom limit (total + c.nanos) rest
      else .error .outOfRange := by
  have read := readComponent?_append spells apart
  have number : ¬ (c.whole.isEmpty && c.fraction.isEmpty) = true := by
    rw [Bool.and_eq_true, List.isEmpty_iff, List.isEmpty_iff]
    rintro ⟨noWhole, noFraction⟩
    exact filled.elim (· noWhole) (· noFraction)
  have nonempty : ¬ (text ++ rest).isEmpty = true := by
    intro empty
    rw [List.isEmpty_iff.1 empty] at read
    cases read
  rw [sumFrom, if_neg nonempty]
  split
  case h_1 none => simp [read] at none
  case h_2 c' rest' found =>
    obtain ⟨rfl, rfl⟩ : c = c' ∧ rest = rest' := by simpa [read] using found
    rw [if_neg number]
    by_cases wide : greatestWidth < c.whole.length
    · rw [if_pos wide, if_neg (by omega)]
    · rw [if_neg wide]
      by_cases beyond : limit < total + c.nanos
      · rw [if_pos beyond, if_neg (by omega)]
      · rw [if_neg beyond, if_pos (by omega)]

/-- A text of components is read as their sum, or it is out of range: a sum that passes the limit on
the way passes it at the end. -/
theorem sumFrom_of_spellsAll (spells : SpellsAll cs text) {limit total : Nat}
    (within : total ≤ limit) :
    sumFrom limit total text =
      if Narrow cs ∧ total + sum cs ≤ limit then .ok (total + sum cs) else .error .outOfRange := by
  induction spells generalizing total with
  | nil =>
    rw [sumFrom, if_pos List.isEmpty_nil, if_pos ⟨narrow_nil, by simpa using within⟩]
    simp
  | @cons c cs text more spells filled rest ih =>
    have apart : more.head? ≠ some 's' := rest.head?_ne (by decide) (by decide)
    rw [sumFrom_append spells filled apart, sum_cons, ← Nat.add_assoc]
    by_cases here : c.whole.length ≤ greatestWidth ∧ total + c.nanos ≤ limit
    · rw [if_pos here, ih here.2]
      simp only [narrow_cons, here.1, true_and]
    · rw [if_neg here, if_neg]
      rintro ⟨narrow, fits⟩
      exact here ⟨(narrow_cons.1 narrow).1, by omega⟩

/-- Each component is written with at least two characters, of which one belongs to its number. -/
theorem SpellsAll.two_le_length (spells : SpellsAll cs text) (some : cs ≠ []) :
    2 ≤ text.length := by
  cases spells with
  | nil => exact absurd rfl some
  | @cons c cs text more spells filled rest =>
    cases spells with
    | @plain whole unit u digits spelled =>
      have number : 0 < whole.length := List.length_pos_iff.2 (by simpa using filled)
      obtain ⟨d, ds, rfl, -⟩ := TimeUnit.exists_cons_of_mem_spellings spelled
      simp only [List.length_append, List.length_cons]
      omega
    | @pointed whole fraction unit u digits digits' spelled =>
      obtain ⟨d, ds, rfl, -⟩ := TimeUnit.exists_cons_of_mem_spellings spelled
      simp only [List.length_append, List.length_cons]
      omega

/-- A text of components without a sign is read as their sum, if there is room for it. -/
theorem magnitude_of_spellsAll (spells : SpellsAll cs text) (some : cs ≠ []) (limit : Nat) :
    magnitude limit text =
      if Narrow cs ∧ sum cs ≤ limit then .ok (sum cs) else .error .outOfRange := by
  have long := spells.two_le_length some
  have noZero : text ≠ ['0'] := by
    rintro rfl
    simp at long
  have nonempty : ¬ text.isEmpty = true := by
    intro empty
    simp [List.isEmpty_iff.1 empty] at long
  rw [magnitude, if_neg noZero, if_neg nonempty, sumFrom_of_spellsAll spells (Nat.zero_le limit),
    Nat.zero_add]

/-- Without a sign a text is read as a number that is not negative. -/
theorem parseChars_unsigned (noMinus : text.head? ≠ some '-') (noPlus : text.head? ≠ some '+') :
    parseChars text = Int.ofNat <$> magnitude (2 ^ 63 - 1) text := by
  unfold parseChars
  split
  · exact absurd rfl noMinus
  · exact absurd rfl noPlus
  · rfl

theorem parseChars_of_spellsAll (spells : SpellsAll cs text) :
    parseChars text = Int.ofNat <$> magnitude (2 ^ 63 - 1) text :=
  parseChars_unsigned (spells.head?_ne (by decide) (by decide))
    (spells.head?_ne (by decide) (by decide))

end Duration

end FlagBinding.Time
