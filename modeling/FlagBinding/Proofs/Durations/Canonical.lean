import FlagBinding.Element.Moment
import FlagBinding.Proofs.Durations.Components
import Mathlib.Data.List.DropRight
import Mathlib.Tactic.Ring

/-!
# The canonical text of a duration

A duration is shown in one of five layouts, by its magnitude. Whatever the layout, the text is made
of components whose sum is the duration, so the reader gives it back if it has room for it.

## Main definitions

* `Duration.Normal`: seconds and nanoseconds on the same side of zero, and less than a second of the
  latter.

## Main statements

* `exists_spellsAll_formatMagnitude`: the components of a canonical text.
* `parseTotal_formatTotal`: the effect of the reader on it.
* `decode_encode_duration`: durations through text.
-/

namespace FlagBinding.Time.Duration

open Number

/-! ## The value of a component -/

theorem nanos_eq (c : Component) : c.nanos =
    Nat.ofDigitChars 10 c.whole 0 * c.unit.nanos + fractionNanos c.unit.nanos c.fraction := by
  have order : (fun n (d : Char) => n * 10 + (d.toNat - '0'.toNat)) =
      fun n d => 10 * n + (d.toNat - '0'.toNat) := by
    funext n d
    rw [Nat.mul_comm]
  rw [Component.nanos, order, Nat.ofDigitChars_eq_foldl]

/-- Digits are not counted for more than they are worth. -/
theorem fractionNanos_mul_le (scale : Nat) (ds : List Char) :
    fractionNanos scale ds * 10 ^ ds.length ≤ Nat.ofDigitChars 10 ds 0 * scale := by
  induction ds generalizing scale with
  | nil => simp [fractionNanos]
  | cons d ds ih =>
    rw [fractionNanos, ofDigitChars_cons_zero, List.length_cons]
    split
    case isTrue => simp
    case isFalse =>
      have others := ih (scale / 10)
      generalize d.toNat - '0'.toNat = v
      calc
        (v * (scale / 10) + fractionNanos (scale / 10) ds) * 10 ^ (ds.length + 1)
          = (10 ^ ds.length * v * (scale / 10) + fractionNanos
            (scale / 10) ds * 10 ^ ds.length) * 10 := by
            ring
        _ ≤ (10 ^ ds.length * v * (scale / 10) + Nat.ofDigitChars 10 ds 0 * (scale / 10)) * 10 :=
            Nat.mul_le_mul_right _ (Nat.add_le_add_left others _)
        _ = (10 ^ ds.length * v + Nat.ofDigitChars 10 ds 0) * (scale / 10 * 10) := by ring
        _ ≤ (10 ^ ds.length * v + Nat.ofDigitChars 10 ds 0) * scale :=
            Nat.mul_le_mul_left _ (Nat.div_mul_le_self ..)

/-- Digits are not counted for more than the unit. -/
theorem fractionNanos_le {scale : Nat} {ds : List Char} (digits : ∀ d ∈ ds, isDigit d) :
    fractionNanos scale ds ≤ scale := by
  have positive : 0 < 10 ^ ds.length := Nat.pow_pos (by decide)
  have counted := fractionNanos_mul_le scale ds
  have part := Nat.mul_le_mul_right scale (Nat.le_of_lt (ofDigitChars_lt digits))
  rw [Nat.mul_comm (10 ^ ds.length)] at part
  exact Nat.le_of_mul_le_mul_right (Nat.le_trans counted part) positive

/-- Digits behind the point of a unit of that many places. -/
theorem fractionNanos_pow {places : Nat} {ds : List Char} (short : ds.length ≤ places) :
    fractionNanos (10 ^ places) ds = Nat.ofDigitChars 10 ds 0 * 10 ^ (places - ds.length) := by
  induction ds generalizing places with
  | nil => simp [fractionNanos]
  | cons d ds ih =>
    obtain ⟨p, rfl⟩ : ∃ p, places = p + 1 := ⟨places - 1, by simp at short; omega⟩
    have short : ds.length ≤ p := by simpa using short
    have worth : 10 ^ (p + 1) / 10 = 10 ^ p := by
      rw [Nat.pow_succ, Nat.mul_div_cancel _ (by decide)]
    have positive : 10 ^ p ≠ 0 := Nat.pos_iff_ne_zero.1 (Nat.pow_pos (by decide))
    have split : 10 ^ p = 10 ^ ds.length * 10 ^ (p - ds.length) := by
      rw [← Nat.pow_add, Nat.add_sub_cancel' short]
    rw [fractionNanos, worth]
    simp only [positive, if_false]
    rw [ih short, ofDigitChars_cons_zero, List.length_cons, Nat.add_sub_add_right,
      split, Nat.add_mul, Nat.mul_assoc, Nat.mul_left_comm]

theorem length_paddedDigits {places n : Nat} (positive : 0 < places) (fits : n < 10 ^ places) :
    (paddedDigits places n).length = places := by
  have short : (digits n).length ≤ places :=
    (Nat.length_toDigits_le_iff (by decide) positive).2 fits
  simp only [paddedDigits, List.length_append, List.length_replicate]
  omega

theorem ofDigitChars_paddedDigits (places n : Nat) :
    Nat.ofDigitChars 10 (paddedDigits places n) 0 = n := by
  rw [paddedDigits, Nat.ofDigitChars_append, Nat.ofDigitChars_replicate_zero, Nat.mul_zero, digits,
    Nat.ofDigitChars_ten_toDigits]

/-- Zeros at the end of a fraction do not count. -/
theorem fractionNanos_trimmed {places n : Nat} (positive : 0 < places) (fits : n < 10 ^ places) :
    fractionNanos (10 ^ places) ((paddedDigits places n).rdropWhile (· == '0')) = n := by
  let kept := (paddedDigits places n).rdropWhile (· == '0')
  let zeros := (paddedDigits places n).rtakeWhile (· == '0')
  have whole : kept ++ zeros = paddedDigits places n := List.rdropWhile_append_rtakeWhile
  have length : kept.length + zeros.length = places := by
    rw [← List.length_append, whole, length_paddedDigits positive fits]
  have blank : zeros = List.replicate zeros.length '0' :=
    List.eq_replicate_of_mem fun c mem => by simpa using List.mem_rtakeWhile_imp mem
  have value : Nat.ofDigitChars 10 kept 0 * 10 ^ zeros.length = n := by
    rw [Nat.mul_comm, ← Nat.ofDigitChars_replicate_zero, ← blank, ← Nat.ofDigitChars_append, whole,
      ofDigitChars_paddedDigits]
  have rest : places - kept.length = zeros.length := by omega
  rw [fractionNanos_pow (show kept.length ≤ places by omega), rest, value]

/-! ## The components of a canonical text -/

def counted (k : Nat) (u : TimeUnit) : Component :=
  ⟨digits k, [], u⟩

/-- A number of nanoseconds in a unit of that many places, without zeros at the end. -/
def measured (value places : Nat) (u : TimeUnit) : Component where
  whole := digits (value / 10 ^ places)
  fraction :=
    if value % 10 ^ places = 0 then []
    else (paddedDigits places (value % 10 ^ places)).rdropWhile (· == '0')
  unit := u

/-- The hours and minutes of a number of seconds, from the greatest unit on that it reaches. -/
def clock (seconds : Nat) : List Component :=
  if 0 < seconds / 3600 then
    [counted (seconds / 3600) .hour, counted (seconds / 60 % 60) .minute]
  else if 0 < seconds / 60 % 60 then [counted (seconds / 60 % 60) .minute]
  else []

/-- The components of the canonical text of a number of nanoseconds. -/
def components (n : Nat) : List Component :=
  if n < 1000 then [counted n .nanosecond]
  else if n < 1000000 then [measured n 3 .microsecond]
  else if n < nanosPerSecond then [measured n 6 .millisecond]
  else
    clock (n / nanosPerSecond) ++
      [measured (n / nanosPerSecond % 60 * nanosPerSecond + n % nanosPerSecond) 9 .second]

variable {u : TimeUnit} {unit : List Char}

theorem isDigit_of_mem_digits {n : Nat} : ∀ d ∈ digits n, isDigit d :=
  fun d mem => isDigit_of_isDigit ((isDigits_digits n).2 d mem)

theorem spells_counted (k : Nat) (spelled : unit ∈ u.spellings) :
    Spells (counted k u) (digits k ++ unit) :=
  .plain isDigit_of_mem_digits spelled

theorem nanos_counted (k : Nat) (u : TimeUnit) : (counted k u).nanos = k * u.nanos := by
  have value : Nat.ofDigitChars 10 (digits k) 0 = k := Nat.ofDigitChars_ten_toDigits
  rw [nanos_eq, counted, value, fractionNanos, Nat.add_zero]

theorem spells_measured (value places : Nat) (spelled : unit ∈ u.spellings) :
    Spells (measured value places u) (scaled value places ++ unit) := by
  rw [measured, scaled]
  by_cases exact : value % 10 ^ places = 0
  · simp only [exact, if_true, List.append_nil]
    exact .plain isDigit_of_mem_digits spelled
  · simp only [exact, if_false, List.append_assoc, List.cons_append]
    refine .pointed isDigit_of_mem_digits (fun d mem => ?_) spelled
    rcases List.mem_append.1 ((List.rdropWhile_prefix _ _).subset mem) with zero | digit
    · exact isDigit_of_isDigit (isDigits_zeros _ d zero)
    · exact isDigit_of_mem_digits d digit

theorem nanos_measured (value : Nat) {places : Nat} (positive : 0 < places)
    (scale : u.nanos = 10 ^ places) : (measured value places u).nanos = value := by
  have parts : value / 10 ^ places * 10 ^ places + value % 10 ^ places = value :=
    Nat.div_add_mod' ..
  have fits : value % 10 ^ places < 10 ^ places := Nat.mod_lt _ (Nat.pow_pos (by decide))
  have number : Nat.ofDigitChars 10 (digits (value / 10 ^ places)) 0 = value / 10 ^ places :=
    Nat.ofDigitChars_ten_toDigits
  rw [nanos_eq, measured, number, scale]
  by_cases exact : value % 10 ^ places = 0
  · simp only [exact, if_true, fractionNanos]
    omega
  · simp only [exact, if_false]
    rw [fractionNanos_trimmed positive fits, parts]

/-- Hours and minutes in front of the text of further components. -/
theorem spellsAll_clock {seconds : Nat} {cs : List Component} {text : List Char}
    (rest : SpellsAll cs text) : SpellsAll (clock seconds ++ cs)
      ((if 0 < seconds / 3600 then
          digits (seconds / 3600) ++ ['h'] ++ digits (seconds / 60 % 60) ++ ['m']
        else if 0 < seconds / 60 % 60 then digits (seconds / 60 % 60) ++ ['m']
        else []) ++ text) := by
  have filled (k : Nat) (u : TimeUnit) : (counted k u).whole ≠ [] ∨ (counted k u).fraction ≠ [] :=
    .inl (isDigits_digits k).1
  have minutes : SpellsAll (counted (seconds / 60 % 60) .minute :: cs)
      (digits (seconds / 60 % 60) ++ ['m'] ++ text) :=
    .cons (spells_counted _ (by decide)) (filled ..) rest
  rw [clock]
  by_cases hours : 0 < seconds / 3600
  · have parts : digits (seconds / 3600) ++ ['h'] ++ digits (seconds / 60 % 60) ++ ['m'] ++ text =
        digits (seconds / 3600) ++ ['h'] ++ (digits (seconds / 60 % 60) ++ ['m'] ++ text) := by
      simp only [List.append_assoc]
    rw [if_pos hours, if_pos hours, parts]
    exact .cons (spells_counted _ (by decide)) (filled ..) minutes
  · rw [if_neg hours, if_neg hours]
    by_cases some : 0 < seconds / 60 % 60
    · rw [if_pos some, if_pos some]
      exact minutes
    · rw [if_neg some, if_neg some]
      exact rest

/-- The canonical text is a text of these components. -/
theorem spellsAll_components (n : Nat) : SpellsAll (components n) (formatMagnitude n) := by
  have last {c : Component} {text : List Char} {k : Nat} (spells : Spells c text)
      (whole : c.whole = digits k) : SpellsAll [c] text := by
    have filled : c.whole ≠ [] := whole ▸ (isDigits_digits k).1
    simpa using SpellsAll.cons spells (.inl filled) .nil
  rw [components, formatMagnitude]
  by_cases nano : n < 1000
  · rw [if_pos nano, if_pos nano]
    exact last (spells_counted n (by decide)) rfl
  by_cases micro : n < 1000000
  · rw [if_neg nano, if_pos micro, if_neg nano, if_pos micro]
    exact last (spells_measured n 3 (by decide)) rfl
  by_cases milli : n < nanosPerSecond
  · rw [if_neg nano, if_neg micro, if_pos milli, if_neg nano, if_neg micro, if_pos milli]
    exact last (spells_measured n 6 (by decide)) rfl
  rw [if_neg nano, if_neg micro, if_neg milli, if_neg nano, if_neg micro, if_neg milli]
  dsimp only
  rw [List.append_assoc]
  exact spellsAll_clock (last (spells_measured _ 9 (by decide)) rfl)

theorem components_ne_nil (n : Nat) : components n ≠ [] := by
  unfold components
  split_ifs <;> simp

theorem sum_clock (seconds : Nat) : sum (clock seconds) = seconds / 60 * 60 * nanosPerSecond := by
  unfold clock
  split_ifs <;> simp [nanos_counted, TimeUnit.nanos, nanosPerSecond] <;> omega

/-- The components add up. -/
theorem sum_components (n : Nat) : sum (components n) = n := by
  rw [components]
  split_ifs
  · simp [nanos_counted, TimeUnit.nanos]
  · rw [sum_cons, nanos_measured n (by decide) (by decide), sum_nil, Nat.add_zero]
  · rw [sum_cons, nanos_measured n (by decide) (by decide), sum_nil, Nat.add_zero]
  · rw [sum_append, sum_clock, sum_cons, nanos_measured _ (by decide) (by decide), sum_nil]
    simp only [nanosPerSecond]
    omega

/-- The numbers of the components are not greater than the number of nanoseconds. -/
theorem narrow_components {n : Nat} (fits : n < 10 ^ greatestWidth) : Narrow (components n) := by
  have short {k : Nat} (small : k ≤ n) : (digits k).length ≤ greatestWidth :=
    (Nat.length_toDigits_le_iff (by decide) (by decide)).2 (Nat.lt_of_le_of_lt small fits)
  have narrow_clock : Narrow (clock (n / nanosPerSecond)) := by
    have hours := short (k := n / nanosPerSecond / 3600) (by simp only [nanosPerSecond]; omega)
    have minutes := short (k := n / nanosPerSecond / 60 % 60) (by simp only [nanosPerSecond]; omega)
    unfold clock
    split_ifs <;> simp [counted, hours, minutes]
  have seconds : (n / nanosPerSecond % 60 * nanosPerSecond + n % nanosPerSecond) / 10 ^ 9 ≤ n := by
    simp only [nanosPerSecond]
    omega
  rw [components]
  split_ifs
  · simpa [counted] using short (Nat.le_refl n)
  · simpa [measured] using short (Nat.div_le_self ..)
  · simpa [measured] using short (Nat.div_le_self ..)
  · exact narrow_append.2 ⟨narrow_clock, narrow_cons.2 ⟨short seconds, narrow_nil⟩⟩

/-! ## Reading a canonical text -/

/-- The canonical text of a number of nanoseconds is read as the number, if there is room for it. -/
theorem magnitude_formatMagnitude (n : Nat) {limit : Nat} (room : limit < 10 ^ greatestWidth) :
    magnitude limit (formatMagnitude n) = if n ≤ limit then .ok n else .error .outOfRange := by
  rw [magnitude_of_spellsAll (spellsAll_components n) (components_ne_nil n), sum_components]
  by_cases fits : n ≤ limit
  · rw [if_pos ⟨narrow_components (Nat.lt_of_le_of_lt fits room), fits⟩, if_pos fits]
  · rw [if_neg (fun both => fits both.2), if_neg fits]

theorem parseTotal_zero : parseTotal "0s" = .ok 0 := by
  have zero : Spells (counted 0 .second) (digits 0 ++ ['s']) := spells_counted 0 (by decide)
  have spells : SpellsAll [counted 0 .second] "0s".toList :=
    .cons zero (.inl (isDigits_digits 0).1) .nil
  have narrow : Narrow [counted 0 .second] := by decide
  have value : sum [counted 0 .second] = 0 := by simp [nanos_counted]
  rw [parseTotal, parseChars_of_spellsAll spells, magnitude_of_spellsAll spells (by simp), value,
    if_pos ⟨narrow, Nat.zero_le _⟩]
  rfl

/-- The canonical text of a number of nanoseconds is read as the number, if it has 64 bits. -/
theorem parseTotal_formatTotal (n : Int) : parseTotal (formatTotal n) =
    if -2 ^ 63 ≤ n ∧ n ≤ 2 ^ 63 - 1 then .ok n else .error .outOfRange := by
  rcases Int.lt_trichotomy n 0 with negative | rfl | positive
  · have text : (formatTotal n).toList = '-' :: formatMagnitude n.natAbs := by
      rw [formatTotal, if_neg (by omega), if_pos negative, String.toList_ofList]
      rfl
    have room : 2 ^ 63 < 10 ^ greatestWidth := by decide
    have read : parseTotal (formatTotal n) =
        (fun n => -(n : Int)) <$> magnitude (2 ^ 63) (formatMagnitude n.natAbs) := by
      rw [parseTotal, text]
      rfl
    rw [read, magnitude_formatMagnitude _ room]
    by_cases fits : n.natAbs ≤ 2 ^ 63
    · have back : -(n.natAbs : Int) = n := by omega
      rw [if_pos fits, if_pos (by omega)]
      exact congrArg Except.ok back
    · rw [if_neg fits, if_neg (by omega)]
      rfl
  · simpa [formatTotal] using parseTotal_zero
  · have text : (formatTotal n).toList = formatMagnitude n.natAbs := by
      rw [formatTotal, if_neg (by omega), if_neg (by omega), String.toList_ofList]
      rfl
    have room : 2 ^ 63 - 1 < 10 ^ greatestWidth := by decide
    rw [parseTotal, text, parseChars_of_spellsAll (spellsAll_components _),
      magnitude_formatMagnitude _ room]
    by_cases fits : n.natAbs ≤ 2 ^ 63 - 1
    · have back : Int.ofNat n.natAbs = n := Int.natAbs_of_nonneg (by omega)
      rw [if_pos fits, if_pos (by omega)]
      exact congrArg Except.ok back
    · rw [if_neg fits, if_neg (by omega)]
      rfl

/-! ## Durations through text -/

/-- Less than a second of nanoseconds, on the same side of zero as the seconds. -/
structure Normal (d : Duration) : Prop where
  small : -(nanosPerSecond : Int) < d.nanos.toInt ∧ d.nanos.toInt < nanosPerSecond
  sameSide : (0 ≤ d.seconds.toInt ∧ 0 ≤ d.nanos.toInt) ∨ (d.seconds.toInt ≤ 0 ∧ d.nanos.toInt ≤ 0)

/-- There is one normal duration of a length. -/
theorem Normal.unique {d e : Duration} (normal : d.Normal) (normal' : e.Normal)
    (same : d.total = e.total) : d = e := by
  obtain ⟨small, side⟩ := normal
  obtain ⟨small', side'⟩ := normal'
  simp only [total, nanosPerSecond] at same small small'
  have seconds : d.seconds.toInt = e.seconds.toInt := by
    rcases side with side | side <;> rcases side' with side' | side' <;> omega
  have nanos : d.nanos.toInt = e.nanos.toInt := by omega
  cases d
  cases e
  rw [Duration.mk.injEq]
  exact ⟨Int64.toInt.inj seconds, Int32.toInt.inj nanos⟩

/-- The parts of a number of nanoseconds of 64 bits are stored as they are. -/
theorem toInt_ofTotal {n : Int} (least : -2 ^ 63 ≤ n) (most : n ≤ 2 ^ 63 - 1) :
    (ofTotal n).seconds.toInt = n.tdiv nanosPerSecond ∧
      (ofTotal n).nanos.toInt = n.tmod nanosPerSecond := by
  have parts : n.tdiv nanosPerSecond * nanosPerSecond + n.tmod nanosPerSecond = n :=
    Int.tdiv_mul_add_tmod ..
  have above : -(nanosPerSecond : Int) < n.tmod nanosPerSecond := Int.lt_tmod_of_pos _ (by decide)
  have below : n.tmod nanosPerSecond < nanosPerSecond := Int.tmod_lt_of_pos _ (by decide)
  simp only [nanosPerSecond] at parts above below
  constructor
  · apply Int64.toInt_ofInt_of_le <;> simp only [nanosPerSecond] <;> omega
  · apply Int32.toInt_ofInt_of_le <;> simp only [nanosPerSecond] <;> omega

/-- A number of nanoseconds of 64 bits is the length of a normal duration. -/
theorem ofTotal_spec {n : Int} (least : -2 ^ 63 ≤ n) (most : n ≤ 2 ^ 63 - 1) :
    (ofTotal n).total = n ∧ (ofTotal n).Normal := by
  obtain ⟨seconds, nanos⟩ := toInt_ofTotal least most
  have parts : n.tdiv nanosPerSecond * nanosPerSecond + n.tmod nanosPerSecond = n :=
    Int.tdiv_mul_add_tmod ..
  have above : -(nanosPerSecond : Int) < n.tmod nanosPerSecond := Int.lt_tmod_of_pos _ (by decide)
  have below : n.tmod nanosPerSecond < nanosPerSecond := Int.tmod_lt_of_pos _ (by decide)
  have side : (0 ≤ n ∧ 0 ≤ n.tmod nanosPerSecond) ∨ (n ≤ 0 ∧ n.tmod nanosPerSecond ≤ 0) := by
    rcases Int.le_total 0 n with positive | negative
    · exact .inl ⟨positive, Int.tmod_nonneg _ positive⟩
    · have mirrored := Int.tmod_nonneg (a := -n) nanosPerSecond (by omega)
      rw [Int.neg_tmod] at mirrored
      exact .inr ⟨negative, by omega⟩
  simp only [nanosPerSecond] at parts above below side
  refine ⟨?_, ?_, ?_⟩ <;> simp only [total, seconds, nanos, nanosPerSecond] <;> omega

/-- A duration of 64 bits of nanoseconds is read from its own text as the normal duration of its
length, and so as itself if it is normal. The text of any other duration is refused. -/
theorem decode_encode_duration (d : Duration) :
    ((-2 ^ 63 ≤ d.total ∧ d.total ≤ 2 ^ 63 - 1) →
      ∃ e, Codec.duration.decode (Codec.duration.encode d) = .ok e ∧
        (∀ e' : Duration, (e'.total = d.total ∧ e'.Normal) ↔ e' = e) ∧ (d.Normal → e = d)) ∧
    (¬ (-2 ^ 63 ≤ d.total ∧ d.total ≤ 2 ^ 63 - 1) →
      Codec.duration.decode (Codec.duration.encode d) =
        .error (.invalid "duration" (Codec.duration.encode d) (.duration .outOfRange))) := by
  have read := parseTotal_formatTotal d.total
  constructor
  · intro fits
    obtain ⟨length, normal⟩ := ofTotal_spec fits.1 fits.2
    rw [if_pos fits] at read
    refine ⟨ofTotal d.total, by simp only [Codec.duration, read], fun e => ?_, fun own => ?_⟩
    · constructor
      · rintro ⟨same, normal'⟩
        exact normal'.unique normal (same.trans length.symm)
      · rintro rfl
        exact ⟨length, normal⟩
    · exact normal.unique own length
  · intro beyond
    rw [if_neg beyond] at read
    simp only [Codec.duration, read]

end FlagBinding.Time.Duration
