import FlagBinding.Schema.Options

/-!
# The form of numerals

A number is written as digits, perhaps with a fraction and an exponent. This is the form that a
literal of the target language has before the name of its type.

## Main definitions

* `IsDigits`, `IsNumeral`: digits, and numbers with a sign.

## Main statements

* `isNumeral_render`: a finite number is written as a numeral.
-/

namespace FlagBinding.Number

/-- Digits, of which there is at least one. -/
def IsDigits (cs : List Char) : Prop :=
  cs ≠ [] ∧ ∀ c ∈ cs, c.isDigit

/-- Digits with perhaps a point and more digits, and perhaps an exponent. -/
def IsMagnitude (cs : List Char) : Prop :=
  ∃ whole fraction exponent, IsDigits whole ∧
    (fraction = [] ∨ ∃ ds, IsDigits ds ∧ fraction = '.' :: ds) ∧
    (exponent = [] ∨ ∃ n : Int, exponent = 'e' :: (decimal n).toList) ∧
    cs = whole ++ fraction ++ exponent

/-- A magnitude, perhaps with a minus sign. -/
def IsNumeral (s : String) : Prop :=
  ∃ cs, IsMagnitude cs ∧ (s.toList = cs ∨ s.toList = '-' :: cs)

theorem isDigits_digits (n : Nat) : IsDigits (digits n) :=
  ⟨Nat.toDigits_ne_nil, fun _ mem => Nat.isDigit_of_mem_toDigits (by decide) (by decide) mem⟩

theorem isDigits_zero : IsDigits ['0'] :=
  ⟨by simp, by simp⟩

theorem isDigits_append {a b : List Char} (ha : IsDigits a) (hb : ∀ c ∈ b, c.isDigit) :
    IsDigits (a ++ b) := by
  refine ⟨by simp [ha.1], fun c mem => ?_⟩
  rcases List.mem_append.1 mem with mem | mem
  · exact ha.2 c mem
  · exact hb c mem

theorem isDigits_zeros (n : Nat) : ∀ c ∈ List.replicate n '0', c.isDigit := by
  intro c mem
  rw [List.eq_of_mem_replicate mem]
  decide

namespace FloatStyle

variable {ds : List Char} {style : FloatStyle}

theorem isMagnitude_around (digits : IsDigits ds) (point : Int) :
    IsMagnitude (style.around ds point) := by
  unfold around
  split
  case isTrue =>
    refine ⟨['0'], '.' :: (List.replicate (-point).toNat '0' ++ ds), [], isDigits_zero,
      .inr ⟨_, ⟨?_, ?_⟩, rfl⟩, .inl rfl, by simp⟩
    · simp [digits.1]
    · intro c mem
      rcases List.mem_append.1 mem with mem | mem
      · exact isDigits_zeros _ c mem
      · exact digits.2 c mem
  case isFalse positive =>
    split
    case isTrue =>
      refine ⟨ds ++ List.replicate (point.toNat - ds.length) '0',
        if style.keepsPoint then ['.', '0'] else [], [],
        isDigits_append digits (isDigits_zeros _), ?_, .inl rfl, by simp⟩
      split
      · exact .inr ⟨['0'], isDigits_zero, rfl⟩
      · exact .inl rfl
    case isFalse short =>
      -- There are digits on both sides of the point.
      refine ⟨ds.take point.toNat, '.' :: ds.drop point.toNat, [], ⟨?_, ?_⟩,
        .inr ⟨_, ⟨?_, ?_⟩, rfl⟩, .inl rfl, by simp⟩
      · rw [ne_eq, List.take_eq_nil_iff]
        rintro (zero | empty)
        · omega
        · exact digits.1 empty
      · exact fun c mem => digits.2 c (List.mem_of_mem_take mem)
      · simp only [ne_eq, List.drop_eq_nil_iff]
        omega
      · exact fun c mem => digits.2 c (List.mem_of_mem_drop mem)

theorem isMagnitude_scientific (unsigned : style.signsExponent = false) (digits : IsDigits ds)
    (point : Int) : IsMagnitude (style.scientific ds point) := by
  obtain ⟨c, rest, rfl⟩ := List.exists_cons_of_ne_nil digits.1
  have ⟨first, more⟩ := List.forall_mem_cons.1 digits.2
  refine ⟨[c], if rest.length = 0 then [] else '.' :: rest, 'e' :: (decimal (point - 1)).toList,
    ⟨by simp, by simpa using first⟩, ?_, .inr ⟨_, rfl⟩, ?_⟩
  · cases rest with
    | nil => exact .inl rfl
    | cons d rest => exact .inr ⟨d :: rest, ⟨by simp, more⟩, by simp⟩
  · cases rest <;> simp [scientific, unsigned]

theorem isMagnitude_magnitude (unsigned : style.signsExponent = false) (format : FloatFormat)
    (m : Nat) (q : Int) : IsMagnitude (style.magnitude format m q) := by
  unfold magnitude
  split
  case isTrue =>
    split
    · exact ⟨['0'], ['.', '0'], [], isDigits_zero, .inr ⟨['0'], isDigits_zero, rfl⟩, .inl rfl, rfl⟩
    · exact ⟨['0'], [], [], isDigits_zero, .inl rfl, .inl rfl, rfl⟩
  case isFalse =>
    simp only
    split
    · exact isMagnitude_around (isDigits_digits _) _
    · exact isMagnitude_scientific unsigned (isDigits_digits _) _

/-- A finite number is written as a numeral. -/
theorem isNumeral_render (unsigned : style.signsExponent = false) {format : FloatFormat}
    (negative : Bool) (m : Nat) (q : Int) :
    IsNumeral (style.render (.finite negative m q : Floating format)) := by
  refine ⟨_, isMagnitude_magnitude unsigned format m q, ?_⟩
  cases negative
  · exact .inl (by simp [render])
  · exact .inr (by simp [render])

end FloatStyle

end FlagBinding.Number
