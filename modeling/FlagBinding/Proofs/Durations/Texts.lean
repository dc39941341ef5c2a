import FlagBinding.Proofs.Durations.Components

/-!
# The texts of durations

A text of a duration is a zero or components, behind a sign or none. These are the texts that the
reader takes: a component that it finds at the start of a text is the only one that stands there, so
what it has taken apart puts the text together again.

## Main definitions

* `Sign`: the ways to begin a duration, with what each allows and makes of a number.
* `Denotes`: the texts of a duration.

## Main statements

* `exists_spells_of_readComponent?`, `exists_spellsAll_of_sumFrom`: what is read spells the text.
* `parseChars_of_denotes`, `parseChars_eq_ok_iff`: the texts that are read, and as which number.
-/

namespace FlagBinding.Time

open Number

theorem TimeUnit.exists_spelling_of_read? {cs rest : List Char} {u : TimeUnit}
    (read : read? cs = some (u, rest)) : ∃ unit ∈ u.spellings, cs = unit ++ rest := by
  unfold read? at read
  split at read <;> cases read <;> simp [spellings]

namespace Duration

variable {c : Component} {cs : List Component} {text rest : List Char}

/-! ## What is read spells the text -/

/-- The digits behind a point are read with the point. -/
theorem readFraction_cases (text : List Char) :
    (∃ rest, text = '.' :: rest ∧
      readFraction text = (rest.takeWhile isDigit, rest.dropWhile isDigit)) ∨
    readFraction text = ([], text) := by
  unfold readFraction
  split
  case h_1 rest => exact .inl ⟨rest, rfl, rfl⟩
  case h_2 => exact .inr rfl

/-- A component that is read from the start of a text stands there. -/
theorem exists_spells_of_readComponent? (read : readComponent? text = some (c, rest)) :
    ∃ front, Spells c front ∧ text = front ++ rest := by
  simp only [readComponent?, Option.map_eq_some_iff, Prod.mk.injEq, Prod.exists] at read
  obtain ⟨u, left, unit, rfl, rfl⟩ := read
  obtain ⟨unit, spelled, behind⟩ := TimeUnit.exists_spelling_of_read? unit
  have whole : text.takeWhile isDigit ++ text.dropWhile isDigit = text :=
    List.takeWhile_append_dropWhile
  have digits (cs : List Char) : ∀ d ∈ cs.takeWhile isDigit, isDigit d :=
    List.all_eq_true.1 List.all_takeWhile
  rcases readFraction_cases (text.dropWhile isDigit) with ⟨more, pointed, fraction⟩ | plain
  · have tail : more.takeWhile isDigit ++ more.dropWhile isDigit = more :=
      List.takeWhile_append_dropWhile
    rw [fraction] at behind ⊢
    refine ⟨_, .pointed (digits text) (digits more) spelled, ?_⟩
    rw [List.append_assoc, List.cons_append, List.append_assoc, ← behind, tail, ← pointed, whole]
  · rw [plain] at behind ⊢
    exact ⟨_, .plain (digits text) spelled, by rw [List.append_assoc, ← behind, whole]⟩

/-- A text that has a sum is a text of components. -/
theorem exists_spellsAll_of_sumFrom {limit total n : Nat}
    (sums : sumFrom limit total text = .ok n) : ∃ cs, SpellsAll cs text := by
  fun_induction sumFrom limit total text with
  | case1 total text empty => exact ⟨[], List.isEmpty_iff.1 empty ▸ .nil⟩
  | case6 total text some c rest read number narrow fits shorter ih =>
    obtain ⟨front, spells, rfl⟩ := exists_spells_of_readComponent? read
    obtain ⟨cs, spellsAll⟩ := ih sums
    have filled : c.whole ≠ [] ∨ c.fraction ≠ [] := by
      by_cases empty : c.whole = []
      · exact .inr (by simpa [empty] using number)
      · exact .inl empty
    exact ⟨c :: cs, .cons spells filled spellsAll⟩
  | _ => cases sums

theorem exists_spellsAll_of_magnitude {limit n : Nat} (read : magnitude limit text = .ok n) :
    text = ['0'] ∨ ∃ cs, cs ≠ [] ∧ SpellsAll cs text := by
  unfold magnitude at read
  split at read
  case isTrue zero => exact .inl zero
  case isFalse =>
    split at read
    case isTrue => cases read
    case isFalse filled =>
      obtain ⟨cs, spells⟩ := exists_spellsAll_of_sumFrom read
      refine .inr ⟨cs, ?_, spells⟩
      rintro rfl
      cases spells
      exact filled rfl

/-- What is read is at most the limit. -/
theorem le_of_magnitude {limit n : Nat} (read : magnitude limit text = .ok n) : n ≤ limit := by
  rcases exists_spellsAll_of_magnitude read with rfl | ⟨cs, some, spells⟩
  · obtain rfl : 0 = n := Except.ok.inj read
    exact Nat.zero_le limit
  · rw [magnitude_of_spellsAll spells some] at read
    split at read
    case isTrue fits => exact Except.ok.inj read ▸ fits.2
    case isFalse => cases read

/-! ## Signed texts -/

/-- The ways to begin a duration. -/
inductive Sign
  | none
  | plus
  | minus

namespace Sign

/-- What is written of a sign. -/
def mark : Sign → List Char
  | none => []
  | plus => ['+']
  | minus => ['-']

def limit : Sign → Nat
  | minus => 2 ^ 63
  | _ => 2 ^ 63 - 1

def apply (sign : Sign) (n : Nat) : Int :=
  match sign with
  | minus => -n
  | _ => n

end Sign

/-- A duration and a text of it: a zero by itself, which has no components, or components. -/
inductive Denotes : Sign → List Component → List Char → Prop
  | zero (sign : Sign) : Denotes sign [] (sign.mark ++ ['0'])
  | sum (sign : Sign) {cs : List Component} {text : List Char} (some : cs ≠ [])
      (spells : SpellsAll cs text) : Denotes sign cs (sign.mark ++ text)

/-- A text begins with one of the signs. -/
theorem exists_sign (text : List Char) :
    ∃ (sign : Sign) (rest : List Char), text = sign.mark ++ rest ∧
    (sign = .none → rest.head? ≠ some '-' ∧ rest.head? ≠ some '+') := by
  by_cases minus : text.head? = some '-'
  · obtain ⟨rest, rfl⟩ := List.head?_eq_some_iff.1 minus
    exact ⟨.minus, rest, rfl, nofun⟩
  by_cases plus : text.head? = some '+'
  · obtain ⟨rest, rfl⟩ := List.head?_eq_some_iff.1 plus
    exact ⟨.plus, rest, rfl, nofun⟩
  · exact ⟨.none, text, rfl, fun _ => ⟨minus, plus⟩⟩

/-- Behind its sign a text is read as a number that has room there. -/
theorem parseChars_sign (sign : Sign)
    (unsigned : sign = .none → text.head? ≠ some '-' ∧ text.head? ≠ some '+') :
    parseChars (sign.mark ++ text) = sign.apply <$> magnitude sign.limit text := by
  cases sign with
  | none =>
    obtain ⟨noMinus, noPlus⟩ := unsigned rfl
    exact parseChars_unsigned noMinus noPlus
  | plus => rfl
  | minus =>
    show (fun n => -(n : Int)) <$> magnitude (2 ^ 63) text = _
    rw [Sign.limit]
    cases magnitude (2 ^ 63) text <;> rfl

/-- A text of a duration is read as the signed sum of its components, if they are not too long and
there is room for it. -/
theorem parseChars_of_denotes {sign : Sign} (denotes : Denotes sign cs text) :
    parseChars text =
      if Narrow cs ∧ sum cs ≤ sign.limit then .ok (sign.apply (sum cs))
        else .error .outOfRange := by
  cases denotes with
  | zero =>
    rw [parseChars_sign sign (fun _ => by decide), magnitude, if_pos rfl,
      if_pos ⟨narrow_nil, Nat.zero_le _⟩]
    rfl
  | sum some spells =>
    have unsigned := And.intro (spells.head?_ne (d := '-') (by decide) (by decide))
      (spells.head?_ne (d := '+') (by decide) (by decide))
    rw [parseChars_sign sign (fun _ => unsigned), magnitude_of_spellsAll spells some]
    split <;> rfl

/-- A text that is read is a text of a duration. -/
theorem exists_denotes_of_parseChars {n : Int} (read : parseChars text = .ok n) :
    ∃ sign cs, Denotes sign cs text := by
  obtain ⟨sign, rest, rfl, unsigned⟩ := exists_sign text
  rw [parseChars_sign sign unsigned] at read
  cases found : magnitude sign.limit rest with
  | error fault =>
    rw [found] at read
    cases read
  | ok m =>
    rcases exists_spellsAll_of_magnitude found with rfl | ⟨cs, some, spells⟩
    · exact ⟨sign, [], .zero sign⟩
    · exact ⟨sign, cs, .sum sign some spells⟩

/-- The sum passes the limit on the way only if it passes it at the end. -/
theorem forall_sum_le_iff {limit : Nat} :
    (∀ part, part <+: cs → sum part ≤ limit) ↔ sum cs ≤ limit := by
  constructor
  · exact fun all => all cs List.prefix_rfl
  · rintro fits part ⟨others, rfl⟩
    rw [sum_append] at fits
    exact Nat.le_of_add_right_le fits

/-- The texts that are read, and as which numbers. -/
theorem parseChars_eq_ok_iff {n : Int} : parseChars text = .ok n ↔
    ∃ sign cs, Denotes sign cs text ∧ Narrow cs ∧ (∀ part, part <+: cs → sum part ≤ sign.limit) ∧
      n = sign.apply (sum cs) := by
  constructor
  · intro read
    obtain ⟨sign, cs, denotes⟩ := exists_denotes_of_parseChars read
    rw [parseChars_of_denotes denotes] at read
    split at read
    case isTrue fits =>
      exact ⟨sign, cs, denotes, fits.1, forall_sum_le_iff.2 fits.2, (Except.ok.inj read).symm⟩
    case isFalse => cases read
  · rintro ⟨sign, cs, denotes, narrow, within, rfl⟩
    rw [parseChars_of_denotes denotes, if_pos ⟨narrow, forall_sum_le_iff.1 within⟩]

/-- A number that is read has 64 bits with a sign. -/
theorem range_of_parseChars {n : Int} (read : parseChars text = .ok n) :
    -2 ^ 63 ≤ n ∧ n ≤ 2 ^ 63 - 1 := by
  obtain ⟨sign, cs, -, -, within, rfl⟩ := parseChars_eq_ok_iff.1 read
  have fits := within cs List.prefix_rfl
  cases sign <;> simp only [Sign.limit, Sign.apply] at fits ⊢ <;> omega

end Duration

end FlagBinding.Time
