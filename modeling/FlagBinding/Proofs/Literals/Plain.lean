import FlagBinding.Proofs.Emission.Identifiers
import FlagBinding.Proofs.Emission.Numerals
import FlagBinding.Proofs.Literals.Code
import FlagBinding.Target.Literal

/-!
# Plain names and numbers

The names of a schema have letters, digits and underscores in them, and so do the names in emitted
code, apart from the mark of a raw name. Names and numbers neither start a literal nor a comment,
and they end no line.

## Main statements

* `isPlain_fieldName`, `isPlain_typePath`: the names of fields and types.
* `isPlain_bareLiteral`: the literals of defaults.
* `isLine_of_isName`: names in comments.
-/

namespace FlagBinding.Target

open Text Schema

variable {name : String}

/-! ## Names -/

theorem isPlainChar_of_isAlphanum {c : Char} (h : c.isAlphanum) : isPlainChar c := by
  have each : ['"', '\'', '/'].all (!·.isAlphanum) := by decide
  by_contra other
  have mem : c ∈ ['"', '\'', '/'] := by grind [isPlainChar]
  simpa [h] using List.all_eq_true.1 each c mem

/-- Joined texts have the characters of the texts and of what stands between them. -/
theorem forall_mem_join {P : Char → Prop} {sep : String} {texts : List String}
    (between : ∀ c ∈ sep.toList, P c) (each : ∀ t ∈ texts, ∀ c ∈ t.toList, P c)
    : ∀ c ∈ (join sep texts).toList, P c := by
  induction texts with
  | nil => simp [join]
  | cons t texts ih =>
    rw [List.forall_mem_cons] at each
    cases texts with
    | nil => simpa [join] using each.1
    | cons next texts =>
      rw [join, String.intercalate_cons_cons, String.toList_append, String.toList_append,
        List.forall_mem_append, List.forall_mem_append]
      exact ⟨⟨each.1, between⟩, ih each.2⟩

theorem isPlain_join {sep : String} {texts : List String} (plainSep : IsPlain sep)
    (plain : ∀ t ∈ texts, IsPlain t) : IsPlain (join sep texts) :=
  forall_mem_join plainSep plain

theorem isPlain_of_characters {text : String}
    (characters : ∀ c ∈ text.toList, c.isAlphanum ∨ c = '_') : IsPlain text := by
  intro c mem
  rcases characters c mem with alphanum | rfl
  · exact isPlainChar_of_isAlphanum alphanum
  · decide

theorem isPlain_escapeName {text : String}
    (characters : ∀ c ∈ text.toList, c.isAlphanum ∨ c = '_') : IsPlain (escapeName text) := by
  have plain := isPlain_of_characters characters
  unfold escapeName
  split
  · exact plain.append (by decide)
  · split
    · exact IsPlain.append (by decide) plain
    · exact plain

theorem isPlain_fieldName (named : IsName name) : IsPlain (fieldName name) :=
  isPlain_escapeName named.characters_snakeCase

theorem isPlain_typePath {path : List String} (named : ∀ name ∈ path, IsName name) :
    IsPlain (typePath path) :=
  isPlain_join (by decide) (forall_mem_typeNames named fun _ => isPlain_escapeName)

/-- Names end no line. -/
theorem isLine_of_isName (named : IsName name) : IsLine name := by
  intro c mem
  rcases named.characters c mem with alphanum | rfl
  · refine ⟨?_, ?_⟩ <;> rintro rfl <;> exact absurd alphanum (by decide)
  · decide

theorem isLine_join {sep : String} {texts : List String} (line : IsLine sep)
    (lines : ∀ t ∈ texts, IsLine t) : IsLine (join sep texts) :=
  forall_mem_join line lines

/-! ## Numbers -/

theorem isPlain_decimalNat (n : Nat) : IsPlain (Number.decimalNat n) := by
  intro c mem
  rw [Number.decimalNat, String.toList_ofList] at mem
  have digit : c.isDigit := Nat.isDigit_of_mem_toDigits (by decide) (by decide) mem
  exact isPlainChar_of_isAlphanum (by simp [Char.isAlphanum, digit])

theorem isPlain_decimal (n : Int) : IsPlain (Number.decimal n) := by
  cases n with
  | ofNat n => exact isPlain_decimalNat n
  | negSucc n =>
    have minus : String.ofList ('-' :: Number.digits (n + 1)) = "-" ++
        Number.decimalNat (n + 1) := by
      simp [Number.decimalNat]
    rw [Number.decimal, minus]
    exact IsPlain.append (by decide) (isPlain_decimalNat _)

theorem isPlain_of_isNumeral {text : String} (form : Number.IsNumeral text) : IsPlain text := by
  have digits {l : List Char} (h : ∀ c ∈ l, c.isDigit) : ∀ c ∈ l, isPlainChar c := fun c mem =>
    isPlainChar_of_isAlphanum (by simp [Char.isAlphanum, h c mem])
  obtain ⟨cs, ⟨whole, fraction, exponent, whole_, fraction_, exponent_, rfl⟩, sign⟩ := form
  have behind : ∀ c ∈ fraction, isPlainChar c := by
    rcases fraction_ with rfl | ⟨ds, ds_, rfl⟩
    · simp
    · exact List.forall_mem_cons.2 ⟨rfl, digits ds_.2⟩
  have last : ∀ c ∈ exponent, isPlainChar c := by
    rcases exponent_ with rfl | ⟨n, rfl⟩
    · simp
    · exact List.forall_mem_cons.2 ⟨rfl, isPlain_decimal n⟩
  have magnitude : ∀ c ∈ whole ++ fraction ++ exponent, isPlainChar c := by
    simp only [List.forall_mem_append]
    exact ⟨⟨digits whole_.2, behind⟩, last⟩
  rcases sign with chars | chars
  · rwa [← chars] at magnitude
  · have signed : ∀ c ∈ '-' :: (whole ++ fraction ++ exponent), isPlainChar c :=
      List.forall_mem_cons.2 ⟨rfl, magnitude⟩
    rwa [← chars] at signed

theorem isPlain_typeName (carrier : Carrier) : IsPlain carrier.typeName := by
  cases carrier <;> decide

theorem isPlain_floatLiteral {typeName : String} (plain : IsPlain typeName)
    {format : Number.FloatFormat} (x : Number.Floating format)
    : IsPlain (floatLiteral typeName x) := by
  cases x with
  | nan => exact (IsPlain.append (by decide) plain).append (by decide)
  | infinite negative =>
    have sign : IsPlain (if negative then "-" else "") := by cases negative <;> decide
    exact ((sign.append (by decide)).append plain).append (by decide)
  | finite negative m q =>
    exact (isPlain_of_isNumeral (Number.FloatStyle.isNumeral_render rfl negative m q)).append plain

/-- The literal of a default is a number or a truth value. -/
theorem isPlain_bareLiteral (value : DefaultValue) : IsPlain (bareLiteral value) := by
  have suffix := isPlain_typeName value.carrier
  cases value with
  | single x => exact isPlain_floatLiteral suffix x
  | double x => exact isPlain_floatLiteral suffix x
  | int32 n => exact (isPlain_decimal _).append suffix
  | int64 n => exact (isPlain_decimal _).append suffix
  | uint32 n => exact (isPlain_decimalNat _).append suffix
  | uint64 n => exact (isPlain_decimalNat _).append suffix
  | bool b => cases b <;> decide

end FlagBinding.Target
