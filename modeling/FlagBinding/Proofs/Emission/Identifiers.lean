import FlagBinding.Proofs.Naming.Words
import FlagBinding.Target.Legal
import Mathlib.Data.List.Forall2

/-!
# Names in emitted code

The fields and types of emitted code are called by the names of the schema in another case, and
keywords among them are marked or changed. A name without its underscores may start with a digit,
though, or be nothing at all, and neither is a name that code can have.

## Main definitions

* `languageKeywords`, `IsLegalName`: the keywords of emitted code, and the names that things can
  have there.
* `Names`: what comes of the name of a field or of a message.

## Main statements

* `isLegalName_escapeName`: words become legal names.
* `segments_join`: the segments of a path.
* `names_fieldName_typePath`: which names of a schema become legal ones.
-/

namespace FlagBinding.Target

open Text Schema

/-- The keywords of emitted code: those that are in use, and those that are set aside. -/
def languageKeywords : List String :=
  ["as", "break", "const", "continue", "crate", "else", "enum", "extern", "false", "fn", "for",
    "if", "impl", "in", "let", "loop", "match", "mod", "move", "mut", "pub", "ref", "return",
    "self", "Self", "static", "struct", "super", "trait", "true", "type", "unsafe", "use", "where",
    "while", "async", "await", "dyn"] ++
  ["abstract", "become", "box", "do", "final", "macro", "override", "priv",
    "typeof", "unsized", "virtual", "yield", "try", "gen"]

/-- Keywords that are no names even if they are marked as raw. -/
def rootKeywords : List String := ["crate", "self", "super", "Self"]

/-- A legal name: a word that is no keyword, or one that is marked as raw and can be. -/
inductive IsLegalName : String → Prop
  | word {name : String} (shape : isWord name.toList) (free : name ∉ languageKeywords) :
      IsLegalName name
  | raw {name : String} (shape : isWord name.toList) (allowed : name ∉ rootKeywords) :
    IsLegalName ("r#" ++ name)

/-- A name that starts with a letter, apart from underscores in front. -/
def StartsWithLetter (name : String) : Prop :=
  ∃ c, firstLetter? name = some c ∧ c.isAlpha

/-- What is no name: nothing at all, or a text that starts with a digit. -/
def IsBroken (part : String) : Prop :=
  part = "" ∨ ∃ c, part.toList.head? = some c ∧ c.isDigit

/-- What comes of a name: a legal name if it starts with a letter, and a broken one otherwise. -/
structure Names (name part : String) : Prop where
  legal : StartsWithLetter name → IsLegalName part
  broken : ¬ StartsWithLetter name → IsBroken part ∧ ¬ IsLegalName part

/-! ## Letters and digits -/

theorem isAlpha_toLower {c : Char} (h : c.isAlpha) : c.toLower.isAlpha :=
  forall_ascii (P := fun c => c.isAlpha → c.toLower.isAlpha) (by decide)
    (toNat_lt_of_isAlphanum (by simp [Char.isAlphanum, h])) h

theorem isAlpha_toUpper {c : Char} (h : c.isAlpha) : c.toUpper.isAlpha :=
  forall_ascii (P := fun c => c.isAlpha → c.toUpper.isAlpha) (by decide)
    (toNat_lt_of_isAlphanum (by simp [Char.isAlphanum, h])) h

theorem isDigit_toLower {c : Char} (h : c.isDigit) : c.toLower.isDigit :=
  forall_ascii (P := fun c => c.isDigit → c.toLower.isDigit) (by decide)
    (toNat_lt_of_isAlphanum (by simp [Char.isAlphanum, h])) h

theorem isDigit_toUpper {c : Char} (h : c.isDigit) : c.toUpper.isDigit :=
  forall_ascii (P := fun c => c.isDigit → c.toUpper.isDigit) (by decide)
    (toNat_lt_of_isAlphanum (by simp [Char.isAlphanum, h])) h

theorem not_isDigit_of_isAlpha {c : Char} (h : c.isAlpha) : ¬ c.isDigit :=
  forall_ascii (P := fun c => c.isAlpha → ¬ c.isDigit) (by decide)
    (toNat_lt_of_isAlphanum (by simp [Char.isAlphanum, h])) h

/-! ## Keywords -/

/-- A text of letters, digits and underscores that starts with a letter is a word. -/
theorem isWord_of_letter {text : List Char} {c : Char} (head : text.head? = some c)
    (letter : c.isAlpha) (characters : ∀ d ∈ text, d.isAlphanum ∨ d = '_') : isWord text := by
  obtain ⟨rest, rfl⟩ : ∃ rest, text = c :: rest := List.head?_eq_some_iff.1 head
  rw [List.forall_mem_cons] at characters
  have first : startsName c := by
    have ascii : c.toNat < 128 := toNat_lt_of_isAlphanum (by simp [Char.isAlphanum, letter])
    simp [startsName, ascii, letter]
  have behind : rest.all continuesName := by
    rw [List.all_eq_true]
    intro d mem
    rcases characters.2 d mem with alphanum | rfl
    · simp [continuesName, toNat_lt_of_isAlphanum alphanum, alphanum]
    · decide
  have other : c :: rest ≠ ['_'] := by
    intro same
    obtain ⟨rfl, -⟩ := List.cons.inj same
    exact absurd letter (by decide)
  simp [isWord, first, behind, other]

/-- A word becomes a legal name. -/
theorem isLegalName_escapeName {name : String} (shape : isWord name.toList) :
    IsLegalName (escapeName name) := by
  unfold escapeName
  split
  case isTrue strict =>
    have each : ∀ word ∈ strictKeywords, isWord (word ++ "_").toList ∧
        word ++ "_" ∉ languageKeywords := by
      decide
    obtain ⟨shape, free⟩ := each name (by simpa using strict)
    exact .word shape free
  case isFalse notStrict =>
    have weak : name ∉ strictKeywords := by simpa using notStrict
    split
    case isTrue =>
      have roots : ∀ word ∈ rootKeywords, word ∈ strictKeywords := by decide
      exact .raw shape fun root => weak (roots name root)
    case isFalse notKeyword =>
      have all : ∀ word ∈ languageKeywords, word ∈ strictKeywords ∨ word ∈ keywords := by decide
      refine .word shape fun keyword => ?_
      rcases all name keyword with strict | other
      · exact weak strict
      · exact notKeyword (by simpa using other)

/-- What is broken is no keyword, so neither of the two rules for keywords is about it. -/
theorem IsBroken.escapeName_eq {name : String} (h : IsBroken name) : escapeName name = name := by
  have letters : ∀ word ∈ strictKeywords ++ keywords, word.toList.head?.any Char.isAlpha := by
    decide
  have free : name ∉ strictKeywords ++ keywords := by
    intro mem
    have first := letters name mem
    rcases h with rfl | ⟨c, head, digit⟩
    · simp at first
    · rw [head, Option.any_some] at first
      exact not_isDigit_of_isAlpha first digit
  rw [List.mem_append, not_or] at free
  simp [escapeName, free.1, free.2]

/-- Neither a word nor the mark of a raw name starts with a digit. -/
theorem IsBroken.not_isLegalName {part : String} (h : IsBroken part) : ¬ IsLegalName part := by
  rintro (⟨shape, -⟩ | ⟨-, -⟩)
  · rcases h with rfl | ⟨c, head, digit⟩
    · simp [isWord] at shape
    · obtain ⟨rest, chars⟩ := List.head?_eq_some_iff.1 head
      have : startsName c = false :=
        forall_ascii (P := fun c => c.isDigit → startsName c = false) (by decide)
          (toNat_lt_of_isAlphanum (by simp [Char.isAlphanum, digit])) digit
      simp [chars, isWord, this] at shape
  · rcases h with empty | ⟨c, head, digit⟩
    · simpa using congrArg String.toList empty
    · rw [String.toList_append] at head
      obtain rfl := Option.some.inj head
      exact absurd digit (by decide)

/-! ## Fields -/

variable {name : String}

/-- What comes of a name whose first letter or digit a case has replaced, keeping letters and digits
apart. -/
theorem names_escapeName (named : IsName name) {text : String} {f : Char → Char}
    (head : text.toList.head? = (firstLetter? name).map f)
    (characters : ∀ c ∈ text.toList, c.isAlphanum ∨ c = '_')
    (letters : ∀ c, c.isAlpha → (f c).isAlpha) (digits : ∀ c, c.isDigit → (f c).isDigit) :
    Names name (escapeName text) where
  legal := by
    rintro ⟨c, first, letter⟩
    rw [first, Option.map_some] at head
    exact isLegalName_escapeName (isWord_of_letter head (letters c letter) characters)
  broken := by
    intro other
    have broken : IsBroken text := by
      cases first : firstLetter? name with
      | none =>
        rw [first, Option.map_none, List.head?_eq_none_iff] at head
        exact .inl (String.toList_eq_nil_iff.1 head)
      | some c =>
        rw [first, Option.map_some] at head
        have alphanum : c.isAlphanum :=
          (named.characters c (List.mem_of_find?_eq_some first)).resolve_right
            (by simpa using List.find?_some first)
        have digit : c.isDigit := by
          rw [Char.isAlphanum, Bool.or_eq_true] at alphanum
          exact alphanum.resolve_left fun letter => other ⟨c, first, letter⟩
        exact .inr ⟨f c, head, digits c digit⟩
    rw [broken.escapeName_eq]
    exact ⟨broken, broken.not_isLegalName⟩

theorem names_snakeCase (named : IsName name) : Names name (escapeName (snakeCase name)) :=
  names_escapeName named named.head?_snakeCase named.characters_snakeCase
    (fun _ => isAlpha_toLower) fun _ => isDigit_toLower

theorem names_upperCamelCase (named : IsName name) :
    Names name (escapeName (upperCamelCase name)) :=
  names_escapeName named named.head?_upperCamelCase
    (fun c mem => .inl (named.characters_upperCamelCase c mem))
    (fun _ => isAlpha_toUpper) fun _ => isDigit_toUpper

/-! ## Types -/

/-- Each name on the way to a type comes of its name in the schema. -/
theorem names_typeNames {path : List String} (named : ∀ name ∈ path, IsName name) :
    List.Forall₂ Names path (typeNames path) := by
  fun_induction typeNames path with
  | case1 => exact .nil
  | case2 name => exact .cons (names_upperCamelCase (named name (by simp))) .nil
  | case3 parent rest inner ih =>
    rw [List.forall_mem_cons] at named
    exact .cons (names_snakeCase named.1) (ih named.2)

/-- Names are marked and changed without colons. -/
theorem colon_notMem_escapeName {text : String}
    (characters : ∀ c ∈ text.toList, c.isAlphanum ∨ c = '_') : ':' ∉ (escapeName text).toList := by
  have free : ':' ∉ text.toList := fun mem => absurd (characters ':' mem) (by decide)
  unfold escapeName
  split <;> [skip; split] <;> simp [free, rawMark]

/-- The names on the way to a type are names in another case, escaped. -/
theorem forall_mem_typeNames {P : String → Prop} {path : List String}
    (named : ∀ name ∈ path, IsName name)
    (escaped : ∀ text : String, (∀ c ∈ text.toList, c.isAlphanum ∨ c = '_') → P (escapeName text)) :
    ∀ part ∈ typeNames path, P part := by
  fun_induction typeNames path with
  | case1 => simp
  | case2 name =>
    have letters := (named name (by simp)).characters_upperCamelCase
    exact List.forall_mem_singleton.2 (escaped _ fun c mem => .inl (letters c mem))
  | case3 parent rest inner ih =>
    rw [List.forall_mem_cons] at named ⊢
    exact ⟨escaped _ named.1.characters_snakeCase, ih named.2⟩

theorem segments_cons {c : Char} {rest piece : List Char} {more : List (List Char)}
    (other : c ≠ ':') (cut : segments rest = piece :: more)
    : segments (c :: rest) = (c :: piece) :: more := by
  rw [segments, cut]
  simp [other]

/-- A part without colons in front of a double colon is a segment. -/
theorem segments_append {part : List Char} (free : ':' ∉ part) (rest : List Char) :
    segments (part ++ ':' :: ':' :: rest) = part :: segments rest := by
  induction part with
  | nil => rfl
  | cons c part ih =>
    rw [List.mem_cons, not_or] at free
    exact segments_cons (Ne.symm free.1) (ih free.2)

theorem segments_of_notMem {part : List Char} (free : ':' ∉ part) : segments part = [part] := by
  induction part with
  | nil => rfl
  | cons c part ih =>
    rw [List.mem_cons, not_or] at free
    exact segments_cons (Ne.symm free.1) (ih free.2)

/-- The segments of names with double colons between them are the names. -/
theorem segments_join {parts : List String} (some : parts ≠ [])
    (free : ∀ part ∈ parts, ':' ∉ part.toList) :
    segments (join "::" parts).toList = parts.map String.toList := by
  induction parts with
  | nil => exact absurd rfl some
  | cons part parts ih =>
    rw [List.forall_mem_cons] at free
    cases parts with
    | nil => simpa [join] using segments_of_notMem free.1
    | cons next parts =>
      have : (join "::" (part :: next :: parts)).toList =
          part.toList ++ ':' :: ':' :: (join "::" (next :: parts)).toList := by
        simp [join, String.intercalate_cons_cons]
      rw [this, segments_append free.1, ih (by simp) free.2, List.map_cons (l := next :: parts)]

/-- What the fields and types of emitted code are called by: legal names come of those names of a
schema that start with a letter, and broken ones of all others. -/
theorem names_fieldName_typePath {name : String} {path : List String} (named : IsName name)
    (some : path ≠ []) (parts : ∀ part ∈ path, IsName part) :
    Names name (fieldName name) ∧
      List.Forall₂ Names path ((segments (typePath path).toList).map String.ofList) := by
  have inner : typeNames path ≠ [] := by
    cases path with
    | nil => exact absurd rfl some
    | cons parent rest => cases rest <;> simp [typeNames]
  have free : ∀ part ∈ typeNames path, ':' ∉ part.toList :=
    forall_mem_typeNames parts fun _ => colon_notMem_escapeName
  refine ⟨names_snakeCase named, ?_⟩
  rw [typePath, segments_join inner free, List.map_map]
  simpa using names_typeNames parts

theorem names_fieldName_typePath_self :
    IsName "__self" ∧ (∀ part ∈ ["if_", "_2"], IsName part) ∧
      Names "__self" (fieldName "__self") ∧
        List.Forall₂ Names ["if_", "_2"]
          ((segments (typePath ["if_", "_2"]).toList).map String.ofList) := by
  have self : IsName "__self" := by decide
  have parts : ∀ part ∈ ["if_", "_2"], IsName part :=
    List.forall_mem_cons.2 ⟨by decide, List.forall_mem_singleton.2 (by decide)⟩
  exact ⟨self, parts, names_fieldName_typePath self (by decide) parts⟩

/-- An underscore in front of a digit is dropped by either case, and what is left is no name. -/
theorem not_isLegalName_fieldName :
    ¬ ((∀ name, IsName name → IsLegalName (fieldName name)) ∧
      ∀ path, path ≠ [] → (∀ name ∈ path, IsName name) →
        ∀ part ∈ segments (typePath path).toList, IsLegalName (String.ofList part)) := by
  rintro ⟨fields, -⟩
  have named : IsName "_1" := by decide
  have broken : IsBroken (fieldName "_1") := .inr ⟨'1', rfl, rfl⟩
  exact broken.not_isLegalName (fields "_1" named)

end FlagBinding.Target
