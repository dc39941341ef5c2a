import FlagBinding.Proofs.Naming.Defaults

/-!
# The words of a name

A name is cut into words, which hold its letters and digits and nothing else, and the words are put
together again. So a name in another case starts with the first letter or digit of the name.

## Main definitions

* `Schema.IsName`: the names that things have in a schema.

## Main statements

* `Text.flatten_words`, `Text.ne_nil_of_mem_words`: the words of a name.
* `Schema.IsName.head?_snakeCase`, `Schema.IsName.head?_upperCamelCase`: a name in another case.
-/

namespace FlagBinding

namespace Text

/-! ## Words -/

/-- The runs of letters and digits hold all of them. -/
theorem flatten_wordRunsOf (l : List Char) : (wordRunsOf l).flatten = l.filter isWordChar := by
  induction l with
  | nil => rfl
  | cons c rest ih =>
    rw [wordRunsOf]
    split
    case isTrue word =>
      rw [List.filter_cons_of_pos word, ← ih]
      cases wordRunsOf rest <;> simp
    case isFalse other =>
      rw [List.filter_cons_of_neg other, ← ih, List.flatten_cons, List.nil_append]

/-- The words of a run hold all of it. -/
theorem flatten_wordsFrom (mode : WordMode) (word l : List Char) :
    (wordsFrom mode word l).flatten = word.reverse ++ l := by
  fun_induction wordsFrom mode word l <;> grind

/-- A run is not cut where a word has not begun. -/
theorem ne_nil_of_mem_wordsFrom {mode : WordMode} {word l : List Char}
    (begun : mode = .upper → word ≠ []) : ∀ w ∈ wordsFrom mode word l, w ≠ [] := by
  fun_induction wordsFrom mode word l <;> grind [List.reverse_eq_nil_iff]

/-- The words of a name hold its letters and digits. -/
theorem flatten_words (s : String) : (words s).flatten = s.toList.filter isWordChar := by
  have runs (l : List (List Char)) : (l.flatMap (wordsFrom .boundary [])).flatten = l.flatten := by
    induction l with
    | nil => rfl
    | cons run l ih =>
      rw [List.flatMap_cons, List.flatten_append, ih, flatten_wordsFrom, List.flatten_cons,
        List.reverse_nil, List.nil_append]
  rw [words, runs, flatten_wordRunsOf]

theorem ne_nil_of_mem_words {s : String} : ∀ w ∈ words s, w ≠ [] := by
  intro w mem
  obtain ⟨run, -, mem⟩ := List.mem_flatMap.1 mem
  exact ne_nil_of_mem_wordsFrom (by simp) w mem

/-- What stands between words is no more than the separator. -/
theorem mem_of_mem_intersperse {α : Type} {sep x : α} {l : List α} (mem : x ∈ l.intersperse sep) :
    x = sep ∨ x ∈ l := by
  induction l with
  | nil => simp at mem
  | cons a l ih =>
    cases l with
    | nil => exact .inr (by simpa using mem)
    | cons b l => grind [List.intersperse_cons_cons]

/-! ## Case -/

/-- Among the first 128 characters, the letters and digits are those that make up words. -/
theorem isWordChar_of_ascii {c : Char} (ascii : c.toNat < 128) : isWordChar c = c.isAlphanum := by
  rw [isWordChar, if_pos ascii]

theorem lowerChar_of_ascii {c : Char} (ascii : c.toNat < 128) : lowerChar c = [c.toLower] := by
  rw [lowerChar, if_pos ascii]

theorem upperChar_of_ascii {c : Char} (ascii : c.toNat < 128) : upperChar c = [c.toUpper] := by
  rw [upperChar, if_pos ascii]

theorem lowerWord_of_ascii {word : List Char} (ascii : ∀ c ∈ word, c.toNat < 128) :
    lowerWord word = word.map Char.toLower := by
  fun_induction lowerWord word with
  | case1 => rfl
  | case2 => exact absurd (ascii 'Σ' (by simp)) (by decide)
  | case3 c rest other ih =>
    rw [List.forall_mem_cons] at ascii
    rw [ih ascii.2, lowerChar_of_ascii ascii.1]
    rfl

theorem capitalizeWord_of_ascii {c : Char} {rest : List Char}
    (ascii : ∀ d ∈ c :: rest, d.toNat < 128) :
    capitalizeWord (c :: rest) = c.toUpper :: rest.map Char.toLower := by
  rw [List.forall_mem_cons] at ascii
  rw [capitalizeWord, upperChar_of_ascii ascii.1, lowerWord_of_ascii ascii.2]
  rfl

end Text

namespace Schema

open Text

/-- A name as a schema has them: a letter or an underscore, and then letters, digits and
underscores. -/
def IsName (name : String) : Prop :=
  ∃ c rest, name.toList = c :: rest ∧ (c.isAlpha ∨ c = '_') ∧ ∀ d ∈ rest, d.isAlphanum ∨ d = '_'

instance (name : String) : Decidable (IsName name) :=
  match h : name.toList with
  | [] => isFalse (by simp [IsName, h])
  | c :: rest =>
    have : Decidable (∀ d ∈ rest, d.isAlphanum ∨ d = '_') := List.decidableBAll _ _
    decidable_of_iff ((c.isAlpha ∨ c = '_') ∧ ∀ d ∈ rest, d.isAlphanum ∨ d = '_') (by
      constructor
      · exact fun valid => ⟨c, rest, h, valid⟩
      · rintro ⟨c', rest', same, valid⟩
        obtain ⟨rfl, rfl⟩ := List.cons.inj (h.symm.trans same)
        exact valid)

/-- The first character of a name that is no underscore. -/
def firstLetter? (name : String) : Option Char :=
  name.toList.find? (· ≠ '_')

variable {name : String}

theorem IsName.characters (named : IsName name) : ∀ c ∈ name.toList, c.isAlphanum ∨ c = '_' := by
  obtain ⟨c, rest, chars, first, others⟩ := named
  rw [chars, List.forall_mem_cons]
  refine ⟨first.imp_left fun letter => ?_, others⟩
  simp [Char.isAlphanum, letter]

theorem IsName.ascii (named : IsName name) : ∀ c ∈ name.toList, c.toNat < 128 := by
  intro c mem
  rcases named.characters c mem with h | rfl
  · exact toNat_lt_of_isAlphanum h
  · decide

/-- The letters and digits of a name are all of it but the underscores. -/
theorem IsName.filter_isWordChar (named : IsName name) :
    name.toList.filter isWordChar = name.toList.filter (· ≠ '_') := by
  apply List.filter_congr
  intro c mem
  rw [isWordChar_of_ascii (named.ascii c mem)]
  rcases named.characters c mem with h | rfl
  · have other : c ≠ '_' := fun same => absurd (same ▸ h) (by decide)
    simp [h, other]
  · rfl

/-- A character of a word of a name. -/
theorem IsName.isAlphanum_of_mem_words (named : IsName name) {w : List Char}
    (mem : w ∈ words name) : ∀ c ∈ w, c.isAlphanum := by
  intro c here
  have kept : c ∈ name.toList.filter isWordChar := by
    rw [← flatten_words]
    exact List.mem_flatten.2 ⟨w, mem, here⟩
  obtain ⟨inside, word⟩ := List.mem_filter.1 kept
  rwa [isWordChar_of_ascii (named.ascii c inside)] at word

/-- A name without letters and digits has no words, and any other has a first one, which starts with
its first letter or digit. -/
theorem IsName.words_cases (named : IsName name) :
    (firstLetter? name = none ∧ words name = []) ∨
      ∃ c rest more, firstLetter? name = some c ∧ words name = (c :: rest) :: more := by
  have first : (words name).flatten.head? = firstLetter? name := by
    rw [flatten_words, named.filter_isWordChar, List.head?_filter, firstLetter?]
  cases cut : words name with
  | nil => exact .inl ⟨by rw [← first, cut]; rfl, rfl⟩
  | cons w more =>
    have mem : w ∈ words name := cut ▸ List.mem_cons_self
    obtain ⟨c, rest, rfl⟩ := List.exists_cons_of_ne_nil (ne_nil_of_mem_words w mem)
    exact .inr ⟨c, rest, more, by rw [← first, cut]; rfl, rfl⟩

theorem isAlphanum_toUpper {c : Char} (h : c.isAlphanum) : c.toUpper.isAlphanum :=
  forall_ascii (P := fun c => c.isAlphanum → c.toUpper.isAlphanum) (by decide)
    (toNat_lt_of_isAlphanum h) h

theorem isAlphanum_toLower {c : Char} (h : c.isAlphanum) : c.toLower.isAlphanum :=
  forall_ascii (P := fun c => c.isAlphanum → c.toLower.isAlphanum) (by decide)
    (toNat_lt_of_isAlphanum h) h

theorem IsName.map_lowerWord_words (named : IsName name) :
    (words name).map lowerWord = (words name).map (List.map Char.toLower) :=
  List.map_congr_left fun _ mem => lowerWord_of_ascii fun c here =>
    toNat_lt_of_isAlphanum (named.isAlphanum_of_mem_words mem c here)

theorem IsName.capitalizeWord_words (named : IsName name) {c : Char} {rest : List Char}
    (mem : c :: rest ∈ words name) :
    capitalizeWord (c :: rest) = c.toUpper :: rest.map Char.toLower :=
  capitalizeWord_of_ascii fun d here =>
    toNat_lt_of_isAlphanum (named.isAlphanum_of_mem_words mem d here)

theorem IsName.characters_snakeCase (named : IsName name) :
    ∀ c ∈ (snakeCase name).toList, c.isAlphanum ∨ c = '_' := by
  intro c mem
  rw [snakeCase, String.toList_ofList, named.map_lowerWord_words] at mem
  obtain ⟨w, listed, here⟩ := List.mem_flatten.1 mem
  rcases mem_of_mem_intersperse listed with rfl | lower
  · exact .inr (by simpa using here)
  · obtain ⟨word, inside, rfl⟩ := List.mem_map.1 lower
    obtain ⟨d, letter, rfl⟩ := List.mem_map.1 here
    exact .inl (isAlphanum_toLower (named.isAlphanum_of_mem_words inside d letter))

theorem IsName.characters_upperCamelCase (named : IsName name) :
    ∀ c ∈ (upperCamelCase name).toList, c.isAlphanum := by
  intro c mem
  rw [upperCamelCase, String.toList_ofList] at mem
  obtain ⟨w, inside, here⟩ := List.mem_flatMap.1 mem
  have letters := named.isAlphanum_of_mem_words inside
  obtain ⟨d, rest, rfl⟩ := List.exists_cons_of_ne_nil (ne_nil_of_mem_words w inside)
  rw [named.capitalizeWord_words inside, List.mem_cons] at here
  rw [List.forall_mem_cons] at letters
  rcases here with rfl | here
  · exact isAlphanum_toUpper letters.1
  · obtain ⟨e, letter, rfl⟩ := List.mem_map.1 here
    exact isAlphanum_toLower (letters.2 e letter)

/-- In snake case, a name starts with its first letter or digit. -/
theorem IsName.head?_snakeCase (named : IsName name) :
    (snakeCase name).toList.head? = (firstLetter? name).map Char.toLower := by
  rw [snakeCase, String.toList_ofList, named.map_lowerWord_words]
  rcases named.words_cases with ⟨none, nothing⟩ | ⟨c, rest, more, first, cut⟩
  · simp [none, nothing]
  · cases more <;> simp [first, cut]

/-- In upper camel case, a name starts with its first letter or digit. -/
theorem IsName.head?_upperCamelCase (named : IsName name) :
    (upperCamelCase name).toList.head? = (firstLetter? name).map Char.toUpper := by
  rw [upperCamelCase, String.toList_ofList]
  rcases named.words_cases with ⟨none, nothing⟩ | ⟨c, rest, more, first, cut⟩
  · simp [none, nothing]
  · have mem : c :: rest ∈ words name := cut ▸ List.mem_cons_self
    simp [first, cut, named.capitalizeWord_words mem]

end Schema

end FlagBinding
