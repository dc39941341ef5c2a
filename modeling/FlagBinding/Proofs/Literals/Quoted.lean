import FlagBinding.Proofs.Literals.Lexer
import FlagBinding.Target.Literal
import Mathlib.Tactic.SplitIfs

/-!
# Quoted texts and characters

A quoted text is a literal that stands for the text, and a quoted character is one that stands for
the character, whatever they are. Nothing in a literal ends it early, and a literal does not go on
over lines.

## Main definitions

* `Escape.value?`: what an escape stands for.
* `Encloses`: a literal with its quotes.

## Main statements

* `escape_cases`: a character is escaped, or it stands for itself.
* `encloses_textLiteral`, `encloses_character`: quoted texts and characters are literals.
* `moves_textLiteral`, `moves_character`: how they are read in code.
-/

namespace FlagBinding.Target

open Text

/-! ## Escapes -/

/-- What an escape stands for, if it ends with the last character. -/
def Escape.value? : Escape → List Char → Option Char
  | _, [] => none
  | e, c :: rest => (e.step c).bind fun
    | .inl value => if rest = [] then some value else none
    | .inr e => e.value? rest

/-- An escape is read to its end wherever a literal may have one. -/
theorem reads_escape (inside : Escape → Mode) (behind : Char → Mode)
    (step : ∀ e c, (inside e).step c = (e.step c).map fun
      | .inl value => (behind value, [])
      | .inr e => (inside e, []))
    {e : Escape} {l : List Char} {c : Char} (h : e.value? l = some c) :
    (inside e).Reads l [] (behind c) := by
  induction l generalizing e with
  | nil => simp [Escape.value?] at h
  | cons x l ih =>
    rw [Escape.value?, Option.bind_eq_some_iff] at h
    obtain ⟨value | next, first, rest⟩ := h
    · obtain ⟨rfl, rfl⟩ : l = [] ∧ value = c := by simpa using rest
      exact Mode.reads_singleton (by simp [step, first])
    · have more : (inside e).step x = some (inside next, []) := by simp [step, first]
      exact Mode.Reads.cons more (ih rest)

/-! ## Numbers -/

/-- A digit is read as its number, and is no other part of an escape. -/
theorem hexValue?_digitChar {n : Nat} (small : n < 16) :
    hexValue? n.digitChar = some n ∧ n.digitChar ≠ '\x7d' ∧ n.digitChar ≠ '_' := by
  have each : ∀ i : Fin 16, hexValue? i.val.digitChar = some i.val ∧ i.val.digitChar ≠ '\x7d' ∧
      i.val.digitChar ≠ '_' := by decide
  exact each ⟨n, small⟩

theorem step_digitChar {digits value n : Nat} (room : digits < 6) (small : n < 16) :
    (Escape.number digits value).step n.digitChar =
      some (.inr (.number (digits + 1) (16 * value + n))) := by
  obtain ⟨own, close, under⟩ := hexValue?_digitChar small
  simp [Escape.step, close, under, room, own]

/-- The digits of a number are read as the number. -/
theorem value?_hexDigits {n : Nat} (length : (hexDigits n).length ≤ 6) (rest : List Char) :
    (Escape.number 0 0).value? (hexDigits n ++ rest) =
      (Escape.number (hexDigits n).length n).value? rest := by
  induction n using Nat.strongRecOn generalizing rest with
  | ind n ih =>
    by_cases small : n < 16
    case pos =>
      rw [hexDigits, Nat.toDigits_of_lt_base small]
      simp [Escape.value?, step_digitChar (by decide : 0 < 6) small]
    case neg =>
      have cut : hexDigits n = hexDigits (n / 16) ++ [(n % 16).digitChar] :=
        Nat.toDigits_of_base_le (by decide) (by omega)
      rw [cut, List.length_append, List.length_singleton] at length
      rw [cut, List.append_assoc, ih (n / 16) (by omega) (by omega)]
      have step : (Escape.number (hexDigits (n / 16)).length (n / 16)).step (n % 16).digitChar =
          some (.inr (.number ((hexDigits (n / 16)).length + 1) (16 * (n / 16) + n % 16))) :=
        step_digitChar (by omega) (Nat.mod_lt n (by decide))
      rw [Nat.div_add_mod] at step
      simp [Escape.value?, step]

theorem exists_digitChar_of_mem_hexDigits {n : Nat} {c : Char} (mem : c ∈ hexDigits n) :
    ∃ d < 16, c = d.digitChar := by
  induction n using Nat.strongRecOn with
  | ind n ih =>
    rw [hexDigits, Nat.toDigits_eq_if (by decide)] at mem
    split at mem
    case isTrue small => exact ⟨n, small, by simpa using mem⟩
    case isFalse large =>
      rcases List.mem_append.1 mem with mem | mem
      · exact ih (n / 16) (by omega) mem
      · exact ⟨n % 16, Nat.mod_lt n (by decide), by simpa using mem⟩

/-! ## Characters -/

def isLineBreak (c : Char) : Bool :=
  c ∈ ['\n', '\x0b', '\x0c', '\r', '\u0085', '\u2028', '\u2029']

/-- The number of a character between braces stands for the character. -/
theorem value?_byNumber (c : Char) : ∃ rest, Quoted.byNumber c = '\\' :: rest ∧
    Escape.backslash.value? rest = some c ∧ ∀ x ∈ rest, isLineBreak x = false := by
  refine ⟨'u' :: '\x7b' :: (hexDigits c.toNat ++ ['\x7d']), by simp [Quoted.byNumber], ?_, ?_⟩
  · have length : (hexDigits c.toNat).length ≤ 6 := by
      rw [hexDigits, Nat.length_toDigits_le_iff (by decide) (by decide)]
      have : c.toNat < 1114112 := by
        rcases c.valid with low | high
        · exact Nat.lt_trans low (by decide)
        · exact high.2
      omega
    have some : 0 < (hexDigits c.toNat).length := List.length_pos_iff.2 Nat.toDigits_ne_nil
    have valid : c.toNat.isValidChar := c.valid
    simp [Escape.value?, Escape.step, value?_hexDigits length, some, valid]
  · intro x mem
    rcases List.mem_cons.1 mem with rfl | mem
    · decide
    rcases List.mem_cons.1 mem with rfl | mem
    · decide
    rcases List.mem_append.1 mem with digit | brace
    · obtain ⟨d, small, rfl⟩ := exists_digitChar_of_mem_hexDigits digit
      have each : ∀ i : Fin 16, isLineBreak i.val.digitChar = false := by decide
      exact each ⟨d, small⟩
    · rw [List.mem_singleton.1 brace]
      decide

/-- Line breaks have no glyph, and they are none of the characters that are always written as they
are. -/
theorem isLineBreak_eq_false {c : Char} (shown : isPrintable c ∨ ' ' ≤ c && c ≤ '~') :
    isLineBreak c = false := by
  have hidden : ['\n', '\x0b', '\x0c', '\r', '\u0085', '\u2028', '\u2029'].all
      fun x => !isPrintable x && !(' ' ≤ x && x ≤ '~') := by
    decide +kernel
  rw [isLineBreak, decide_eq_false_iff_not]
  intro mem
  have bare := List.all_eq_true.1 hidden c mem
  grind

/-- A character is escaped, or it is written as it is and means nothing in a literal. -/
theorem escape_cases {quote : Char} (either : quote = '"' ∨ quote = '\'') (c : Char) :
    (∃ rest, Quoted.escape quote c = '\\' :: rest ∧ Escape.backslash.value? rest = some c ∧
        ∀ x ∈ rest, isLineBreak x = false) ∨
      Quoted.escape quote c = [c] ∧ c ≠ quote ∧ c ≠ '\\' ∧ c ≠ '\t' ∧ isLineBreak c = false := by
  unfold Quoted.escape
  split_ifs with null tab feed line named ascii hidden
  · rw [beq_iff_eq] at null
    exact .inl ⟨['0'], rfl, by rw [null]; rfl, List.forall_mem_singleton.2 (by decide)⟩
  · rw [beq_iff_eq] at tab
    exact .inl ⟨['t'], rfl, by rw [tab]; rfl, List.forall_mem_singleton.2 (by decide)⟩
  · rw [beq_iff_eq] at feed
    exact .inl ⟨['r'], rfl, by rw [feed]; rfl, List.forall_mem_singleton.2 (by decide)⟩
  · rw [beq_iff_eq] at line
    exact .inl ⟨['n'], rfl, by rw [line]; rfl, List.forall_mem_singleton.2 (by decide)⟩
  · refine .inl ⟨[c], rfl, ?_⟩
    have known : c = '\\' ∨ c = '"' ∨ c = '\'' := by grind
    rcases known with rfl | rfl | rfl <;> exact ⟨rfl, List.forall_mem_singleton.2 (by decide)⟩
  · exact .inr ⟨rfl, by grind, by grind, by grind, isLineBreak_eq_false (.inr ascii)⟩
  · exact .inl (value?_byNumber c)
  · have shown : isPrintable c := by grind
    exact .inr ⟨rfl, by grind, by grind, by grind, isLineBreak_eq_false (.inl shown)⟩

theorem isLineBreak_of_mem_escape {quote c x : Char} (either : quote = '"' ∨ quote = '\'')
    (mem : x ∈ Quoted.escape quote c) : isLineBreak x = false := by
  rcases escape_cases either c with ⟨rest, form, -, free⟩ | ⟨form, -, -, -, free⟩
  · rw [form, List.mem_cons] at mem
    rcases mem with rfl | mem
    · decide
    · exact free x mem
  · rw [form, List.mem_singleton] at mem
    rwa [mem]

/-! ## Literals -/

/-- A literal between quotes: from the place behind the first quote, all that stands between the two
is read without an end of the literal, and the literal ends with the last quote. There are no line
breaks in it. -/
def Encloses (quote : Char) (inside : Mode) (text : String) (value : Literal) : Prop :=
  ∃ body last, text.toList = quote :: body ++ [quote] ∧ (∀ c ∈ body, isLineBreak c = false) ∧
    inside.Reads body [] last ∧ last.step quote = some (.code quote, [value])

/-- A literal is read where one may start. -/
theorem Encloses.moves {quote : Char} {inside : Mode} {text : String} {value : Literal}
    (h : Encloses quote inside text value)
    (opens : ∀ last, glues last = false → codeStep last quote = some inside) :
    Moves .ready text [value] .done := by
  obtain ⟨body, last, chars, -, reads, ends⟩ := h
  intro a spot
  cases spot with
  | @ready before mark =>
    have first : (Mode.code before).step quote = some (inside, []) := by
      rw [Mode.step, opens before (glues_of_isMarkChar mark), Option.map_some]
    refine ⟨.code quote, .code, ?_⟩
    rw [chars, List.cons_append]
    exact .cons first (reads.append (Mode.reads_singleton ends))

/-- The characters of a text are read one after the other. -/
theorem reads_escape_text (s read : List Char) :
    (Mode.text read).Reads (s.flatMap (Quoted.escape '"')) [] (.text (s.reverse ++ read)) := by
  induction s generalizing read with
  | nil => simp
  | cons c s ih =>
    have one : (Mode.text read).Reads (Quoted.escape '"' c) [] (.text (c :: read)) := by
      rcases escape_cases (.inl rfl) c with ⟨rest, form, value, -⟩ |
        ⟨form, quote, backslash, -, free⟩
      · have start : (Mode.text read).step '\\' = some (.textEscape read .backslash, []) := rfl
        rw [form]
        exact .cons start (reads_escape (.textEscape read) (.text <|
          · :: read) (fun _ _ => rfl) value)
      · have feed : c ≠ '\r' := by
          rintro rfl
          exact absurd free (by decide)
        rw [form]
        exact Mode.reads_singleton (by simp [Mode.step, quote, backslash, feed])
    simpa using one.append (ih (c :: read))

/-- A quoted text is a literal that stands for the text. -/
theorem encloses_textLiteral (s : String) : Encloses '"' (.text []) (textLiteral s) (.text s) := by
  refine ⟨s.toList.flatMap (Quoted.escape '"'), .text s.toList.reverse, ?_, ?_, ?_, ?_⟩
  · rw [textLiteral, Quoted.text, String.toList_ofList, Quoted.encode]
  · intro x mem
    obtain ⟨c, -, mem⟩ := List.mem_flatMap.1 mem
    exact isLineBreak_of_mem_escape (.inl rfl) mem
  · simpa using reads_escape_text s.toList []
  · simp [Mode.step]

/-- A quoted character is a literal that stands for the character. -/
theorem encloses_character (c : Char) :
    Encloses '\'' .quote (Quoted.character c) (.character c) := by
  have chars : (Quoted.character c).toList = '\'' :: Quoted.escape '\'' c ++ ['\''] := by
    rw [Quoted.character, String.toList_ofList]
  have unbroken : ∀ x ∈ Quoted.escape '\'' c, isLineBreak x = false :=
    fun _ mem => isLineBreak_of_mem_escape (.inr rfl) mem
  rcases escape_cases (.inr rfl) c with ⟨rest, form, value, -⟩ | ⟨form, quote, backslash, tab, free⟩
  · refine ⟨_, .closing c, chars, unbroken, ?_, by simp [Mode.step]⟩
    have start : Mode.quote.step '\\' = some (.quoteEscape .backslash, []) := rfl
    rw [form]
    exact .cons start (reads_escape .quoteEscape .closing (fun _ _ => rfl) value)
  · refine ⟨_, .quoted c, chars, unbroken, ?_, by simp [Mode.step]⟩
    have others : c ∉ ['\'', '\n', '\r', '\t'] := by grind [isLineBreak]
    rw [form]
    exact Mode.reads_singleton (by simp [Mode.step, backslash, others])

theorem moves_textLiteral (s : String) : Moves .ready (textLiteral s) [.text s] .done :=
  (encloses_textLiteral s).moves fun last free => by simp [codeStep, free]

theorem moves_character (c : Char) : Moves .ready (Quoted.character c) [.character c] .done :=
  (encloses_character c).moves fun last free => by simp [codeStep, free]

end FlagBinding.Target
