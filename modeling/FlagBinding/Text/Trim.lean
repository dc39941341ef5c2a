/-!
# Blanks, trimming and splitting

## Main definitions

* `isBlank`: the characters with the property White_Space.
* `trimStart`, `trimEnd`, `trim`: a list without the leading or trailing members of a class.
* `splitFirst?`, `splitLast?`, `splitAll`: a list cut at one, or at every, occurrence of a
  separator.
-/

namespace FlagBinding.Text

/-- The characters with the property White_Space. -/
def isBlank (c : Char) : Bool :=
  let n := c.toNat
  (9 ≤ n && n ≤ 13) || n == 0x20 || n == 0x85 || n == 0xA0 || n == 0x1680 ||
    (0x2000 ≤ n && n ≤ 0x200A) || n == 0x2028 || n == 0x2029 || n == 0x202F || n == 0x205F ||
    n == 0x3000

section List

variable {α : Type}

/-- The list without its longest leading run of members of `p`. -/
def trimStart (p : α → Bool) (l : List α) : List α :=
  l.dropWhile p

/-- The list without its longest trailing run of members of `p`. -/
def trimEnd (p : α → Bool) (l : List α) : List α :=
  (l.reverse.dropWhile p).reverse

/-- The list without members of `p` at either end. -/
def trim (p : α → Bool) (l : List α) : List α :=
  trimEnd p (trimStart p l)

theorem trimStart_idem (p : α → Bool) (l : List α) :
    trimStart p (trimStart p l) = trimStart p l := by
  unfold trimStart
  induction l with
  | nil => rfl
  | cons c l ih => cases h : p c <;> simp [h, ih]

theorem trimStart_eq_self {p : α → Bool} {l : List α} (none : ∀ c ∈ l, p c = false) :
    trimStart p l = l := by
  cases l with
  | nil => rfl
  | cons c l => exact List.dropWhile_cons_of_neg (by simp [none c])

theorem trim_eq_self {p : α → Bool} {l : List α} (none : ∀ c ∈ l, p c = false) : trim p l = l := by
  have backwards : trimStart p l.reverse = l.reverse := trimStart_eq_self (by simpa using none)
  rw [trim, trimStart_eq_self none, trimEnd, ← trimStart, backwards, List.reverse_reverse]

theorem trimEnd_append_singleton {p : α → Bool} {l : List α} {x : α} (hx : p x = true)
    (hl : ∀ c, l.getLast? = some c → p c = false) : trimEnd p (l ++ [x]) = l := by
  unfold trimEnd
  rw [List.reverse_append, List.reverse_singleton, List.singleton_append,
    List.dropWhile_cons_of_pos hx]
  cases hr : l.reverse with
  | nil => simp_all
  | cons c rest =>
    have last : l.getLast? = some c := by rw [List.getLast?_eq_head?_reverse, hr]; rfl
    rw [List.dropWhile_cons_of_neg (by simp [hl c last]), ← hr, List.reverse_reverse]

/-- What stands between members of `p` is all that is left, if it neither begins nor ends with
one. -/
theorem trim_append {p : α → Bool} {before middle after : List α} (front : ∀ c ∈ before, p c)
    (back : ∀ c ∈ after, p c) (start : ∀ c, middle.head? = some c → p c = false)
    (ending : ∀ c, middle.getLast? = some c → p c = false) :
    trim p (before ++ middle ++ after) = middle := by
  have started : trimStart p (before ++ middle ++ after) = trimStart p (middle ++ after) := by
    rw [trimStart, List.append_assoc, List.dropWhile_append_of_pos front, trimStart]
  rw [trim, started]
  cases middle with
  | nil =>
    have none : trimStart p after = [] := by
      rw [trimStart, ← List.append_nil after, List.dropWhile_append_of_pos back, List.dropWhile_nil]
    rw [List.nil_append, none]
    rfl
  | cons c rest =>
    have kept : trimStart p (c :: rest ++ after) = c :: rest ++ after :=
      List.dropWhile_cons_of_neg (by simp [start c rfl])
    have last : (c :: rest).reverse.dropWhile p = (c :: rest).reverse := by
      cases backwards : (c :: rest).reverse with
      | nil => rfl
      | cons d more =>
        have final : (c :: rest).getLast? = some d := by
          rw [List.getLast?_eq_head?_reverse, backwards, List.head?_cons]
        exact List.dropWhile_cons_of_neg (by simp [ending d final])
    rw [kept, trimEnd, List.reverse_append,
      List.dropWhile_append_of_pos (by simpa using back), last, List.reverse_reverse]

theorem exists_eq_trimEnd_append (p : α → Bool) (l : List α) :
    ∃ after, (∀ c ∈ after, p c) ∧ l = trimEnd p l ++ after := by
  refine ⟨(l.reverse.takeWhile p).reverse, fun c mem => ?_, ?_⟩
  · exact List.all_eq_true.1 List.all_takeWhile c (List.mem_reverse.1 mem)
  · rw [trimEnd, ← List.reverse_append, List.takeWhile_append_dropWhile, List.reverse_reverse]

/-- Only members of `p` are taken away. -/
theorem exists_eq_append_trim (p : α → Bool) (l : List α) :
    ∃ before after, (∀ c ∈ before, p c) ∧ (∀ c ∈ after, p c) ∧ l = before ++ trim p l ++ after := by
  obtain ⟨after, back, split⟩ := exists_eq_trimEnd_append p (trimStart p l)
  refine ⟨l.takeWhile p, after, fun c mem => List.all_eq_true.1 List.all_takeWhile c mem, back, ?_⟩
  rw [List.append_assoc, trim, ← split, trimStart, List.takeWhile_append_dropWhile]

theorem head?_trim {p : α → Bool} {l : List α} {c : α} (first : (trim p l).head? = some c) :
    p c = false := by
  obtain ⟨after, -, split⟩ := exists_eq_trimEnd_append p (trimStart p l)
  have started : (l.dropWhile p).head? = some c := by
    rw [← trimStart, split, List.head?_append, ← trim, first, Option.some_or]
  have stopped := List.head?_dropWhile_not p l
  rwa [started] at stopped

theorem getLast?_trim {p : α → Bool} {l : List α} {c : α} (last : (trim p l).getLast? = some c) :
    p c = false := by
  rw [trim, trimEnd, List.getLast?_reverse] at last
  have stopped := List.head?_dropWhile_not p (trimStart p l).reverse
  rwa [last] at stopped

variable [DecidableEq α]

/-- The parts before and after the first `sep`. -/
def splitFirst? (sep : α) : List α → Option (List α × List α)
  | [] => none
  | c :: rest =>
    if c = sep then some ([], rest)
    else (splitFirst? sep rest).map fun (before, after) => (c :: before, after)

theorem splitFirst?_append {sep : α} {before : List α} (none : sep ∉ before) (after : List α) :
    splitFirst? sep (before ++ sep :: after) = some (before, after) := by
  induction before with
  | nil => simp [splitFirst?]
  | cons c before ih =>
    rw [List.mem_cons, not_or] at none
    simp [splitFirst?, Ne.symm none.1, ih none.2]

theorem splitFirst?_eq_none {sep : α} {l : List α} (none : sep ∉ l) :
    splitFirst? sep l = .none := by
  induction l with
  | nil => rfl
  | cons c l ih =>
    rw [List.mem_cons, not_or] at none
    simp [splitFirst?, Ne.symm none.1, ih none.2]

theorem eq_append_of_splitFirst? {sep : α} {l before after : List α}
    (cut : splitFirst? sep l = some (before, after)) : l = before ++ sep :: after := by
  induction l generalizing before with
  | nil => simp [splitFirst?] at cut
  | cons c l ih =>
    rw [splitFirst?] at cut
    split at cut
    case isTrue same =>
      obtain ⟨rfl, rfl⟩ : [] = before ∧ l = after := by simpa using cut
      rw [same, List.nil_append]
    case isFalse =>
      obtain ⟨⟨front, back⟩, found, same⟩ := Option.map_eq_some_iff.1 cut
      obtain ⟨rfl, rfl⟩ : c :: front = before ∧ back = after := by simpa using same
      rw [ih found, List.cons_append]

/-- The parts before and after the last `sep`. -/
def splitLast? (sep : α) (l : List α) : Option (List α × List α) :=
  (splitFirst? sep l.reverse).map fun (after, before) => (before.reverse, after.reverse)

/-- The pieces between the occurrences of `sep`: one more than there are occurrences. -/
def splitAll (sep : α) : List α → List (List α)
  | [] => [[]]
  | c :: rest =>
    if c = sep then [] :: splitAll sep rest
    else match splitAll sep rest with
      | [] => [[c]]
      | piece :: pieces => (c :: piece) :: pieces

/-- The rest of `l` after `start`, if it begins with it. -/
def stripStart? (start : List α) (l : List α) : Option (List α) :=
  match start, l with
  | [], l => some l
  | _ :: _, [] => none
  | a :: start, b :: l => if a = b then stripStart? start l else none

/-- The part of `l` before `ending`, if it ends with it. -/
def stripEnd? (ending : List α) (l : List α) : Option (List α) :=
  (stripStart? ending.reverse l.reverse).map List.reverse

end List

/-- A text without blanks at either end. -/
def trimBlanks (s : String) : String :=
  String.ofList (trim isBlank s.toList)

/-- The texts before and after the first `sep`. -/
def cutFirst? (sep : Char) (s : String) : Option (String × String) :=
  (splitFirst? sep s.toList).map fun (before, after) => (String.ofList before, String.ofList after)

/-- The texts between the occurrences of `sep`. -/
def pieces (sep : Char) (s : String) : List String :=
  (splitAll sep s.toList).map String.ofList

/-- The text without `ending`, or the text itself if it does not end so. -/
def withoutEnd (ending : String) (s : String) : String :=
  match stripEnd? ending.toList s.toList with
  | some l => String.ofList l
  | none => s

/-- The texts written one after the other with `sep` between neighbours. -/
def join (sep : String) (texts : List String) : String :=
  String.intercalate sep texts

end FlagBinding.Text
