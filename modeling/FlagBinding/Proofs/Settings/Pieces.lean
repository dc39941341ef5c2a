import FlagBinding.Proofs.Cells.MapRuns
import FlagBinding.Settings

/-!
# The pieces of a parameter

A piece of a parameter is blank, or it gives a value for a key, or it is neither and the parameter
is refused. The blanks around a key and around a value do not count.

## Main definitions

* `IsBare`: a text without blanks at its ends.
* `IsVoid`, `Gives`: a piece that is blank, and one with a key and a value in it.

## Main statements

* `gives_iff`: a piece that gives a value is cut at its first equals sign.
* `gives_of_cut`, `not_gives_of_cut`: what the reader cuts is what a piece gives.
-/

namespace FlagBinding.Settings

open Text

/-- A text without blanks at its ends. -/
structure IsBare (s : String) : Prop where
  start : ∀ c, s.toList.head? = some c → isBlank c = false
  ending : ∀ c, s.toList.getLast? = some c → isBlank c = false

/-- A piece of blanks alone, which does not count. -/
def IsVoid (piece : String) : Prop :=
  ∀ c ∈ piece.toList, isBlank c

/-- A piece that gives a value for a key. The first equals sign of the piece stands between the two,
and there may be blanks around both. -/
def Gives (piece key value : String) : Prop :=
  ∃ a b c d : List Char, (∀ x ∈ a ++ b ++ c ++ d, isBlank x) ∧
    piece.toList = a ++ key.toList ++ b ++ '=' :: (c ++ value.toList ++ d) ∧ '=' ∉ key.toList ∧
    IsBare key ∧ IsBare value

theorem isBare_trimBlanks (s : String) : IsBare (trimBlanks s) :=
  ⟨fun c first => head?_trim (by simpa [trimBlanks] using first),
    fun c last => getLast?_trim (by simpa [trimBlanks] using last)⟩

theorem trim_append_blanks {before after : List Char} (middle : List Char)
    (front : ∀ c ∈ before, isBlank c) (back : ∀ c ∈ after, isBlank c) :
    trim isBlank (before ++ middle ++ after) = trim isBlank middle := by
  obtain ⟨first, last, front', back', split⟩ := exists_eq_append_trim isBlank middle
  have regrouped : before ++ middle ++ after =
      (before ++ first) ++ trim isBlank middle ++ (last ++ after) := by
    conv_lhs => rw [split]
    simp only [List.append_assoc]
  rw [regrouped]
  exact trim_append (List.forall_mem_append.2 ⟨front, front'⟩)
    (List.forall_mem_append.2 ⟨back', back⟩)
    (fun c => head?_trim) (fun c => getLast?_trim)

/-- A text between blanks is what is left without them. -/
theorem trimBlanks_eq {s : String} {l a b : List Char} (bare : IsBare s)
    (split : l = a ++ s.toList ++ b) (front : ∀ c ∈ a, isBlank c) (back : ∀ c ∈ b, isBlank c) :
    trimBlanks (String.ofList l) = s := by
  rw [trimBlanks, String.toList_ofList, split, trim_append front back bare.start bare.ending,
    String.ofList_toList]

theorem gives_iff {piece key value : String} : Gives piece key value ↔
    ∃ before after, piece.toList = before ++ '=' :: after ∧ '=' ∉ before ∧
      trimBlanks (String.ofList before) = key ∧ trimBlanks (String.ofList after) = value := by
  have sign : isBlank '=' = false := by decide
  constructor
  · rintro ⟨a, b, c, d, blanks, split, fresh, bareKey, bareValue⟩
    simp only [List.forall_mem_append] at blanks
    obtain ⟨⟨⟨ha, hb⟩, hc⟩, hd⟩ := blanks
    refine ⟨a ++ key.toList ++ b, c ++ value.toList ++ d, split, ?_,
      trimBlanks_eq bareKey rfl ha hb, trimBlanks_eq bareValue rfl hc hd⟩
    simp only [List.mem_append, not_or]
    exact ⟨⟨fun mem => by simp [ha _ mem] at sign, fresh⟩, fun mem => by simp [hb _ mem] at sign⟩
  · rintro ⟨before, after, split, fresh, rfl, rfl⟩
    obtain ⟨a, b, ha, hb, left⟩ := exists_eq_append_trim isBlank before
    obtain ⟨c, d, hc, hd, right⟩ := exists_eq_append_trim isBlank after
    refine ⟨a, b, c, d, ?_, ?_, ?_, isBare_trimBlanks _, isBare_trimBlanks _⟩
    · simp only [List.forall_mem_append]
      exact ⟨⟨⟨ha, hb⟩, hc⟩, hd⟩
    · simpa [trimBlanks, ← left, ← right] using split
    · intro mem
      rw [trimBlanks, String.toList_ofList, String.toList_ofList] at mem
      exact fresh (left ▸ List.mem_append_left _ (List.mem_append_right _ mem))

theorem isEmpty_trimBlanks_iff {piece : String} : (trimBlanks piece).isEmpty ↔ IsVoid piece := by
  obtain ⟨before, after, front, back, split⟩ := exists_eq_append_trim isBlank piece.toList
  rw [String.isEmpty_iff, trimBlanks, String.ofList_eq_empty_iff]
  constructor
  · intro none
    rw [none, List.append_nil] at split
    rw [IsVoid, split]
    exact List.forall_mem_append.2 ⟨front, back⟩
  · intro void
    have all : trim isBlank piece.toList = trim isBlank [] := by
      simpa using trim_append_blanks [] void (List.forall_mem_nil _)
    exact all

theorem Gives.unique {piece key value key' value' : String} (gives : Gives piece key value)
    (gives' : Gives piece key' value') : key' = key ∧ value' = value := by
  obtain ⟨before, after, split, fresh, rfl, rfl⟩ := gives_iff.1 gives
  obtain ⟨before', after', split', fresh', rfl, rfl⟩ := gives_iff.1 gives'
  have cut := splitFirst?_append fresh after
  rw [← split, split', splitFirst?_append fresh'] at cut
  obtain ⟨rfl, rfl⟩ : before' = before ∧ after' = after := by simpa using cut
  exact ⟨rfl, rfl⟩

theorem Gives.not_void {piece key value : String} (gives : Gives piece key value) :
    ¬ IsVoid piece := by
  obtain ⟨before, after, split, -⟩ := gives_iff.1 gives
  intro void
  exact absurd (void '=' (by simp [split])) (by decide)

/-- A piece gives what stands before and after the first equals sign. -/
theorem gives_of_cut {piece front back : String}
    (cut : cutFirst? '=' (trimBlanks piece) = some (front, back)) :
    Gives piece (trimBlanks front) (trimBlanks back) := by
  obtain ⟨split, fresh⟩ := StringMap.cutFirst?_eq_some_iff.1 cut
  obtain ⟨a, b, ha, hb, whole⟩ := exists_eq_append_trim isBlank piece.toList
  rw [trimBlanks, String.toList_ofList] at split
  refine gives_iff.2 ⟨a ++ front.toList, back.toList ++ b, ?_, ?_, ?_, ?_⟩
  · rw [whole, split]
    simp
  · rw [List.mem_append, not_or]
    exact ⟨fun mem => absurd (ha _ mem) (by decide), fresh⟩
  · have same := trim_append_blanks front.toList ha (List.forall_mem_nil _)
    simp only [List.append_nil] at same
    simp only [trimBlanks, String.toList_ofList, same]
  · have same := trim_append_blanks back.toList (List.forall_mem_nil _) hb
    simp only [List.nil_append] at same
    simp only [trimBlanks, String.toList_ofList, same]

theorem not_gives_of_cut {piece : String} (cut : cutFirst? '=' (trimBlanks piece) = none)
    (key value : String) : ¬ Gives piece key value := by
  intro gives
  obtain ⟨before, after, split, -⟩ := gives_iff.1 gives
  obtain ⟨a, b, ha, hb, whole⟩ := exists_eq_append_trim isBlank piece.toList
  have sign : '=' ∈ a ++ trim isBlank piece.toList ++ b := whole ▸ split ▸ by simp
  have inside : '=' ∈ trim isBlank piece.toList := by
    simp only [List.mem_append] at sign
    rcases sign with (mem | mem) | mem
    · exact absurd (ha _ mem) (by decide)
    · exact mem
    · exact absurd (hb _ mem) (by decide)
  obtain ⟨front, back, parts, fresh⟩ := List.eq_append_cons_of_mem inside
  simp [cutFirst?, trimBlanks, parts, splitFirst?_append fresh] at cut

end FlagBinding.Settings
