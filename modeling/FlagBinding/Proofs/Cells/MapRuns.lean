import FlagBinding.Cell.StringMap
import FlagBinding.Proofs.Cells.ListRuns
import Mathlib.Data.List.Forall2

/-!
# Maps in the course of many arguments

An argument for a map is a program on the place that holds it: unless the map has been touched it is
cleared and marked, and then the entries are inserted one by one. All entries are read before that,
so an argument that is refused has done none of it.

## Main definitions

* `LastEntry`: what the last entry for a key gives, among entries.
* `StringMap.assign`, `StringMap.run`: an argument for a map, and many.
* `StringMap.Denotes`: an argument with the entries in it.
* `StringMap.LastWrite`: what the last entry for a key gives, among all entries of all arguments.

## Main statements

* `Dict.get?_insertAll_iff`: the look-ups after many insertions.
* `StringMap.assign_run`: an argument in place is the operation on the map, or nothing.
* `StringMap.run_arguments`: a map after any arguments.
-/

namespace FlagBinding

open Text

/-- The last of the entries for a key has a value. -/
def LastEntry {α : Type} (entries : List (String × α)) (k : String) (v : α) : Prop :=
  ∃ before after, entries = before ++ (k, v) :: after ∧ ∀ e ∈ after, e.1 ≠ k

/-- A list is read exactly if each of its elements is. -/
theorem mapM_ok_iff {β γ ε : Type} {f : β → Except ε γ} {xs : List β} {ys : List γ} :
    xs.mapM f = .ok ys ↔ List.Forall₂ (fun x y => f x = .ok y) xs ys := by
  induction xs generalizing ys with
  | nil => cases ys <;> simp [pure, Except.pure]
  | cons x xs ih =>
    rw [List.mapM_cons, List.forall₂_cons_left_iff]
    constructor
    · intro read
      cases first : f x with
      | error e => simp [first, bind, Except.bind] at read
      | ok y =>
        cases others : xs.mapM f with
        | error e => simp [first, others, bind, Except.bind] at read
        | ok rest =>
          obtain rfl : y :: rest = ys := by
            simpa [first, others, bind, Except.bind, pure, Except.pure] using read
          exact ⟨y, rest, rfl, ih.1 others, rfl⟩
    · rintro ⟨y, rest, first, others, rfl⟩
      rw [first, ih.2 others]
      rfl

/-! ## Last entries -/

section Entries

variable {α : Type} {entries : List (String × α)} {e : String × α} {k : String} {v : α}

theorem lastEntry_concat_iff :
    LastEntry (entries ++ [e]) k v ↔ e = (k, v) ∨ e.1 ≠ k ∧ LastEntry entries k v := by
  constructor
  · rintro ⟨before, after, split, others⟩
    rcases after.eq_nil_or_concat' with rfl | ⟨after, last, rfl⟩
    · exact .inl (List.cons.inj (List.append_inj' split rfl).2).1
    · rw [← List.cons_append, ← List.append_assoc] at split
      obtain ⟨rfl, ⟨⟩⟩ := List.append_inj' split rfl
      rw [List.forall_mem_append] at others
      exact .inr ⟨others.2 e (by simp), before, after, rfl, others.1⟩
  · rintro (rfl | ⟨other, before, after, rfl, others⟩)
    · exact ⟨entries, [], rfl, by simp⟩
    · refine ⟨before, after ++ [e], by simp, ?_⟩
      rw [List.forall_mem_append]
      exact ⟨others, by simpa using other⟩

theorem exists_lastEntry_iff : (∃ v, LastEntry entries k v) ↔ ∃ e ∈ entries, e.1 = k := by
  induction entries using List.reverseRecOn with
  | nil => simp [LastEntry]
  | append_singleton entries e ih =>
    obtain ⟨key, value⟩ := e
    simp only [lastEntry_concat_iff, exists_or, exists_and_left, ih]
    by_cases same : key = k <;> simp [same]

/-- Insertions bind a key as the last of them does that is for it. -/
theorem Dict.get?_insertAll_iff (d : Dict α) :
    (d.insertAll entries).get? k = some v ↔
      LastEntry entries k v ∨ (∀ e ∈ entries, e.1 ≠ k) ∧ d.get? k = some v := by
  induction entries using List.reverseRecOn with
  | nil => simp [insertAll, LastEntry]
  | append_singleton entries e ih =>
    have step : d.insertAll (entries ++ [e]) = (d.insertAll entries).insert e.1 e.2 := by
      simp [insertAll]
    obtain ⟨key, value⟩ := e
    rw [step, get?_insert, lastEntry_concat_iff, List.forall_mem_append]
    by_cases same : key = k
    · simp [same]
    · simpa [same] using ih

end Entries

/-! ## Arguments -/

namespace StringMap

variable {α : Type} {c : Codec α} {input : String} {inputs : List String}

/-- An argument as it is carried out, one assignment after the other. -/
def assign (c : Codec α) (input : String) : EStateM ValueError (StringMap α) Unit := do
  let entries ← MonadExcept.ofExcept (readEntries c input)
  unless (← get).touched do
    modify fun cell => { cell with entries := .empty }
    modify fun cell => { cell with touched := true }
  entries.forM fun e => modify fun cell => { cell with entries := cell.entries.insert e.1 e.2 }

/-- The cell after arguments, of which each may be refused. -/
def run (c : Codec α) (cell : StringMap α) (inputs : List String) : StringMap α :=
  afterAll (assign c) cell inputs

/-- A text that is an entry: a key without an equals sign, such a sign and the text of a value. -/
def IsEntry (c : Codec α) (text : String) (e : String × α) : Prop :=
  ∃ value : String, text.toList = e.1.toList ++ '=' :: value.toList ∧ '=' ∉ e.1.toList ∧
    c.decode value = .ok e.2

/-- An argument with the entries in it, of which its fields are the texts. -/
def Denotes (c : Codec α) (input : String) (entries : List (String × α)) : Prop :=
  List.Forall₂ (IsEntry c) (Csv.readUnquoted (Csv.stripBrackets input)) entries

/-- The value in the last entry for a key among all entries of all arguments that are accepted. -/
def LastWrite (c : Codec α) (inputs : List String) (k : String) (v : α) : Prop :=
  ∃ before input later entries, inputs = before ++ input :: later ∧ Denotes c input entries ∧
    LastEntry entries k v ∧
    ∀ text ∈ later, ∀ others, Denotes c text others → ∀ e ∈ others, e.1 ≠ k

/-! ## Entries of an argument -/

theorem cutFirst?_eq_some_iff {sep : Char} {text key value : String} :
    cutFirst? sep text = some (key, value) ↔
      text.toList = key.toList ++ sep :: value.toList ∧ sep ∉ key.toList := by
  by_cases mem : sep ∈ text.toList
  · obtain ⟨before, after, split, fresh⟩ := List.eq_append_cons_of_mem mem
    have cut : cutFirst? sep text = some (String.ofList before, String.ofList after) := by
      rw [cutFirst?, split, splitFirst?_append fresh]
      rfl
    rw [cut]
    constructor
    · rintro ⟨⟩
      simpa using ⟨split, fresh⟩
    · rintro ⟨split', fresh'⟩
      rw [cutFirst?, split', splitFirst?_append fresh'] at cut
      simpa using cut.symm
  · refine iff_of_false ?_ fun ⟨split, _⟩ => mem (by simp [split])
    simp [cutFirst?, splitFirst?_eq_none mem]

theorem readEntry_ok_iff {text : String} {e : String × α} :
    readEntry c text = .ok e ↔ IsEntry c text e := by
  constructor
  · intro read
    rw [readEntry] at read
    cases cut : cutFirst? '=' text with
    | none => simp [cut] at read
    | some parts =>
      obtain ⟨key, value⟩ := parts
      simp only [cut] at read
      cases decoded : c.decode value with
      | error cause => simp [decoded] at read
      | ok item =>
        obtain rfl : (key, item) = e := by simpa [decoded] using read
        obtain ⟨split, fresh⟩ := cutFirst?_eq_some_iff.1 cut
        exact ⟨value, split, fresh, decoded⟩
  · rintro ⟨value, split, fresh, decoded⟩
    have cut : cutFirst? '=' text = some (e.1, value) := cutFirst?_eq_some_iff.2 ⟨split, fresh⟩
    simp [readEntry, cut, decoded]

theorem readEntries_ok_iff {entries : List (String × α)} :
    readEntries c input = .ok entries ↔ Denotes c input entries := by
  rw [readEntries, mapM_ok_iff, Denotes]
  simp only [readEntry_ok_iff]

theorem denotes_or_refused (c : Codec α) (input : String) :
    (∃ entries, Denotes c input entries) ∨ ∃ e, readEntries c input = .error e := by
  simp only [← readEntries_ok_iff]
  cases readEntries c input <;> simp

theorem not_denotes {e : ValueError} (refused : readEntries c input = .error e)
    (entries : List (String × α)) : ¬ Denotes c input entries := by
  simp [← readEntries_ok_iff, refused]

theorem Denotes.eq {entries others : List (String × α)} (denotes : Denotes c input entries)
    (denotes' : Denotes c input others) : others = entries := by
  rw [← readEntries_ok_iff] at denotes denotes'
  rw [denotes] at denotes'
  cases denotes'
  rfl

/-! ## One argument -/

theorem run_forM_insert (entries : List (String × α)) (cell : StringMap α) :
    (entries.forM fun e => modify fun cell => { cell with entries := cell.entries.insert e.1 e.2 } :
      EStateM ValueError (StringMap α) Unit).run cell =
      .ok () { cell with entries := cell.entries.insertAll entries } := by
  induction entries generalizing cell with
  | nil => rfl
  | cons e entries ih => exact ih { cell with entries := cell.entries.insert e.1 e.2 }

/-- An argument in place is its operation, or nothing. -/
theorem assign_run (c : Codec α) (cell : StringMap α) (input : String) :
    (assign c input).run cell = whole cell (cell.parse c input) := by
  rw [assign, run_ofExcept_bind, parse]
  cases readEntries c input with
  | error e => rfl
  | ok entries =>
    obtain ⟨held, touched⟩ := cell
    cases touched with
    | true => exact run_forM_insert entries ⟨held, true⟩
    | false => exact run_forM_insert entries ⟨.empty, true⟩

theorem assign_run_ok {entries : List (String × α)} (denotes : Denotes c input entries)
    (cell : StringMap α) : (assign c input).run cell =
      .ok () ⟨(if cell.touched then cell.entries else .empty).insertAll entries, true⟩ := by
  rw [assign_run, parse, readEntries_ok_iff.2 denotes]
  rfl

theorem assign_run_error {e : ValueError} (refused : readEntries c input = .error e)
    (cell : StringMap α) : (assign c input).run cell = .error e cell := by
  rw [assign_run, parse, refused]
  rfl

/-! ## Many arguments -/

variable {k : String} {v : α}

theorem lastWrite_concat_iff : LastWrite c (inputs ++ [input]) k v ↔
    (∃ entries, Denotes c input entries ∧ LastEntry entries k v) ∨
      (∀ entries, Denotes c input entries → ∀ e ∈ entries, e.1 ≠ k) ∧ LastWrite c inputs k v := by
  constructor
  · rintro ⟨before, text, later, entries, split, denotes, last, others⟩
    rcases later.eq_nil_or_concat' with rfl | ⟨later, final, rfl⟩
    · obtain ⟨rfl, ⟨⟩⟩ := List.append_inj' split rfl
      exact .inl ⟨entries, denotes, last⟩
    · rw [← List.cons_append, ← List.append_assoc] at split
      obtain ⟨rfl, ⟨⟩⟩ := List.append_inj' split rfl
      rw [List.forall_mem_append] at others
      exact .inr ⟨others.2 input (by simp), before, text, later, entries,
        rfl, denotes, last, others.1⟩
  · rintro (⟨entries, denotes, last⟩ |
      ⟨none, before, text, later, entries, rfl, denotes, last, others⟩)
    · exact ⟨inputs, input, [], entries, rfl, denotes, last, by simp⟩
    · refine ⟨before, text, later ++ [input], entries, by simp, denotes, last, ?_⟩
      rw [List.forall_mem_append]
      exact ⟨others, by simpa using none⟩

theorem lastWrite_concat_of_denotes {entries : List (String × α)}
    (denotes : Denotes c input entries) :
    LastWrite c (inputs ++ [input]) k v ↔
      LastEntry entries k v ∨ (∀ e ∈ entries, e.1 ≠ k) ∧ LastWrite c inputs k v := by
  have only : ∀ others, Denotes c input others ↔ others = entries :=
    fun others => ⟨denotes.eq, fun same => same ▸ denotes⟩
  simp [lastWrite_concat_iff, only]

theorem lastWrite_concat_of_refused (refused : ∀ entries, ¬ Denotes c input entries) :
    LastWrite c (inputs ++ [input]) k v ↔ LastWrite c inputs k v := by
  simp [lastWrite_concat_iff, refused]

/-- A key has a last entry if it has any. -/
theorem exists_lastWrite_iff (c : Codec α) (inputs : List String) (k : String) :
    (∃ v, LastWrite c inputs k v) ↔
      ∃ input ∈ inputs, ∃ entries, Denotes c input entries ∧ ∃ e ∈ entries, e.1 = k := by
  induction inputs using List.reverseRecOn with
  | nil => simp [LastWrite]
  | append_singleton inputs input ih =>
    simp only [List.mem_append, or_and_right, exists_or, List.mem_singleton, exists_eq_left, ← ih]
    rcases denotes_or_refused c input with ⟨entries, denotes⟩ | ⟨e, refused⟩
    · simp only [lastWrite_concat_of_denotes denotes, exists_or, exists_and_left,
        exists_lastEntry_iff]
      have only : (∃ others, Denotes c input others ∧ ∃ e ∈ others, e.1 = k) ↔
          ∃ e ∈ entries, e.1 = k :=
        ⟨fun ⟨others, denotes', own⟩ => denotes.eq denotes' ▸ own,
          fun own => ⟨entries, denotes, own⟩⟩
      rw [only, or_comm]
      by_cases own : ∃ e ∈ entries, e.1 = k
      · simp only [own, or_true]
      · have fresh : ∀ e ∈ entries, e.1 ≠ k := fun e mem same => own ⟨e, mem, same⟩
        simp only [own, or_false]
        exact and_iff_right fresh
    · simp [lastWrite_concat_of_refused (not_denotes refused), not_denotes refused]

theorem run_concat_ok {cell : StringMap α} {entries : List (String × α)}
    (denotes : Denotes c input entries) :
    let prior := run c cell inputs
    run c cell (inputs ++ [input]) =
      ⟨(if prior.touched then prior.entries else .empty).insertAll entries, true⟩ :=
  afterAll_concat_ok (assign_run_ok denotes _)

theorem run_concat_error {cell : StringMap α} {e : ValueError}
    (refused : readEntries c input = .error e) :
    run c cell (inputs ++ [input]) = run c cell inputs :=
  afterAll_concat_error (assign_run_error refused _)

/-- The map after arguments. -/
theorem run_eq (c : Codec α) (initial : Dict α) (inputs : List String) :
    let final := run c { entries := initial } inputs
    (final.touched = true ↔ ∃ input ∈ inputs, ∃ entries, Denotes c input entries) ∧
    (final.touched = false → final.entries = initial) ∧
    (final.touched = true → ∀ k v, final.entries.get? k = some v ↔ LastWrite c inputs k v) := by
  induction inputs using List.reverseRecOn with
  | nil => simp [run]
  | append_singleton inputs input ih =>
    obtain ⟨touched_iff, untouched, touched⟩ := ih
    rcases denotes_or_refused c input with ⟨entries, denotes⟩ | ⟨e, refused⟩
    · rw [run_concat_ok denotes]
      refine ⟨iff_of_true rfl ⟨input, by simp, entries, denotes⟩, nofun, fun _ k v => ?_⟩
      rw [Dict.get?_insertAll_iff, lastWrite_concat_of_denotes denotes]
      refine or_congr_right (and_congr_right fun _ => ?_)
      split
      case isTrue held => exact touched held k v
      case isFalse fresh =>
        rw [touched_iff] at fresh
        refine iff_of_false (by simp) ?_
        rintro ⟨before, text, later, entries, rfl, denotes, -⟩
        exact fresh ⟨text, by simp, entries, denotes⟩
    · have none := not_denotes refused
      rw [run_concat_error refused]
      refine ⟨?_, untouched, fun held k v => ?_⟩
      · simp [touched_iff, none, or_and_right, exists_or]
      · rw [touched held k v, lastWrite_concat_of_refused none]

/-- A map after any arguments to a fresh cell. An argument fails exactly if one of its fields is no
entry, and then it changes nothing. If all of them fail, the map is the initial one. If not, nothing
of that is left: the keys are those of the entries in the arguments that do not fail, and each has
the value of the last entry for it. -/
theorem run_arguments (c : Codec α) (initial : Dict α) (inputs : List String) :
    let final := run c { entries := initial } inputs
    (∀ input cell, (assign c input).run cell = whole cell (cell.parse c input)) ∧
    (∀ input cell e cell', (assign c input).run cell = .error e cell' → cell' = cell) ∧
    (∀ input cell, (∃ cell', (assign c input).run cell = .ok () cell') ↔
      ∃ entries, Denotes c input entries) ∧
    (final.touched = true ↔ ∃ input ∈ inputs, ∃ entries, Denotes c input entries) ∧
    ((∀ input ∈ inputs, ∀ entries, ¬ Denotes c input entries) → final.entries = initial) ∧
    ((∃ input ∈ inputs, ∃ entries, Denotes c input entries) → ∀ k,
      ((∃ v, final.entries.get? k = some v) ↔
        ∃ input ∈ inputs, ∃ entries, Denotes c input entries ∧ ∃ e ∈ entries, e.1 = k) ∧
      ∀ v, final.entries.get? k = some v ↔ LastWrite c inputs k v) := by
  intro final
  obtain ⟨touched_iff, untouched, touched⟩ := run_eq c initial inputs
  refine ⟨fun input cell => assign_run c cell input, ?unchanged, ?success, touched_iff, ?initial,
    ?last⟩
  case unchanged =>
    intro input cell e cell' failed
    exact eq_of_run_error (assign_run c cell input) failed
  case success =>
    intro input cell
    rcases denotes_or_refused c input with ⟨entries, denotes⟩ | ⟨reason, refused⟩
    · exact iff_of_true ⟨_, assign_run_ok denotes cell⟩ ⟨entries, denotes⟩
    · simp [assign_run_error refused, not_denotes refused]
  case initial =>
    intro none
    refine untouched ?_
    rw [← Bool.not_eq_true, touched_iff]
    exact fun ⟨input, mem, entries, denotes⟩ => none input mem entries denotes
  case last =>
    intro some k
    have bound := touched (touched_iff.2 some) k
    exact ⟨(exists_congr bound).trans (exists_lastWrite_iff c inputs k), bound⟩

/-- The initial entry is gone, the last entry of each key counts, and an argument with a bad value
does nothing. -/
example : (run Codec.bool { entries := .ofList [("z", true)] }
    ["a=x", "a=true,b=true", "a=false,b=y", "b=false,c=true,b=true"]).entries =
      .ofList [("a", true), ("b", true), ("c", true)] := by
  decide +kernel

end StringMap

end FlagBinding
