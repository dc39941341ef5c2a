import FlagBinding.Cell.Repeated
import FlagBinding.Element.Scalar
import Mathlib.Data.List.Basic
import Mathlib.Data.List.Induction

/-!
# Lists in the course of many calls

A cell is held in a place and changed there by assignments, which stay when a later step of the same
call fails. Here the calls on a list are written out as programs on the place, and each is shown to
be carried out as a whole or not at all. So what a list holds after any calls is told by those that
succeed.

## Main definitions

* `after`, `afterAll`: a place after a program, and after several.
* `whole`: the outcome of an operation that is carried out as a whole or not at all.
* `Repeated.Call`, `Repeated.run`: the calls on a list, one and many.
* `Repeated.Call.Resets`: a call that puts its elements in place of all others.
* `Repeated.Quiet`: calls of which none resets.

## Main statements

* `Repeated.Call.program_run`: a call in place is the operation on the list, or nothing.
* `Repeated.run_calls`: a list after any calls.
-/

namespace FlagBinding

section Programs

variable {σ β ι : Type}

/-- A place after a program. What was assigned before a failure stays. -/
def after (program : EStateM ValueError σ Unit) (s : σ) : σ :=
  match program.run s with
  | .ok _ s' => s'
  | .error _ s' => s'

def afterAll (program : ι → EStateM ValueError σ Unit) (s : σ) (xs : List ι) : σ :=
  xs.foldl (fun s x => after (program x) s) s

@[simp] theorem afterAll_nil (program : ι → EStateM ValueError σ Unit) (s : σ) :
    afterAll program s [] = s := rfl

theorem afterAll_concat (program : ι → EStateM ValueError σ Unit) (s : σ) (xs : List ι) (x : ι) :
    afterAll program s (xs ++ [x]) = after (program x) (afterAll program s xs) := by
  simp [afterAll]

theorem afterAll_concat_ok {program : ι → EStateM ValueError σ Unit} {s s' : σ}
    {xs : List ι} {x : ι} (ends : (program x).run (afterAll program s xs) = .ok () s') :
    afterAll program s (xs ++ [x]) = s' := by
  rw [afterAll_concat, after, ends]

theorem afterAll_concat_error {program : ι → EStateM ValueError σ Unit} {s s' : σ} {xs : List ι}
    {x : ι} {e : ValueError} (fails : (program x).run (afterAll program s xs) = .error e s') :
    afterAll program s (xs ++ [x]) = s' := by
  rw [afterAll_concat, after, fails]

/-- The outcome of an operation that is carried out as a whole or not at all. -/
def whole (s : σ) : Except ValueError σ → EStateM.Result ValueError σ Unit
  | .ok s' => .ok () s'
  | .error e => .error e s

/-- A value that is read before the first assignment. -/
theorem run_ofExcept_bind (x : Except ValueError β) (next : β → EStateM ValueError σ Unit) (s : σ) :
    (MonadExcept.ofExcept x >>= next : EStateM ValueError σ Unit).run s =
      match x with
      | .ok y => (next y).run s
      | .error e => .error e s := by
  cases x <;> rfl

theorem eq_of_run_error {program : EStateM ValueError σ Unit} {s s' : σ} {x : Except ValueError σ}
    {e : ValueError} (runs : program.run s = whole s x) (failed : program.run s = .error e s') :
    s' = s := by
  rw [runs] at failed
  cases x with
  | ok y => cases failed
  | error e => exact (EStateM.Result.error.inj failed).2.symm

end Programs

/-! ## Calls -/

namespace Repeated

variable {α : Type} {c : Codec α}

/-- A call on a list. -/
inductive Call
  | parse (input : String)
  | append (input : String)
  | replace (inputs : List String)

namespace Call

/-- A call as it is carried out, one assignment after the other. -/
def program (c : Codec α) : Call → EStateM ValueError (Repeated α) Unit
  | parse input => do
    let items ← MonadExcept.ofExcept (elements c input)
    if (← get).touched then
      modify fun cell => { cell with items := cell.items ++ items }
    else do
      modify fun cell => { cell with items := items }
      modify fun cell => { cell with touched := true }
  | append input => do
    let item ← MonadExcept.ofExcept (c.decode input)
    modify fun cell => { cell with items := cell.items ++ [item] }
  | replace inputs => do
    let items ← MonadExcept.ofExcept (decodeAll c inputs)
    modify fun cell => { cell with items := items }

def apply (c : Codec α) (cell : Repeated α) : Call → Except ValueError (Repeated α)
  | parse input => cell.parse c input
  | append input => cell.append c input
  | replace inputs => cell.replace c inputs

def items (c : Codec α) : Call → Except ValueError (List α)
  | parse input => elements c input
  | append input => (c.decode input).map fun item => [item]
  | replace inputs => decodeAll c inputs

/-- The cell after a call with the elements that it is about. -/
def put (cell : Repeated α) (items : List α) : Call → Repeated α
  | parse _ => ⟨if cell.touched then cell.items ++ items else items, true⟩
  | append _ => { cell with items := cell.items ++ items }
  | replace _ => { cell with items := items }

/-- The call does not fail. -/
def Succeeds (c : Codec α) (call : Call) : Prop :=
  ∃ items, call.items c = .ok items

/-- The elements that a call contributes: none if it fails. -/
def contribution (c : Codec α) (call : Call) : List α :=
  (call.items c).toOption.getD []

/-- A call that puts its elements in place of all others: a replacement that succeeds, and the first
argument that does, among all calls up to this one. -/
def Resets (c : Codec α) (earlier : List Call) : Call → Prop
  | parse input => (parse input).Succeeds c ∧ ∀ text, parse text ∈ earlier →
      ¬ (parse text).Succeeds c
  | append _ => False
  | replace inputs => (replace inputs).Succeeds c

theorem apply_eq (c : Codec α) (cell : Repeated α) (call : Call) :
    call.apply c cell = (call.items c).map fun items => call.put cell items := by
  cases call with
  | parse input => rw [apply, Repeated.parse, items]; cases elements c input <;> rfl
  | append input => rw [apply, Repeated.append, items]; cases c.decode input <;> rfl
  | replace inputs => rw [apply, Repeated.replace, items]; cases decodeAll c inputs <;> rfl

/-- A call in place is its operation, or nothing. -/
theorem program_run (c : Codec α) (cell : Repeated α) (call : Call) :
    (call.program c).run cell = whole cell (call.apply c cell) := by
  cases call with
  | parse input =>
    rw [program, run_ofExcept_bind, apply, Repeated.parse]
    cases elements c input with
    | error e => rfl
    | ok items =>
      obtain ⟨held, touched⟩ := cell
      cases touched <;> rfl
  | append input =>
    rw [program, run_ofExcept_bind, apply, Repeated.append]
    cases c.decode input <;> rfl
  | replace inputs =>
    rw [program, run_ofExcept_bind, apply, Repeated.replace]
    cases decodeAll c inputs <;> rfl

theorem program_run_ok {cell : Repeated α} {call : Call} {items : List α}
    (found : call.items c = .ok items) :
    (call.program c).run cell = .ok () (call.put cell items) := by
  rw [program_run, apply_eq, found]
  rfl

theorem program_run_error {cell : Repeated α} {call : Call} {e : ValueError}
    (refused : call.items c = .error e) : (call.program c).run cell = .error e cell := by
  rw [program_run, apply_eq, refused]
  rfl

theorem succeeds_or_refused (c : Codec α) (call : Call) :
    call.Succeeds c ∨ ∃ e, call.items c = .error e := by
  rw [Succeeds]
  cases call.items c <;> simp

theorem contribution_of_items {call : Call} {items : List α} (found : call.items c = .ok items) :
    call.contribution c = items := by
  rw [contribution, found]
  rfl

theorem contribution_of_refused {call : Call} {e : ValueError} (refused : call.items c = .error e) :
    call.contribution c = [] := by
  rw [contribution, refused]
  rfl

theorem Resets.succeeds {call : Call} {earlier : List Call} (resets : call.Resets c earlier) :
    call.Succeeds c := by
  cases call with
  | parse input => exact resets.1
  | append input => exact resets.elim
  | replace inputs => exact resets

end Call

/-! ## Runs -/

/-- The cell after calls, of which each may fail. -/
def run (c : Codec α) (cell : Repeated α) (calls : List Call) : Repeated α :=
  afterAll (Call.program c) cell calls

/-- No call of the later ones puts its elements in place of all others. -/
def Quiet (c : Codec α) (earlier later : List Call) : Prop :=
  ∀ before call rest, later = before ++ call :: rest → ¬ call.Resets c (earlier ++ before)

variable {calls earlier later : List Call} {call : Call}

theorem run_concat_ok {cell : Repeated α} {items : List α} (found : call.items c = .ok items) :
    run c cell (calls ++ [call]) = call.put (run c cell calls) items :=
  afterAll_concat_ok (Call.program_run_ok found)

theorem run_concat_error {cell : Repeated α} {e : ValueError} (refused : call.items c = .error e) :
    run c cell (calls ++ [call]) = run c cell calls :=
  afterAll_concat_error (Call.program_run_error refused)

/-- A cell is touched if an argument has been parsed into it. -/
theorem touched_run_iff (c : Codec α) (initial : List α) (calls : List Call) :
    (run c { items := initial } calls).touched = true ↔
      ∃ input, .parse input ∈ calls ∧ (Call.parse input).Succeeds c := by
  induction calls using List.reverseRecOn with
  | nil => simp [run]
  | append_singleton calls call ih =>
    rcases call.succeeds_or_refused c with ⟨items, found⟩ | ⟨e, refused⟩
    · rw [run_concat_ok found]
      cases call with
      | parse input =>
        refine iff_of_true rfl ⟨input, by simp, items, found⟩
      | append input => simpa [Call.put] using ih
      | replace inputs => simpa [Call.put] using ih
    · rw [run_concat_error refused, ih]
      refine exists_congr fun input => and_congr_left fun ⟨items, found⟩ => ?_
      have other : Call.parse input ≠ call := by
        rintro rfl
        rw [refused] at found
        contradiction
      simp [other]

/-- A call that resets leaves its own elements only. -/
theorem items_run_of_resets (initial : List α) (resets : call.Resets c calls) :
    (run c { items := initial } (calls ++ [call])).items = call.contribution c := by
  obtain ⟨items, found⟩ := resets.succeeds
  rw [run_concat_ok found, Call.contribution_of_items found]
  cases call with
  | parse input =>
    have untouched : (run c { items := initial } calls).touched = false := by
      rw [← Bool.not_eq_true, touched_run_iff]
      exact fun ⟨text, mem, succeeds⟩ => resets.2 text mem succeeds
    simp [Call.put, untouched]
  | append input => exact resets.elim
  | replace inputs => rfl

/-- Any other call adds its elements, of which there are none if it fails. -/
theorem items_run_of_not_resets (initial : List α) (keeps : ¬ call.Resets c calls) :
    (run c { items := initial } (calls ++ [call])).items =
      (run c { items := initial } calls).items ++ call.contribution c := by
  rcases call.succeeds_or_refused c with ⟨items, found⟩ | ⟨e, refused⟩
  · rw [run_concat_ok found, Call.contribution_of_items found]
    cases call with
    | parse input =>
      have touched : (run c { items := initial } calls).touched = true := by
        rw [touched_run_iff]
        by_contra fresh
        exact keeps ⟨⟨items, found⟩, fun text mem succeeds => fresh ⟨text, mem, succeeds⟩⟩
      simp [Call.put, touched]
    | append input => rfl
    | replace inputs => exact absurd ⟨items, found⟩ keeps
  · rw [run_concat_error refused, Call.contribution_of_refused refused, List.append_nil]

theorem quiet_nil (c : Codec α) (earlier : List Call) : Quiet c earlier [] := by
  intro before call rest split
  simp at split

theorem quiet_concat_iff :
    Quiet c earlier (later ++ [call]) ↔
      Quiet c earlier later ∧ ¬ call.Resets c (earlier ++ later) := by
  constructor
  · intro quiet
    refine ⟨fun before next rest split => ?_, quiet later call [] rfl⟩
    exact quiet before next (rest ++ [call]) (by simp [split])
  · rintro ⟨quiet, keeps⟩ before next rest split
    rcases rest.eq_nil_or_concat' with rfl | ⟨rest, last, rfl⟩
    · obtain ⟨rfl, ⟨⟩⟩ := List.append_inj' split rfl
      exact keeps
    · rw [← List.cons_append, ← List.append_assoc] at split
      exact quiet before next rest (List.append_inj' split rfl).1

/-- Without a reset, no call but an append succeeds. -/
theorem Quiet.eq_append (quiet : Quiet c [] calls) :
    ∀ call ∈ calls, call.Succeeds c → ∃ input, call = .append input := by
  induction calls using List.reverseRecOn with
  | nil => simp
  | append_singleton calls last ih =>
    obtain ⟨before, keeps⟩ := quiet_concat_iff.1 quiet
    intro call mem succeeds
    rcases List.mem_append.1 mem with mem | mem
    · exact ih before call mem succeeds
    · obtain rfl := List.mem_singleton.1 mem
      cases call with
      | parse input =>
        -- The first argument that succeeds would reset, and before it only appends succeed.
        refine absurd ⟨succeeds, fun text mem succeeds => ?_⟩ keeps
        obtain ⟨_, ⟨⟩⟩ := ih before _ mem succeeds
      | append input => exact ⟨input, rfl⟩
      | replace inputs => exact absurd succeeds keeps

/-- The elements after calls: those that were contributed from the last reset on, or since the
start. -/
theorem items_run (c : Codec α) (initial : List α) (calls : List Call) :
    (∃ earlier reset later, calls = earlier ++ reset :: later ∧ reset.Resets c earlier ∧
        Quiet c (earlier ++ [reset]) later ∧
        (run c { items := initial } calls).items = (reset :: later).flatMap (·.contribution c)) ∨
      Quiet c [] calls ∧
        (run c { items := initial } calls).items = initial ++ calls.flatMap (·.contribution c) := by
  induction calls using List.reverseRecOn with
  | nil => exact .inr ⟨quiet_nil c [], by simp [run]⟩
  | append_singleton calls call ih =>
    by_cases resets : call.Resets c calls
    · refine .inl ⟨calls, call, [], rfl, resets, quiet_nil c _, ?_⟩
      simpa using items_run_of_resets initial resets
    · rw [items_run_of_not_resets initial resets]
      rcases ih with ⟨earlier, reset, later, rfl, first, quiet, held⟩ | ⟨quiet, held⟩
      · refine .inl ⟨earlier, reset, later ++ [call], by simp, first, ?_, ?_⟩
        · exact quiet_concat_iff.2 ⟨quiet, by simpa using resets⟩
        · simp [held]
      · exact .inr ⟨quiet_concat_iff.2 ⟨quiet, resets⟩, by simp [held]⟩

/-- Calls of which none is an argument leave to the next argument what it does. -/
theorem touched_run_append (initial : List α) {others : List Call}
    (none : ∀ input, .parse input ∉ others) :
    (run c { items := initial } (calls ++ others)).touched =
      (run c { items := initial } calls).touched := by
  rw [Bool.eq_iff_iff, touched_run_iff, touched_run_iff]
  simp [none]

/-- A list after any calls on a fresh cell. A call that fails changes nothing of it, and whether it
fails depends on the call alone. A reset is a replacement that succeeds, or the first argument that
does. The list holds what has been contributed from the last reset on, or else its initial elements
and what has been appended to them. The next argument is appended if one has succeeded before,
whatever other calls there are. -/
theorem run_calls (c : Codec α) (initial : List α) (calls : List Call) :
    let final := run c { items := initial } calls
    (∀ (call : Call) cell, (call.program c).run cell = whole cell (call.apply c cell)) ∧
    (∀ (call : Call) cell e cell', (call.program c).run cell = .error e cell' → cell' = cell) ∧
    (∀ (call : Call) cell, (∃ cell', (call.program c).run cell = .ok () cell') ↔ call.Succeeds c) ∧
    ((∃ earlier reset later, calls = earlier ++ reset :: later ∧ reset.Resets c earlier ∧
        Quiet c (earlier ++ [reset]) later ∧
        final.items = (reset :: later).flatMap (·.contribution c)) ∨
      Quiet c [] calls ∧ (∀ call ∈ calls, call.Succeeds c → ∃ input, call = .append input) ∧
        final.items = initial ++ calls.flatMap (·.contribution c)) ∧
    (final.touched = true ↔ ∃ input, .parse input ∈ calls ∧ (Call.parse input).Succeeds c) ∧
    ∀ others : List Call, (∀ input, .parse input ∉ others) →
      ∀ input items, elements c input = .ok items →
        let prior := run c { items := initial } (calls ++ others)
        ((Call.parse input).program c).run prior =
          .ok () ⟨if final.touched then prior.items ++ items else items, true⟩ := by
  intro final
  refine ⟨fun call cell => call.program_run c cell, ?unchanged, ?success, ?held,
    touched_run_iff c initial calls, ?next⟩
  case unchanged =>
    intro call cell e cell' failed
    exact eq_of_run_error (call.program_run c cell) failed
  case success =>
    intro call cell
    rcases call.succeeds_or_refused c with ⟨items, found⟩ | ⟨reason, refused⟩
    · exact iff_of_true ⟨_, Call.program_run_ok found⟩ ⟨items, found⟩
    · simp [Call.program_run_error refused, Call.Succeeds, refused]
  case held =>
    refine (items_run c initial calls).imp_right fun ⟨quiet, held⟩ => ?_
    exact ⟨quiet, quiet.eq_append, held⟩
  case next =>
    intro others none input items found prior
    have read : (Call.parse input).items c = .ok items := found
    rw [Call.program_run_ok read, Call.put, touched_run_append initial none]

/-- The first argument that succeeds drops what was there and what was appended; the one before it
fails on its last element, and the last one is appended. -/
example : (run Codec.bool { items := [true] }
    [.append "false", .parse "true,true,x", .parse "[true]", .parse "y",
      .parse "false,false"]).items =
      [true, false, false] := by
  decide +kernel

end Repeated

end FlagBinding
