import FlagBinding.Check.Nesting

/-!
# What acceptance means

The checks run in an order and end at the first fault. Here their success is taken apart: a schema
is accepted exactly if every part of it passes its own check.

## Main statements

* `accepted_iff`: a schema, by its messages and its nesting.
* `checkMessage_ok_iff`: a message, by its names and its fields.
* `checkNames_ok_iff`: names and aliases, as a condition on pairs of flags.
* `checkField_ok_iff`: the options of a field.
-/

namespace FlagBinding.Check

open Schema

/-! ## Sequences of checks -/

@[simp] theorem require_ok_iff {condition : Bool} {fault : FieldFault} :
    require condition fault = .ok () ↔ condition = true := by
  unfold require
  split <;> simp_all

theorem bind_ok_iff {ε α β : Type} {x : Except ε α} {f : α → Except ε β} {b : β} :
    (x >>= f) = .ok b ↔ ∃ a, x = .ok a ∧ f a = .ok b := by
  cases x <;> simp [bind, Except.bind]

theorem then_ok_iff {ε : Type} {x : Except ε Unit} {y : Except ε Unit} :
    (do x; y) = .ok () ↔ x = .ok () ∧ y = .ok () :=
  bind_ok_iff.trans ⟨fun ⟨_, hx, hy⟩ => ⟨hx, hy⟩, fun ⟨hx, hy⟩ => ⟨(), hx, hy⟩⟩

@[simp] theorem mapError_ok {ε ε' α : Type} (f : ε → ε') (a : α) :
    (Except.ok a).mapError f = .ok a := rfl

@[simp] theorem mapError_error {ε ε' α : Type} (f : ε → ε') (e : ε) :
    (Except.error e : Except ε α).mapError f = .error (f e) := rfl

/-! ## Names and aliases -/

/-- Two flags of a message that can stand beside each other. -/
def Compatible (a b : Flagged) : Prop :=
  a.1.flagName a.2 ≠ b.1.flagName b.2 ∧
    (a.2.common.short = none ∨ a.2.common.short ≠ b.2.common.short)

theorem clash?_eq_none_iff {seen : List Flagged} {f : Field} {flags : FieldFlags} :
    clash? seen f flags = none ↔ ∀ other ∈ seen, Compatible other (f, flags) := by
  unfold clash?
  split
  case h_1 other found =>
    have mem := List.mem_of_find?_eq_some found
    have same : other.1.flagName other.2 = f.flagName flags := by
      simpa using List.find?_some found
    simp only [reduceCtorEq, false_iff]
    exact fun all => (all other mem).1 same
  case h_2 fresh =>
    rw [List.find?_eq_none] at fresh
    simp only [decide_eq_true_eq] at fresh
    cases hs : flags.common.short with
    | none =>
      simp only [Option.bind_none, true_iff]
      intro other mem
      refine ⟨fresh other mem, ?_⟩
      cases h : other.2.common.short <;> simp [hs]
    | some short =>
      simp only [Option.bind_some, Option.map_eq_none_iff, List.find?_eq_none, decide_eq_true_eq]
      refine forall₂_congr fun other mem => ?_
      simp only [Compatible, hs, ne_eq, fresh other mem, not_false_eq_true, true_and]
      cases h : other.2.common.short <;> simp

theorem firstClash?_eq_none_iff {seen flags : List Flagged} :
    firstClash? seen flags = none ↔
      (∀ b ∈ flags, ∀ a ∈ seen, Compatible a b) ∧ flags.Pairwise Compatible := by
  induction flags generalizing seen with
  | nil => simp [firstClash?]
  | cons x rest ih =>
    unfold firstClash?
    split
    case h_1 fault clash =>
      simp only [reduceCtorEq, false_iff]
      intro pairs
      have := clash?_eq_none_iff.2 (pairs.1 x (by simp))
      simp [clash] at this
    case h_2 none =>
      rw [clash?_eq_none_iff] at none
      rw [ih, List.pairwise_cons]
      simp only [List.mem_append, List.mem_cons]
      grind

theorem checkNames_ok_iff {m : Message} :
    checkNames m = .ok () ↔ (registering m).Pairwise Compatible := by
  unfold checkNames
  split
  case h_1 f fault clash =>
    have : ¬ (registering m).Pairwise Compatible := fun pairs => by
      have free : firstClash? [] (registering m) = none :=
        firstClash?_eq_none_iff.2 ⟨by simp, pairs⟩
      simp [clash] at free
    simp [this]
  case h_2 none => simp [(firstClash?_eq_none_iff.1 none).2]

/-! ## Messages and schemas -/

theorem checkField_ok_iff {s : Schema} {f : Field} {flags : FieldFlags} :
    checkField s f flags = .ok () ↔ f.oneof = none ∧
      (flags.common.disabled = false →
        checkKind s f flags.kind = .ok () ∧ checkCommon flags = .ok ()) := by
  unfold checkField
  split
  · simp_all
  · split <;> simp_all [then_ok_iff]

theorem checkFlagged_ok_iff {s : Schema} {m : Message} {x : Flagged} :
    (checkFlagged s m x).result = .ok () ↔ checkField s x.1 x.2 = .ok () := by
  rw [checkFlagged, Journaled.result_bind, Journaled.result_note, Journaled.result_lift]
  cases checkField s x.1 x.2 <;> simp [Except.bind]

theorem checkAll_ok_iff {s : Schema} {m : Message} {xs : List Flagged} :
    (checkAll s m xs).result = .ok () ↔ ∀ x ∈ xs, checkField s x.1 x.2 = .ok () := by
  induction xs with
  | nil => simp [checkAll]
  | cons x xs ih =>
    rw [checkAll, Journaled.result_bind, List.forall_mem_cons, ← checkFlagged_ok_iff (m := m), ← ih]
    cases (checkFlagged s m x).result <;> simp [Except.bind]

/-- A message is disabled, or its names and its fields pass. -/
theorem checkMessage_ok_iff {s : Schema} {m : Message} :
    (checkMessage s m).result = .ok () ↔ (m.disabled = false →
      (registering m).Pairwise Compatible ∧ ∀ x ∈ flagged m, checkField s x.1 x.2 = .ok ()) := by
  unfold checkMessage
  split
  case isTrue off => simp [off]
  case isFalse on =>
    rw [Journaled.result_bind, Journaled.result_note, ← checkNames_ok_iff,
      ← checkAll_ok_iff (m := m)]
    cases checkNames m <;> simp [on, Except.bind]

theorem checkMessages_ok_iff {s : Schema} {ms : List Message} :
    (checkMessages s ms).result = .ok () ↔ ∀ m ∈ ms, (checkMessage s m).result = .ok () := by
  induction ms with
  | nil => simp [checkMessages]
  | cons m ms ih =>
    rw [checkMessages, Journaled.result_bind, List.forall_mem_cons, ← ih]
    cases (checkMessage s m).result <;> simp [Except.bind]

/-- All checks of a schema pass. -/
def Accepted (s : Schema) : Prop :=
  (checkSchema s).result = .ok ()

theorem accepted_iff {s : Schema} : Accepted s ↔
    (∀ m ∈ wantedMessages s, (checkMessage s m).result = .ok ()) ∧ checkNesting s = .ok () := by
  rw [Accepted, checkSchema, Journaled.result_bind, ← checkMessages_ok_iff]
  cases (checkMessages s (wantedMessages s)).result <;> simp [Except.bind]

/-- The options of a field, in a message that is not disabled, of an accepted schema. -/
theorem Accepted.checkField {s : Schema} (accepted : Accepted s) {m : Message}
    (wanted : m ∈ wantedMessages s) (enabled : m.disabled = false) {x : Flagged}
    (mem : x ∈ flagged m) : checkField s x.1 x.2 = .ok () :=
  (checkMessage_ok_iff.1 ((accepted_iff.1 accepted).1 m wanted) enabled).2 x mem

end FlagBinding.Check
