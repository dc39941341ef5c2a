import FlagBinding.Emit.Plan
import FlagBinding.Proofs.Checks.Search

/-!
# The steps of a checked message

A plan has a step for every enabled field: a registration with the name and alias that the checks
have looked at, or the binding of a message that the search has looked at.

## Main definitions

* `Passes`: a message whose names and fields pass their checks.
* `Covered`: code is wanted for a message and for all that it nests.
* `AllPass`: a message passes its checks with all that it nests.
* `NestedWithin`: a bound for the depth to which messages are nested.

## Main statements

* `Accepted.allPass`: what acceptance says about a covered message.
* `Passes.nests_of_mem_steps`: what is bound in turn is a message that is nested.
* `Passes.exists_flagged_of_mem_steps`: what is registered is the flag of a checked field.
* `Accepted.nestedWithin`: nesting comes to an end.
-/

namespace FlagBinding.Check

open Schema Emit

theorem mem_flagged_iff {m : Message} {x : Flagged} :
    x ∈ flagged m ↔ x.1 ∈ m.fields ∧ x.1.flags = some x.2 := by
  simp only [flagged, List.mem_filterMap, Option.map_eq_some_iff]
  constructor
  · rintro ⟨f, hf, flags, hs, rfl⟩
    exact ⟨hf, hs⟩
  · exact fun ⟨hf, hs⟩ => ⟨x.1, hf, x.2, hs, rfl⟩

theorem collect_eq_filterMap {α : Type} (m : Message) (g : Field → FieldFlags → Option α) :
    collect m g = (flagged m).filterMap fun x => g x.1 x.2 := by
  rw [collect, flagged, List.filterMap_filterMap]
  refine List.filterMap_congr fun f _ => ?_
  cases f.flags <;> rfl

theorem mem_collect_iff {α : Type} {m : Message} {g : Field → FieldFlags → Option α} {a : α} :
    a ∈ collect m g ↔ ∃ x ∈ flagged m, g x.1 x.2 = some a := by
  rw [collect_eq_filterMap, List.mem_filterMap]

/-! ## The step of a field -/

variable {f : Field} {flags : FieldFlags}

theorem registers_iff : flags.registers ↔
    flags.common.disabled = false ∧ ∀ nested, flags.kind ≠ .message nested := by
  unfold FieldFlags.registers
  cases flags.kind <;> simp

theorem nests_iff :
    flags.nests ↔ flags.common.disabled = false ∧ flags.kind = .message true := by
  unfold FieldFlags.nests
  cases flags.kind <;> simp

theorem bindStep_eq_nest_iff {field segment target : String} :
    BindStep.of? f flags = some (.nest field segment target) ↔
      flags.nests ∧ field = f.name ∧ segment = f.flagName flags ∧ target = f.type.describe := by
  rw [nests_iff]
  unfold BindStep.of?
  cases flags.common.disabled
  case true => simp
  case false => cases flags.kind with
    | message nested => cases nested <;> simp [eq_comm]
    | _ => simp [Option.map_eq_some_iff]

theorem bindStep_eq_register_iff {r : Registration} :
    BindStep.of? f flags = some (.register r) ↔
      flags.registers ∧ Registration.of? f flags = some r := by
  rw [registers_iff]
  unfold BindStep.of?
  cases flags.common.disabled
  case true => simp
  case false => cases h : flags.kind with
    | message nested => cases nested <;> simp [Registration.of?, CellTerm.ofKind?, h]
    | _ => simp

theorem defaultStep_eq_nest_iff {field target : String} :
    DefaultStep.of? f flags = some (.nest field target) ↔
      flags.nests ∧ field = f.name ∧ target = f.type.describe := by
  rw [nests_iff]
  unfold DefaultStep.of?
  cases flags.common.disabled
  case true => simp
  case false => cases flags.kind with
    | message nested => cases nested <;> simp [eq_comm]
    | scalar kind default => cases default <;> simp
    | _ => simp

theorem defaultStep_eq_assign_iff {field : String} {mayBeMissing : Bool} {value : DefaultValue} :
    DefaultStep.of? f flags = some (.assign field mayBeMissing value) ↔
      flags.common.disabled = false ∧
        (∃ kind, flags.kind = .scalar kind (some value) ∧ kind.carrier = value.carrier) ∧
        field = f.name ∧ mayBeMissing = scalarMayBeMissing f := by
  unfold DefaultStep.of?
  cases flags.common.disabled
  case true => simp
  case false => cases flags.kind with
    | message nested => cases nested <;> simp
    | scalar kind default =>
      cases default with
      | none => simp
      | some given =>
        simp only [Bool.false_eq_true, if_false]
        grind
    | _ => simp

/-- What a registration takes over from the options. -/
theorem registration_of? {r : Registration} (h : Registration.of? f flags = some r) :
    CellTerm.ofKind? f flags.kind = some r.cell ∧ r.field = f.name ∧ r.flag = f.flagName flags ∧
      r.short = (flags.common.short.bind fun s => s.toList.head?) ∧ r.usage = flags.common.usage ∧
      r.hidden = flags.common.hidden ∧ r.deprecation =
        if flags.common.deprecated then some flags.common.deprecatedUsage else none := by
  obtain ⟨cell, hc, rfl⟩ := Option.map_eq_some_iff.1 h
  exact ⟨hc, rfl, rfl, rfl, rfl, rfl, rfl⟩

/-! ## Checked messages -/

theorem checkNested_ok_iff {s : Schema} : checkNested s f = .ok () ↔
    f.isSingular ∧ ∃ type n, f.type = .message type ∧ type.wellKnown = none ∧
      target? s type.fullName = some n := by
  rw [checkNested, then_ok_iff, require_ok_iff]
  refine and_congr_right fun _ => ?_
  cases f.type with
  | message type =>
    simp only [FieldType.message.injEq, exists_and_left, exists_eq_left', target?_eq_some_iff]
    rw [then_ok_iff, require_ok_iff, Option.isNone_iff_eq_none]
    refine and_congr_right fun _ => ?_
    cases s.findMessage? type.fullName <;> simp
  | _ => simp

theorem checkCommon_ok_iff : checkCommon flags = .ok () ↔
    (∀ short, flags.common.short = some short → short.length = 1) ∧
      (flags.registers → isBlankText flags.common.usage = false) ∧
      (flags.common.deprecated → isBlankText flags.common.deprecatedUsage = false) := by
  rw [checkCommon, then_ok_iff, then_ok_iff, require_ok_iff, require_ok_iff]
  have short : checkShort flags.common.short = .ok () ↔
      ∀ short, flags.common.short = some short → short.length = 1 := by
    cases flags.common.short <;> simp [checkShort]
  rw [short]
  cases flags.registers <;> cases flags.common.deprecated <;> simp

/-- Texts of one character, as aliases are, are told apart by it. -/
theorem eq_of_head?_eq {a b : String} (ha : a.length = 1) (hb : b.length = 1)
    (same : a.toList.head? = b.toList.head?) : a = b := by
  rw [← String.length_toList, List.length_eq_one_iff] at ha hb
  obtain ⟨c, hc⟩ := ha
  obtain ⟨d, hd⟩ := hb
  rw [← String.toList_inj, hc, hd]
  simpa [hc, hd] using same

/-- A message that is not disabled and whose names and fields pass their checks. -/
structure Passes (s : Schema) (m : Message) : Prop where
  enabled : m.disabled = false
  names : (registering m).Pairwise Compatible
  fields : ∀ x ∈ flagged m, checkField s x.1 x.2 = .ok ()

/-- Code is wanted for a message and for all messages nested in it, however deep. -/
def Covered (s : Schema) (m : Message) : Prop :=
  ∀ n, Relation.ReflTransGen (Nests s) m n → n ∈ wantedMessages s

variable {s : Schema} {m : Message}

/-- If code is wanted for all files then every message is covered. -/
theorem covered_of_generate (generate : ∀ file ∈ s.files, file.generate) (mem : m ∈ s.messages) :
    Covered s m := by
  have all : wantedMessages s = s.messages := by
    rw [wantedMessages, Schema.wanted, List.filter_eq_self.2 generate, Schema.messages]
  intro n reached
  rw [all]
  cases reached with
  | refl => exact mem
  | tail _ last =>
    obtain ⟨name, -, found⟩ := last
    exact (mem_of_findMessage? (target?_eq_some_iff.1 found).1).1

theorem Accepted.passes (accepted : Accepted s) (wanted : m ∈ wantedMessages s)
    (enabled : m.disabled = false) : Passes s m := by
  have ⟨names, fields⟩ := checkMessage_ok_iff.1 ((accepted_iff.1 accepted).1 m wanted) enabled
  exact ⟨enabled, names, fields⟩

namespace Passes

theorem nested_ok (passes : Passes s m) {x : Flagged} (mem : x ∈ flagged m) (nests : x.2.nests) :
    checkNested s x.1 = .ok () := by
  obtain ⟨enabled, kind⟩ := nests_iff.1 nests
  have ok := ((checkField_ok_iff.1 (passes.fields x mem)).2 enabled).1
  simpa [kind, checkKind] using ok

/-- A field that is bound in turn holds a message that is nested. -/
theorem exists_nested (passes : Passes s m) {x : Flagged} (mem : x ∈ flagged m)
    (nests : x.2.nests) :
    ∃ type n, x.1.type = .message type ∧ target? s type.fullName = some n ∧
      relativeName type.fullName ∈ nestedNames m ∧ Nests s m n := by
  obtain ⟨-, type, n, typed, -, found⟩ := checkNested_ok_iff.1 (passes.nested_ok mem nests)
  obtain ⟨hf, hs⟩ := mem_flagged_iff.1 mem
  have listed : relativeName type.fullName ∈ nestedNames m :=
    List.mem_filterMap.2 ⟨x.1, hf, by simp [Field.nestedTarget?, hs, typed, nests]⟩
  refine ⟨type, n, typed, found, listed, relativeName type.fullName, listed, ?_⟩
  rwa [target?, findMessage?_relativeName]

/-- What is bound in turn is a message that is nested. -/
theorem nests_of_mem_steps (passes : Passes s m) {field segment target : String}
    (mem : .nest field segment target ∈ (Plan.ofMessage m).steps) :
    ∃ n, target? s target = some n ∧ relativeName target ∈ nestedNames m ∧ Nests s m n := by
  obtain ⟨x, hx, step⟩ := mem_collect_iff.1 mem
  obtain ⟨nests, -, -, rfl⟩ := bindStep_eq_nest_iff.1 step
  obtain ⟨type, n, typed, found, listed, nested⟩ := passes.exists_nested hx nests
  rw [typed]
  exact ⟨n, found, listed, nested⟩

/-- What is registered is the flag of a field whose options have been checked. -/
theorem exists_flagged_of_mem_steps (passes : Passes s m) {r : Registration}
    (mem : .register r ∈ (Plan.ofMessage m).steps) :
    ∃ x ∈ flagged m, x.2.registers ∧ Registration.of? x.1 x.2 = some r ∧
      checkKind s x.1 x.2.kind = .ok () ∧ checkCommon x.2 = .ok () := by
  obtain ⟨x, hx, step⟩ := mem_collect_iff.1 mem
  obtain ⟨registers, hr⟩ := bindStep_eq_register_iff.1 step
  exact ⟨x, hx, registers, hr,
    (checkField_ok_iff.1 (passes.fields x hx)).2 (registers_iff.1 registers).1⟩

end Passes

/-- All messages that are reached from a message pass their checks. -/
def AllPass (s : Schema) (m : Message) : Prop :=
  ∀ n, Relation.ReflTransGen (Nests s) m n → Passes s n

theorem AllPass.nested {n : Message} (pass : AllPass s m) (nests : Nests s m n) : AllPass s n :=
  fun k reached => pass k (.head nests reached)

theorem AllPass.nests_of_mem_steps (pass : AllPass s m) {field segment target : String}
    (mem : .nest field segment target ∈ (Plan.ofMessage m).steps) {n : Message}
    (look : s.findMessage? target = some n) : Nests s m n := by
  obtain ⟨k, found, -, nests⟩ := (pass m .refl).nests_of_mem_steps mem
  obtain rfl : k = n := by simpa [look] using (target?_eq_some_iff.1 found).1.symm
  exact nests

/-- All messages of a covered tree pass their checks. -/
theorem Accepted.allPass (accepted : Accepted s) (enabled : m.disabled = false)
    (covered : Covered s m) : AllPass s m := by
  intro n reached
  refine accepted.passes (covered n reached) ?_
  cases reached with
  | refl => exact enabled
  | tail _ last =>
    obtain ⟨name, -, found⟩ := last
    exact (target?_eq_some_iff.1 found).2

/-- Below a message, others are nested to a depth less than a number. -/
inductive NestedWithin (s : Schema) : Nat → Message → Prop
  | intro {depth : Nat} {m : Message} (below : ∀ n, Nests s m n → NestedWithin s depth n) :
      NestedWithin s (depth + 1) m

theorem NestedWithin.mono {depth depth' : Nat} (h : NestedWithin s depth m) (le : depth ≤ depth') :
    NestedWithin s depth' m := by
  induction h generalizing depth' with
  | intro _ ih =>
    obtain ⟨k, rfl⟩ : ∃ k, depth' = k + 1 := ⟨depth' - 1, by omega⟩
    exact .intro fun n nests => ih n nests (by omega)

theorem NestedWithin.acc {depth : Nat} (h : NestedWithin s depth m) :
    Acc (fun n k => Nests s k n) m := by
  induction h with
  | intro _ ih => exact .intro _ ih

/-- Below a message that a search has put in order are only those that come later. -/
theorem nestedWithin_of_ordered {done : List String} (ordered : Ordered s done) {name : String}
    (mem : name ∈ done) (found : target? s name = some m) : NestedWithin s done.length m := by
  induction ordered generalizing name m with
  | nil => simp at mem
  | @cons first k done _ _ here nested _ ih =>
    rcases List.mem_cons.1 mem with rfl | mem
    · obtain rfl : k = m := by simpa [here] using found
      refine .intro fun n nests => ?_
      have ⟨target, listed, found⟩ := nests
      exact ih (nested target listed (by simp [found])) found
    · exact (ih mem found).mono (Nat.le_succ _)

/-- Below a covered message of an accepted schema, no message is nested deeper than there are
messages. -/
theorem Accepted.nestedWithin (accepted : Accepted s) (covered : Covered s m) :
    NestedWithin s (s.messages.length + 1) m := by
  obtain ⟨done, ordered, reached⟩ := exists_ordered_of_checkNesting (accepted_iff.1 accepted).2
  have short : done.length ≤ s.messages.length := length_le_of_nodup ordered.nodup ordered.subset
  refine .intro fun n nests => ?_
  have ⟨name, _, here⟩ := nests
  have found := target?_fullName here
  have listed := reached n (covered n (.single nests)) (by simp [found])
  exact (nestedWithin_of_ordered ordered listed found).mono short

end FlagBinding.Check
