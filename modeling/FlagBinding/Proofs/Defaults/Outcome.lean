import FlagBinding.Proofs.Defaults.Execution
import FlagBinding.Proofs.Emission.Outputs
import FlagBinding.Proofs.Emission.WellTyped

/-!
# What the emitted statements assign

The statements that are emitted for a message assign its declared defaults and those of the messages
that it nests, however deep, and nothing else. They come to an end, and to execute them again
changes nothing. But there are only statements for messages in a file with options, and where one of
the messages has none, there is no execution.

## Main definitions

* `declaredDefault?`, `NestsInto`: what the options of a field say.
* `Defaulted`: a structure in which exactly the declared defaults have been assigned.

## Main statements

* `exists_completes`: what the statements of a message do, by induction along the nesting.
* `hasCode_of_runs`: what has been executed has been emitted.
* `setDefaults_exact`: the statements of a message of an accepted schema.
-/

namespace FlagBinding.Emit

open Schema Target Binding Check Relation

/-- The default that the options of a field declare, unless they are disabled. -/
def declaredDefault? (f : Field) : Option DefaultValue :=
  match f.flags with
  | some ⟨common, .scalar _ default⟩ => if common.disabled then none else default
  | _ => none

/-- A default as the field holds it. -/
def stored (f : Field) (v : DefaultValue) : Content :=
  if scalarMayBeMissing f then .optional (some (defaultDatum v)) else .plain (defaultDatum v)

/-- The enabled options of a field nest the message that it holds. -/
def NestsInto (s : FlagBinding.Schema) (f : Field) (n : Message) : Prop :=
  ∃ flags type, f.flags = some flags ∧ flags.nests ∧ f.type = .message type ∧
    s.findMessage? type.fullName = some n

/-- Between two values of the structure for a message, exactly the declared defaults have been
assigned: to its own fields, and in turn to the messages that it nests, which are created if they
are missing. -/
inductive Defaulted (s : FlagBinding.Schema) (initial : Message → Record) :
    Message → Record → Record → Prop
  | intro {m : Message} {before after : Record} (names : after.map (·.1) = before.map (·.1))
      (assigned : ∀ f ∈ m.fields, ∀ v, declaredDefault? f = some v →
        after.get? (fieldName f.name) = some (stored f v))
      (present : ∀ f ∈ m.fields, ∀ n, NestsInto s f n →
        ∃ inner, after.get? (fieldName f.name) = some (.message (some inner)))
      (nested : ∀ f ∈ m.fields, ∀ n, NestsInto s f n → ∀ held inner,
        before.get? (fieldName f.name) = some (.message held) →
        after.get? (fieldName f.name) = some (.message (some inner)) →
        Defaulted s initial n (held.getD (initial n)) inner)
      (kept : ∀ name, (∀ f ∈ m.fields, (declaredDefault? f).isSome ∨ (∃ n, NestsInto s f n) →
        fieldName f.name ≠ name) → after.get? name = before.get? name) :
      Defaulted s initial m before after

/-- What is asked of a message: its members have distinct names, its declared numbers are numbers of
their formats, and it is created as a value of its structure. -/
structure Prepared (s : FlagBinding.Schema) (initial : Message → Record) (m : Message) : Prop where
  distinct : (memberNames m).Nodup
  numbers : ∀ f ∈ m.fields, ∀ v, declaredDefault? f = some v → v.IsCanonical
  created : IsStruct s m (initial m)

/-- The statements that are emitted for a message. -/
def setDefaults (runtime : String) (m : Message) : List Stmt :=
  ((Plan.ofMessage m).defaultsImpl runtime).method.body

/-- The statements for a message turn one value into just one other, which they leave as it is. -/
structure Completes (s : FlagBinding.Schema) (runtime : String) (initial : Message → Record)
    (m : Message) (before after : Record) : Prop where
  runs : ∀ r, Runs s runtime initial m (setDefaults runtime m) before r ↔ r = after
  again : ∀ r, Runs s runtime initial m (setDefaults runtime m) after r ↔ r = after
  struct : IsStruct s m after
  defaulted : Defaulted s initial m before after

variable {s : FlagBinding.Schema} {runtime : String} {initial : Message → Record} {m : Message}
  {before : Record} {f : Field}

/-! ## The step of a field -/

def step? (f : Field) : Option DefaultStep :=
  f.flags.bind (DefaultStep.of? f)

/-- The fields that have a step, with their steps. -/
def touched (m : Message) : List (Field × DefaultStep) :=
  m.fields.filterMap fun f => (step? f).map (f, ·)

theorem mem_touched_iff {x : Field × DefaultStep} :
    x ∈ touched m ↔ x.1 ∈ m.fields ∧ step? x.1 = some x.2 := by
  simp only [touched, List.mem_filterMap, Option.map_eq_some_iff]
  constructor
  · rintro ⟨f, mem, d, step, rfl⟩
    exact ⟨mem, step⟩
  · exact fun ⟨mem, step⟩ => ⟨x.1, mem, x.2, step, rfl⟩

theorem defaults_eq (m : Message) : (Plan.ofMessage m).defaults = (touched m).map (·.2) := by
  rw [touched, List.map_filterMap]
  refine List.filterMap_congr fun f _ => ?_
  rw [Option.map_map]
  exact (congrFun Option.map_id _).symm

theorem setDefaults_eq (runtime : String) (m : Message) :
    setDefaults runtime m = (touched m).map fun x => x.2.code runtime := by
  rw [setDefaults, Plan.defaultsImpl, defaults_eq, List.map_map]
  rfl

/-- What the step of a field puts in place of what the field held. -/
inductive Puts (s : FlagBinding.Schema) (runtime : String) (initial : Message → Record)
    (f : Field) : Content → Content → Prop
  | assigned {old : Content} {v : DefaultValue} (declared : declaredDefault? f = some v) :
      Puts s runtime initial f old (stored f v)
  | nested {held : Option Record} {n : Message} {inner : Record} (nests : NestsInto s f n)
      (completes : Completes s runtime initial n (held.getD (initial n)) inner) :
      Puts s runtime initial f (.message held) (.message (some inner))

theorem declaredDefault?_eq_some_iff {v : DefaultValue} : declaredDefault? f = some v ↔
    ∃ flags kind, f.flags = some flags ∧ flags.common.disabled = false ∧
      flags.kind = .scalar kind (some v) := by
  unfold declaredDefault?
  split
  case h_1 common kind default flags => cases h : common.disabled <;> simp [flags, h]
  case h_2 other =>
    simp only [reduceCtorEq, false_iff, not_exists, not_and]
    intro flags kind listed _ scalar
    exact other flags.common kind (some v) (by rw [listed, ← scalar])

/-- No field both declares a default and nests a message. -/
theorem NestsInto.not_declared {n : Message} (nests : NestsInto s f n) :
    declaredDefault? f = none := by
  refine Option.eq_none_iff_forall_ne_some.2 fun v declared => ?_
  obtain ⟨flags, kind, listed, -, scalar⟩ := declaredDefault?_eq_some_iff.1 declared
  obtain ⟨flags', type, listed', nests, -⟩ := nests
  obtain rfl := Option.some.inj (listed.symm.trans listed')
  simp [(nests_iff.1 nests).2] at scalar

theorem NestsInto.unique {n n' : Message} (h : NestsInto s f n) (h' : NestsInto s f n') :
    n = n' := by
  obtain ⟨flags, type, listed, -, typed, found⟩ := h
  obtain ⟨flags', type', listed', -, typed', found'⟩ := h'
  obtain rfl := FieldType.message.inj (typed.symm.trans typed')
  exact Option.some.inj (found.symm.trans found')

theorem type_defaultDatum (v : DefaultValue) : (defaultDatum v).type = .ofCarrier v.carrier := by
  cases v <;> rfl

theorem stored_isOf {v : DefaultValue}
    (storage : storageOf f = if scalarMayBeMissing f then .optional (.ofCarrier v.carrier)
      else .plain (.ofCarrier v.carrier)) : (stored f v).IsOf (memberType f) := by
  rw [memberType, storage, stored]
  cases scalarMayBeMissing f with
  | false => exact type_defaultDatum v
  | true =>
    have same : ∀ d ∈ some (defaultDatum v), d.type = .ofCarrier v.carrier := by
      simpa using type_defaultDatum v
    simp only [if_true]
    generalize v.carrier = carrier at same ⊢
    cases carrier <;> exact same

section Passes

variable (passes : Passes s m) (mem : f ∈ m.fields)
include passes mem

theorem oneof_of_step {d : DefaultStep} (step : step? f = some d) : f.oneof = none := by
  obtain ⟨flags, listed, -⟩ := Option.bind_eq_some_iff.1 step
  exact (checkField_ok_iff.1 (passes.fields (f, flags) (mem_flagged_iff.2 ⟨mem, listed⟩))).1

theorem mem_members_of_step {d : DefaultStep} (step : step? f = some d) : f ∈ members m :=
  List.mem_filter.2 ⟨mem, by simp [oneof_of_step passes mem step]⟩

theorem step_of_declared {v : DefaultValue} (declared : declaredDefault? f = some v) :
    step? f = some (.assign f.name (scalarMayBeMissing f) v) ∧
      (stored f v).IsOf (memberType f) := by
  obtain ⟨flags, kind, listed, enabled, scalar⟩ := declaredDefault?_eq_some_iff.1 declared
  have ok :=
    (checkField_ok_iff.1 (passes.fields (f, flags) (mem_flagged_iff.2 ⟨mem, listed⟩))).2 enabled
  obtain ⟨step, storage⟩ := default_of_checkKind enabled scalar ok.1
  exact ⟨by rw [step?, listed]; exact step, stored_isOf storage⟩

theorem step_of_nests {n : Message} (nests : NestsInto s f n) :
    step? f = some (.nest f.name f.type.describe) ∧ memberType f = .message f.type.describe ∧
      s.findMessage? f.type.describe = some n ∧ Nests s m n := by
  obtain ⟨flags, type, listed, nested, typed, found⟩ := nests
  have flag : (f, flags) ∈ flagged m := mem_flagged_iff.2 ⟨mem, listed⟩
  obtain ⟨singular, type', -, typed', own, -⟩ := checkNested_ok_iff.1 (passes.nested_ok flag nested)
  obtain rfl := FieldType.message.inj (typed.symm.trans typed')
  obtain ⟨type', n', typed', target, -, nests⟩ := passes.exists_nested flag nested
  obtain rfl := FieldType.message.inj (typed.symm.trans typed')
  obtain rfl := Option.some.inj (found.symm.trans (target?_eq_some_iff.1 target).1)
  have step : DefaultStep.of? f flags = some (.nest f.name f.type.describe) :=
    defaultStep_eq_nest_iff.2 ⟨nested, rfl, rfl⟩
  refine ⟨by rw [step?, listed]; exact step, ?_, ?_, nests⟩
  · rw [memberType_of_message singular typed own, typed]
    rfl
  · rw [typed]
    exact found

theorem declared_or_nests {d : DefaultStep} (step : step? f = some d) :
    (∃ v, declaredDefault? f = some v) ∨ ∃ n, NestsInto s f n := by
  obtain ⟨flags, listed, step⟩ := Option.bind_eq_some_iff.1 step
  cases d with
  | assign field mayBeMissing value =>
    obtain ⟨enabled, ⟨kind, scalar, -⟩, -⟩ := defaultStep_eq_assign_iff.1 step
    exact .inl ⟨value, declaredDefault?_eq_some_iff.2 ⟨flags, kind, listed, enabled, scalar⟩⟩
  | nest field target =>
    obtain ⟨nests, -⟩ := defaultStep_eq_nest_iff.1 step
    have flag : (f, flags) ∈ flagged m := mem_flagged_iff.2 ⟨mem, listed⟩
    obtain ⟨type, n, typed, found, -⟩ := passes.exists_nested flag nests
    exact .inr ⟨n, flags, type, listed, nests, typed, (target?_eq_some_iff.1 found).1⟩

end Passes

/-! ## The statement of a field -/

theorem evaluate?_stored {v : DefaultValue} (canonical : v.IsCanonical) :
    evaluate? (if scalarMayBeMissing f then present (.literal (bareLiteral v))
      else .literal (bareLiteral v)) = some (stored f v) := by
  have value := literalValue?_bareLiteral canonical
  unfold stored
  cases scalarMayBeMissing f <;> simp [present, evaluate?, value]

/-- A statement puts a content in place of another one, and leaves it there when it is executed
again. -/
structure Replaces (s : FlagBinding.Schema) (runtime : String) (initial : Message → Record)
    (m : Message) (x : Field × DefaultStep) (old new : Content) : Prop where
  puts : Puts s runtime initial x.1 old new
  typed : new.IsOf (memberType x.1)
  effect : ∀ r, r.get? (fieldName x.1.name) = some old ∨ r.get? (fieldName x.1.name) = some new →
    ∀ body r', Runs s runtime initial m (x.2.code runtime :: body) r r' ↔
      Runs s runtime initial m body (r.put (fieldName x.1.name) new) r'

/-- The statement of a checked field replaces what the field holds, if the functions of the messages
that are nested do what they are for. -/
theorem exists_replaces (unique : (fullNames s).Nodup) (passes : Passes s m)
    (prepared : Prepared s initial m) (struct : IsStruct s m before)
    (created : ∀ n, Nests s m n → IsStruct s n (initial n))
    (emitted : ∀ n, Nests s m n → Emitted s runtime n (setDefaults runtime n))
    (completes : ∀ n, Nests s m n → ∀ r, IsStruct s n r → ∃ r', Completes s runtime initial n r r')
    {x : Field × DefaultStep} (mem : x ∈ touched m) :
    ∃ old new, before.get? (fieldName x.1.name) = some old ∧
      Replaces s runtime initial m x old new := by
  obtain ⟨f, d⟩ := x
  obtain ⟨listed, step⟩ : f ∈ m.fields ∧ step? f = some d := mem_touched_iff.1 mem
  have member := mem_members_of_step passes listed step
  obtain ⟨-, holds, nested⟩ := struct
  obtain ⟨old, there, typed⟩ := holds f member
  rcases declared_or_nests passes listed step with ⟨v, declared⟩ | ⟨n, nests⟩
  case inl =>
    obtain ⟨step', fits⟩ := step_of_declared passes listed declared
    obtain rfl := Option.some.inj (step.symm.trans step')
    have value := evaluate?_stored (f := f) (prepared.numbers f listed v declared)
    exact ⟨old, stored f v, there, .assigned declared, fits,
      fun r _ body r' => runs_assign_iff member value fits⟩
  case inr =>
    obtain ⟨step', message, found, reached⟩ := step_of_nests passes listed nests
    obtain rfl := Option.some.inj (step.symm.trans step')
    rw [message] at typed
    obtain ⟨held, rfl⟩ := typed.exists_message
    obtain ⟨inner, complete⟩ := completes n reached (held.getD (initial n)) (by
      cases held with
      | none => exact created n reached
      | some r => exact nested f member _ n r message found there)
    refine ⟨_, .message (some inner), there, .nested nests complete, ?_, fun r now body r' => ?_⟩
    · rw [message]
      trivial
    -- A call finds the message that the field held, or the one that the first call has left there.
    · have call {held : Option Record} (now : r.get? (fieldName f.name) = some (.message held))
          (runs : ∀ i, Runs s runtime initial n (setDefaults runtime n) (held.getD (initial n)) i ↔
            i = inner) : Runs s runtime initial m
              ((DefaultStep.nest f.name f.type.describe).code runtime :: body) r r' ↔
            Runs s runtime initial m body
              (r.put (fieldName f.name) (.message (some inner))) r' := by
        rw [DefaultStep.code,
          runs_call_iff unique prepared.distinct member message found (emitted n reached) now]
        simp only [runs, exists_eq_left]
      exact now.elim (call · complete.runs) (call · complete.again)

/-! ## The statements of a message -/

def memberName (x : Field × DefaultStep) : String :=
  fieldName x.1.name

theorem nodup_memberName (passes : Passes s m) (distinct : (memberNames m).Nodup) :
    ((touched m).map memberName).Nodup := by
  rw [memberNames, members, List.Nodup, List.pairwise_map, List.pairwise_filter] at distinct
  rw [List.Nodup, List.pairwise_map, touched, List.pairwise_filterMap]
  refine distinct.imp_of_mem fun {a b} ha hb differ x hx y hy => ?_
  obtain ⟨d, step, rfl⟩ := Option.map_eq_some_iff.1 hx
  obtain ⟨d', step', rfl⟩ := Option.map_eq_some_iff.1 hy
  refine differ ?_ ?_
  · rw [oneof_of_step passes ha step]
    rfl
  · rw [oneof_of_step passes hb step']
    rfl

/-- A member without a step is none of those that are changed. -/
theorem memberName_notMem (passes : Passes s m) (distinct : (memberNames m).Nodup)
    (member : f ∈ members m) (untouched : step? f = none) :
    fieldName f.name ∉ (touched m).map memberName := by
  intro changed
  obtain ⟨x, mem, same⟩ := List.mem_map.1 changed
  obtain ⟨listed, step⟩ := mem_touched_iff.1 mem
  have own := List.inj_on_of_nodup_map distinct (mem_members_of_step passes listed step) member same
  exact Option.some_ne_none x.2 (step.symm.trans (own ▸ untouched))

/-- Statements that replace what different members hold do so one after the other. -/
theorem exists_runs {xs : List (Field × DefaultStep)} (distinct : (xs.map memberName).Nodup)
    (replaces : ∀ x ∈ xs, ∃ old new, before.get? (memberName x) = some old ∧
      Replaces s runtime initial m x old new) :
    ∃ after : Record, after.map (·.1) = before.map (·.1) ∧
      (∀ r, Runs s runtime initial m (xs.map fun x => x.2.code runtime) before r ↔ r = after) ∧
      (∀ x ∈ xs, ∃ old new, before.get? (memberName x) = some old ∧
        after.get? (memberName x) = some new ∧ Replaces s runtime initial m x old new) ∧
      ∀ name ∉ xs.map memberName, after.get? name = before.get? name := by
  induction xs generalizing before with
  | nil => exact ⟨before, rfl, fun r => runs_nil_iff, by simp, fun _ _ => rfl⟩
  | cons x xs ih =>
    obtain ⟨fresh, distinct⟩ := List.nodup_cons.1 distinct
    obtain ⟨⟨old, new, there, replaced⟩, later⟩ := List.forall_mem_cons.1 replaces
    have apart {y : Field × DefaultStep} (mem : y ∈ xs) :
        (before.put (memberName x) new).get? (memberName y) = before.get? (memberName y) :=
      Record.get?_put_of_ne fun same => fresh (List.mem_map.2 ⟨y, mem, same⟩)
    obtain ⟨after, names, runs, put, kept⟩ := @ih (before.put (memberName x) new) distinct
      fun y mem => by rw [apart mem]; exact later y mem
    refine ⟨after, by rw [names, Record.keys_put], fun r => ?_, ?_, fun name other => ?_⟩
    · exact (replaced.effect before (.inl there) _ r).trans (runs r)
    · refine List.forall_mem_cons.2 ⟨⟨old, new, there, ?_, replaced⟩, fun y mem => ?_⟩
      · rw [kept _ fresh]
        exact Record.get?_put_self (by rw [there]; rfl)
      · obtain ⟨old, new, there, now, replaced⟩ := put y mem
        exact ⟨old, new, apart mem ▸ there, now, replaced⟩
    · obtain ⟨differ, other⟩ := not_or.1 (mt List.mem_cons.2 other)
      rw [kept name other, Record.get?_put_of_ne differ]

/-- Executed again, the statements change nothing. -/
theorem runs_again {xs : List (Field × DefaultStep)} {after : Record}
    (distinct : (after.map (·.1)).Nodup) (replaced : ∀ x ∈ xs, ∃ old new,
      after.get? (memberName x) = some new ∧ Replaces s runtime initial m x old new) (r : Record) :
    Runs s runtime initial m (xs.map fun x => x.2.code runtime) after r ↔ r = after := by
  induction xs with
  | nil => exact runs_nil_iff
  | cons x xs ih =>
    obtain ⟨⟨old, new, now, replaces⟩, later⟩ := List.forall_mem_cons.1 replaced
    refine (replaces.effect after (.inr now) _ r).trans ?_
    rw [memberName] at now
    rw [Record.put_eq_self distinct now]
    exact ih later

section Replaced

variable {after : Record} (passes : Passes s m)
  (put : ∀ f ∈ m.fields, ∀ d, step? f = some d → ∃ old new,
    before.get? (fieldName f.name) = some old ∧ after.get? (fieldName f.name) = some new ∧
      Replaces s runtime initial m (f, d) old new)
  (kept : ∀ name ∉ (touched m).map memberName, after.get? name = before.get? name)
include passes put kept

theorem isStruct_of_replaced (distinctMembers : (memberNames m).Nodup)
    (struct : IsStruct s m before) (distinct : (after.map (·.1)).Nodup) : IsStruct s m after := by
  obtain ⟨-, holds, nested⟩ := struct
  refine ⟨distinct, fun f member => ?_, fun f member target n inner typed found now => ?_⟩
  · cases step : step? f with
    | none =>
      rw [kept _ (memberName_notMem passes distinctMembers member step)]
      exact holds f member
    | some d =>
      obtain ⟨old, new, -, now, replaced⟩ := put f (List.mem_filter.1 member).1 d step
      exact ⟨new, now, replaced.typed⟩
  · cases step : step? f with
    | none =>
      rw [kept _ (memberName_notMem passes distinctMembers member step)] at now
      exact nested f member target n inner typed found now
    | some d =>
      have mem : f ∈ m.fields := (List.mem_filter.1 member).1
      obtain ⟨old, new, -, now', replaced⟩ := put f mem d step
      obtain rfl := Option.some.inj (now.symm.trans now')
      generalize shape : Content.message (some inner) = new at replaced
      obtain ⟨puts, -, -⟩ := replaced
      cases puts with
      | assigned declared =>
        unfold stored at shape
        split at shape <;> contradiction
      | nested nests completes =>
        obtain rfl := Option.some.inj (Content.message.inj shape)
        obtain ⟨-, typed', found', -⟩ := step_of_nests passes mem nests
        obtain rfl := StorageType.message.inj (typed.symm.trans typed')
        obtain rfl := Option.some.inj (found.symm.trans found')
        exact completes.struct

theorem defaulted_of_replaced (names : after.map (·.1) = before.map (·.1)) :
    Defaulted s initial m before after := by
  refine ⟨names, fun f mem v declared => ?_, fun f mem n nests => ?_,
    fun f mem n nests held inner there now => ?_, fun name other => kept name fun changed => ?_⟩
  · obtain ⟨step, -⟩ := step_of_declared passes mem declared
    obtain ⟨old, new, -, now, ⟨puts, -, -⟩⟩ := put f mem _ step
    cases puts with
    | assigned declared' => exact Option.some.inj (declared.symm.trans declared') ▸ now
    | nested nests => simp [nests.not_declared] at declared
  · obtain ⟨step, -⟩ := step_of_nests passes mem nests
    obtain ⟨old, new, -, now, ⟨puts, -, -⟩⟩ := put f mem _ step
    cases puts with
    | assigned declared => simp [nests.not_declared] at declared
    | nested => exact ⟨_, now⟩
  · obtain ⟨step, -⟩ := step_of_nests passes mem nests
    obtain ⟨old, new, there', now', ⟨puts, -, -⟩⟩ := put f mem _ step
    cases puts with
    | assigned declared => simp [nests.not_declared] at declared
    | nested nests' completes =>
      obtain rfl := nests.unique nests'
      obtain rfl := Content.message.inj (Option.some.inj (there.symm.trans there'))
      obtain rfl := Option.some.inj (Content.message.inj (Option.some.inj (now.symm.trans now')))
      exact completes.defaulted
  · obtain ⟨x, mem, same⟩ := List.mem_map.1 changed
    obtain ⟨listed, step⟩ := mem_touched_iff.1 mem
    refine other x.1 listed ?_ same
    exact (declared_or_nests passes listed step).imp_left fun ⟨v, declared⟩ => by simp [declared]

end Replaced

/-- The statements of a message do what they are for, if those of the messages that it nests do. -/
theorem exists_completes_of_nested (unique : (fullNames s).Nodup) (passes : Passes s m)
    (prepared : Prepared s initial m) (struct : IsStruct s m before)
    (created : ∀ n, Nests s m n → IsStruct s n (initial n))
    (emitted : ∀ n, Nests s m n → Emitted s runtime n (setDefaults runtime n))
    (completes : ∀ n, Nests s m n → ∀ r, IsStruct s n r →
      ∃ r', Completes s runtime initial n r r') :
    ∃ after, Completes s runtime initial m before after := by
  have replaces : ∀ x ∈ touched m, _ := fun x =>
    exists_replaces unique passes prepared struct created emitted completes
  obtain ⟨after, names, runs, put, kept⟩ :=
    exists_runs (nodup_memberName passes prepared.distinct) replaces
  have distinct : (after.map (·.1)).Nodup := by
    obtain ⟨distinct, -, -⟩ := struct
    rwa [names]
  refine ⟨after, ?_, ?_, ?_, ?_⟩
  · rw [setDefaults_eq]
    exact runs
  · rw [setDefaults_eq]
    refine fun r => runs_again distinct (fun x mem => ?_) r
    obtain ⟨old, new, -, now, replaced⟩ := put x mem
    exact ⟨old, new, now, replaced⟩
  · exact isStruct_of_replaced passes
      (fun f mem d step => put (f, d) (mem_touched_iff.2 ⟨mem, step⟩))
      kept prepared.distinct struct distinct
  · exact defaulted_of_replaced passes
      (fun f mem d step => put (f, d) (mem_touched_iff.2 ⟨mem, step⟩))
      kept names

/-- The statements of a message do what they are for: by induction along the nesting, which comes to
an end. -/
theorem exists_completes (unique : (fullNames s).Nodup) (acc : Acc (fun n k => Nests s k n) m)
    (pass : AllPass s m) (code : ∀ n, ReflTransGen (Nests s) m n → HasCode s n)
    (prepared : ∀ n, ReflTransGen (Nests s) m n → Prepared s initial n)
    (struct : IsStruct s m before) : ∃ after, Completes s runtime initial m before after := by
  induction acc generalizing before with
  | intro m _ ih =>
    refine exists_completes_of_nested unique (pass m .refl) (prepared m .refl) struct
      (fun n nests => (prepared n (.single nests)).created) (fun n nests => ?_)
      fun n nests r inner => ih n nests (pass.nested nests)
        (fun k reached => code k (.head nests reached))
        (fun k reached => prepared k (.head nests reached)) inner
    exact emitted_iff.2 ⟨code n (.single nests), (pass n (.single nests)).enabled, rfl⟩

/-! ## What has to be emitted -/

/-- What a message nests is in one of its fields. -/
theorem exists_nestsInto {n : Message} (nests : Nests s m n) : ∃ f ∈ m.fields, NestsInto s f n := by
  obtain ⟨name, listed, found⟩ := nests
  obtain ⟨f, mem, named⟩ := List.mem_filterMap.1 listed
  obtain ⟨target, nested, rfl⟩ := Option.map_eq_some_iff.1 named
  rw [target?, findMessage?_relativeName] at found
  rw [Field.nestedTarget?] at nested
  split at nested
  case h_1 flags type options typed =>
    obtain ⟨on, rfl⟩ : flags.nests ∧ type.fullName = target := by
      simpa [Option.ite_none_right_eq_some] using nested
    exact ⟨f, mem, flags, type, options, on, typed, (target?_eq_some_iff.1 found).1⟩
  case h_2 => contradiction

/-- The statements of a message have executed those of the messages that it nests. -/
theorem exists_runs_of_nests (unique : (fullNames s).Nodup) (passes : Passes s m)
    (distinct : (memberNames m).Nodup) {after : Record}
    (runs : Runs s runtime initial m (setDefaults runtime m) before after) {n : Message}
    (nests : Nests s m n) : ∃ before after, HasCode s n ∧
      Runs s runtime initial n (setDefaults runtime n) before after := by
  obtain ⟨f, mem, into⟩ := exists_nestsInto nests
  obtain ⟨step, typed, found, -⟩ := step_of_nests passes mem into
  have listed : (DefaultStep.nest f.name f.type.describe).code runtime ∈ setDefaults runtime m := by
    rw [setDefaults_eq]
    exact List.mem_map.2 ⟨(f, _), mem_touched_iff.2 ⟨mem, step⟩, rfl⟩
  obtain ⟨g, member, same, target, k, inner, before, after, typed', named, emitted, within⟩ :=
    runs.exists_of_call listed
  obtain rfl := List.inj_on_of_nodup_map distinct member (mem_members_of_step passes mem step) same
  obtain rfl := StorageType.message.inj (typed.symm.trans typed')
  obtain ⟨known, fullName⟩ := mem_of_findMessage? found
  obtain ⟨code, -, rfl⟩ := emitted_iff.1 emitted
  obtain rfl := List.inj_on_of_nodup_map unique (mem_messages_of_wanted code.wanted) known
    (named.trans fullName.symm)
  exact ⟨before, after, code, within⟩

/-- Whatever is reached from a message whose statements have been executed has code. -/
theorem hasCode_of_runs (unique : (fullNames s).Nodup) (pass : AllPass s m)
    (distinct : ∀ n, ReflTransGen (Nests s) m n → (memberNames n).Nodup) {after : Record}
    (code : HasCode s m) (runs : Runs s runtime initial m (setDefaults runtime m) before after)
    {n : Message} (reached : ReflTransGen (Nests s) m n) : HasCode s n := by
  induction reached using ReflTransGen.head_induction_on generalizing before after with
  | refl => exact code
  | @head k l nests _ ih =>
    obtain ⟨before, after, code, within⟩ :=
      exists_runs_of_nests unique (pass k .refl) (distinct k .refl) runs nests
    exact ih (pass.nested nests) (fun n reached => distinct n (.head nests reached)) code within

/-- A message with options for which code is wanted has code. -/
theorem hasCode_of_flagged (wanted : m ∈ wantedMessages s) (enabled : m.disabled = false)
    (options : flagged m ≠ []) : HasCode s m := by
  obtain ⟨file, wanted, mem⟩ := List.mem_flatMap.1 wanted
  exact ⟨file, wanted, hasFlags_iff.2 ⟨m, mem, enabled, options⟩, mem⟩

/-- What is emitted for a message stands in a file of code. -/
theorem Emitted.exists_output {settings : Settings} (plain : settings.format = false)
    {outs : List Output} (compiled : (compile settings s).result = .ok outs) {body : List Stmt}
    (emitted : Emitted s settings.runtime m body) :
    ∃ out ∈ outs, out.Implements settings.runtime m := by
  obtain ⟨file, wanted, flags, mem, enabled, -⟩ := emitted
  obtain ⟨-, rfl⟩ := (compile_ok_iff plain).1 compiled
  exact ⟨_, List.mem_map_of_mem (List.mem_filter.2 ⟨wanted, flags⟩),
    implements_plainOutput settings mem enabled⟩

/-- The default of an enumeration has been checked, but it is not assigned. -/
theorem enumeration_kept (passes : Passes s m) (distinct : (memberNames m).Nodup) {after : Record}
    (defaulted : Defaulted s initial m before after) (mem : f ∈ m.fields) {flags : FieldFlags}
    (listed : f.flags = some flags) (enabled : flags.common.disabled = false) {default : Int32}
    (kind : flags.kind = .enumeration (some default)) :
    (∃ type, f.type = .enumeration type ∧ type.contains default) ∧
      after.get? (fieldName f.name) = before.get? (fieldName f.name) := by
  have ok := checkField_ok_iff.1 (passes.fields (f, flags) (mem_flagged_iff.2 ⟨mem, listed⟩))
  constructor
  · have checked := (ok.2 enabled).1
    rw [kind] at checked
    obtain ⟨type, typed, -, number⟩ := checkKind_enumeration_ok_iff.1 checked
    exact ⟨type, typed, require_ok_iff.1 number⟩
  · obtain ⟨-, -, -, -, kept⟩ := defaulted
    refine kept _ fun f' mem' changed same => ?_
    have own : step? f = none := by
      rw [step?, listed, Option.bind_some, DefaultStep.of?, if_neg (by simp [enabled]), kind]
    have member : f ∈ members m := List.mem_filter.2 ⟨mem, Option.isNone_iff_eq_none.2 ok.1⟩
    obtain ⟨d, step⟩ : ∃ d, step? f' = some d := by
      rcases changed with declared | ⟨n, nests⟩
      · obtain ⟨v, declared⟩ := Option.isSome_iff_exists.1 declared
        exact ⟨_, (step_of_declared passes mem' declared).1⟩
      · exact ⟨_, (step_of_nests passes mem' nests).1⟩
    exact memberName_notMem passes distinct member own
      (List.mem_map.2 ⟨(f', d), mem_touched_iff.2 ⟨mem', step⟩, same⟩)

/-- The statements that are emitted for the defaults of a covered message of an accepted schema can
be executed if and only if there is code for all messages that it nests, however deep; only messages
without options may have none. They then turn every value of its structure into just one other, in
which exactly the declared defaults have been assigned, at every depth, and to execute them again
changes nothing. The defaults of enumerations have been checked, but are not assigned. -/
theorem setDefaults_exact (accepted : Accepted s) (unique : (fullNames s).Nodup)
    (enabled : m.disabled = false) (covered : Covered s m)
    (prepared : ∀ n, ReflTransGen (Nests s) m n → Prepared s initial n) (runtime : String)
    (struct : IsStruct s m before) :
    ((∃ body after, Emitted s runtime m body ∧ Runs s runtime initial m body before after) ↔
      ∀ n, ReflTransGen (Nests s) m n → HasCode s n) ∧
    (∀ n, ReflTransGen (Nests s) m n → ¬ HasCode s n → flagged n = []) ∧
    ((∀ n, ReflTransGen (Nests s) m n → HasCode s n) →
      ∃ body after, Emitted s runtime m body ∧
        (∀ r, Runs s runtime initial m body before r ↔ r = after) ∧ IsStruct s m after ∧
        Defaulted s initial m before after ∧
        (∀ r, Runs s runtime initial m body after r ↔ r = after) ∧
        ∀ f ∈ m.fields, ∀ flags default, f.flags = some flags → flags.common.disabled = false →
          flags.kind = .enumeration (some default) →
          (∃ type, f.type = .enumeration type ∧ type.contains default) ∧
            after.get? (fieldName f.name) = before.get? (fieldName f.name)) := by
  have pass : AllPass s m := accepted.allPass enabled covered
  have completes (code : ∀ n, ReflTransGen (Nests s) m n → HasCode s n) :
      Emitted s runtime m (setDefaults runtime m) ∧
        ∃ after, Completes s runtime initial m before after :=
    ⟨emitted_iff.2 ⟨code m .refl, enabled, rfl⟩,
      exists_completes unique (accepted.nestedWithin covered).acc pass code prepared struct⟩
  refine ⟨⟨?_, fun code => ?_⟩, fun n reached => not_imp_comm.1 fun options => ?_, fun code => ?_⟩
  · rintro ⟨body, after, emitted, runs⟩ n reached
    obtain ⟨code, -, rfl⟩ := emitted_iff.1 emitted
    exact hasCode_of_runs unique pass
      (fun n reached => (prepared n reached).distinct) code runs reached
  · obtain ⟨emitted, after, complete⟩ := completes code
    exact ⟨_, after, emitted, (complete.runs after).2 rfl⟩
  · exact hasCode_of_flagged (covered n reached) (pass n reached).enabled options
  · obtain ⟨emitted, after, complete⟩ := completes code
    exact ⟨_, after, emitted, complete.runs, complete.struct, complete.defaulted, complete.again,
      fun f mem flags default listed on kind => enumeration_kept (pass m .refl)
        (prepared m .refl).distinct complete.defaulted mem listed on kind⟩

def blankStruct (m : Message) : Record :=
  (members m).map fun f => (fieldName f.name, .blank (memberType f))

theorem keys_blankStruct (m : Message) : (blankStruct m).map (·.1) = memberNames m := by
  simp only [blankStruct, memberNames, List.map_map, Function.comp_def]

theorem get?_blankStruct (distinct : (memberNames m).Nodup) (member : f ∈ members m) :
    Record.get? (blankStruct m) (fieldName f.name) = some (.blank (memberType f)) :=
  Record.get?_of_mem (keys_blankStruct m ▸ distinct) (List.mem_map_of_mem member)

/-- If its members have distinct names then the blank structure for a message is one of its
values. -/
theorem isStruct_blankStruct (distinct : (memberNames m).Nodup) : IsStruct s m (blankStruct m) := by
  refine ⟨keys_blankStruct m ▸ distinct,
    fun f member => ⟨_, get?_blankStruct distinct member, isOf_blank f⟩,
    fun f member target n inner typed _ now => ?_⟩
  rw [get?_blankStruct distinct member, typed] at now
  simp [Content.blank] at now

theorem prepared_blankStruct (distinct : (memberNames m).Nodup)
    (numbers : ∀ f ∈ m.fields, ∀ v, declaredDefault? f = some v → v.IsCanonical) :
    Prepared s blankStruct m :=
  ⟨distinct, numbers, isStruct_blankStruct distinct⟩

theorem prepared_sample : ∀ n ∈ Sample.schema.messages, Prepared Sample.schema blankStruct n := by
  have distinct : ∀ n ∈ Sample.schema.messages, (memberNames n).Nodup := by decide +kernel
  have numbers : ∀ n ∈ Sample.schema.messages, ∀ f ∈ n.fields, ∀ v ∈ declaredDefault? f,
      v.IsCanonical := by decide +kernel
  exact fun n mem => prepared_blankStruct (distinct n mem) (numbers n mem)

theorem setDefaults_exact_config : Accepted Sample.schema ∧ (fullNames Sample.schema).Nodup ∧
    IsStruct Sample.schema Sample.config (blankStruct Sample.config) ∧
    ∃ body after, ∃ service : Record, Emitted Sample.schema "::flags" Sample.config body ∧
      (∀ r, Runs Sample.schema "::flags" blankStruct Sample.config body
        (blankStruct Sample.config) r ↔ r = after) ∧
      after.get? "ratio" = some (.optional (some (.double (.ofRatio false 1 4)))) ∧
      after.get? "service" = some (.message (some service)) ∧
      service.get? "port" = some (.plain (.int32 8080)) := by
  have unique : (fullNames Sample.schema).Nodup := by decide +kernel
  have listed : Sample.config ∈ Sample.schema.messages := by simp [Sample.schema, Schema.messages]
  have covered : Covered Sample.schema Sample.config := covered_of_generate (by decide) listed
  have struct : IsStruct Sample.schema Sample.config (blankStruct Sample.config) :=
    isStruct_blankStruct (by decide +kernel)
  have prepared : ∀ n, ReflTransGen (Nests Sample.schema) Sample.config n →
      Prepared Sample.schema blankStruct n := fun n reached =>
    prepared_sample n (mem_messages_of_wanted (covered n reached))
  have code : ∀ n, ReflTransGen (Nests Sample.schema) Sample.config n →
      HasCode Sample.schema n := by
    intro n reached
    obtain ⟨file, wanted, mem⟩ := List.mem_flatMap.1 (covered n reached)
    obtain rfl := List.mem_singleton.1 (List.mem_filter.1 wanted).1
    exact ⟨_, wanted, by decide +kernel, mem⟩
  obtain ⟨-, -, outcome⟩ :=
    setDefaults_exact accepted_sample unique rfl covered prepared "::flags" struct
  obtain ⟨body, after, emitted, runs, -, ⟨-, assigned, present, nested, -⟩, -⟩ := outcome code
  obtain ⟨ratio, mem, name, declared, optional⟩ : ∃ f ∈ Sample.config.fields,
      fieldName f.name = "ratio" ∧ declaredDefault? f = some (.double (.ofRatio false 1 4)) ∧
        scalarMayBeMissing f = true := by
    decide +kernel
  have hasRatio := assigned ratio mem _ declared
  obtain ⟨field, listed', member, name', flag, type, holds⟩ : ∃ f ∈ Sample.config.fields,
      f ∈ members Sample.config ∧ fieldName f.name = "service" ∧
        f.flags = some ⟨{ name := some "api" }, .message true⟩ ∧
        f.type = .message (.ofFullName "app.Service") ∧ memberType f = .message "app.Service" := by
    decide +kernel
  have nests : NestsInto Sample.schema field Sample.service :=
    ⟨_, _, flag, by decide, type, by decide +kernel⟩
  obtain ⟨service, set⟩ := present field listed' _ nests
  have missing := get?_blankStruct (m := Sample.config) (by decide +kernel) member
  rw [holds] at missing
  obtain ⟨-, assigned', -⟩ := nested field listed' _ nests none service missing set
  obtain ⟨port, mem', name'', declared', plain⟩ : ∃ f ∈ Sample.service.fields,
      fieldName f.name = "port" ∧ declaredDefault? f = some (.int32 8080) ∧
        scalarMayBeMissing f = false := by decide +kernel
  have hasPort := assigned' port mem' _ declared'
  rw [name, stored, optional] at hasRatio
  rw [name'', stored, plain] at hasPort
  rw [name'] at set
  exact ⟨accepted_sample, unique, struct, body, after, service, emitted,
    runs, hasRatio, set, hasPort⟩

/-- A message without options, alone in its file, has no statements, and those of the message around
it cannot be executed. -/
theorem not_setDefaults_exact :
    ¬ ∀ (s : FlagBinding.Schema) (initial : Message → Record) (m : Message) (before : Record)
      (runtime : String), Accepted s → (fullNames s).Nodup → m.disabled = false → Covered s m →
      (∀ n, ReflTransGen (Nests s) m n → Prepared s initial n) → IsStruct s m before →
      ∃ body after, Emitted s runtime m body ∧ Runs s runtime initial m body before after := by
  intro claim
  let s := twoFiles []
  have accepted : Accepted s := by unfold Accepted; decide +kernel
  have unique : (fullNames s).Nodup := by decide +kernel
  have covered : Covered s outerMessage :=
    covered_of_generate (by decide +kernel) (by simp [s, Schema.messages, twoFiles, outerFile])
  have distinct : ∀ n ∈ s.messages, (memberNames n).Nodup := by decide +kernel
  have numbers : ∀ n ∈ s.messages, ∀ f ∈ n.fields, ∀ v ∈ declaredDefault? f, v.IsCanonical := by
    decide +kernel
  have prepared : ∀ n, ReflTransGen (Nests s) outerMessage n → Prepared s blankStruct n := by
    intro n reached
    have mem := mem_messages_of_wanted (covered n reached)
    exact prepared_blankStruct (distinct n mem) (numbers n mem)
  obtain ⟨body, after, emitted, runs⟩ := claim s blankStruct outerMessage (blankStruct outerMessage)
    "::protoflags" accepted unique rfl covered prepared (prepared outerMessage .refl).created
  obtain ⟨code, -, rfl⟩ := emitted_iff.1 emitted
  have nests : Nests s outerMessage (innerMessage []) := ⟨"demo.Inner", by decide +kernel⟩
  obtain ⟨file, wanted, flags, mem⟩ := hasCode_of_runs unique (accepted.allPass rfl covered)
    (fun n reached => (prepared n reached).distinct) code runs (.single nests)
  -- The only file with options is that of the message around it.
  have none : ∀ file ∈ s.wanted, file.hasFlags → innerMessage [] ∉ file.messages := by
    decide +kernel
  exact none file wanted flags mem

end FlagBinding.Emit
