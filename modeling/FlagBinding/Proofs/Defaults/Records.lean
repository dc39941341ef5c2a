import FlagBinding.Proofs.Defaults.Outcome

/-!
# Defaults of records

Records go by the names of fields, and structures by the names of members. The statements that are
emitted make the structure for a record into the one for the record with its defaults assigned.

## Main definitions

* `structOf`: the structure for a record.

## Main statements

* `isStruct_structOf`: the structure for a record of a message is a value of its structure.
* `runs_setDefaults_iff`: what the emitted statements make of it.
-/

namespace FlagBinding.Emit

open Schema Target Binding Check Relation

mutual

/-- A content with structures for the records in it. -/
def structContent : Content → Content
  | .message (some r) => .message (some (structOf r))
  | c => c

/-- The structure for a record has a member for each field. -/
def structOf : List (String × Content) → List (String × Content)
  | [] => []
  | (name, c) :: r => (fieldName name, structContent c) :: structOf r

end

variable {s : FlagBinding.Schema} {runtime : String} {m : Message} {f : Field} {r : Record}
  {name : String} {c : Content}

theorem structOf_eq_map (r : Record) :
    structOf r = r.map fun e => (fieldName e.1, structContent e.2) := by
  induction r with
  | nil => simp [structOf]
  | cons e r ih => simp [structOf, ih]

theorem structContent_message (held : Option Record) :
    structContent (.message held) = .message (held.map structOf) := by
  cases held <;> simp [structContent]

theorem structContent_stored (f : Field) (v : DefaultValue) :
    structContent (stored f v) = stored f v := by
  unfold stored
  split <;> simp [structContent]

theorem isOf_structContent {type : StorageType} (typed : c.IsOf type) :
    (structContent c).IsOf type := by
  cases c with
  | message held =>
    rw [structContent_message]
    cases type <;> trivial
  | _ => simpa [structContent] using typed

section Names

variable (distinct : (r.map fun e => fieldName e.1).Nodup) (mem : name ∈ r.map (·.1))
include distinct mem

/-- No other entry of a record has the same member. -/
theorem fieldName_eq_iff {e : String × Content} (listed : e ∈ r) :
    fieldName e.1 = fieldName name ↔ e.1 = name := by
  obtain ⟨own, listed', rfl⟩ := List.mem_map.1 mem
  refine ⟨fun same => ?_, congrArg _⟩
  rw [List.inj_on_of_nodup_map distinct listed listed' same]

theorem get?_structOf :
    Record.get? (structOf r) (fieldName name) = (r.get? name).map structContent := by
  rw [structOf_eq_map]
  induction r with
  | nil => contradiction
  | cons e r ih =>
    have same := fieldName_eq_iff distinct mem List.mem_cons_self
    rw [List.map_cons, Record.get?_cons, Record.get?_cons]
    by_cases own : e.1 = name
    · simp [own]
    · rw [if_neg (mt same.1 own), if_neg own]
      exact ih (List.nodup_cons.1 distinct).2 ((List.mem_cons.1 mem).resolve_left (Ne.symm own))

theorem put_structOf (c : Content) :
    Record.put (structOf r) (fieldName name) (structContent c) = structOf (r.put name c) := by
  simp only [structOf_eq_map, Record.put, List.map_map]
  refine List.map_congr_left fun e listed => ?_
  simp only [Function.comp_apply, fieldName_eq_iff distinct mem listed]
  split <;> rfl

end Names

/-- The members of all fields of a message have distinct names. -/
def DistinctMembers (m : Message) : Prop :=
  (m.fields.map fun f => fieldName f.name).Nodup

theorem DistinctMembers.names (h : DistinctMembers m) : (m.fields.map (·.name)).Nodup := by
  rw [DistinctMembers, ← Function.comp_def, ← List.map_map] at h
  exact h.of_map _

theorem DistinctMembers.memberNames (h : DistinctMembers m) : (memberNames m).Nodup :=
  List.Nodup.sublist (List.filter_sublist.map _) h

theorem DistinctMembers.of_keys (h : DistinctMembers m)
    (keys : r.map (·.1) = m.fields.map (·.name)) : (r.map fun e => fieldName e.1).Nodup := by
  have same : (r.map fun e => fieldName e.1) = m.fields.map fun f => fieldName f.name := by
    simpa [Function.comp_def] using congrArg (List.map fieldName) keys
  exact same ▸ h

/-- The structure for a record of a message is a value of the structure for the message. -/
theorem isStruct_structOf (distinct : ∀ n ∈ s.messages, DistinctMembers n) (listed : m ∈ s.messages)
    (h : Record.IsOf s m r) : IsStruct s m (structOf r) := by
  induction h with
  | @intro m r keys holds nested ih =>
    have apart := (distinct m listed).of_keys keys
    have look {f : Field} (mem : f ∈ m.fields) :
        Record.get? (structOf r) (fieldName f.name) = (r.get? f.name).map structContent :=
      get?_structOf apart (keys ▸ List.mem_map_of_mem mem)
    refine ⟨?_, fun f member => ?_, fun f member target n inner typed found now => ?_⟩
    · simpa [structOf_eq_map, Function.comp_def] using apart
    · have mem := (List.mem_filter.1 member).1
      obtain ⟨c, here, typed⟩ := holds f mem
      exact ⟨_, by rw [look mem, here]; rfl, isOf_structContent typed⟩
    · have mem := (List.mem_filter.1 member).1
      obtain ⟨c, here, isOf⟩ := holds f mem
      rw [typed] at isOf
      obtain ⟨held, rfl⟩ := isOf.exists_message
      rw [look mem, here, Option.map_some, structContent_message] at now
      obtain ⟨r', rfl, rfl⟩ := Option.map_eq_some_iff.1
        (Content.message.inj (Option.some.inj now))
      exact ih f mem target n r' typed found here (mem_of_findMessage? found).1

/-! ## Steps -/

/-- What a step of the assignment of defaults does to a record. -/
def assignStep (s : FlagBinding.Schema) (depth : Nat) (record : Record) : DefaultStep → Record
  | .assign field mayBeMissing value =>
    let d := defaultDatum value
    record.put field (if mayBeMissing then .optional (some d) else .plain d)
  | .nest field target =>
    match nestedRecord s target (record.get? field) with
    | none => record
    | some (inner, innerRecord) =>
      record.put field (.message (some (assignDefaults s depth inner innerRecord)))

theorem assignDefaults_succ (s : FlagBinding.Schema) (depth : Nat) (m : Message) (record : Record) :
    assignDefaults s (depth + 1) m record =
      (touched m).foldl (fun record x => assignStep s depth record x.2) record := by
  rw [assignDefaults, defaults_eq, List.foldl_map]
  rfl

def blankStructs (n : Message) : Record :=
  structOf (Record.blank n)

/-- The statements of a message do to the structure for a record what the assignment of its defaults
does to the record. -/
structure Agrees (s : FlagBinding.Schema) (runtime : String) (depth : Nat)
    (m : Message) (r : Record) :
    Prop where
  isOf : Record.IsOf s m (assignDefaults s depth m r)
  runs : ∀ x, Runs s runtime blankStructs m (setDefaults runtime m) (structOf r) x ↔
    x = structOf (assignDefaults s depth m r)

/-- The statement of a field does to the structure for a record what its step does to the record. -/
structure StepAgrees (s : FlagBinding.Schema) (runtime : String) (depth : Nat) (m : Message)
    (d : DefaultStep) (r : Record) : Prop where
  isOf : Record.IsOf s m (assignStep s depth r d)
  runs : ∀ body x, Runs s runtime blankStructs m (d.code runtime :: body) (structOf r) x ↔
    Runs s runtime blankStructs m body (structOf (assignStep s depth r d)) x

theorem stepAgrees_of_touched {depth : Nat} (unique : (fullNames s).Nodup) (passes : Passes s m)
    (distinct : DistinctMembers m)
    (numbers : ∀ f ∈ m.fields, ∀ v, declaredDefault? f = some v → v.IsCanonical)
    (code : ∀ n, Nests s m n → HasCode s n ∧ DistinctMembers n)
    (below : ∀ n, Nests s m n → ∀ r, Record.IsOf s n r → Agrees s runtime depth n r)
    {x : Field × DefaultStep} (mem : x ∈ touched m) (h : Record.IsOf s m r) :
    StepAgrees s runtime depth m x.2 r := by
  obtain ⟨f, d⟩ := x
  obtain ⟨listed, step⟩ : f ∈ m.fields ∧ step? f = some d := mem_touched_iff.1 mem
  have member := mem_members_of_step passes listed step
  obtain ⟨keys, holds, nested⟩ := h
  have apart := distinct.of_keys keys
  have known : f.name ∈ r.map (·.1) := keys ▸ List.mem_map_of_mem listed
  rcases declared_or_nests passes listed step with ⟨v, declared⟩ | ⟨n, nests⟩
  case inl =>
    obtain ⟨step', fits⟩ := step_of_declared passes listed declared
    obtain rfl := Option.some.inj (step.symm.trans step')
    have value := evaluate?_stored (f := f) (numbers f listed v declared)
    have result : assignStep s depth r (.assign f.name (scalarMayBeMissing f) v) =
        r.put f.name (stored f v) := rfl
    refine ⟨?_, fun body x => ?_⟩
    · refine result ▸ Record.IsOf.put ⟨keys, holds, nested⟩ distinct.names listed fits ?_
      intro _ _ _ _ _ message
      unfold stored at message
      split at message <;> contradiction
    · rw [result, ← put_structOf apart known, structContent_stored]
      exact runs_assign_iff member value fits
  case inr =>
    obtain ⟨step', message, found, reached⟩ := step_of_nests passes listed nests
    obtain rfl := Option.some.inj (step.symm.trans step')
    obtain ⟨c, here, typed⟩ := holds f listed
    rw [message] at typed
    obtain ⟨held, rfl⟩ := typed.exists_message
    have inside : Record.IsOf s n (held.getD (Record.blank n)) := by
      cases held with
      | none => exact Record.isOf_blank (code n reached).2.names
      | some r' => exact nested f listed _ n r' message found here
    obtain ⟨isOf, runs⟩ := below n reached _ inside
    have result : assignStep s depth r (.nest f.name f.type.describe) = r.put f.name
        (.message (some (assignDefaults s depth n (held.getD (Record.blank n))))) := by
      simp only [assignStep, here, nestedRecord_eq found]
    refine ⟨?_, fun body x => ?_⟩
    · refine result ▸ Record.IsOf.put ⟨keys, holds, nested⟩ distinct.names listed ?_ ?_
      · rw [message]
        trivial
      · intro target' n' inner message' found' same
        obtain rfl := StorageType.message.inj (message.symm.trans message')
        obtain rfl := Option.some.inj (found.symm.trans found')
        obtain rfl := Option.some.inj (Content.message.inj same)
        exact isOf
    · have enabled : n.disabled = false := by
        obtain ⟨_, -, found⟩ := reached
        exact (target?_eq_some_iff.1 found).2
      have now : Record.get? (structOf r) (fieldName f.name) =
          some (.message (held.map structOf)) := by
        rw [get?_structOf apart known, here, Option.map_some, structContent_message]
      have created : (held.map structOf).getD (blankStructs n) =
          structOf (held.getD (Record.blank n)) := by
        cases held <;> rfl
      have emitted : Emitted s runtime n (setDefaults runtime n) :=
        emitted_iff.2 ⟨(code n reached).1, enabled, rfl⟩
      rw [DefaultStep.code, runs_call_iff unique distinct.memberNames member message found emitted
        now, created, result, ← put_structOf apart known, structContent_message]
      simp only [runs, exists_eq_left, Option.map_some]

theorem runs_foldl {depth : Nat} {xs : List (Field × DefaultStep)}
    (agrees : ∀ x ∈ xs, ∀ r, Record.IsOf s m r → StepAgrees s runtime depth m x.2 r)
    (h : Record.IsOf s m r) :
    Record.IsOf s m (xs.foldl (fun record x => assignStep s depth record x.2) r) ∧
      ∀ y, Runs s runtime blankStructs m (xs.map fun x => x.2.code runtime) (structOf r) y ↔
        y = structOf (xs.foldl (fun record x => assignStep s depth record x.2) r) := by
  induction xs generalizing r with
  | nil => exact ⟨h, fun y => runs_nil_iff⟩
  | cons x xs ih =>
    obtain ⟨here, later⟩ := List.forall_mem_cons.1 agrees
    obtain ⟨isOf, runs⟩ := here r h
    obtain ⟨isOf', runs'⟩ := ih later isOf
    exact ⟨isOf', fun y => (runs _ y).trans (runs' y)⟩

/-! ## Messages -/

theorem agrees_of_nestedWithin {depth : Nat} (unique : (fullNames s).Nodup)
    (within : NestedWithin s depth m) (pass : AllPass s m)
    (code : ∀ n, ReflTransGen (Nests s) m n → HasCode s n ∧ DistinctMembers n)
    (numbers : ∀ n, ReflTransGen (Nests s) m n → ∀ f ∈ n.fields, ∀ v,
      declaredDefault? f = some v → v.IsCanonical) (h : Record.IsOf s m r) :
    Agrees s runtime depth m r := by
  induction within generalizing r with
  | @intro depth m _ ih =>
    have below (n : Message) (nests : Nests s m n) (r : Record) (h : Record.IsOf s n r) :
        Agrees s runtime depth n r :=
      ih n nests (pass.nested nests) (fun k reached => code k (.head nests reached))
        (fun k reached => numbers k (.head nests reached)) h
    have steps : ∀ x ∈ touched m, ∀ r, Record.IsOf s m r → StepAgrees s runtime depth m x.2 r :=
      fun x mem r h => stepAgrees_of_touched unique (pass m .refl) (code m .refl).2
        (numbers m .refl) (fun n nests => code n (.single nests)) below mem h
    obtain ⟨isOf, runs⟩ := runs_foldl steps h
    rw [← assignDefaults_succ] at isOf runs
    rw [← setDefaults_eq] at runs
    exact ⟨isOf, runs⟩

/-- The statements that are emitted for a message of an accepted schema, executed on the structure
for a record of the message, make of it the structure for the record with its defaults assigned, and
nothing else. -/
theorem runs_setDefaults_iff (accepted : Accepted s) (unique : (fullNames s).Nodup)
    (enabled : m.disabled = false)
    (code : ∀ n, ReflTransGen (Nests s) m n → HasCode s n)
    (distinct : ∀ n ∈ s.messages, DistinctMembers n)
    (numbers : ∀ n ∈ s.messages, ∀ f ∈ n.fields, ∀ v, declaredDefault? f = some v → v.IsCanonical)
    (h : Record.IsOf s m r) {depth : Nat} (deep : depthOf s ≤ depth) (runtime : String) :
    Emitted s runtime m (setDefaults runtime m) ∧ IsStruct s m (structOf r) ∧
      ∀ x, Runs s runtime blankStructs m (setDefaults runtime m) (structOf r) x ↔
        x = structOf (assignDefaults s depth m r) := by
  have covered : Covered s m := fun n reached => (code n reached).wanted
  have listed {n : Message} (reached : ReflTransGen (Nests s) m n) : n ∈ s.messages :=
    mem_messages_of_wanted (covered n reached)
  have within : NestedWithin s depth m := (accepted.nestedWithin covered).mono deep
  refine ⟨emitted_iff.2 ⟨code m .refl, enabled, rfl⟩,
    isStruct_structOf distinct (listed .refl) h, ?_⟩
  refine (agrees_of_nestedWithin unique within (accepted.allPass enabled covered) ?_ ?_ h).runs
  · exact fun n reached => ⟨code n reached, distinct n (listed reached)⟩
  · exact fun n reached => numbers n (listed reached)

end FlagBinding.Emit
