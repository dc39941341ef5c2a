import FlagBinding.Binding.Run
import FlagBinding.Compilation
import FlagBinding.Proofs.Binding.Records
import FlagBinding.Proofs.Checks.Steps
import FlagBinding.Proofs.Defaults.Literals

/-!
# The execution of emitted statements

The statements that assign defaults are executed on structures of the target language, whose members
have names of their own. The rules know the target language, the types of the members and which
functions have been emitted, but not how statements are emitted or what they are for.

## Main definitions

* `members`: the members of the structure for a message.
* `IsStruct`: a value of the structure for a message.
* `evaluate?`: the value of an expression that is assigned.
* `HasCode`, `Emitted`: the messages with code, and the function that assigns the defaults of one.
* `Runs`: the execution of statements.

## Main statements

* `runs_assign_iff`, `runs_call_iff`: what an assignment and what a call does.
* `Runs.exists_of_call`: a call has executed the function of another message.
-/

namespace FlagBinding.Emit

open Schema Target Binding Check

/-! ## Structures -/

/-- The fields of a message that have a member each; those of a group of which at most one is set
share another one. -/
def members (m : Message) : List Field :=
  m.fields.filter (·.oneof.isNone)

def memberNames (m : Message) : List String :=
  (members m).map fun f => fieldName f.name

/-- A record is a value of the structure for a message: it has the members, perhaps among others,
with what they can hold, and the messages in them are again such values. -/
inductive IsStruct (s : FlagBinding.Schema) : Message → Record → Prop
  | intro {m : Message} {r : Record} (distinct : (r.map (·.1)).Nodup)
      (holds : ∀ f ∈ members m, ∃ c, r.get? (fieldName f.name) = some c ∧ c.IsOf (memberType f))
      (nested : ∀ f ∈ members m, ∀ target n inner, memberType f = .message target →
        s.findMessage? target = some n →
        r.get? (fieldName f.name) = some (.message (some inner)) → IsStruct s n inner) :
      IsStruct s m r

/-! ## Statements -/

/-- The value of an expression that is assigned: a literal, or one that is there. -/
def evaluate? : Expr → Option Content
  | .literal text => (literalValue? text).map fun v => .plain (defaultDatum v)
  | .call (.path function) [.literal text] =>
    if function = "::core::option::Option::Some" then
      (literalValue? text).map fun v => .optional (some (defaultDatum v))
    else none
  | _ => none

/-- There is a file of code for the file that declares a message: code is wanted for it, and it has
options. -/
def HasCode (s : FlagBinding.Schema) (m : Message) : Prop :=
  ∃ file ∈ s.wanted, file.hasFlags ∧ m ∈ file.messages

/-- A file of code has a function that assigns the defaults of a message, with the given body. There
is a file of code for each file with options for which it is wanted. -/
def Emitted (s : FlagBinding.Schema) (runtime : String) (m : Message) (body : List Stmt) : Prop :=
  ∃ file ∈ s.wanted, file.hasFlags ∧ m ∈ file.messages ∧ m.disabled = false ∧
    (Plan.ofMessage m).defaultsImpl runtime ∈ impls runtime file ∧
    body = ((Plan.ofMessage m).defaultsImpl runtime).method.body

/-- Statements in the function for the message `m` turn one structure into another. A call executes
the function that has been emitted for the message in the member; the message is created if it is
missing, and `initial` holds the messages as they are created. -/
inductive Runs (s : FlagBinding.Schema) (runtime : String) (initial : Message → Record) :
    Message → List Stmt → Record → Record → Prop
  | done {m : Message} {r : Record} : Runs s runtime initial m [] r r
  | assign {m : Message} {f : Field} {name : String} {e : Expr} {c : Content} {body : List Stmt}
      {r r' : Record} (member : f ∈ members m) (named : fieldName f.name = name)
      (value : evaluate? e = some c) (typed : c.IsOf (memberType f))
      (rest : Runs s runtime initial m body (r.put name c) r') :
      Runs s runtime initial m (.assign (.field (.path "self") name) e :: body) r r'
  | call {m n : Message} {f : Field} {name target : String} {inner body : List Stmt}
      {held : Option Record} {i r r' : Record} (member : f ∈ members m)
      (named : fieldName f.name = name) (typed : memberType f = .message target)
      (found : n.fullName = relativeName target) (emitted : Emitted s runtime n inner)
      (holds : r.get? name = some (.message held))
      (within : Runs s runtime initial n inner (held.getD (initial n)) i)
      (rest : Runs s runtime initial m body (r.put name (.message (some i))) r') :
      Runs s runtime initial m
        (.run (.call (inRuntime runtime "SetDefaults::set_defaults")
          [.method (.field (.path "self") name) "get_or_insert_with"
            [.path "::core::default::Default::default"]]) :: body) r r'

variable {s : FlagBinding.Schema} {runtime : String} {initial : Message → Record} {m : Message}
  {body : List Stmt} {r r' : Record}

theorem HasCode.wanted (h : HasCode s m) : m ∈ wantedMessages s := by
  obtain ⟨file, wanted, -, mem⟩ := h
  exact List.mem_flatMap.2 ⟨file, wanted, mem⟩

theorem emitted_iff : Emitted s runtime m body ↔ HasCode s m ∧ m.disabled = false ∧
    body = ((Plan.ofMessage m).defaultsImpl runtime).method.body := by
  constructor
  · rintro ⟨file, wanted, flags, mem, enabled, -, form⟩
    exact ⟨⟨file, wanted, flags, mem⟩, enabled, form⟩
  · rintro ⟨⟨file, wanted, flags, mem⟩, enabled, form⟩
    have plan : Plan.ofMessage m ∈ plans file :=
      List.mem_map_of_mem (List.mem_filter.2 ⟨mem, by simp [enabled]⟩)
    exact ⟨file, wanted, flags, mem, enabled, List.mem_flatMap.2 ⟨_, plan, by simp⟩, form⟩

@[simp] theorem runs_nil_iff : Runs s runtime initial m [] r r' ↔ r' = r := by
  constructor
  · rintro ⟨⟩
    rfl
  · rintro rfl
    exact .done

theorem runs_assign_iff {f : Field} {e : Expr} {c : Content} (member : f ∈ members m)
    (value : evaluate? e = some c) (typed : c.IsOf (memberType f)) :
    Runs s runtime initial m (.assign (selfField f.name) e :: body) r r' ↔
      Runs s runtime initial m body (r.put (fieldName f.name) c) r' := by
  constructor
  · intro h
    generalize shape : _ :: body = stmts at h
    cases h with
    | done => contradiction
    | assign _ _ value' _ rest =>
      obtain ⟨assign, rfl⟩ := List.cons.inj shape
      obtain ⟨place, rfl⟩ := Stmt.assign.inj assign
      obtain rfl := (Expr.field.inj place).2
      obtain rfl := Option.some.inj (value.symm.trans value')
      exact rest
    | call => simp at shape
  · exact .assign member rfl value typed

theorem runs_call_iff (unique : (fullNames s).Nodup) (distinct : (memberNames m).Nodup) {f : Field}
    (member : f ∈ members m) {target : String} (typed : memberType f = .message target)
    {n : Message} (found : s.findMessage? target = some n) {inner : List Stmt}
    (emitted : Emitted s runtime n inner)
    {held : Option Record} (holds : r.get? (fieldName f.name) = some (.message held)) :
    Runs s runtime initial m (.run (.call (inRuntime runtime "SetDefaults::set_defaults")
        [nestedMessage f.name]) :: body) r r' ↔
      ∃ i, Runs s runtime initial n inner (held.getD (initial n)) i ∧
        Runs s runtime initial m body (r.put (fieldName f.name) (.message (some i))) r' := by
  obtain ⟨known, fullName⟩ := mem_of_findMessage? found
  constructor
  · intro h
    generalize shape : _ :: body = stmts at h
    cases h with
    | done => contradiction
    | assign => simp at shape
    | call member' named typed' found' emitted' holds' within rest =>
      obtain ⟨call, rfl⟩ := List.cons.inj shape
      have receiver := (Expr.method.inj (List.cons.inj (Expr.call.inj (Stmt.run.inj call)).2).1).1
      obtain rfl := (Expr.field.inj receiver).2
      obtain rfl := List.inj_on_of_nodup_map distinct member' member named
      obtain rfl := StorageType.message.inj (typed'.symm.trans typed)
      obtain rfl := Content.message.inj (Option.some.inj (holds'.symm.trans holds))
      obtain ⟨code, -, rfl⟩ := emitted_iff.1 emitted'
      obtain rfl := List.inj_on_of_nodup_map unique (mem_messages_of_wanted code.wanted) known
        (found'.trans fullName.symm)
      obtain ⟨-, -, rfl⟩ := emitted_iff.1 emitted
      exact ⟨_, within, rest⟩
  · rintro ⟨i, within, rest⟩
    exact .call member rfl typed fullName emitted holds within rest

/-- Statements with a call have executed the function that has been emitted for the message in the
member. -/
theorem Runs.exists_of_call {name : String} (h : Runs s runtime initial m body r r')
    (mem : .run (.call (inRuntime runtime "SetDefaults::set_defaults") [nestedMessage name]) ∈
      body) :
    ∃ f ∈ members m, fieldName f.name = fieldName name ∧ ∃ target n inner before after,
      memberType f = .message target ∧ n.fullName = relativeName target ∧
        Emitted s runtime n inner ∧ Runs s runtime initial n inner before after := by
  induction h with
  | done => contradiction
  | assign _ _ _ _ _ ih => exact ih (by simpa using mem)
  | @call m n f own target inner body held i r r' member named typed found emitted _ within _ _
      ih =>
    rcases List.mem_cons.1 mem with here | later
    · have receiver := (Expr.method.inj (List.cons.inj (Expr.call.inj (Stmt.run.inj here)).2).1).1
      obtain rfl := (Expr.field.inj receiver).2
      exact ⟨f, member, named, target, n, inner, _, i, typed, found, emitted, within⟩
    · exact ih later

end FlagBinding.Emit
