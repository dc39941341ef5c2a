import FlagBinding.Cell.JsonMap
import FlagBinding.Proofs.Cells.MapRuns
import FlagBinding.Proofs.Json.Texts

/-!
# JSON maps in the course of many arguments

The text of a map is read back as the map, whatever its keys and texts are, unless its values are
numbers with a fraction. An argument is decoded as a whole before the map is replaced, so after any
arguments the map is that of the last one that was accepted.

## Main definitions

* `JsonElement.Discrete`: the types of values without doubles.
* `JsonMap.assign`, `JsonMap.run`: an argument for a map, and many.
* `JsonMap.Denotes`: an argument with the map in it.

## Main statements

* `JsonMap.parse_format`: a map is read back from its text.
* `JsonMap.run_objects`: a map after any arguments.
-/

namespace FlagBinding

open Json

namespace JsonElement

/-- The types of which every value has a text of its own: truth values, integers, texts and
bytes. -/
inductive Discrete : JsonElement → Prop
  | bool : Discrete .bool
  | int32 : Discrete .int32
  | int64 : Discrete .int64
  | uint32 : Discrete .uint32
  | uint64 : Discrete .uint64
  | text : Discrete .text
  | bytes : Discrete .bytes

theorem integer?_eq_some {least greatest n : Int} (lower : least ≤ n) (upper : n ≤ greatest) :
    integer? least greatest (.integer n) = some n :=
  if_pos ⟨lower, upper⟩

theorem byte?_toNat (b : UInt8) : byte? (.integer b.toNat) = some b := by
  have upper : (b.toNat : Int) ≤ 255 := by
    have := b.toNat_lt
    omega
  rw [byte?, integer?_eq_some (Int.natCast_nonneg _) upper]
  simp

theorem mapM_byte? (bs : List UInt8) :
    (bs.map fun b => Value.integer b.toNat).mapM byte? = some bs := by
  induction bs with
  | nil => rfl
  | cons b bs ih =>
    rw [List.map_cons, List.mapM_cons, byte?_toNat, ih]
    rfl

/-- A value of the type is read from a JSON value with its text. -/
theorem Discrete.exists_value {e : JsonElement} (discrete : e.Discrete)
    (depth : Nat) (item : e.Item) :
    ∃ v : Value, v.Plain (depth + 1) ∧ v.render = e.render item ∧ e.ofValue? v = some item := by
  cases discrete with
  | bool => exact ⟨.bool item, .bool item, by rw [Value.render, JsonElement.render], rfl⟩
  | int32 =>
    have lower := Int32.le_toInt item
    have upper := Int32.toInt_lt item
    refine ⟨.integer item.toInt, .integer (by omega) (by omega), by rw [Value.render, render], ?_⟩
    rw [ofValue?, integer?_eq_some lower (by omega)]
    simp
  | int64 =>
    have lower := Int64.le_toInt item
    have upper := Int64.toInt_lt item
    refine ⟨.integer item.toInt, .integer (by omega) (by omega), by rw [Value.render, render], ?_⟩
    rw [ofValue?, integer?_eq_some lower (by omega)]
    simp
  | uint32 =>
    have upper := UInt32.toNat_lt item
    refine ⟨.integer item.toNat, .integer (by omega) (by omega),
      by rw [Value.render, render]; rfl, ?_⟩
    rw [ofValue?, integer?_eq_some (by omega) (by omega)]
    simp
  | uint64 =>
    have upper := UInt64.toNat_lt item
    refine ⟨.integer item.toNat, .integer (by omega) (by omega),
      by rw [Value.render, render]; rfl, ?_⟩
    rw [ofValue?, integer?_eq_some (by omega) (by omega)]
    simp
  | text => exact ⟨.string item, .string item, by rw [Value.render, render], rfl⟩
  | bytes =>
    refine ⟨.array (item.map fun b => .integer b.toNat), .array ?_, ?_, ?_⟩
    · intro v mem
      obtain ⟨b, -, rfl⟩ := List.mem_map.1 mem
      have upper := b.toNat_lt
      exact .integer (by omega) (by omega)
    · rw [Value.render, render, Value.renderAll_eq_map, List.map_map]
      congr 1
    · rw [ofValue?, mapM_byte?]

end JsonElement

namespace JsonMap

variable {e : JsonElement} {input : String} {inputs : List String}

/-! ## Texts -/

/-- The text of a map is that of members from which its entries are read. -/
theorem exists_members (discrete : e.Discrete) (entries : List (String × e.Item)) :
    ∃ ms : List (String × Value), (∀ m ∈ ms, m.2.Plain (depthLimit - 1)) ∧
      ms.map renderMember = (entries.map fun (name, item) => member name (e.render item)) ∧
      ms.mapM (readMember? e) = some entries := by
  induction entries with
  | nil => exact ⟨[], by simp, rfl, rfl⟩
  | cons entry entries ih =>
    obtain ⟨ms, plain, texts, read⟩ := ih
    obtain ⟨v, first, text, value⟩ := discrete.exists_value (depthLimit - 2) entry.2
    refine ⟨(entry.1, v) :: ms, List.forall_mem_cons.2 ⟨first, plain⟩, ?_, ?_⟩
    · rw [List.map_cons, List.map_cons, texts, renderMember, text]
    · rw [List.mapM_cons, read, readMember?, value]
      rfl

/-- A map is read back from its text. -/
theorem parse_format (discrete : e.Discrete) (d : Dict e.Item) : parse e (format e d) = .ok d := by
  obtain ⟨ms, plain, texts, read⟩ := exists_members discrete d.entries
  have filled : (format e d).toList.all Text.isBlank = false := by
    rw [format, toList_enclose]
    rfl
  have same : Dict.ofList d.entries = d := (Dict.ofList_eq_iff_perm rfl).2 (.refl _)
  rw [parse, filled, if_neg Bool.false_ne_true, format, ← texts, parseObject?_members plain,
    Option.bind_some, read]
  simp only [same]

/-! ## Arguments -/

/-- The map that is decoded from an argument that is not blank. -/
def decode (e : JsonElement) (input : String) : Except ValueError (Dict e.Item) :=
  match (parseObject? input).bind fun members => members.mapM (readMember? e) with
  | some members => .ok (.ofList members)
  | none => .error (.notJson input)

/-- An argument as it is carried out. -/
def assign (e : JsonElement) (input : String) : EStateM ValueError (Dict e.Item) Unit := do
  if input.toList.all Text.isBlank then
    modify fun _ => .empty
  else do
    let decoded ← MonadExcept.ofExcept (decode e input)
    set decoded

/-- The map after arguments, of which each may be refused. -/
def run (e : JsonElement) (initial : Dict e.Item) (inputs : List String) : Dict e.Item :=
  afterAll (assign e) initial inputs

/-- A member with a value of the type. -/
def IsMember (e : JsonElement) (m : String × Value) (entry : String × e.Item) : Prop :=
  m.1 = entry.1 ∧ e.ofValue? m.2 = some entry.2

/-- An argument with the map in it: a blank one has the map without entries, and any other is an
object whose members have values of the type, the last member for a key giving its value. -/
def Denotes (e : JsonElement) (input : String) (d : Dict e.Item) : Prop :=
  if input.toList.all Text.isBlank then d = .empty
  else ∃ members entries, parseObject? input = some members ∧
    List.Forall₂ (IsMember e) members entries ∧ ∀ k v, d.get? k = some v ↔ LastEntry entries k v

theorem readMember?_eq_some_iff {m : String × Value} {entry : String × e.Item} :
    readMember? e m = some entry ↔ IsMember e m entry := by
  obtain ⟨key, item⟩ := entry
  rw [readMember?, IsMember, Option.map_eq_some_iff]
  simp only [Prod.mk.injEq]
  grind

/-- Members are read exactly if each of them is. -/
theorem mapM_readMember?_iff {members : List (String × Value)} {entries : List (String × e.Item)} :
    members.mapM (readMember? e) = some entries ↔ List.Forall₂ (IsMember e) members entries := by
  induction members generalizing entries with
  | nil => cases entries <;> simp
  | cons m members ih =>
    rw [List.mapM_cons, List.forall₂_cons_left_iff]
    simp only [Option.bind_eq_bind, Option.bind_eq_some_iff, readMember?_eq_some_iff, ih]
    grind

theorem eq_ofList_iff {entries : List (String × e.Item)} {d : Dict e.Item} :
    d = .ofList entries ↔ ∀ k v, d.get? k = some v ↔ LastEntry entries k v := by
  have bound (k : String) (v : e.Item) :
      (Dict.ofList entries).get? k = some v ↔ LastEntry entries k v := by
    simp [Dict.ofList, Dict.get?_insertAll_iff]
  constructor
  · rintro rfl
    exact bound
  · intro same
    refine Dict.ext_get? fun k => Option.ext fun v => ?_
    rw [same, bound]

theorem decode_ok_iff {d : Dict e.Item} : decode e input = .ok d ↔
    ∃ members entries, parseObject? input = some members ∧
      List.Forall₂ (IsMember e) members entries ∧ ∀ k v, d.get? k = some v ↔
        LastEntry entries k v := by
  simp only [← mapM_readMember?_iff, ← eq_ofList_iff]
  rw [decode]
  cases parseObject? input with
  | none => simp
  | some members =>
    cases read : members.mapM (readMember? e) with
    | none => simp [read]
    | some entries => simp [read, eq_comm]

theorem parse_eq (e : JsonElement) (input : String) :
    parse e input = if input.toList.all Text.isBlank then .ok .empty else decode e input :=
  rfl

/-- An argument is accepted exactly if there is a map in it. -/
theorem parse_ok_iff {d : Dict e.Item} : parse e input = .ok d ↔ Denotes e input d := by
  rw [parse_eq, Denotes]
  split
  · rw [Except.ok.injEq, eq_comm]
  · exact decode_ok_iff

theorem parse_error {reason : ValueError} (refused : parse e input = .error reason) :
    reason = .notJson input := by
  rw [parse_eq, decode] at refused
  split at refused
  · contradiction
  · split at refused
    · contradiction
    · exact (Except.error.inj refused).symm

/-- An argument in place is its operation, or nothing. -/
theorem assign_run (e : JsonElement) (prior : Dict e.Item) (input : String) :
    (assign e input).run prior = whole prior (parse e input) := by
  rw [assign, parse_eq]
  split
  · rfl
  · rw [run_ofExcept_bind]
    cases decode e input <;> rfl

theorem assign_run_ok_iff {prior d : Dict e.Item} :
    (assign e input).run prior = .ok () d ↔ Denotes e input d := by
  rw [assign_run, ← parse_ok_iff]
  cases parse e input <;> simp [whole]

/-! ## Many arguments -/

/-- The map after arguments is that of the last one that is accepted. -/
theorem run_eq (e : JsonElement) (initial : Dict e.Item) (inputs : List String) :
    (∃ before input later d, inputs = before ++ input :: later ∧ Denotes e input d ∧
        (∀ text ∈ later, ∀ other, ¬ Denotes e text other) ∧ run e initial inputs = d) ∨
      (∀ input ∈ inputs, ∀ d, ¬ Denotes e input d) ∧ run e initial inputs = initial := by
  induction inputs using List.reverseRecOn with
  | nil => exact .inr ⟨by simp, rfl⟩
  | append_singleton inputs input ih =>
    cases read : parse e input with
    | ok d =>
      have denotes := parse_ok_iff.1 read
      exact .inl ⟨inputs, input, [], d, rfl, denotes, by simp,
        afterAll_concat_ok (assign_run_ok_iff.2 denotes)⟩
    | error reason =>
      have none : ∀ d, ¬ Denotes e input d := fun d => by simp [← parse_ok_iff, read]
      have same : run e initial (inputs ++ [input]) = run e initial inputs := by
        refine afterAll_concat_error (e := reason) ?_
        rw [assign_run, read]
        rfl
      rw [same]
      rcases ih with ⟨before, last, later, d, rfl, denotes, refused, held⟩ | ⟨refused, held⟩
      · refine .inl ⟨before, last, later ++ [input], d, by simp, denotes, ?_, held⟩
        rw [List.forall_mem_append]
        exact ⟨refused, by simpa using none⟩
      · refine .inr ⟨?_, held⟩
        rw [List.forall_mem_append]
        exact ⟨refused, by simpa using none⟩

/-- A map in the course of any arguments. Whatever the map held, the text of a map gives that map.
An argument is accepted exactly if there is a map in it, and this takes the place of all that was
there; one that is refused changes nothing. So the map is that of the last argument that is
accepted, or the initial one. -/
theorem run_objects (discrete : e.Discrete) (initial : Dict e.Item) (inputs : List String) :
    let final := run e initial inputs
    (∀ d prior, (assign e (format e d)).run prior = .ok () d) ∧
    (∀ input prior, (assign e input).run prior = whole prior (parse e input)) ∧
    (∀ input prior d, (assign e input).run prior = .ok () d ↔ Denotes e input d) ∧
    (∀ input prior reason after, (assign e input).run prior = .error reason after →
      after = prior ∧ reason = .notJson input) ∧
    ((∃ before input later d, inputs = before ++ input :: later ∧ Denotes e input d ∧
        (∀ text ∈ later, ∀ other, ¬ Denotes e text other) ∧ final = d) ∨
      (∀ input ∈ inputs, ∀ d, ¬ Denotes e input d) ∧ final = initial) := by
  intro final
  refine ⟨?formatted, fun input prior => assign_run e prior input, fun _ _ _ => assign_run_ok_iff,
    ?refused, run_eq e initial inputs⟩
  case formatted =>
    intro d prior
    rw [assign_run, parse_format discrete]
    rfl
  case refused =>
    intro input prior reason after failed
    have same := eq_of_run_error (assign_run e prior input) failed
    rw [assign_run] at failed
    cases read : parse e input with
    | ok d =>
      rw [read] at failed
      contradiction
    | error cause =>
      rw [read] at failed
      obtain ⟨rfl, -⟩ := EStateM.Result.error.inj failed
      exact ⟨same, parse_error read⟩

/-- Texts with a quote, a backslash, a control character and a letter beyond ASCII. -/
def signs : Dict String :=
  .ofList [("\"", "\\"), ("\x01", "é\n")]

/-- An argument with a bad value in its last member changes nothing, and of the members for one key
the last one counts. -/
theorem run_objects_signs : JsonElement.Discrete .text ∧
    (assign .text (format .text signs)).run (.ofList [("stale", "9")]) = .ok () signs ∧
    run .text signs ["\x7b\"a\":\"1\",\"b\":2\x7d"] = signs ∧
    run .text signs ["\x7b\"a\":\"1\",\"a\":\"2\"\x7d", "[]"] = .ofList [("a", "2")] :=
  ⟨.text, (run_objects .text .empty []).1 signs _, by decide +kernel, by decide +kernel⟩

end JsonMap

end FlagBinding
