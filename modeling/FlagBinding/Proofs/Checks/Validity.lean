import FlagBinding.Proofs.Checks.Kinds
import FlagBinding.Proofs.Checks.Steps
import Mathlib.Data.List.Pairwise

/-!
# Valid messages

What the flags of a message have to satisfy, said without the order in which it is checked. The
checks of a message accept exactly the valid messages. Of a message that is not valid they blame the
first field in the way: first the names and aliases count, in the order of the fields, then the
options.

## Main definitions

* `Fits`: a kind of flag that fits the type of a field.
* `ValidOptions`, `ValidMessage`: the options of a field, and the flags of a message.
* `Blamed`: the field of a message that is in the way, and why.

## Main statements

* `checkKind_ok_iff`, `checkField_eq_ok_iff`: the checks of a field accept what is valid.
* `firstClash?_eq_some_iff`, `checkAll_error_iff`: the first field that is not.
* `checkMessage_accepts_blames`: the checks of a message.
-/

namespace FlagBinding.Check

open Schema

/-! ## Kinds that fit -/

/-- A type for the values of a scalar kind: the kind itself, or its wrapper if it has one. -/
def HoldsKind (kind : ScalarKind) (type : FieldType) : Prop :=
  type = .scalar kind ∨ (kind ∈ wrappedKinds ∧ type.wellKnown? = some (.wrapper kind))

/-- A type for bytes. -/
def HoldsOctets (type : FieldType) : Prop :=
  type = .bytes ∨ type.wellKnown? = some .bytesValue

/-- An encoding that has been chosen. -/
def Chosen (encoding : BytesEncoding) : Prop :=
  encoding = .base64 ∨ encoding = .hex

/-- Formats of timestamps to choose from. -/
structure ProperFormats (formats : List String) : Prop where
  present : formats ≠ []
  filled : "" ∉ formats
  distinct : formats.Nodup

def EntryFits (entry : MapEntry) : MapFormat → Prop
  | .unspecified => entry.key = .scalar .string ∧ ∀ m, entry.value ≠ .message m
  | .json => entry.key = .scalar .string ∧ ∀ m, entry.value ≠ .message m
  | .textToText => entry.key = .scalar .string ∧ entry.value = .scalar .string
  | .textToInteger =>
    entry.key = .scalar .string ∧ ∃ kind, entry.value = .scalar kind ∧ kind.isInteger
  | .unknown _ => False

def ElementFits (type : FieldType) : ElementKind → Prop
  | .scalar kind => HoldsKind kind type
  | .bytes encoding => HoldsOctets type ∧ Chosen encoding
  | .enumeration => ∃ e, type = .enumeration e
  | .duration => type.wellKnown? = some .duration
  | .timestamp formats => type.wellKnown? = some .timestamp ∧ ProperFormats formats
  | .unknown _ => False

/-- A kind of flag that fits the type of a field. A message that is not nested fits everywhere. -/
def Fits (s : Schema) (f : Field) : FlagKind → Prop
  | .scalar kind default =>
    f.isSingular ∧ HoldsKind kind f.type ∧ ∀ v, default = some v → v.carrier = kind.carrier
  | .bytes encoding => f.isSingular ∧ HoldsOctets f.type ∧ Chosen encoding
  | .enumeration default =>
    f.isSingular ∧ ∃ e, f.type = .enumeration e ∧ ∀ n, default = some n →
      ∃ v ∈ e.values, v.number = n
  | .duration => f.isSingular ∧ f.type.wellKnown? = some .duration
  | .timestamp formats =>
    f.isSingular ∧ f.type.wellKnown? = some .timestamp ∧ ProperFormats formats
  | .map format => ∃ entry, f.map = some entry ∧ EntryFits entry format
  | .message nested => nested →
    f.isSingular ∧ ∃ type n, f.type = .message type ∧ type.wellKnown = none ∧
      s.findMessage? type.fullName = some n ∧ n.disabled = false
  | .repeated element => f.repeated ∧ f.map = none ∧ ElementFits f.type element
  | .unknown _ => False

variable {s : Schema} {m : Message} {f : Field} {flags : FieldFlags}

theorem checkEncoding_ok_iff {encoding : BytesEncoding} :
    checkEncoding encoding = .ok () ↔ Chosen encoding := by
  cases encoding <;> simp [checkEncoding, Chosen]

theorem checkFormatsFrom_ok_iff {seen formats : List String} :
    checkFormatsFrom seen formats = .ok () ↔
      "" ∉ formats ∧ formats.Nodup ∧ ∀ format ∈ formats, format ∉ seen := by
  induction formats generalizing seen with
  | nil => simp [checkFormatsFrom]
  | cons format rest ih =>
    rw [checkFormatsFrom, then_ok_iff, then_ok_iff, require_ok_iff, require_ok_iff, ih]
    simp only [Bool.not_eq_true', String.isEmpty_eq_false_iff, List.contains_eq_mem,
      decide_eq_false_iff_not, List.mem_cons, List.nodup_cons]
    grind

theorem checkFormats_ok_iff {formats : List String} :
    checkFormats formats = .ok () ↔ ProperFormats formats := by
  rw [checkFormats, then_ok_iff, require_ok_iff, checkFormatsFrom_ok_iff]
  simp only [Bool.not_eq_true', List.isEmpty_eq_false_iff, List.not_mem_nil, not_false_eq_true,
    implies_true, and_true]
  exact ⟨fun ⟨a, b, c⟩ => ⟨a, b, c⟩, fun ⟨a, b, c⟩ => ⟨a, b, c⟩⟩

theorem checkNumber_ok_iff {e : EnumType} {default : Option Int32} :
    checkNumber e default = .ok () ↔ ∀ n, default = some n → ∃ v ∈ e.values, v.number = n := by
  cases default <;> simp [checkNumber, EnumType.contains]

theorem holdsKind_iff {kind : ScalarKind} {type : FieldType} :
    holdsScalar type kind ↔ HoldsKind kind type := by
  simp [holdsScalar, HoldsKind]

theorem holdsOctets_iff {type : FieldType} : holdsBytes type ↔ HoldsOctets type := by
  simp [holdsBytes, HoldsOctets]

theorem isMessage_eq_false_iff {type : FieldType} :
    isMessage type = false ↔ ∀ m, type ≠ .message m := by
  cases type <;> simp [isMessage]

theorem isInteger_iff {type : FieldType} :
    isInteger type ↔ ∃ kind, type = .scalar kind ∧ kind.isInteger := by
  cases type <;> simp [isInteger]

theorem checkEntry_eq_ok_iff {entry : MapEntry} {format : MapFormat} :
    checkEntry entry format = .ok () ↔ EntryFits entry format := by
  rw [checkEntry_ok_iff]
  cases format with
  | unspecified | json => rw [EntryFits, isMessage_eq_false_iff]
  | textToText => rfl
  | textToInteger => rw [EntryFits, isInteger_iff]
  | unknown n => simp [EntryFits]

theorem checkElement_eq_ok_iff {element : ElementKind} :
    checkElement f element = .ok () ↔ ElementFits f.type element := by
  rw [checkElement_ok_iff]
  cases element with
  | scalar kind => exact holdsKind_iff
  | bytes encoding => simp [ElementFits, checkEncoding_ok_iff, holdsOctets_iff, and_comm]
  | enumeration => rfl
  | duration => rfl
  | timestamp formats => simp [ElementFits, checkFormats_ok_iff, and_comm]
  | unknown name => rfl

/-- The check of a kind accepts what fits. -/
theorem checkKind_ok_iff {kind : FlagKind} : checkKind s f kind = .ok () ↔ Fits s f kind := by
  cases kind with
  | scalar kind default =>
    simp [checkKind_scalar_ok_iff, Fits, holdsKind_iff, eq_comm (a := kind.carrier)]
  | bytes encoding =>
    rw [checkKind_bytes_ok_iff, holdsOctets_iff, checkEncoding_ok_iff, Fits]
  | enumeration default =>
    rw [checkKind_enumeration_ok_iff, Fits]
    simp only [checkNumber_ok_iff]
    grind
  | duration => exact checkKind_duration_ok_iff
  | timestamp formats => rw [checkKind_timestamp_ok_iff, checkFormats_ok_iff, Fits]
  | map format =>
    rw [checkKind, checkMap_ok_iff, Fits]
    simp only [checkEntry_eq_ok_iff]
  | message nested =>
    cases nested with
    | false => simp [checkKind, Fits]
    | true => simp [checkKind, Fits, checkNested_ok_iff, target?_eq_some_iff]
  | repeated element =>
    rw [checkKind, checkRepeated_ok_iff, checkElement_eq_ok_iff, Fits]
  | unknown name => simp [checkKind, Fits]

/-! ## Valid fields and messages -/

/-- The options of a field are valid: the field stands by itself, and if they are not disabled then
their kind fits the field and they say what all flags have to say. -/
structure ValidOptions (s : Schema) (f : Field) (flags : FieldFlags) : Prop where
  alone : f.oneof = none
  fits : flags.common.disabled = false → Fits s f flags.kind
  short : flags.common.disabled = false →
    ∀ short, flags.common.short = some short → short.length = 1
  usage : flags.registers → isBlankText flags.common.usage = false
  hint : flags.common.disabled = false → flags.common.deprecated →
    isBlankText flags.common.deprecatedUsage = false

/-- Flags whose names are distinct, and whose aliases are. -/
structure Separate (xs : List Flagged) : Prop where
  names : (xs.map fun x => x.1.flagName x.2).Nodup
  shorts : (xs.filterMap fun x => x.2.common.short).Nodup

/-- The flags of a message are valid. -/
structure ValidMessage (s : Schema) (m : Message) : Prop where
  separate : Separate (registering m)
  options : ∀ x ∈ flagged m, ValidOptions s x.1 x.2

/-- The check of a field accepts valid options. -/
theorem checkField_eq_ok_iff : checkField s f flags = .ok () ↔ ValidOptions s f flags := by
  rw [checkField_ok_iff, checkKind_ok_iff, checkCommon_ok_iff]
  constructor
  · rintro ⟨alone, rest⟩
    exact ⟨alone, fun on => (rest on).1, fun on => (rest on).2.1,
      fun registers => (rest (registers_iff.1 registers).1).2.2.1 registers,
      fun on => (rest on).2.2.2⟩
  · exact fun valid => ⟨valid.alone, fun on =>
      ⟨valid.fits on, valid.short on, valid.usage, valid.hint on⟩⟩

theorem pairwise_compatible_iff {xs : List Flagged} : xs.Pairwise Compatible ↔ Separate xs := by
  have names : (xs.map fun x => x.1.flagName x.2).Nodup ↔
      xs.Pairwise fun a b => a.1.flagName a.2 ≠ b.1.flagName b.2 := List.pairwise_map
  have shorts : (xs.filterMap fun x => x.2.common.short).Nodup ↔
      xs.Pairwise fun a b => a.2.common.short = none ∨ a.2.common.short ≠ b.2.common.short := by
    rw [List.Nodup, List.pairwise_filterMap]
    refine iff_of_eq (congrArg (List.Pairwise · xs) ?_)
    funext a b
    cases a.2.common.short <;> cases b.2.common.short <;> simp
  have both : xs.Pairwise Compatible ↔ _ ∧ _ := List.pairwise_and_iff
  rw [both, ← names, ← shorts]
  exact ⟨fun ⟨a, b⟩ => ⟨a, b⟩, fun ⟨a, b⟩ => ⟨a, b⟩⟩

/-! ## The first field in the way -/

/-- The field of a message that is in the way of the others, and why. -/
inductive Blamed (s : Schema) (m : Message) : Flagged → FieldFault → Prop
  /-- The first flag whose name or alias is taken; it is the name that is taken. -/
  | name {before after : List Flagged} {x owner : Flagged}
      (split : registering m = before ++ x :: after) (free : Separate before)
      (mem : owner ∈ before) (same : owner.1.flagName owner.2 = x.1.flagName x.2) :
      Blamed s m x (.nameTaken (x.1.flagName x.2) owner.1.name)
  /-- The first flag whose name or alias is taken; it is only the alias that is taken. -/
  | short {before after : List Flagged} {x owner : Flagged} {short : String}
      (split : registering m = before ++ x :: after) (free : Separate before)
      (fresh : ∀ y ∈ before, y.1.flagName y.2 ≠ x.1.flagName x.2)
      (mem : owner ∈ before) (has : x.2.common.short = some short)
      (same : owner.2.common.short = some short) :
      Blamed s m x (.shortTaken short owner.1.name)
  /-- No name and no alias is taken, and it is the first field whose options are not valid. -/
  | options {before after : List Flagged} {x : Flagged} {fault : FieldFault}
      (free : Separate (registering m)) (split : flagged m = before ++ x :: after)
      (valid : ∀ y ∈ before, ValidOptions s y.1 y.2) (invalid : ¬ ValidOptions s x.1 x.2)
      (found : checkField s x.1 x.2 = .error fault) :
      Blamed s m x fault

instance : Std.Symm Compatible :=
  ⟨fun a b h => by grind [Compatible]⟩

/-- In a list of separate flags, two that are not compatible are one. -/
theorem Separate.eq_of_not_compatible {xs : List Flagged} (free : Separate xs) {a b : Flagged}
    (ha : a ∈ xs) (hb : b ∈ xs) (clash : ¬ Compatible a b) : a = b := by
  have pairs := pairwise_compatible_iff.2 free
  by_contra distinct
  exact clash (pairs.forall ha hb distinct)

theorem clash?_eq_nameTaken {seen : List Flagged} {owner : Flagged} (free : Separate seen)
    (mem : owner ∈ seen) (same : owner.1.flagName owner.2 = f.flagName flags) :
    clash? seen f flags = some (.nameTaken (f.flagName flags) owner.1.name) := by
  unfold clash?
  split
  case h_1 other found =>
    have name : other.1.flagName other.2 = f.flagName flags := by
      simpa using List.find?_some found
    have : other = owner := free.eq_of_not_compatible (List.mem_of_find?_eq_some found) mem
      fun h => h.1 (name.trans same.symm)
    rw [this]
  case h_2 fresh =>
    rw [List.find?_eq_none] at fresh
    exact absurd (by simpa using same) (fresh owner mem)

theorem clash?_eq_shortTaken {seen : List Flagged} {owner : Flagged} {short : String}
    (free : Separate seen) (fresh : ∀ y ∈ seen, y.1.flagName y.2 ≠ f.flagName flags)
    (mem : owner ∈ seen) (has : flags.common.short = some short)
    (same : owner.2.common.short = some short) :
    clash? seen f flags = some (.shortTaken short owner.1.name) := by
  have name : (seen.find? fun y => y.1.flagName y.2 = f.flagName flags) = none := by
    simpa using fresh
  obtain ⟨other, found⟩ : ∃ y, (seen.find? fun y => y.2.common.short = some short) = some y :=
    Option.isSome_iff_exists.1 (List.find?_isSome.2 ⟨owner, mem, by simpa using same⟩)
  have written : other.2.common.short = some short := by simpa using List.find?_some found
  have : other = owner := free.eq_of_not_compatible (List.mem_of_find?_eq_some found) mem
    fun h => by simp [Compatible, written, same] at h
  rw [clash?, name, has, Option.bind_some, found, this, Option.map_some]

/-- What a clash with the flags before it says. -/
theorem clash?_eq_some {seen : List Flagged} {fault : FieldFault}
    (clash : clash? seen f flags = some fault) :
    (∃ owner ∈ seen, owner.1.flagName owner.2 = f.flagName flags ∧
      fault = .nameTaken (f.flagName flags) owner.1.name) ∨
    ((∀ y ∈ seen, y.1.flagName y.2 ≠ f.flagName flags) ∧ ∃ owner ∈ seen, ∃ short,
      flags.common.short = some short ∧ owner.2.common.short = some short ∧
        fault = .shortTaken short owner.1.name) := by
  unfold clash? at clash
  split at clash
  case h_1 owner found =>
    refine .inl ⟨owner, List.mem_of_find?_eq_some found, ?_, ?_⟩
    · simpa using List.find?_some found
    · simpa using clash.symm
  case h_2 fresh =>
    obtain ⟨short, has, found⟩ := Option.bind_eq_some_iff.1 clash
    obtain ⟨owner, look, rfl⟩ := Option.map_eq_some_iff.1 found
    refine .inr ⟨by simpa using fresh, owner, List.mem_of_find?_eq_some look, short, has, ?_, rfl⟩
    simpa using List.find?_some look

/-- A place in a list is its head or a place in its tail. -/
theorem exists_place_cons_iff {α : Type} {y : α} {rest : List α} {P : List α → α → Prop} :
    (∃ before x after, y :: rest = before ++ x :: after ∧ P before x) ↔
      P [] y ∨ ∃ before x after, rest = before ++ x :: after ∧ P (y :: before) x := by
  constructor
  · rintro ⟨before, x, after, split, h⟩
    cases before with
    | nil =>
      obtain ⟨rfl, rfl⟩ := List.cons.inj split
      exact .inl h
    | cons z before =>
      obtain ⟨rfl, rfl⟩ := List.cons.inj split
      exact .inr ⟨before, x, after, rfl, h⟩
  · rintro (h | ⟨before, x, after, rfl, h⟩)
    · exact ⟨[], y, rest, rfl, h⟩
    · exact ⟨y :: before, x, after, rfl, h⟩

/-- The first flag that clashes: no two before it do, and it clashes with one of them. -/
theorem firstClash?_eq_some_iff {seen xs : List Flagged} {fault : FieldFault}
    (free : seen.Pairwise Compatible) :
    firstClash? seen xs = some (f, fault) ↔ ∃ before x after, xs = before ++ x :: after ∧
      (seen ++ before).Pairwise Compatible ∧ clash? (seen ++ before) x.1 x.2 = some fault ∧
      x.1 = f := by
  induction xs generalizing seen with
  | nil => simp [firstClash?]
  | cons y rest ih =>
    rw [exists_place_cons_iff]
    unfold firstClash?
    split
    case h_1 fault' clash =>
      -- no flag after it counts, for the ones before that flag would have to be separate
      have blocked {before : List Flagged} : ¬ (seen ++ y :: before).Pairwise Compatible := by
        intro pairs
        have : clash? seen y.1 y.2 = none := clash?_eq_none_iff.2 fun other mem =>
          (List.pairwise_append.1 pairs).2.2 other mem y List.mem_cons_self
        simp [clash] at this
      simp [free, clash, blocked, and_comm]
    case h_2 none =>
      have next : (seen ++ [y]).Pairwise Compatible :=
        List.pairwise_append.2 ⟨free, List.pairwise_singleton _ _, fun other mem x hx => by
          rw [List.mem_singleton.1 hx]
          exact clash?_eq_none_iff.1 none other mem⟩
      rw [ih next]
      simp [none]

/-- The names and aliases of a message are refused at a flag that is in the way of the others. -/
theorem checkNames_error_iff {e : CompileError} :
    checkNames m = .error e ↔ ∃ before x after, registering m = before ++ x :: after ∧
      Separate before ∧ ∃ fault, clash? before x.1 x.2 = some fault ∧
        e = .field m.fullName x.1.name fault := by
  have first (f : Field) (fault : FieldFault) :
      firstClash? [] (registering m) = some (f, fault) ↔ _ :=
    firstClash?_eq_some_iff List.Pairwise.nil
  simp only [List.nil_append, pairwise_compatible_iff] at first
  have named : checkNames m = .error e ↔ ∃ f fault,
      firstClash? [] (registering m) = some (f, fault) ∧ e = .field m.fullName f.name fault := by
    unfold checkNames
    rcases firstClash? [] (registering m) with - | ⟨f, fault⟩ <;> simp [eq_comm]
  rw [named]
  constructor
  · rintro ⟨f, fault, clash, rfl⟩
    obtain ⟨before, x, after, split, free, found, rfl⟩ := (first f fault).1 clash
    exact ⟨before, x, after, split, free, fault, found, rfl⟩
  · rintro ⟨before, x, after, split, free, fault, found, rfl⟩
    exact ⟨x.1, fault, (first x.1 fault).2 ⟨before, x, after, split, free, found, rfl⟩, rfl⟩

theorem checkFlagged_error_iff {x : Flagged} {e : CompileError} :
    (checkFlagged s m x).result = .error e ↔
      ∃ fault, checkField s x.1 x.2 = .error fault ∧ e = .field m.fullName x.1.name fault := by
  rw [checkFlagged, Journaled.result_bind, Journaled.result_note, Journaled.result_lift]
  cases checkField s x.1 x.2 <;> simp [Except.bind, eq_comm]

/-- The options of a message are refused at the first field whose options are not valid. -/
theorem checkAll_error_iff {xs : List Flagged} {e : CompileError} :
    (checkAll s m xs).result = .error e ↔ ∃ before x after, xs = before ++ x :: after ∧
      (∀ y ∈ before, ValidOptions s y.1 y.2) ∧ ∃ fault, checkField s x.1 x.2 = .error fault ∧
        e = .field m.fullName x.1.name fault := by
  induction xs with
  | nil => simp [checkAll]
  | cons y rest ih =>
    rw [checkAll, Journaled.result_bind, exists_place_cons_iff, ← checkFlagged_error_iff]
    simp only [List.forall_mem_cons, ← checkField_eq_ok_iff (f := y.1),
      ← checkFlagged_ok_iff (x := y) (m := m)]
    cases (checkFlagged s m y).result with
    | error e' => simp [Except.bind]
    | ok _ => simp [Except.bind, ih]

/-! ## The checks of a message -/

theorem checkMessage_error_iff {e : CompileError} :
    (checkMessage s m).result = .error e ↔ m.disabled = false ∧
      (checkNames m = .error e ∨
        checkNames m = .ok () ∧ (checkAll s m (flagged m)).result = .error e) := by
  unfold checkMessage
  split
  case isTrue off => simp [off]
  case isFalse on =>
    rw [Journaled.result_bind, Journaled.result_note]
    cases checkNames m <;> simp [on, Except.bind]

theorem blamed_iff {x : Flagged} {fault : FieldFault} : Blamed s m x fault ↔
    (∃ before after, registering m = before ++ x :: after ∧ Separate before ∧
      clash? before x.1 x.2 = some fault) ∨
    (Separate (registering m) ∧ ∃ before after, flagged m = before ++ x :: after ∧
      (∀ y ∈ before, ValidOptions s y.1 y.2) ∧ checkField s x.1 x.2 = .error fault) := by
  constructor
  · rintro (⟨split, free, mem, same⟩ | ⟨split, free, fresh, mem, has, same⟩ |
      ⟨free, split, valid, invalid, found⟩)
    · exact .inl ⟨_, _, split, free, clash?_eq_nameTaken free mem same⟩
    · exact .inl ⟨_, _, split, free, clash?_eq_shortTaken free fresh mem has same⟩
    · exact .inr ⟨free, _, _, split, valid, found⟩
  · rintro (⟨before, after, split, free, clash⟩ | ⟨free, before, after, split, valid, found⟩)
    · obtain ⟨owner, mem, same, rfl⟩ | ⟨fresh, owner, mem, short, has, same, rfl⟩ :=
        clash?_eq_some clash
      · exact .name split free mem same
      · exact .short split free fresh mem has same
    · refine .options free split valid (fun ok => ?_) found
      simp [checkField_eq_ok_iff.2 ok] at found

/-- The checks of a message accept exactly the valid messages, and disabled ones. If they refuse a
message then for the fault of the field that is in the way. -/
theorem checkMessage_accepts_blames (s : Schema) (m : Message) :
    ((checkMessage s m).result = .ok () ↔ (m.disabled = false → ValidMessage s m)) ∧
    ∀ e, (checkMessage s m).result = .error e ↔ m.disabled = false ∧
      ∃ x fault, Blamed s m x fault ∧ e = .field m.fullName x.1.name fault := by
  constructor
  · rw [checkMessage_ok_iff, pairwise_compatible_iff]
    simp only [checkField_eq_ok_iff]
    exact forall_congr' fun _ => ⟨fun ⟨a, b⟩ => ⟨a, b⟩, fun ⟨a, b⟩ => ⟨a, b⟩⟩
  · intro e
    rw [checkMessage_error_iff, checkNames_error_iff, checkNames_ok_iff, pairwise_compatible_iff,
      checkAll_error_iff]
    refine and_congr_right fun _ => ?_
    constructor
    · rintro (⟨before, x, after, split, free, fault, clash, rfl⟩ |
        ⟨free, before, x, after, split, valid, fault, found, rfl⟩)
      · exact ⟨x, fault, blamed_iff.2 (.inl ⟨before, after, split, free, clash⟩), rfl⟩
      · exact ⟨x, fault, blamed_iff.2 (.inr ⟨free, before, after, split, valid, found⟩), rfl⟩
    · rintro ⟨x, fault, blamed, rfl⟩
      obtain ⟨before, after, split, free, clash⟩ | ⟨free, before, after, split, valid, found⟩ :=
        blamed_iff.1 blamed
      · exact .inl ⟨before, x, after, split, free, fault, clash, rfl⟩
      · exact .inr ⟨free, before, x, after, split, valid, fault, found, rfl⟩

end FlagBinding.Check
