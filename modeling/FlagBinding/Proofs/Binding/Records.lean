import FlagBinding.Binding.Content
import Mathlib.Data.List.Nodup

/-!
# Records of messages

A record of a message has an entry for each field, with what the field can hold. The blank record is
one, and one stays one when a field gets another content of its type.

## Main definitions

* `Content.IsOf`: a content of a type.
* `memberType`: what the member for a field holds.
* `Record.IsOf`: a record of a message.

## Main statements

* `Record.isOf_blank`: the blank record of a message is one of its records.
* `Record.IsOf.put`: an entry may be replaced by another one of its type.
-/

namespace FlagBinding.Binding

open Schema

/-! ## Types -/

def Datum.type : Datum → ItemType
  | .bool _ => .bool
  | .int32 _ => .int32
  | .int64 _ => .int64
  | .uint32 _ => .uint32
  | .uint64 _ => .uint64
  | .single _ => .single
  | .double _ => .double
  | .text _ => .text
  | .bytes _ => .bytes
  | .duration _ => .duration
  | .timestamp _ => .timestamp
  | .json _ => .json

def Content.IsOf : StorageType → Content → Prop
  | .plain type, .plain d => d.type = type
  | .optional type, .optional o => ∀ d ∈ o, d.type = type
  | .list type, .list ds => ∀ d ∈ ds, d.type = type
  | .map type, .map own entries => own = type ∧ ∀ e ∈ entries.entries, e.2.type = type
  | .message _, .message _ => True
  | _, _ => False

/-- What the member for a field holds. A message may be missing whether or not the field is marked
so. -/
def memberType (f : Field) : StorageType :=
  match storageOf f with
  | .optional (.message fullName) => .message fullName
  | type => type

theorem Content.IsOf.exists_message {fullName : String} {c : Content}
    (h : c.IsOf (.message fullName)) : ∃ held, c = .message held := by
  cases c with
  | message held => exact ⟨held, rfl⟩
  | _ => exact h.elim

theorem memberType_ne_plain (f : Field) (fullName : String) :
    memberType f ≠ .plain (.message fullName) := by
  have storage : storageOf f ≠ .plain (.message fullName) := by
    unfold storageOf
    split
    case h_1 => simp
    case h_2 =>
      simp only
      split
      case isTrue => simp
      case isFalse =>
        split
        case isTrue => simp
        case isFalse => split <;> simp_all
  unfold memberType
  split
  case h_1 => simp
  case h_2 => exact storage

theorem isOf_blank (f : Field) : (Content.blank (memberType f)).IsOf (memberType f) := by
  have single := memberType_ne_plain f
  have missing : ∀ fullName, memberType f ≠ .optional (.message fullName) := by
    intro fullName
    unfold memberType
    split
    case h_1 => simp
    case h_2 other => exact other fullName
  generalize memberType f = type at single missing ⊢
  cases type with
  | plain type => cases type <;> first | rfl | exact absurd rfl (single _)
  | optional type =>
    cases type with
    | message fullName => exact absurd rfl (missing fullName)
    | _ => exact fun _ => by rintro ⟨⟩
  | list type => exact fun _ => by rintro ⟨⟩
  | map type => exact ⟨rfl, fun _ => by rintro ⟨⟩⟩
  | message fullName => trivial

theorem memberType_of_message {f : Field} {type : MessageType} (singular : f.isSingular)
    (typed : f.type = .message type) (own : type.wellKnown = none) :
    memberType f = .message type.fullName := by
  simp only [Field.isSingular, Bool.and_eq_true, Bool.not_eq_true',
    Option.isNone_iff_eq_none] at singular
  have storage : storageOf f = if f.optional then .optional (.message type.fullName)
      else .message type.fullName := by
    simp [storageOf, singular, typed, own, ItemType.ofFieldType, FieldType.wellKnown?]
  rw [memberType, storage]
  cases f.optional <;> rfl

theorem blank_storageOf (f : Field) : Content.blank (storageOf f) = .blank (memberType f) := by
  unfold memberType
  split
  case h_1 type => rw [type]; rfl
  case h_2 => rfl

/-! ## Records -/

namespace Record

variable {r : Record} {name other : String} {c : Content}

theorem keys_put (r : Record) (name : String) (c : Content) :
    (r.put name c).map (·.1) = r.map (·.1) := by
  simp only [put, List.map_map]
  refine List.map_congr_left fun entry _ => ?_
  simp only [Function.comp_apply]
  split
  case isTrue same => exact same.symm
  case isFalse => rfl

theorem get?_cons (entry : String × Content) (r : Record) (name : String) :
    get? (entry :: r) name = if entry.1 = name then some entry.2 else r.get? name := by
  rw [get?, List.find?_cons]
  split <;> simp_all [get?]

theorem put_cons (entry : String × Content) (r : Record) (name : String) (c : Content) :
    put (entry :: r) name c = (if entry.1 = name then (name, c) else entry) :: r.put name c := rfl

theorem get?_put_self (there : (r.get? name).isSome) : (r.put name c).get? name = some c := by
  induction r with
  | nil => simp [get?] at there
  | cons entry r ih =>
    rw [get?_cons] at there
    rw [put_cons, get?_cons]
    split at there
    case isTrue same => simp [same]
    case isFalse other => simp [other, ih there]

theorem get?_put_of_ne (differ : other ≠ name) : (r.put name c).get? other = r.get? other := by
  induction r with
  | nil => rfl
  | cons entry r ih =>
    rw [put_cons, get?_cons, get?_cons, ih]
    split
    case isTrue same => simp [differ.symm, same]
    case isFalse => rfl

theorem get?_of_mem (distinct : (r.map (·.1)).Nodup) (mem : (name, c) ∈ r) :
    r.get? name = some c := by
  induction r with
  | nil => contradiction
  | cons entry r ih =>
    obtain ⟨fresh, distinct⟩ := List.nodup_cons.1 distinct
    rw [get?_cons]
    rcases List.mem_cons.1 mem with rfl | mem
    · exact if_pos rfl
    · rw [if_neg fun same => fresh (List.mem_map.2 ⟨_, mem, same.symm⟩), ih distinct mem]

theorem put_of_absent (absent : name ∉ r.map (·.1)) (c : Content) : r.put name c = r := by
  refine (List.map_congr_left fun entry mem => ?_).trans (List.map_id r)
  exact if_neg fun same => absent (List.mem_map.2 ⟨entry, mem, same⟩)

/-- A content that is already there is put in place of itself. -/
theorem put_eq_self (distinct : (r.map (·.1)).Nodup) (there : r.get? name = some c) :
    r.put name c = r := by
  induction r with
  | nil => rfl
  | cons entry r ih =>
    obtain ⟨fresh, distinct⟩ := List.nodup_cons.1 distinct
    rw [get?_cons] at there
    rw [put_cons]
    split at there
    case isTrue same =>
      subst same
      rw [if_pos rfl, put_of_absent fresh, ← Option.some.inj there]
    case isFalse other => rw [if_neg other, ih distinct there]

/-- A record of a message has an entry for each field, in their order, with what the field can hold.
The records in it are again records of their messages. -/
inductive IsOf (s : Schema) : Message → Record → Prop
  | intro {m : Message} {r : Record} (keys : r.map (·.1) = m.fields.map (·.name))
      (holds : ∀ f ∈ m.fields, ∃ c, r.get? f.name = some c ∧ c.IsOf (memberType f))
      (nested : ∀ f ∈ m.fields, ∀ target n inner, memberType f = .message target →
        s.findMessage? target = some n → r.get? f.name = some (.message (some inner)) →
        IsOf s n inner) : IsOf s m r

variable {s : Schema} {m : Message} {f : Field}

theorem keys_blank (m : Message) : (blank m).map (·.1) = m.fields.map (·.name) := by
  simp only [blank, List.map_map, Function.comp_def]

theorem isOf_blank (distinct : (m.fields.map (·.name)).Nodup) : IsOf s m (blank m) := by
  have look : ∀ f ∈ m.fields, (blank m).get? f.name = some (.blank (memberType f)) := by
    intro f mem
    rw [← blank_storageOf]
    exact get?_of_mem (keys_blank m ▸ distinct) (List.mem_map_of_mem mem)
  refine ⟨keys_blank m, fun f mem => ⟨_, look f mem, Binding.isOf_blank f⟩,
    fun f mem target n inner typed _ now => ?_⟩
  rw [look f mem, typed] at now
  simp [Content.blank] at now

theorem IsOf.put (h : IsOf s m r) (distinct : (m.fields.map (·.name)).Nodup) (mem : f ∈ m.fields)
    (typed : c.IsOf (memberType f)) (inside : ∀ target n inner, memberType f = .message target →
      s.findMessage? target = some n → c = .message (some inner) → IsOf s n inner) :
    IsOf s m (r.put f.name c) := by
  obtain ⟨keys, holds, nested⟩ := h
  have there : (r.get? f.name).isSome := by
    obtain ⟨old, there, -⟩ := holds f mem
    simp [there]
  have apart {g : Field} (mem' : g ∈ m.fields) (differ : g ≠ f) :
      (r.put f.name c).get? g.name = r.get? g.name :=
    get?_put_of_ne fun same => differ (List.inj_on_of_nodup_map distinct mem' mem same)
  refine ⟨by rw [keys_put, keys], fun g mem' => ?_, fun g mem' target n inner held found now => ?_⟩
  · by_cases own : g = f
    · subst own
      exact ⟨c, get?_put_self there, typed⟩
    · rw [apart mem' own]
      exact holds g mem'
  · by_cases own : g = f
    · subst own
      rw [get?_put_self there] at now
      exact inside target n inner held found (Option.some.inj now)
    · rw [apart mem' own] at now
      exact nested g mem' target n inner held found now

end Record

end FlagBinding.Binding
