import FlagBinding.Options.Shape
import Mathlib.Data.List.Basic

/-!
# Records of a message type

A record of a message type holds fields of the type in the order of their numbers, at most one of
every group, and in each of them a value of its kind that does not stand for none. Whatever entries
are read one after the other, what they leave is such a record.

## Main definitions

* `Kind.Holds`: the values of a kind.
* `FieldShape.Admits`: the values that set a field.
* `HasType`: the records of a message type.
* `assemble`: the record of the values of fields.

## Main statements

* `HasType.absorb?`: one more entry keeps the type of a record.
* `Catalogue.hasType_of_decode?`: the bytes of a message are read as a record of its type.
* `HasType.eq_assemble`: a record is assembled from what is set in the fields of its type.
-/

namespace FlagBinding.Options

open Schema (ScalarKind DefaultValue)
open Wire (Entry Payload)

/-- The values of a kind, where `nested` tells the records of a message type. -/
inductive Kind.Holds (nested : String → Record → Prop) : Kind → Value → Prop
  | plain {kind : ScalarKind} {d : DefaultValue} (carrier : d.carrier = kind.carrier) :
    Holds nested (.scalar kind) (.plain d)
  | text (s : String) : Holds nested (.scalar .string) (.text s)
  | bytes (b : Wire.Bytes) : Holds nested .bytes (.bytes b)
  | enumeration (n : Int32) : Holds nested .enumeration (.enumeration n)
  | record {type : String} {r : Record} (inner : nested type r) :
    Holds nested (.record type) (.record r)
  | group {type : String} {r : Record} (inner : nested type r) :
      Holds nested (.group type) (.record r)

/-- The values of a field. -/
def FieldShape.Fits (nested : String → Record → Prop) (f : FieldShape) (v : Value) : Prop :=
  if f.repeated then ∃ items, v = .list items ∧ ∀ x ∈ items, f.kind.Holds nested x
  else f.kind.Holds nested v

/-- The values that set a field. -/
structure FieldShape.Admits (nested : String → Record → Prop) (f : FieldShape)
    (v : Value) : Prop where
  fits : f.Fits nested v
  filled : f.isUnsetBy v = false

/-- The first field of a message type with a number. -/
def Catalogue.field? (c : Catalogue) (type : String) (number : Nat) : Option FieldShape :=
  (c type).find? (·.slot.number = number)

/-- A field may stand before another one, and both may be set. -/
def Slot.Precedes (a b : Slot) : Prop :=
  a.number < b.number ∧ Record.excludes a b = false

instance : DecidableRel Slot.Precedes :=
  fun _ _ => inferInstanceAs (Decidable (_ ∧ _))

/-- A record holds its fields in the order of their numbers and at most one of every group. -/
def Record.Ordered (r : Record) : Prop :=
  r.Pairwise fun a b => a.1.Precedes b.1

/-- The records of a message type with less than `depth` levels of messages in them. -/
def HasType (c : Catalogue) : Nat → String → Record → Prop
  | 0, _, _ => False
  | depth + 1, type, r => r.Ordered ∧
    ∀ m ∈ r, ∃ f, c.field? type m.1.number = some f ∧ m.1 = f.slot ∧ f.Admits (HasType c depth) m.2

/-! ## Setting fields -/

namespace Record

variable {r : Record} {m : Slot × Value}

theorem excludes_comm (a b : Slot) : excludes a b = excludes b a := by
  rw [excludes, excludes, Bool.beq_comm (a := a.number), Bool.beq_comm (a := a.oneof)]
  grind

theorem mem_insertByNumber {x : Slot × Value} : x ∈ insertByNumber m r ↔ x = m ∨ x ∈ r := by
  induction r with
  | nil => simp [insertByNumber]
  | cons n r ih =>
    rw [insertByNumber]
    split
    · exact List.mem_cons
    · rw [List.mem_cons, ih, List.mem_cons]
      exact or_left_comm

theorem mem_put {slot : Slot} {v : Value} (mem : m ∈ r.put slot v) : m = (slot, v) ∨ m ∈ r :=
  (mem_insertByNumber.1 mem).imp_right List.mem_of_mem_filter

/-- A field is added to others that it does not exclude. -/
theorem Ordered.insertByNumber (ordered : r.Ordered) (apart : ∀ x ∈ r, excludes m.1 x.1 = false) :
    Ordered (insertByNumber m r) := by
  induction r with
  | nil => exact List.pairwise_singleton ..
  | cons n r ih =>
    obtain ⟨first, others⟩ := List.pairwise_cons.1 ordered
    obtain ⟨alone, rest⟩ := List.forall_mem_cons.1 apart
    have differ : m.1.number ≠ n.1.number := by
      intro same
      simp [excludes, same] at alone
    rw [Record.insertByNumber]
    split
    case isTrue before =>
      refine List.pairwise_cons.2 ⟨fun x mem => ⟨?_, apart x mem⟩, ordered⟩
      rcases List.mem_cons.1 mem with rfl | mem
      · omega
      · have := (first x mem).1
        omega
    case isFalse behind =>
      refine List.pairwise_cons.2 ⟨fun x mem => ?_, ih others rest⟩
      rcases mem_insertByNumber.1 mem with rfl | mem
      · exact ⟨by omega, by rw [excludes_comm, alone]⟩
      · exact first x mem

theorem Ordered.put (ordered : r.Ordered) (slot : Slot) (v : Value) : (r.put slot v).Ordered :=
  Ordered.insertByNumber (List.Pairwise.filter _ ordered) fun x mem => by
    simpa using List.of_mem_filter mem

theorem Ordered.erase (ordered : r.Ordered) (number : Nat) : (r.erase number).Ordered :=
  List.Pairwise.filter _ ordered

theorem mem_of_at? {number : Nat} {v : Value} (found : r.at? number = some v) :
    ∃ m ∈ r, m.1.number = number ∧ m.2 = v := by
  obtain ⟨m, first, rfl⟩ := Option.map_eq_some_iff.1 found
  exact ⟨m, List.mem_of_find?_eq_some first, by simpa using List.find?_some first, rfl⟩

end Record

/-! ## Reading -/

section Reading

variable {nested? : String → Record → List Entry → Option Record} {nested : String → Record → Prop}

theorem carrier_ofBits {kind : ScalarKind} (number : kind ≠ .string) (n : Nat) :
    (ofBits kind n).carrier = kind.carrier := by
  cases kind <;> first | rfl | contradiction

theorem Kind.holds_of_scalar? {kind : ScalarKind} {p : Payload} {v : Value}
    (read : scalar? kind p = some v) : Kind.Holds nested (.scalar kind) v := by
  unfold scalar? at read
  split at read
  case h_1 =>
    obtain ⟨s, -, rfl⟩ := Option.map_eq_some_iff.1 read
    exact .text s
  case h_2 number =>
    obtain ⟨n, -, rfl⟩ := Option.map_eq_some_iff.1 read
    exact .plain (carrier_ofBits number n)

/-- A payload is read as a value of the kind, if messages are read as records of their types. -/
theorem Kind.holds_of_read? (empty : ∀ type, nested type [])
    (keeps : ∀ type r es r', nested type r → nested? type r es = some r' → nested type r')
    {kind : Kind} {before : Option Value} (held : ∀ v ∈ before, kind.Holds nested v) {p : Payload}
    {v : Value} (read : kind.read? nested? before p = some v) : kind.Holds nested v := by
  have inner {type : String} (own : kind = .record type ∨ kind = .group type) :
      nested type ((before.bind Value.record?).getD []) := by
    cases before with
    | none => exact empty type
    | some v =>
      rcases own with rfl | rfl
      all_goals
        cases held v rfl
        assumption
  cases kind with
  | scalar kind => exact holds_of_scalar? read
  | bytes =>
    obtain ⟨b, -, rfl⟩ := Option.map_eq_some_iff.1 read
    exact .bytes b
  | enumeration =>
    obtain ⟨n, -, rfl⟩ := Option.map_eq_some_iff.1 read
    exact .enumeration n
  | record type =>
    obtain ⟨r, found, rfl⟩ := Option.map_eq_some_iff.1 read
    obtain ⟨es, -, merged⟩ := Option.bind_eq_some_iff.1 found
    exact .record (keeps _ _ _ _ (inner (.inl rfl)) merged)
  | group type =>
    cases p with
    | group es =>
      obtain ⟨r, merged, rfl⟩ := Option.map_eq_some_iff.1 read
      exact .group (keeps _ _ _ _ (inner (.inr rfl)) merged)
    | _ => contradiction

/-- A payload gives elements of the kind. -/
theorem Kind.holds_of_elements? (empty : ∀ type, nested type [])
    (keeps : ∀ type r es r', nested type r → nested? type r es = some r' → nested type r')
    {kind : Kind} {p : Payload} {vs : List Value} (read : kind.elements? nested? p = some vs) :
    ∀ v ∈ vs, kind.Holds nested v := by
  have one {p : Payload} {v : Value} (read : kind.read? nested? none p = some v) :
      kind.Holds nested v :=
    holds_of_read? empty keeps (by simp) read
  unfold elements? at read
  split at read
  case h_1 =>
    obtain ⟨ps, -, all⟩ := Option.bind_eq_some_iff.1 read
    clear read
    induction ps generalizing vs with
    | nil =>
      obtain rfl : [] = vs := by simpa using all
      simp
    | cons p ps ih =>
      simp only [List.mapM_cons, Option.bind_eq_bind, Option.bind_eq_some_iff, Option.pure_def,
        Option.some.injEq] at all
      obtain ⟨v, first, vs, rest, rfl⟩ := all
      exact List.forall_mem_cons.2 ⟨one first, ih rest⟩
  case h_2 =>
    obtain ⟨v, single, rfl⟩ := Option.map_eq_some_iff.1 read
    simpa using one single

/-- What a field holds after a payload is a value of it, if what it held before is one. -/
theorem FieldShape.fits_of_read? (empty : ∀ type, nested type [])
    (keeps : ∀ type r es r', nested type r → nested? type r es = some r' → nested type r')
    {f : FieldShape} {before : Option Value} (held : ∀ v ∈ before, f.Admits nested v) {p : Payload}
    {v : Value} (read : f.read? nested? before p = some v) : f.Fits nested v := by
  unfold FieldShape.read? at read
  split at read
  case isTrue repeated =>
    obtain ⟨vs, more, rfl⟩ := Option.map_eq_some_iff.1 read
    rw [Fits, if_pos repeated]
    refine ⟨_, rfl, fun x mem => ?_⟩
    rcases List.mem_append.1 mem with mem | mem
    · cases before with
      | none => simp at mem
      | some v =>
        have fits := (held v rfl).fits
        rw [Fits, if_pos repeated] at fits
        obtain ⟨items, rfl, all⟩ := fits
        exact all x mem
    · exact Kind.holds_of_elements? empty keeps more x mem
  case isFalse single =>
    rw [Fits, if_neg single]
    refine Kind.holds_of_read? empty keeps (fun v mem => ?_) read
    have fits := (held v mem).fits
    rwa [Fits, if_neg single] at fits

end Reading

namespace HasType

variable {c : Catalogue} {depth : Nat} {type : String} {r r' : Record}

theorem nil (c : Catalogue) (depth : Nat) (type : String) : HasType c (depth + 1) type [] :=
  ⟨.nil, by simp⟩

/-- A field with a value that fits is set, or unset if the value stands for none. -/
theorem store (typed : HasType c (depth + 1) type r) {f : FieldShape}
    (own : c.field? type f.slot.number = some f) {v : Value}
    (fits : f.Fits (HasType c depth) v) : HasType c (depth + 1) type (f.store r v) := by
  unfold FieldShape.store
  split
  case isTrue => exact ⟨typed.1.erase _, fun m mem => typed.2 m (List.mem_of_mem_filter mem)⟩
  case isFalse filled =>
    refine ⟨typed.1.put _ _, fun m mem => ?_⟩
    rcases Record.mem_put mem with rfl | mem
    · exact ⟨f, own, rfl, fits, by simpa using filled⟩
    · exact typed.2 m mem

/-- One more entry keeps the type of a record. -/
theorem absorb? {nested? : String → Record → List Entry → Option Record} {e : Entry}
    (keeps : ∀ type r es r', HasType c (depth + 1) type r → nested? type r es = some r' →
      HasType c (depth + 1) type r')
    (typed : HasType c (depth + 2) type r) (read : Options.absorb? (c type) nested? r e = some r') :
    HasType c (depth + 2) type r' := by
  unfold Options.absorb? at read
  split at read
  case h_1 f found =>
    obtain ⟨v, value, rfl⟩ := Option.map_eq_some_iff.1 read
    have number : f.slot.number = e.1 := by simpa using List.find?_some found
    have own : c.field? type f.slot.number = some f := by rw [Catalogue.field?, number, found]
    refine typed.store own (FieldShape.fits_of_read? (nil c depth) keeps (fun w held => ?_) value)
    obtain ⟨m, mem, same, rfl⟩ := Record.mem_of_at? held
    obtain ⟨g, shape, -, admits⟩ := typed.2 m mem
    rw [same, ← number, own] at shape
    cases shape
    exact admits
  case h_2 =>
    cases read
    exact typed

/-- Any entries keep the type of a record. -/
theorem merge? {es : List Entry} (typed : HasType c (depth + 1) type r)
    (read : c.merge? depth type r es = some r') : HasType c (depth + 1) type r' := by
  induction depth generalizing type r es r' with
  | zero => contradiction
  | succ depth ih =>
    rw [Catalogue.merge?] at read
    induction es generalizing r with
    | nil =>
      cases read
      exact typed
    | cons e es more =>
      rw [List.foldlM_cons] at read
      obtain ⟨middle, first, rest⟩ := Option.bind_eq_some_iff.1 read
      exact more (typed.absorb? (fun _ _ _ _ => ih) first) rest

end HasType

/-- The bytes of a message are read as a record of its type. -/
theorem Catalogue.hasType_of_decode? {c : Catalogue} {type : String} {bytes : Wire.Bytes}
    {r : Record} (read : c.decode? type bytes = some r)
    : HasType c (Wire.nestingLimit + 1) type r := by
  obtain ⟨es, -, merged⟩ := Option.bind_eq_some_iff.1 read
  exact (HasType.nil c _ type).merge? merged

/-! ## Assembling -/

/-- What a field holds, which is nothing if the value stands for none. -/
def FieldShape.kept (f : FieldShape) (v : Option Value) : Option Value :=
  v.filter fun v => !f.isUnsetBy v

def piece (f : FieldShape) (v : Option Value) : Record :=
  (f.kept v).toList.map fun v => (f.slot, v)

/-- The record of the values of fields. -/
def assemble : List FieldShape → List (Option Value) → Record
  | f :: fs, v :: vs => piece f v ++ assemble fs vs
  | _, _ => []

section Assemble

variable {f : FieldShape} {fs : List FieldShape} {v : Option Value} {vs : List (Option Value)}
  {m : Slot × Value}

theorem Record.get?_append (a b : Record) (name : String) :
    get? (a ++ b) name = (a.get? name).or (b.get? name) := by
  rw [get?, List.find?_append]
  cases found : a.find? (·.1.name = name) <;> simp [get?, found]

theorem get?_piece (name : String) :
    (piece f v).get? name = if f.slot.name = name then f.kept v else none := by
  rw [piece, Record.get?]
  cases f.kept v <;> by_cases own : f.slot.name = name <;> simp [own]

theorem mem_piece : m ∈ piece f v ↔ m.1 = f.slot ∧ v = some m.2 ∧ f.isUnsetBy m.2 = false := by
  obtain ⟨slot, value⟩ := m
  cases v with
  | none => simp [piece, FieldShape.kept]
  | some w =>
    rw [piece, FieldShape.kept, Option.filter_some]
    by_cases unset : f.isUnsetBy w <;> grind

theorem get?_assemble_of_absent {name : String} (absent : ∀ f ∈ fs, f.slot.name ≠ name) :
    (assemble fs vs).get? name = none := by
  induction fs generalizing vs with
  | nil => rfl
  | cons f fs ih =>
    cases vs with
    | nil => rfl
    | cons v vs =>
      obtain ⟨other, absent⟩ := List.forall_mem_cons.1 absent
      rw [assemble, Record.get?_append, get?_piece, if_neg other, ih absent, Option.none_or]

/-- Fields with different names are looked up by their names. -/
theorem get?_assemble_append {rest : Record} (distinct : (fs.map (·.slot.name)).Nodup)
    (listed : (f, v) ∈ fs.zip vs) (absent : rest.get? f.slot.name = none) :
    Record.get? (assemble fs vs ++ rest) f.slot.name = f.kept v := by
  induction fs generalizing vs with
  | nil => simp at listed
  | cons g fs ih =>
    cases vs with
    | nil => simp at listed
    | cons w vs =>
      obtain ⟨fresh, distinct⟩ := List.nodup_cons.1 distinct
      rw [assemble, List.append_assoc, Record.get?_append, get?_piece]
      rcases List.mem_cons.1 listed with same | listed
      · cases same
        have others : (assemble fs vs).get? f.slot.name = none :=
          get?_assemble_of_absent fun h mem same => fresh (List.mem_map.2 ⟨h, mem, same⟩)
        rw [if_pos rfl, Record.get?_append, others, absent, Option.or_none, Option.or_none]
      · have other : g.slot.name ≠ f.slot.name := fun same =>
          fresh (List.mem_map.2 ⟨f, (List.of_mem_zip listed).1, same.symm⟩)
        rw [if_neg other, Option.none_or, ih distinct listed]

theorem mem_assemble (mem : m ∈ assemble fs vs) :
    ∃ f, (f, some m.2) ∈ fs.zip vs ∧ m.1 = f.slot ∧ f.isUnsetBy m.2 = false := by
  induction fs generalizing vs with
  | nil => simp [assemble] at mem
  | cons f fs ih =>
    cases vs with
    | nil => simp [assemble] at mem
    | cons v vs =>
      rcases List.mem_append.1 mem with mem | mem
      · obtain ⟨own, rfl, filled⟩ := mem_piece.1 mem
        exact ⟨f, List.mem_cons_self, own, filled⟩
      · obtain ⟨g, listed, rest⟩ := ih mem
        exact ⟨g, List.mem_cons_of_mem _ listed, rest⟩

@[simp] theorem assemble_singleton : assemble [f] [v] = piece f v :=
  List.append_nil _

theorem assemble_map (g : FieldShape → Option Value) :
    assemble fs (fs.map g) = fs.flatMap fun f => piece f (g f) := by
  induction fs with
  | nil => rfl
  | cons f fs ih => rw [List.map_cons, assemble, ih, List.flatMap_cons]

theorem assemble_append {fs' : List FieldShape} {vs' : List (Option Value)}
    (same : fs.length = vs.length) :
    assemble (fs ++ fs') (vs ++ vs') = assemble fs vs ++ assemble fs' vs' := by
  induction fs generalizing vs with
  | nil =>
    obtain rfl := List.eq_nil_of_length_eq_zero same.symm
    simp [assemble]
  | cons f fs ih =>
    cases vs with
    | nil => contradiction
    | cons v vs =>
      simp only [List.cons_append, assemble, ih (Nat.succ.inj same), List.append_assoc]

theorem sublist_assemble (fs : List FieldShape) (vs : List (Option Value)) :
    ((assemble fs vs).map Prod.fst).Sublist (fs.map (·.slot)) := by
  induction fs generalizing vs with
  | nil => simp [assemble]
  | cons f fs ih =>
    cases vs with
    | nil => simp [assemble]
    | cons v vs =>
      have first : ((piece f v).map Prod.fst).Sublist [f.slot] := by
        rw [piece]
        cases f.kept v <;> simp
      rw [assemble, List.map_append]
      exact first.append (ih vs)

/-- Fields that may all be set together, in the order of their numbers. -/
def Compatible (fs : List FieldShape) : Prop :=
  (fs.map (·.slot)).Pairwise Slot.Precedes

instance : DecidablePred Compatible :=
  fun fs => inferInstanceAs (Decidable ((fs.map (·.slot)).Pairwise Slot.Precedes))

theorem Compatible.ordered_assemble (compatible : Compatible fs) (vs : List (Option Value)) :
    (assemble fs vs).Ordered :=
  List.pairwise_map.1 (compatible.sublist (sublist_assemble fs vs))

theorem Compatible.find? (compatible : Compatible fs) (mem : f ∈ fs) :
    fs.find? (·.slot.number = f.slot.number) = some f := by
  induction fs with
  | nil => simp at mem
  | cons g fs ih =>
    obtain ⟨first, rest⟩ := List.pairwise_cons.1 compatible
    rcases List.mem_cons.1 mem with rfl | mem
    · simp
    · have lower : g.slot.number < f.slot.number := (first f.slot (List.mem_map_of_mem mem)).1
      have other : ¬ g.slot.number = f.slot.number := by omega
      rw [List.find?_cons_of_neg (by simpa using other)]
      exact ih rest mem

variable {c : Catalogue} {depth : Nat} {type : String} {r : Record}

/-- Values of the fields of a type are assembled into a record of it. -/
theorem hasType_assemble (compatible : Compatible (c type))
    (fits : ∀ x ∈ (c type).zip vs, ∀ v ∈ x.2, x.1.Fits (HasType c depth) v) :
    HasType c (depth + 1) type (assemble (c type) vs) := by
  refine ⟨compatible.ordered_assemble vs, fun m mem => ?_⟩
  obtain ⟨f, listed, own, filled⟩ := mem_assemble mem
  have field : c.field? type f.slot.number = some f := compatible.find? (List.of_mem_zip listed).1
  exact ⟨f, by rw [own, field], own, fits _ listed _ rfl, filled⟩

theorem Record.Ordered.at?_eq (ordered : r.Ordered) (mem : m ∈ r) :
    r.at? m.1.number = some m.2 := by
  induction r with
  | nil => simp at mem
  | cons n r ih =>
    obtain ⟨first, rest⟩ := List.pairwise_cons.1 ordered
    rcases List.mem_cons.1 mem with rfl | mem
    · simp [at?]
    · have lower := (first m mem).1
      have other : ¬ n.1.number = m.1.number := by omega
      rw [at?, List.find?_cons_of_neg (by simpa using other)]
      exact ih rest mem

theorem Record.Ordered.eq_of_mem {r r' : Record} (ordered : r.Ordered) (ordered' : r'.Ordered)
    (same : ∀ m, m ∈ r ↔ m ∈ r') : r = r' := by
  have distinct {r : Record} (ordered : r.Ordered) : r.Nodup :=
    ordered.imp fun lower same => by
      subst same
      exact Nat.lt_irrefl _ lower.1
  refine ((List.perm_ext_iff_of_nodup (distinct ordered) (distinct ordered')).2 same).eq_of_pairwise
    (fun a b _ _ lower upper => ?_) ordered ordered'
  exact absurd lower.1 (Nat.lt_asymm upper.1)

/-- A record of a type is assembled from what is set in the fields of the type. -/
theorem HasType.eq_assemble (compatible : Compatible (c type))
    (typed : HasType c (depth + 1) type r) :
    r = assemble (c type) ((c type).map fun f => r.at? f.slot.number) := by
  refine typed.1.eq_of_mem (compatible.ordered_assemble _) fun m => ?_
  rw [assemble_map, List.mem_flatMap]
  simp only [mem_piece]
  constructor
  · intro mem
    obtain ⟨f, field, own, admits⟩ := typed.2 m mem
    exact ⟨f, List.mem_of_find?_eq_some field, own, own ▸ typed.1.at?_eq mem, admits.filled⟩
  · rintro ⟨f, listed, own, set, -⟩
    obtain ⟨n, mem, number, value⟩ := Record.mem_of_at? set
    obtain ⟨g, field, shape, -⟩ := typed.2 n mem
    have same : some g = some f := by
      rw [← field, number, Catalogue.field?, compatible.find? listed]
    cases same
    have : m = n := Prod.ext (own.trans shape.symm) value.symm
    rwa [this]

/-- What is set in a field of a type is a value of the field. -/
theorem HasType.fits_of_at? (compatible : Compatible (c type))
    (typed : HasType c (depth + 1) type r) (listed : f ∈ c type)
    : ∀ v ∈ r.at? f.slot.number, f.Fits (HasType c depth) v := by
  intro v set
  obtain ⟨m, mem, number, rfl⟩ := Record.mem_of_at? set
  obtain ⟨g, field, -, admits⟩ := typed.2 m mem
  have same : some g = some f := by rw [← field, number, Catalogue.field?, compatible.find? listed]
  cases same
  exact admits.fits

/-- Of fields in one group at most one is set. -/
theorem HasType.eq_nil_or_singleton {group : String} (typed : HasType c depth type r)
    (grouped : ∀ f ∈ c type, f.slot.oneof = some group) : r = [] ∨ ∃ m, r = [m] := by
  cases depth with
  | zero => exact typed.elim
  | succ depth =>
    have member : ∀ m ∈ r, m.1.oneof = some group := by
      intro m mem
      obtain ⟨f, field, own, -⟩ := typed.2 m mem
      rw [own]
      exact grouped f (List.mem_of_find?_eq_some field)
    match r, typed, member with
    | [], _, _ => exact .inl rfl
    | [m], _, _ => exact .inr ⟨m, rfl⟩
    | m :: n :: r, typed, member =>
      have apart : Record.excludes m.1 n.1 = false :=
        ((List.pairwise_cons.1 typed.1).1 n List.mem_cons_self).2
      have first := member m (by simp)
      have second := member n (by simp)
      simp [Record.excludes, first, second] at apart

/-- A record of a type with a single field set. -/
theorem hasType_singleton {m : Slot × Value} (field : c.field? type m.1.number = some f)
    (own : m.1 = f.slot) (admits : f.Admits (HasType c depth) m.2) :
    HasType c (depth + 1) type [m] := by
  refine ⟨List.pairwise_singleton .., fun n mem => ?_⟩
  obtain rfl := List.mem_singleton.1 mem
  exact ⟨f, field, own, admits⟩

end Assemble

end FlagBinding.Options
