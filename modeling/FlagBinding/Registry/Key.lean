import FlagBinding.Registry.Error
import Std.Data.TreeMap.Lemmas

/-!
# Names and aliases of flags

Flags are told apart by their names and aliases. An index leads from each of them to the place of
its flag in the order of registration.

## Main definitions

* `FlagKey`: the part of a flag that never changes.
* `WellNamed`: keys that can be written and told apart.
* `KeyIndex`: the places of keys; `KeyIndex.Locates` says of which.

## Main statements

* `KeyIndex.Locates.insert`: an index is kept up to date by the insertion of each new key.
-/

namespace FlagBinding

/-- What a flag is called by. -/
structure FlagKey where
  name : String
  short : Option Char
  deriving DecidableEq

/-- The name that stands for the arguments that belong to no flag. -/
def restName : String := "__protoflags_args"

namespace FlagKey

/-- Why a key cannot be written on a command line. -/
def fault? (key : FlagKey) : Option NameFault :=
  if key.name.isEmpty then some .empty
  else if key.name.toList.head? = some '-' then some .startsWithDash
  else if '=' ∈ key.name.toList then some .containsEquals
  else if key.name = restName then some .reserved
  else if key.short = some '-' then some .dashAlias
  else none

/-- Two keys that can be told apart by name and by alias. -/
def Distinct (a b : FlagKey) : Prop :=
  a.name ≠ b.name ∧ (a.short = none ∨ a.short ≠ b.short)

end FlagKey

/-- The keys of a registry: legal, and distinct from each other. -/
def WellNamed (keys : List FlagKey) : Prop :=
  (∀ key ∈ keys, key.fault? = none) ∧ keys.Pairwise FlagKey.Distinct

theorem wellNamed_append {keys : List FlagKey} {key : FlagKey} (h : WellNamed keys)
    (legal : key.fault? = none) (distinct : ∀ k ∈ keys, k.Distinct key) :
    WellNamed (keys ++ [key]) := by
  refine ⟨fun k hk => ?_, ?_⟩
  · rcases List.mem_append.1 hk with hk | hk
    · exact h.1 k hk
    · simp only [List.mem_singleton] at hk
      exact hk ▸ legal
  · simpa [List.pairwise_append] using ⟨h.2, distinct⟩

/-! ## Places -/

/-- The places of flags in the order of registration, by name and by alias. -/
structure KeyIndex where
  byName : Std.TreeMap String Nat := {}
  byShort : Std.TreeMap Char Nat := {}

namespace KeyIndex

def insert (index : KeyIndex) (key : FlagKey) (place : Nat) : KeyIndex where
  byName := index.byName.insert key.name place
  byShort := match key.short with
    | some c => index.byShort.insert c place
    | none => index.byShort

/-- An index that leads from the names and aliases of a list of keys, and from nothing else, to
their places. -/
structure Locates (index : KeyIndex) (keys : List FlagKey) : Prop where
  byName : ∀ name i, index.byName[name]? = some i ↔
    ∃ key : FlagKey, keys[i]? = some key ∧ key.name = name
  byShort : ∀ c i, index.byShort[c]? = some i ↔
    ∃ key : FlagKey, keys[i]? = some key ∧ key.short = some c

theorem locates_nil : Locates {} [] := by
  constructor <;> simp

/-- Behind the last of a list of keys stands the one that is added. -/
theorem exists_getElem?_concat {keys : List FlagKey} {key : FlagKey}
    {p : FlagKey → Prop} {i : Nat} :
    (∃ k, (keys ++ [key])[i]? = some k ∧ p k) ↔
      (∃ k, keys[i]? = some k ∧ p k) ∨ (i = keys.length ∧ p key) := by
  constructor
  · rintro ⟨k, at_i, holds⟩
    by_cases inside : i < keys.length
    · rw [List.getElem?_append_left inside] at at_i
      exact .inl ⟨k, at_i, holds⟩
    · rw [List.getElem?_append_right (by omega)] at at_i
      obtain ⟨last, rfl⟩ : i - keys.length = 0 ∧ key = k := by grind
      exact .inr ⟨by omega, holds⟩
  · rintro (⟨k, at_i, holds⟩ | ⟨rfl, holds⟩)
    · have inside : i < keys.length := by grind
      exact ⟨k, by rw [List.getElem?_append_left inside, at_i], holds⟩
    · exact ⟨key, by simp, holds⟩

/-- A new entry of a table is added to those that are there. -/
theorem getElem?_insert_eq_some_iff {α : Type} [Ord α] [Std.TransOrd α] [Std.LawfulEqOrd α]
    {table : Std.TreeMap α Nat} {a x : α} {place i : Nat} (fresh : table[a]? = none) :
    (table.insert a place)[x]? = some i ↔ table[x]? = some i ∨ (i = place ∧ a = x) := by
  rw [Std.TreeMap.getElem?_insert]
  split
  case isTrue same =>
    obtain rfl := Std.LawfulEqOrd.compare_eq_iff_eq.1 same
    simp [fresh, eq_comm]
  case isFalse other =>
    have differ : a ≠ x := fun same => other (Std.LawfulEqOrd.compare_eq_iff_eq.2 same)
    simp [differ]

/-- An index stays right if a key that differs from all others is inserted behind them. -/
theorem Locates.insert {index : KeyIndex} {keys : List FlagKey} {key : FlagKey}
    (located : index.Locates keys) (distinct : ∀ k ∈ keys, k.Distinct key) :
    (index.insert key keys.length).Locates (keys ++ [key]) := by
  constructor
  · intro name i
    have fresh : index.byName[key.name]? = none := by
      refine Option.eq_none_iff_forall_ne_some.2 fun j found => ?_
      obtain ⟨k, at_j, same⟩ := (located.byName _ _).1 found
      exact (distinct k (List.mem_of_getElem? at_j)).1 same
    rw [exists_getElem?_concat, ← located.byName, KeyIndex.insert,
      getElem?_insert_eq_some_iff fresh]
  · intro c i
    rw [exists_getElem?_concat, ← located.byShort, KeyIndex.insert]
    cases short : key.short with
    | none => simp
    | some d =>
      have fresh : index.byShort[d]? = none := by
        refine Option.eq_none_iff_forall_ne_some.2 fun j found => ?_
        obtain ⟨k, at_j, same⟩ := (located.byShort _ _).1 found
        have differ := (distinct k (List.mem_of_getElem? at_j)).2
        simp [same, short] at differ
      simp [getElem?_insert_eq_some_iff fresh]

def insertFrom (index : KeyIndex) (place : Nat) : List FlagKey → KeyIndex
  | [] => index
  | key :: keys => (index.insert key place).insertFrom (place + 1) keys

theorem Locates.insertFrom {index : KeyIndex} {before keys : List FlagKey}
    (located : index.Locates before) (distinct : (before ++ keys).Pairwise FlagKey.Distinct) :
    (index.insertFrom before.length keys).Locates (before ++ keys) := by
  induction keys generalizing index before with
  | nil => simpa [KeyIndex.insertFrom] using located
  | cons key keys ih =>
    have first : ∀ k ∈ before, k.Distinct key := by
      intro k mem
      exact (List.pairwise_append.1 distinct).2.2 k mem key (by simp)
    have rest := ih (located.insert first) (by simpa using distinct)
    simpa [KeyIndex.insertFrom] using rest

def ofKeys (keys : List FlagKey) : KeyIndex :=
  insertFrom {} 0 keys

theorem locates_ofKeys {keys : List FlagKey} (wellNamed : WellNamed keys) :
    (ofKeys keys).Locates keys :=
  locates_nil.insertFrom (by simpa using wellNamed.2)

end KeyIndex

end FlagBinding
