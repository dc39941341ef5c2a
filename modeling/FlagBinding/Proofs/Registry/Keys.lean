import FlagBinding.Registry.Basic
import Mathlib.Data.List.Pairwise
import Mathlib.Logic.Basic
import Mathlib.Tactic.ByContra
import Mathlib.Tactic.SplitIfs

/-!
# The keys of a registry

Whether a flag can be registered depends only on the names and aliases of the flags that are there.
No later operation on a flag changes its key.

## Main statements

* `Registry.contains_iff`, `Registry.lookupShort?_eq_none_iff`: the names and aliases that are
  found.
* `Registry.refusal?_eq_none_iff`: the keys that are accepted.
* `Registry.keys_add`, `Registry.keys_update`: what registration and later changes do to the keys.
-/

namespace FlagBinding

/-- Whether a flag is refused because of one that has its name or its alias. -/
def FlagError.IsClash : FlagError → Prop
  | redefined _ => True
  | shortRedefined _ _ _ => True
  | _ => False

instance : DecidableRel FlagKey.Distinct :=
  fun a b => inferInstanceAs (Decidable (a.name ≠ b.name ∧ (a.short = none ∨ a.short ≠ b.short)))

theorem FlagKey.fault?_eq_none_iff {key : FlagKey} : key.fault? = none ↔
    key.name ≠ "" ∧ key.name.toList.head? ≠ some '-' ∧ '=' ∉ key.name.toList ∧
      key.name ≠ restName ∧ key.short ≠ some '-' := by
  unfold FlagKey.fault?
  split_ifs <;> simp_all

namespace Registry

/-- The names and aliases of the flags, in the order of registration. -/
def keys (r : Registry) : List FlagKey :=
  r.flags.map Flag.toFlagKey

theorem pairwise_keys (r : Registry) : r.keys.Pairwise FlagKey.Distinct :=
  r.wellNamed.2

theorem fault?_of_mem_keys {r : Registry} {key : FlagKey} (mem : key ∈ r.keys) :
    key.fault? = none :=
  r.wellNamed.1 key mem

theorem fault?_of_mem {r : Registry} {flag : Flag} (mem : flag ∈ r.flags) :
    flag.toFlagKey.fault? = none :=
  fault?_of_mem_keys (List.mem_map_of_mem mem)

theorem nodup_names (r : Registry) : (r.flags.map (·.name)).Nodup :=
  List.pairwise_map.2 ((List.pairwise_map.1 r.wellNamed.2).imp fun h => h.1)

theorem contains_iff {r : Registry} {name : String} :
    r.contains name ↔ ∃ k ∈ r.keys, k.name = name := by
  rw [contains, Option.isSome_iff_exists]
  constructor
  · rintro ⟨i, found⟩
    obtain ⟨flag, at_i, named⟩ := place?_eq_some_iff.1 found
    exact ⟨flag.toFlagKey, List.mem_map_of_mem (List.mem_of_getElem? at_i), named⟩
  · rintro ⟨k, mem, rfl⟩
    obtain ⟨flag, here, rfl⟩ := List.mem_map.1 mem
    exact Option.isSome_iff_exists.1 (contains_of_mem here)

theorem lookupShort?_eq_none_iff {r : Registry} {c : Char} :
    r.lookupShort? c = none ↔ ∀ k ∈ r.keys, k.short ≠ some c := by
  constructor
  · intro missing k mem short
    obtain ⟨flag, here, rfl⟩ := List.mem_map.1 mem
    simp [lookupShort?_of_mem here short] at missing
  · intro other
    cases found : r.placeShort? c with
    | none => simp [lookupShort?, found]
    | some i =>
      obtain ⟨flag, at_i, short⟩ := placeShort?_eq_some_iff.1 found
      exact absurd short (other _ (List.mem_map_of_mem (List.mem_of_getElem? at_i)))

/-! ## Registration -/

/-- A key is accepted if it can be written and differs from all others. -/
theorem refusal?_eq_none_iff {r : Registry} {key : FlagKey} :
    r.refusal? key = none ↔ key.fault? = none ∧ ∀ k ∈ r.keys, k.Distinct key := by
  refine ⟨distinct_of_refusal?_eq_none, fun ⟨legal, distinct⟩ => ?_⟩
  have fresh : r.contains key.name = false := by
    rw [Bool.eq_false_iff]
    intro has
    obtain ⟨k, mem, same⟩ := contains_iff.1 has
    exact (distinct k mem).1 same
  have free : r.holder? key.short = none := by
    cases hs : key.short with
    | none => rfl
    | some c =>
      rw [holder?, Option.bind_some, Option.map_eq_none_iff, lookupShort?_eq_none_iff]
      intro k mem same
      have shorts := (distinct k mem).2
      simp [same, hs] at shorts
  simp [refusal?, legal, fresh, free]

theorem fault?_of_refusal? {r : Registry} {key : FlagKey} {e : FlagError}
    (h : r.refusal? key = some e) :
    (e.IsClash ∧ key.fault? = none) ∨
      ∃ fault, e = .invalidName key.name fault ∧ key.fault? = some fault := by
  unfold refusal? at h
  split at h
  case h_1 fault bad => exact .inr ⟨fault, by simpa using h.symm, bad⟩
  case h_2 legal =>
    refine .inl ⟨?_, legal⟩
    split at h
    · obtain rfl : FlagError.redefined key.name = e := by simpa using h
      trivial
    · obtain ⟨⟨c, flag⟩, -, rfl⟩ := Option.map_eq_some_iff.1 h
      trivial

/-- A clash is one with a key that is there. -/
theorem not_distinct_of_isClash {r : Registry} {key : FlagKey} {e : FlagError}
    (h : r.refusal? key = some e) (clash : e.IsClash) : ∃ k ∈ r.keys, ¬ k.Distinct key := by
  have legal : key.fault? = none := by
    rcases fault?_of_refusal? h with ⟨-, legal⟩ | ⟨fault, rfl, -⟩
    · exact legal
    · exact clash.elim
  by_contra! distinct
  have := refusal?_eq_none_iff.2 ⟨legal, distinct⟩
  simp [h] at this

theorem add_error {r : Registry} {flag : Flag} {e : FlagError} (h : r.add flag = .error e) :
    r.refusal? flag.toFlagKey = some e := by
  unfold add at h
  split at h <;> simp_all

theorem refusal?_of_add {r r' : Registry} {flag : Flag} (h : r.add flag = .ok r') :
    r.refusal? flag.toFlagKey = none := by
  unfold add at h
  split at h <;> simp_all

/-- A new flag stands behind all others. -/
theorem flags_add {r r' : Registry} {flag : Flag} (h : r.add flag = .ok r') :
    r'.flags = r.flags ++ [flag] := by
  unfold add at h
  split at h
  · simp at h
  · obtain rfl := Except.ok.inj h
    rfl

theorem keys_add {r r' : Registry} {flag : Flag} (h : r.add flag = .ok r') :
    r'.keys = r.keys ++ [flag.toFlagKey] := by
  simp [keys, flags_add h]

@[simp] theorem keys_update (r : Registry) (name : String) (change : Flag → Flag) :
    (r.update name change).keys = r.keys := by
  unfold update
  split
  · rfl
  · exact map_toFlagKey_modify ..

/-- A change reaches the flags of a name, wherever they stand. -/
theorem flags_update_eq_map (r : Registry) (name : String) (change : Flag → Flag) :
    (r.update name change).flags =
      r.flags.map fun flag => if flag.name = name then keepingKey change flag else flag := by
  apply List.ext_getElem?
  intro i
  rw [List.getElem?_map]
  cases at_i : r.flags[i]? with
  | none =>
    have outside : r.flags.length ≤ i := List.getElem?_eq_none_iff.1 at_i
    cases place : r.place? name <;> simp [update, place, outside]
  | some flag =>
    have here : r.place? name = some i ↔ flag.name = name := by
      rw [place?_eq_some_iff, at_i]
      simp
    cases place : r.place? name with
    | none =>
      have other : flag.name ≠ name := fun same => by simp [here.2 same] at place
      simp [update, place, at_i, other]
    | some j =>
      rw [place, Option.some.injEq] at here
      simp [update, place, at_i, List.getElem?_modify, here]

/-- A flag that is there can be hidden. -/
theorem markHidden_of_mem {r : Registry} {key : FlagKey} (mem : key ∈ r.keys) :
    ∃ r', r.markHidden key.name = .ok r' ∧ r'.keys = r.keys := by
  have has : r.contains key.name := contains_iff.2 ⟨key, mem, rfl⟩
  exact ⟨_, by rw [markHidden, if_pos has], keys_update ..⟩

/-- A flag that is there can be marked as deprecated, if there is something to say about it. -/
theorem markDeprecated_of_mem {r : Registry} {key : FlagKey} (mem : key ∈ r.keys) {hint : String}
    (given : hint ≠ "") : ∃ r', r.markDeprecated key.name hint = .ok r' ∧ r'.keys = r.keys := by
  have has : r.contains key.name := contains_iff.2 ⟨key, mem, rfl⟩
  have given : hint.isEmpty = false := by simpa [String.isEmpty_iff] using given
  exact ⟨_, by simp only [markDeprecated, given, has]; rfl, keys_update ..⟩

end Registry

end FlagBinding
