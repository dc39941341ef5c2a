import FlagBinding.Cell
import FlagBinding.Registry.Key

/-!
# Sets of flags

A registry is the list of the flags of a program in the order of their registration, with an index
that leads from names and aliases to flags. No two flags share a name or a short alias, and every
name can be written on a command line.

## Main definitions

* `Flag`: a flag with the cell that its arguments change.
* `Registry`: a list of flags with distinct and legal keys, and their index.
* `Registry.lookup?`, `Registry.lookupShort?`: the flag of a name or an alias, by the index.
* `Registry.add`, `Registry.markHidden`, `Registry.markDeprecated`: how flags are set up.
* `Registry.set`: the assignment of one argument to a flag.
-/

namespace FlagBinding

/-- A flag with the cell that its arguments change. -/
structure Flag extends FlagKey where
  usage : String
  cell : Cell
  hidden : Bool := false
  /-- What to use in its place, if the flag is deprecated. -/
  deprecation : Option String := none
  /-- Whether an argument has been assigned. -/
  changed : Bool := false

/-- The flags of a program, with an index of their names and aliases. -/
structure Registry where
  flags : List Flag
  wellNamed : WellNamed (flags.map Flag.toFlagKey)
  index : { index : KeyIndex // index.Locates (flags.map Flag.toFlagKey) } :=
    ⟨.ofKeys _, KeyIndex.locates_ofKeys wellNamed⟩

namespace Registry

def empty : Registry where
  flags := []
  wellNamed := by simp [WellNamed]
  index := ⟨{}, KeyIndex.locates_nil⟩

instance : Inhabited Registry := ⟨empty⟩

def place? (r : Registry) (name : String) : Option Nat :=
  r.index.val.byName[name]?

def placeShort? (r : Registry) (short : Char) : Option Nat :=
  r.index.val.byShort[short]?

def lookup? (r : Registry) (name : String) : Option Flag :=
  (r.place? name).bind fun place => r.flags[place]?

def lookupShort? (r : Registry) (short : Char) : Option Flag :=
  (r.placeShort? short).bind fun place => r.flags[place]?

def contains (r : Registry) (name : String) : Bool :=
  (r.place? name).isSome

theorem exists_getElem?_map_toFlagKey {flags : List Flag} {i : Nat} {p : FlagKey → Prop} :
    (∃ key, (flags.map Flag.toFlagKey)[i]? = some key ∧ p key) ↔
      ∃ flag, flags[i]? = some flag ∧ p flag.toFlagKey := by
  rw [List.getElem?_map]
  cases flags[i]? <;> simp

theorem place?_eq_some_iff {r : Registry} {name : String} {i : Nat} :
    r.place? name = some i ↔ ∃ flag, r.flags[i]? = some flag ∧ flag.name = name := by
  rw [place?, r.index.property.byName, exists_getElem?_map_toFlagKey]

theorem placeShort?_eq_some_iff {r : Registry} {c : Char} {i : Nat} :
    r.placeShort? c = some i ↔ ∃ flag, r.flags[i]? = some flag ∧ flag.short = some c := by
  rw [placeShort?, r.index.property.byShort, exists_getElem?_map_toFlagKey]

/-- A flag is found by its name. -/
theorem lookup?_of_mem {r : Registry} {flag : Flag} (mem : flag ∈ r.flags) :
    r.lookup? flag.name = some flag := by
  obtain ⟨i, at_i⟩ := List.mem_iff_getElem?.1 mem
  rw [lookup?, place?_eq_some_iff.2 ⟨flag, at_i, rfl⟩, Option.bind_some, at_i]

/-- A flag is found by its alias. -/
theorem lookupShort?_of_mem {r : Registry} {flag : Flag} (mem : flag ∈ r.flags) {c : Char}
    (short : flag.short = some c) : r.lookupShort? c = some flag := by
  obtain ⟨i, at_i⟩ := List.mem_iff_getElem?.1 mem
  rw [lookupShort?, placeShort?_eq_some_iff.2 ⟨flag, at_i, short⟩, Option.bind_some, at_i]

theorem of_lookup? {r : Registry} {flag : Flag} {name : String}
    (found : r.lookup? name = some flag) : flag ∈ r.flags ∧ flag.name = name := by
  obtain ⟨i, place, at_i⟩ := Option.bind_eq_some_iff.1 found
  obtain ⟨other, at_i', named⟩ := place?_eq_some_iff.1 place
  obtain rfl : other = flag := Option.some.inj (at_i'.symm.trans at_i)
  exact ⟨List.mem_of_getElem? at_i, named⟩

theorem of_lookupShort? {r : Registry} {flag : Flag} {c : Char}
    (found : r.lookupShort? c = some flag) : flag ∈ r.flags ∧ flag.short = some c := by
  obtain ⟨i, place, at_i⟩ := Option.bind_eq_some_iff.1 found
  obtain ⟨other, at_i', short⟩ := placeShort?_eq_some_iff.1 place
  obtain rfl : other = flag := Option.some.inj (at_i'.symm.trans at_i)
  exact ⟨List.mem_of_getElem? at_i, short⟩

theorem contains_of_mem {r : Registry} {flag : Flag} (mem : flag ∈ r.flags) :
    r.contains flag.name = true := by
  obtain ⟨i, at_i⟩ := List.mem_iff_getElem?.1 mem
  rw [contains, place?_eq_some_iff.2 ⟨flag, at_i, rfl⟩, Option.isSome_some]

def holder? (r : Registry) (short : Option Char) : Option (Char × Flag) :=
  short.bind fun c => (r.lookupShort? c).map fun flag => (c, flag)

/-- Why a key cannot be added. -/
def refusal? (r : Registry) (key : FlagKey) : Option FlagError :=
  match key.fault? with
  | some fault => some (.invalidName key.name fault)
  | none =>
    if r.contains key.name then some (.redefined key.name)
    else (r.holder? key.short).map fun (c, flag) => .shortRedefined c key.name flag.name

theorem distinct_of_refusal?_eq_none {r : Registry} {key : FlagKey}
    (h : r.refusal? key = none) :
    key.fault? = none ∧ ∀ k ∈ r.flags.map Flag.toFlagKey, k.Distinct key := by
  unfold refusal? at h
  split at h
  · simp at h
  · rename_i legal
    split at h
    · simp at h
    · rename_i fresh
      refine ⟨legal, fun k hk => ?_⟩
      obtain ⟨flag, mem, rfl⟩ := List.mem_map.1 hk
      refine ⟨fun same => fresh (same ▸ contains_of_mem mem), ?_⟩
      rcases hs : flag.short with _ | c
      · exact .inl rfl
      · refine .inr fun same => ?_
        rw [← same] at h
        simp [holder?, lookupShort?_of_mem mem hs] at h

/-- The registry with one flag more. -/
def add (r : Registry) (flag : Flag) : Except FlagError Registry :=
  match h : r.refusal? flag.toFlagKey with
  | some error => .error error
  | none =>
    have facts := distinct_of_refusal?_eq_none h
    .ok {
      flags := r.flags ++ [flag]
      wellNamed := by simpa using wellNamed_append r.wellNamed facts.1 facts.2
      index := ⟨r.index.val.insert flag.toFlagKey r.flags.length, by
        simpa using r.index.property.insert facts.2⟩ }

/-- A change of a flag in all but its key. -/
def keepingKey (change : Flag → Flag) (flag : Flag) : Flag :=
  { change flag with toFlagKey := flag.toFlagKey }

theorem map_toFlagKey_modify (flags : List Flag) (place : Nat) (change : Flag → Flag) :
    (flags.modify place (keepingKey change)).map Flag.toFlagKey = flags.map Flag.toFlagKey := by
  apply List.ext_getElem?
  intro i
  rw [List.getElem?_map, List.getElem?_map, List.getElem?_modify]
  cases flags[i]? with
  | none => rfl
  | some flag =>
    simp only [Option.map_eq_map, Option.map_some]
    split <;> rfl

/-- The registry with the flag of a name changed in all but its key. -/
def update (r : Registry) (name : String) (change : Flag → Flag) : Registry :=
  match r.place? name with
  | none => r
  | some place => {
      flags := r.flags.modify place (keepingKey change)
      wellNamed := by rw [map_toFlagKey_modify]; exact r.wellNamed
      index := ⟨r.index.val, by rw [map_toFlagKey_modify]; exact r.index.property⟩ }

def markHidden (r : Registry) (name : String) : Except FlagError Registry :=
  if r.contains name then .ok (r.update name fun flag => { flag with hidden := true })
  else .error (.noSuchFlag name)

def markDeprecated (r : Registry) (name message : String) : Except FlagError Registry :=
  if message.isEmpty then .error (.missingDeprecationMessage name)
  else if r.contains name then
    .ok (r.update name fun flag => { flag with deprecation := some message })
  else .error (.noSuchFlag name)

def deprecationWarning (flag : Flag) : Option String :=
  flag.deprecation.map fun text =>
    "flag --" ++ flag.name ++ " has been deprecated, " ++ text

/-- What came of an operation that may stop half-way: the flags as they are then, the warnings drawn
on the way, and the answer or the reason to stop. -/
structure Outcome (α : Type) where
  registry : Registry
  warnings : List String
  result : Except FlagError α

/-- An argument for the flag of a name. The warning of a deprecated flag is drawn before the
argument is read. -/
def set (r : Registry) (name input : String) : Outcome Unit :=
  match r.lookup? name with
  | none => ⟨r, [], .error (.noSuchFlag name)⟩
  | some flag =>
    let warnings := (deprecationWarning flag).toList
    match flag.cell.parse input with
    | .error cause => ⟨r, warnings, .error (.invalidArgument name input cause)⟩
    | .ok cell => ⟨r.update name fun flag => { flag with cell, changed := true }, warnings, .ok ()⟩

/-- An argument for the cell of a flag, past the flag itself: it draws no warning and does not count
as a change. -/
def parseInto (r : Registry) (name input : String) : Except (FlagError ⊕ ValueError) Registry :=
  match r.lookup? name with
  | none => .error (.inl (.noSuchFlag name))
  | some flag =>
    match flag.cell.parse input with
    | .error cause => .error (.inr cause)
    | .ok cell => .ok (r.update name fun flag => { flag with cell })

def changed (r : Registry) (name : String) : Bool :=
  (r.lookup? name).any (·.changed)

def size (r : Registry) : Nat :=
  r.flags.length

end Registry

end FlagBinding
