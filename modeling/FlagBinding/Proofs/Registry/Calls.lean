import FlagBinding.Proofs.CommandLine.Effect
import FlagBinding.Registry.Help

/-!
# Runs of calls

A set of flags starts empty and changes by calls, of which each can fail. Whatever the calls are,
the index leads to the right flags, all that a command line is matched against can be told apart,
and a flag counts as changed if an input for it has been accepted.

## Main definitions

* `Call`, `Registry.perform`, `Registry.run`: calls, one and many.
* `Registry.Consistent`: what the parts of a registry have to do with each other.
* `Registry.Extends`: a registry has all flags of an earlier one, in their places and with their
  marks.
* `Registry.history`: the inputs that were accepted in the course of calls.

## Main statements

* `Registry.keys_perform`, `Registry.extends_perform`, `Registry.changed_perform`: what one call
  does.
* `Registry.run_from_empty`: what holds after all calls.
-/

namespace FlagBinding

/-- A call that can change a set of flags. -/
inductive Call
  | add (key : FlagKey) (usage : String) (cell : Cell)
  | markHidden (name : String)
  | markDeprecated (name message : String)
  | set (name input : String)
  | parse (args : List String)

namespace Call

def key? : Call → Option FlagKey
  | add key _ _ => some key
  | _ => none

/-- A call that sets a flag up, rather than give it an input. -/
def IsSetup : Call → Prop
  | add .. | markHidden _ | markDeprecated .. => True
  | set .. | parse _ => False

theorem cases_setup (call : Call) :
    call.IsSetup ∨ (∃ name input, call = set name input) ∨ ∃ args, call = parse args := by
  cases call <;> simp [IsSetup]

end Call

/-- Keys with one more behind them, if that can be written and told apart from all of them. -/
def enroll (keys : List FlagKey) (key : FlagKey) : List FlagKey :=
  if key.fault? = none ∧ ∀ k ∈ keys, k.Distinct key then keys ++ [key] else keys

/-- A flag later on: what it is called by is the same, and no mark is gone. -/
structure Flag.Persists (flag flag' : Flag) : Prop where
  key : flag'.toFlagKey = flag.toFlagKey
  hidden : flag.hidden = true → flag'.hidden = true
  deprecated : flag.deprecation.isSome = true → flag'.deprecation.isSome = true
  changed : flag.changed = true → flag'.changed = true

namespace Registry

/-- The outcome of setting a flag up. -/
def settle (r : Registry) : Except FlagError Registry → Outcome Unit
  | .ok r' => ⟨r', [], .ok ()⟩
  | .error e => ⟨r, [], .error e⟩

/-- The outcome of a call. -/
def perform (r : Registry) : Call → Outcome Unit
  | .add key usage cell => r.settle (r.add { toFlagKey := key, usage, cell })
  | .markHidden name => r.settle (r.markHidden name)
  | .markDeprecated name message => r.settle (r.markDeprecated name message)
  | .set name input => r.set name input
  | .parse args =>
    let outcome := r.parse args
    ⟨outcome.registry, outcome.warnings, outcome.result.map fun _ => ()⟩

/-- The registry after calls, of which each may fail. -/
def run (r : Registry) (calls : List Call) : Registry :=
  calls.foldl (fun r call => (r.perform call).registry) r

/-- The assignments that are accepted, up to the first that is not. -/
def accepted (r : Registry) : List (String × String) → List (String × String)
  | [] => []
  | (name, input) :: rest =>
    match (r.set name input).result with
    | .error _ => []
    | .ok () => (name, input) :: (r.set name input).registry.accepted rest

def acceptedBy (r : Registry) : Call → List (String × String)
  | .set name input => r.accepted [(name, input)]
  | .parse args =>
    match r.scan .word args with
    | .error _ => []
    | .ok tokens => r.accepted (r.assignments tokens)
  | _ => []

/-- The inputs that flags accept in the course of calls. -/
def history (r : Registry) : List Call → List (String × String)
  | [] => []
  | call :: calls => r.acceptedBy call ++ (r.perform call).registry.history calls

/-- The index leads from each name and each alias to its flag and from nothing else; the names can
be written, and all that a command line is matched against can be told apart. -/
structure Consistent (r : Registry) : Prop where
  byName : ∀ name i, r.index.val.byName[name]? = some i ↔
    ∃ flag : Flag, r.flags[i]? = some flag ∧ flag.name = name
  byShort : ∀ c i, r.index.val.byShort[c]? = some i ↔
    ∃ flag : Flag, r.flags[i]? = some flag ∧ flag.short = some c
  legal : ∀ flag ∈ r.flags, flag.toFlagKey.fault? = none
  names : (r.flags.map (·.name)).Nodup
  shorts : (r.flags.filterMap (·.short)).Nodup
  ids : (r.arguments.map (·.id)).Nodup
  longs : (r.arguments.filterMap (·.long)).Nodup
  aliases : (r.arguments.filterMap (·.short)).Nodup

/-- Each flag is still in its place, and no mark of it is gone. -/
def Extends (r r' : Registry) : Prop :=
  ∀ (i : Nat) (flag : Flag), r.flags[i]? = some flag →
    ∃ flag', r'.flags[i]? = some flag' ∧ flag.Persists flag'

variable {r r' : Registry} {flag : Flag}

/-! ## What a command line is matched against -/

theorem nodup_shorts (r : Registry) : (r.flags.filterMap (·.short)).Nodup := by
  refine List.Pairwise.filterMap _ ?_ (List.pairwise_map.1 r.wellNamed.2)
  intro a b distinct c short d short' same
  obtain rfl : c = d := same
  rcases distinct.2 with none | other
  · simp_all
  · exact other (by simp_all)

theorem offersHelp_iff : r.offersHelp ↔
    "help" ∉ r.flags.map (·.name) ∧ 'h' ∉ r.flags.filterMap (·.short) := by
  rw [offersHelp, Bool.and_eq_true, Bool.not_eq_true', ← Bool.not_eq_true, contains_iff,
    Option.isNone_iff_eq_none, lookupShort?_eq_none_iff]
  simp [keys]

/-- The name of the arguments is one that no flag can have. -/
theorem restName_notMem (r : Registry) : restName ∉ r.flags.map (·.name) := by
  intro mem
  obtain ⟨flag, here, named⟩ := List.mem_map.1 mem
  exact (FlagKey.fault?_eq_none_iff.1 (fault?_of_mem here)).2.2.2.1 named

/-- All that a command line is matched against can be told apart by a part if the entries can and
the flag that shows help, where there is room for it, differs from them. -/
theorem nodup_arguments {β : Type} {part : Offer → Option β}
    (others : (r.offers.filterMap part).Nodup)
    (help : r.offersHelp → ∀ x, part .showHelp = some x → x ∉ r.offers.filterMap part) :
    (r.arguments.filterMap part).Nodup := by
  rw [arguments, List.filterMap_append]
  split
  case isTrue room =>
    cases shown : part .showHelp with
    | none => simpa [shown] using others
    | some x =>
      have fresh := help room x shown
      simp only [List.filterMap_cons, shown, List.filterMap_nil]
      grind [List.nodup_append]
  case isFalse => simpa using others

theorem ids_offers (r : Registry) :
    r.offers.filterMap (fun offer => some offer.id) = restName :: r.flags.map (·.name) := by
  simp [offers, Offer.arguments, Offer.ofFlag, Function.comp_def]

theorem longs_offers (r : Registry) : r.offers.filterMap (·.long) = r.flags.map (·.name) := by
  simp [offers, Offer.arguments, Offer.ofFlag, Function.comp_def]

theorem shorts_offers (r : Registry) :
    r.offers.filterMap (·.short) = r.flags.filterMap (·.short) := by
  simp [offers, Offer.arguments, Offer.ofFlag, Function.comp_def]

theorem consistent (r : Registry) : Consistent r where
  byName name i := place?_eq_some_iff
  byShort c i := placeShort?_eq_some_iff
  legal flag mem := fault?_of_mem mem
  names := r.nodup_names
  shorts := r.nodup_shorts
  ids := by
    have distinct : (r.arguments.filterMap fun offer => some offer.id).Nodup := by
      apply nodup_arguments
      · rw [ids_offers]
        exact List.nodup_cons.2 ⟨r.restName_notMem, r.nodup_names⟩
      · rintro room _ ⟨⟩
        rw [ids_offers, List.mem_cons, not_or]
        exact ⟨by decide, (offersHelp_iff.1 room).1⟩
    simpa using distinct
  longs := by
    apply nodup_arguments
    · rw [longs_offers]
      exact r.nodup_names
    · rintro room _ ⟨⟩
      rw [longs_offers]
      exact (offersHelp_iff.1 room).1
  aliases := by
    apply nodup_arguments
    · rw [shorts_offers]
      exact r.nodup_shorts
    · rintro room _ ⟨⟩
      rw [shorts_offers]
      exact (offersHelp_iff.1 room).2

/-! ## Later registries -/

theorem Extends.refl (r : Registry) : Extends r r :=
  fun _ flag at_i => ⟨flag, at_i, rfl, id, id, id⟩

theorem Extends.trans {r'' : Registry} (first : Extends r r') (second : Extends r' r'') :
    Extends r r'' := by
  intro i flag at_i
  obtain ⟨flag', at_i', kept⟩ := first i flag at_i
  obtain ⟨flag'', at_i'', kept'⟩ := second i flag' at_i'
  exact ⟨flag'', at_i'', kept'.key.trans kept.key, kept'.hidden ∘ kept.hidden,
    kept'.deprecated ∘ kept.deprecated, kept'.changed ∘ kept.changed⟩

theorem extends_add (added : r.add flag = .ok r') : Extends r r' := by
  intro i f at_i
  have inside : i < r.flags.length := (List.getElem?_eq_some_iff.1 at_i).1
  rw [flags_add added, List.getElem?_append_left inside]
  exact Extends.refl r i f at_i

theorem extends_update {change : Flag → Flag}
    (keeps : ∀ flag : Flag, flag.Persists (keepingKey change flag)) (name : String) :
    Extends r (r.update name change) := by
  intro i f at_i
  rw [flags_update_eq_map, List.getElem?_map, at_i]
  refine ⟨_, rfl, ?_⟩
  dsimp only
  split
  · exact keeps f
  · exact ⟨rfl, id, id, id⟩

/-! ## One input -/

/-- An input is refused without effect, or a flag takes it. -/
theorem set_cases (r : Registry) (name input : String) :
    (∃ e, (r.set name input).result = .error e ∧ (r.set name input).registry = r) ∨
      ∃ cell, r.contains name ∧ (r.set name input).result = .ok () ∧
        (r.set name input).registry = r.update name fun flag =>
          { flag with cell, changed := true } := by
  unfold set
  cases found : r.lookup? name with
  | none => exact .inl ⟨_, rfl, rfl⟩
  | some flag =>
    obtain ⟨mem, rfl⟩ := of_lookup? found
    cases parsed : flag.cell.parse input with
    | error cause =>
      exact .inl ⟨.invalidArgument flag.name input cause, by simp [parsed], by simp [parsed]⟩
    | ok cell => exact .inr ⟨cell, contains_of_mem mem, by simp [parsed], by simp [parsed]⟩

theorem keys_set (r : Registry) (name input : String) :
    (r.set name input).registry.keys = r.keys := by
  rcases set_cases r name input with ⟨e, -, same⟩ | ⟨cell, -, -, changed⟩
  · rw [same]
  · rw [changed, keys_update]

theorem extends_set (r : Registry) (name input : String) :
    Extends r (r.set name input).registry := by
  rcases set_cases r name input with ⟨e, -, same⟩ | ⟨cell, -, -, changed⟩
  · rw [same]
    exact .refl r
  · rw [changed]
    apply extends_update
    intro flag
    exact ⟨rfl, id, id, fun _ => rfl⟩

/-! ## Changed flags -/

theorem changed_iff {name : String} :
    r.changed name ↔ ∃ flag ∈ r.flags, flag.name = name ∧ flag.changed := by
  rw [changed, Option.any_eq_true]
  constructor
  · rintro ⟨flag, found, marked⟩
    obtain ⟨mem, named⟩ := of_lookup? found
    exact ⟨flag, mem, named, marked⟩
  · rintro ⟨flag, mem, rfl, marked⟩
    exact ⟨flag, lookup?_of_mem mem, marked⟩

theorem changed_add (added : r.add flag = .ok r') (unchanged : flag.changed = false)
    (name : String) : r'.changed name ↔ r.changed name := by
  rw [changed_iff, changed_iff, flags_add added]
  grind

theorem changed_update (r : Registry) (name other : String) (change : Flag → Flag) :
    (r.update name change).changed other ↔
      ∃ flag ∈ r.flags, flag.name = other ∧
        if other = name then (change flag).changed else flag.changed := by
  rw [changed_iff, flags_update_eq_map]
  simp only [List.mem_map, exists_exists_and_eq_and]
  refine exists_congr fun flag => and_congr_right fun _ => ?_
  by_cases here : flag.name = name
  · simp only [here, if_true, keepingKey]
    grind
  · simp only [here, if_false]
    grind

/-- A change that leaves this mark alone. -/
theorem changed_update_of_same {change : Flag → Flag}
    (same : ∀ flag, (change flag).changed = flag.changed) (name other : String)
    : (r.update name change).changed other ↔ r.changed other := by
  rw [changed_update, changed_iff]
  simp only [same, ite_self]

theorem changed_set (r : Registry) (name input other : String) :
    (r.set name input).registry.changed other ↔
      r.changed other ∨ (other = name ∧ (r.set name input).result = .ok ()) := by
  rcases set_cases r name input with ⟨e, refused, same⟩ | ⟨cell, has, accepted, changed⟩
  · simp [same, refused]
  · rw [changed, accepted, changed_update, changed_iff]
    by_cases here : other = name
    · subst here
      obtain ⟨k, mem, named⟩ := contains_iff.1 has
      obtain ⟨flag, there, rfl⟩ := List.mem_map.1 mem
      simpa using ⟨flag, there, named⟩
    · simp [here]

/-! ## Many inputs -/

/-- What each input keeps, many of them keep. -/
theorem setAll_preserves {Kept : Registry → Prop}
    (step : ∀ r name input, Kept r → Kept (r.set name input).registry) (start : Kept r)
    (assignments : List (String × String)) : Kept (r.setAll assignments).registry := by
  induction assignments generalizing r with
  | nil => exact start
  | cons assignment rest ih =>
    obtain ⟨name, input⟩ := assignment
    have next := step r name input start
    cases result : (r.set name input).result with
    | error e =>
      rw [(setAll_cons_error rest result).1]
      exact next
    | ok =>
      rw [(setAll_cons_ok rest result).1]
      exact ih next

theorem parse_preserves {Kept : Registry → Prop}
    (step : ∀ r name input, Kept r → Kept (r.set name input).registry) (start : Kept r)
    (args : List String) : Kept (r.parse args).registry := by
  unfold parse
  cases r.scan .word args with
  | error fault => exact start
  | ok tokens => exact setAll_preserves step start _

theorem changed_setAll (assignments : List (String × String)) (name : String) :
    (r.setAll assignments).registry.changed name ↔
      r.changed name ∨ ∃ input, (name, input) ∈ r.accepted assignments := by
  induction assignments generalizing r with
  | nil => simp [setAll, accepted]
  | cons assignment rest ih =>
    obtain ⟨flag, input⟩ := assignment
    rw [accepted]
    cases result : (r.set flag input).result with
    | error e =>
      rw [(setAll_cons_error rest result).1, changed_set]
      simp [result]
    | ok =>
      rw [(setAll_cons_ok rest result).1, ih, changed_set]
      simp only [result]
      grind

/-! ## One call -/

/-- A call that sets a flag up fails without effect, or adds a flag, or changes one in its marks. -/
theorem perform_cases (r : Registry) {call : Call} (setup : call.IsSetup) :
    (∃ e, (∀ key, call.key? = some key → r.refusal? key = some e) ∧
      r.perform call = ⟨r, [], .error e⟩) ∨
    (∃ flag r', call.key? = some flag.toFlagKey ∧ flag.changed = false ∧ r.add flag = .ok r' ∧
      r.perform call = ⟨r', [], .ok ()⟩) ∨
    ∃ name change, call.key? = none ∧ r.perform call = ⟨r.update name change, [], .ok ()⟩ ∧
      (∀ flag : Flag, flag.Persists (keepingKey change flag)) ∧
      ∀ flag, (change flag).changed = flag.changed := by
  cases call with
  | add key usage cell =>
    rw [perform]
    cases added : r.add { toFlagKey := key, usage, cell } with
    | error e =>
      refine .inl ⟨e, fun key same => ?_, rfl⟩
      obtain rfl := Option.some.inj same
      exact add_error added
    | ok r' => exact .inr (.inl ⟨_, r', rfl, rfl, added, rfl⟩)
  | markHidden name =>
    rw [perform, Registry.markHidden]
    split
    · refine .inr (.inr ⟨name, _, rfl, rfl, fun flag => ?_, fun flag => rfl⟩)
      exact ⟨rfl, fun _ => rfl, id, id⟩
    · exact .inl ⟨_, by simp [Call.key?], rfl⟩
  | markDeprecated name message =>
    rw [perform, Registry.markDeprecated]
    split
    · exact .inl ⟨_, by simp [Call.key?], rfl⟩
    split
    · refine .inr (.inr ⟨name, _, rfl, rfl, fun flag => ?_, fun flag => rfl⟩)
      exact ⟨rfl, id, fun _ => rfl, id⟩
    · exact .inl ⟨_, by simp [Call.key?], rfl⟩
  | set name input => exact setup.elim
  | parse args => exact setup.elim

theorem perform_error {call : Call} {e : FlagError} (setup : call.IsSetup)
    (failed : (r.perform call).result = .error e) : (r.perform call).registry = r := by
  rcases perform_cases r setup with ⟨_, -, outcome⟩ | ⟨_, _, -, -, -, outcome⟩ |
    ⟨_, _, -, outcome, -⟩
  · rw [outcome]
  · simp [outcome] at failed
  · simp [outcome] at failed

/-- A call registers its key if that can be written and told apart from those that are there. -/
theorem keys_perform (r : Registry) (call : Call) :
    (r.perform call).registry.keys = call.key?.toList.foldl enroll r.keys := by
  have step : ∀ (r' : Registry) name input, r'.keys = r.keys →
      (r'.set name input).registry.keys = r.keys :=
    fun r' name input same => (keys_set r' name input).trans same
  rcases call.cases_setup with setup | ⟨name, input, rfl⟩ | ⟨args, rfl⟩
  · rcases perform_cases r setup with
      ⟨e, refused, outcome⟩ | ⟨flag, r', key, -, added, outcome⟩ | ⟨name, change, key, outcome, -⟩
    · rw [outcome]
      cases key : call.key? with
      | none => rfl
      | some k =>
        -- The registry refused the key, so it is not one to be added.
        have other : ¬ (k.fault? = none ∧ ∀ k' ∈ r.keys, k'.Distinct k) := by
          rw [← refusal?_eq_none_iff, refused k key]
          simp
        simp [enroll, other]
    · have fits := refusal?_eq_none_iff.1 (refusal?_of_add added)
      rw [outcome, key, keys_add added]
      simp only [Option.toList_some, List.foldl_cons, List.foldl_nil, enroll, if_pos fits]
    · rw [outcome, key]
      exact keys_update r name change
  · exact keys_set r name input
  · exact parse_preserves step rfl args

theorem extends_perform (r : Registry) (call : Call) : Extends r (r.perform call).registry := by
  have step : ∀ r' name input, Extends r r' → Extends r (r'.set name input).registry :=
    fun r' name input kept => kept.trans (extends_set r' name input)
  rcases call.cases_setup with setup | ⟨name, input, rfl⟩ | ⟨args, rfl⟩
  · rcases perform_cases r setup with
      ⟨e, -, outcome⟩ | ⟨flag, r', -, -, added, outcome⟩ | ⟨name, change, -, outcome, keeps, -⟩
    · rw [outcome]
      exact .refl r
    · rw [outcome]
      exact extends_add added
    · rw [outcome]
      exact extends_update keeps name
  · exact extends_set r name input
  · exact parse_preserves step (.refl r) args

theorem acceptedBy_of_isSetup {call : Call} (setup : call.IsSetup) : r.acceptedBy call = [] := by
  cases call <;> first | rfl | exact setup.elim

/-- A call marks the flags of which it has an input accepted, and no others. -/
theorem changed_perform (r : Registry) (call : Call) (name : String) :
    (r.perform call).registry.changed name ↔
      r.changed name ∨ ∃ input, (name, input) ∈ r.acceptedBy call := by
  rcases call.cases_setup with setup | ⟨flag, input, rfl⟩ | ⟨args, rfl⟩
  · have none : ¬ ∃ input, (name, input) ∈ r.acceptedBy call := by
      simp [acceptedBy_of_isSetup setup]
    rw [or_iff_left none]
    rcases perform_cases r setup with
      ⟨e, -, outcome⟩ | ⟨flag, r', -, unchanged, added, outcome⟩ |
        ⟨flag, change, -, outcome, -, same⟩
    · rw [outcome]
    · rw [outcome]
      exact changed_add added unchanged name
    · rw [outcome]
      exact changed_update_of_same same flag name
  · -- An input on its own is a list of one assignment.
    have alone : (r.perform (.set flag input)).registry = (r.setAll [(flag, input)]).registry := by
      cases result : (r.set flag input).result with
      | error e => exact (setAll_cons_error [] result).1.symm
      | ok => exact (setAll_cons_ok [] result).1.symm
    rw [alone]
    exact changed_setAll _ name
  · rw [perform, parse, acceptedBy]
    cases r.scan .word args with
    | error fault => simp
    | ok tokens => exact changed_setAll _ name

/-! ## Runs -/

theorem run_append (r : Registry) (calls more : List Call) :
    r.run (calls ++ more) = (r.run calls).run more :=
  List.foldl_append

theorem keys_run (r : Registry) (calls : List Call) :
    (r.run calls).keys = (calls.filterMap Call.key?).foldl enroll r.keys := by
  induction calls generalizing r with
  | nil => rfl
  | cons call calls ih =>
    have first := keys_perform r call
    rw [run, List.foldl_cons, ← run, ih, first]
    cases key : call.key? <;> simp [key]

theorem extends_run (r : Registry) (calls : List Call) : Extends r (r.run calls) := by
  induction calls generalizing r with
  | nil => exact .refl r
  | cons call calls ih => exact (extends_perform r call).trans (ih _)

theorem changed_run (r : Registry) (calls : List Call) (name : String) :
    (r.run calls).changed name ↔ r.changed name ∨ ∃ input, (name, input) ∈ r.history calls := by
  induction calls generalizing r with
  | nil => simp [run, history]
  | cons call calls ih =>
    rw [run, List.foldl_cons, ← run, ih, changed_perform, history]
    simp only [List.mem_append, exists_or, or_assoc]

/-- After any calls, of which each may have failed: the parts of the registry agree. The flags are
those whose keys could be written and told apart from the flags before them, in the order of their
calls. A further call that fails to set a flag up changes nothing. No further calls move a flag or
clear a mark of it. A flag counts as changed if an input for it was accepted in the course of the
calls, and only then. -/
theorem run_from_empty (calls : List Call) :
    Consistent (empty.run calls) ∧
    (empty.run calls).keys = (calls.filterMap Call.key?).foldl enroll [] ∧
    (∀ call e, call.IsSetup → ((empty.run calls).perform call).result = .error e →
      ((empty.run calls).perform call).registry = empty.run calls) ∧
    (∀ more, Extends (empty.run calls) (empty.run (calls ++ more))) ∧
    (∀ name, (empty.run calls).changed name ↔ ∃ input, (name, input) ∈ empty.history calls) ∧
    ∀ flag ∈ (empty.run calls).flags, flag.changed ↔
      ∃ input, (flag.name, input) ∈ empty.history calls := by
  have marks (name : String) : (empty.run calls).changed name ↔
      ∃ input, (name, input) ∈ empty.history calls := by
    have fresh : ¬ empty.changed name := by simp [changed_iff, empty]
    rw [changed_run, or_iff_right fresh]
  refine ⟨consistent _, keys_run empty calls, fun call e setup => perform_error setup,
    fun more => ?_, marks,
    fun flag mem => ?_⟩
  · rw [run_append]
    exact extends_run _ more
  · rw [← marks, Registry.changed, lookup?_of_mem mem, Option.any_some]

end Registry

end FlagBinding
