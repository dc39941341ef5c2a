import FlagBinding.Proofs.Binding.Tree
import FlagBinding.Proofs.Registry.Keys

/-!
# The course of a binding

A binding registers the keys of its tree one after the other. It ends early only where a key is
refused or where a cell does not fit its field.

## Main definitions

* `Course`: how far a binding has come through a list of keys, and why no further.

## Main statements

* `bindMessage_course`: the binding of a message follows the keys of its tree.
* `bindMessage_course_of_accepted`: so does that of a covered message.
-/

namespace FlagBinding.Binding

open Schema Emit Check

/-- How far a binding has come from the keys `old` through the keys to be registered. -/
inductive Course (old keys : List FlagKey) (p : Progress) : Prop
  | finished (fault : p.fault = none) (same : p.registry.keys = old ++ keys)
  | refused {before after : List FlagKey} {key : FlagKey} {e : FlagError}
      (split : keys = before ++ key :: after) (same : p.registry.keys = old ++ before)
      (fault : p.fault = some (.flag e)) (refusal : p.registry.refusal? key = some e)
  | misfit {before after : List FlagKey} {field : String} (split : keys = before ++ after)
      (same : p.registry.keys = old ++ before) (fault : p.fault = some (.storage field))

namespace Course

variable {old keys more : List FlagKey} {p q : Progress}

theorem keys_eq (h : Course old keys p) (ok : p.fault = none) :
    p.registry.keys = old ++ keys := by
  cases h with
  | finished _ same => exact same
  | refused _ _ fault | misfit _ _ fault => simp [ok] at fault

theorem weaken (h : Course old keys p) (stopped : p.fault ≠ none) :
    Course old (keys ++ more) p := by
  cases h with
  | finished fault => exact absurd fault stopped
  | @refused before after key _ split same fault refusal =>
    have split : keys ++ more = before ++ key :: (after ++ more) := by simp [split]
    exact .refused split same fault refusal
  | @misfit before after _ split same fault =>
    have split : keys ++ more = before ++ (after ++ more) := by simp [split]
    exact .misfit split same fault

theorem append (same : p.registry.keys = old ++ keys) (h : Course p.registry.keys more q) :
    Course old (keys ++ more) q := by
  cases h with
  | finished fault here => exact .finished fault (by simp [here, same])
  | @refused before after key _ split here fault refusal =>
    have split : keys ++ more = (keys ++ before) ++ key :: after := by simp [split]
    exact .refused split (by simp [here, same]) fault refusal
  | @misfit before after _ split here fault =>
    have split : keys ++ more = (keys ++ before) ++ after := by simp [split]
    exact .misfit split (by simp [here, same]) fault

/-- A binding goes on where another has ended, unless that one has ended early. -/
theorem andThen (h : Course old keys p) (goOn : p.fault = none → Course p.registry.keys more q)
    (stay : p.fault ≠ none → q = p) : Course old (keys ++ more) q := by
  by_cases ok : p.fault = none
  · exact .append (h.keys_eq ok) (goOn ok)
  · rw [stay ok]
    exact h.weaken ok

/-- A course depends on the registry and the fault alone. -/
theorem congr (h : Course old keys p) (registry : q.registry = p.registry)
    (fault : q.fault = p.fault) : Course old keys q := by
  cases h with
  | finished ok same => exact .finished (fault.trans ok) (registry ▸ same)
  | refused split same stop refusal =>
    exact .refused split (registry ▸ same) (fault.trans stop) (registry ▸ refusal)
  | misfit split same stop => exact .misfit split (registry ▸ same) (fault.trans stop)

/-- Keys that are distinct from each other and from those before them do not clash. -/
theorem not_isClash (h : Course old keys p) (distinct : (old ++ keys).Pairwise FlagKey.Distinct)
    {e : FlagError} (fault : p.fault = some (.flag e)) : ¬ e.IsClash := by
  cases h with
  | finished ok | misfit _ _ ok => simp [ok] at fault
  | @refused before after key e' split same stop refusal =>
    obtain rfl : e = e' := by simpa [fault] using stop
    intro clash
    obtain ⟨k, mem, clashes⟩ := Registry.not_distinct_of_isClash refusal clash
    rw [split, ← List.append_assoc, List.pairwise_append] at distinct
    exact clashes (distinct.2.2 k (same ▸ mem) key (by simp))

/-- Keys that can be written are not refused as names. -/
theorem ne_invalidName (h : Course old keys p) (legal : ∀ key ∈ keys, key.fault? = none)
    (name : String) (reason : NameFault) : p.fault ≠ some (.flag (.invalidName name reason)) := by
  intro fault
  cases h with
  | finished ok | misfit _ _ ok => simp [ok] at fault
  | @refused before after key e split same stop refusal =>
    obtain rfl : e = .invalidName name reason := by simpa [stop] using fault
    have fine := legal key (by simp [split])
    rcases Registry.fault?_of_refusal? refusal with ⟨clash, -⟩ | ⟨_, -, bad⟩
    · exact clash
    · simp [fine] at bad

end Course

/-! ## Steps -/

/-- What a step does while there is no fault. -/
def takeStep (s : Schema) (depth : Nat) (scheme : NamingScheme) (p : Progress) : BindStep → Progress
  | .register r => register scheme r p
  | .nest field segment target =>
    match nestedRecord s target (p.record.get? field) with
    | none => p.stop (.storage field)
    | some (inner, innerRecord) =>
      let q := bindMessage s depth (scheme.nested segment) inner innerRecord p.registry
      { record := p.record.put field (.message (some q.record))
        registry := q.registry
        bound := p.bound ++ q.bound.map fun b => { b with path := field :: b.path }
        fault := q.fault }

/-- Steps one after the other, up to the first fault. -/
def takeSteps (s : Schema) (depth : Nat) (scheme : NamingScheme) (steps : List BindStep)
    (p : Progress) : Progress :=
  steps.foldl (fun p step => p.andThen fun p => takeStep s depth scheme p step) p

theorem bindMessage_succ (s : Schema) (depth : Nat) (scheme : NamingScheme) (m : Message)
    (record : Record) (registry : Registry) :
    bindMessage s (depth + 1) scheme m record registry =
      takeSteps s depth scheme (Plan.ofMessage m).steps ⟨record, registry, [], none⟩ := by
  rw [bindMessage, takeSteps]
  rfl

variable {s : Schema} {depth : Nat} {scheme : NamingScheme} {p : Progress}

theorem takeSteps_of_fault {steps : List BindStep} (stopped : p.fault ≠ none) :
    takeSteps s depth scheme steps p = p := by
  induction steps with
  | nil => rfl
  | cons step steps ih =>
    have here : (p.andThen fun p => takeStep s depth scheme p step) = p :=
      if_pos (Option.isSome_iff_ne_none.2 stopped)
    rwa [takeSteps, List.foldl_cons, here]

theorem takeSteps_cons {step : BindStep} {steps : List BindStep} (ok : p.fault = none) :
    takeSteps s depth scheme (step :: steps) p =
      takeSteps s depth scheme steps (takeStep s depth scheme p step) := by
  simp [takeSteps, Progress.andThen, ok]

/-- A registration that the checks let through: whatever is deprecated has a hint. -/
def Hinted (r : Registration) : Prop :=
  r.deprecation ≠ some ""

/-- The marks of a flag that has been registered. -/
def mark (r : Registration) (name : String) (p : Progress) : Progress :=
  let p := if r.hidden then p.change (p.registry.markHidden name) else p
  p.andThen fun p =>
    match r.deprecation with
    | some hint => p.change (p.registry.markDeprecated name hint)
    | none => p

/-- The marks of a flag that is there do not fail and leave all keys as they are. -/
theorem mark_kept {r : Registration} {key : FlagKey} (hinted : Hinted r) (ok : p.fault = none)
    (mem : key ∈ p.registry.keys) :
    (mark r key.name p).fault = none ∧ (mark r key.name p).registry.keys = p.registry.keys := by
  have hide : ∃ q : Progress,
      (if r.hidden then p.change (p.registry.markHidden key.name) else p) = q ∧
      q.fault = none ∧ q.registry.keys = p.registry.keys := by
    obtain ⟨registry, hidden, same⟩ := Registry.markHidden_of_mem mem
    split
    · exact ⟨_, rfl, by simp [hidden, Progress.change, ok, same]⟩
    · exact ⟨p, rfl, ok, rfl⟩
  obtain ⟨q, hq, ok, same⟩ := hide
  rw [mark, hq]
  cases hd : r.deprecation with
  | none => simp [Progress.andThen, ok, same]
  | some hint =>
    have given : hint ≠ "" := fun h => hinted (h ▸ hd)
    obtain ⟨registry, marked, kept⟩ := Registry.markDeprecated_of_mem (same ▸ mem) given
    simp [Progress.andThen, Progress.change, marked, ok, kept, same]

/-- A registration adds its key, or its key is refused, or its cell does not fit. -/
theorem register_course {r : Registration} (hinted : Hinted r) (ok : p.fault = none) :
    Course p.registry.keys [Entry.key ⟨scheme, r⟩] (register scheme r p) := by
  unfold register
  split
  case h_1 => exact .misfit (List.nil_append _).symm (List.append_nil _).symm rfl
  case h_2 cell fits =>
    simp only
    split
    case h_1 e refused =>
      exact .refused (List.nil_append _).symm (List.append_nil _).symm rfl
        (Registry.add_error refused)
    case h_2 registry added =>
      have same : registry.keys = p.registry.keys ++ [Entry.key ⟨scheme, r⟩] :=
        Registry.keys_add added
      have mem : Entry.key ⟨scheme, r⟩ ∈ registry.keys := by simp [same]
      have ⟨fault, kept⟩ := mark_kept (p := { p with
        registry, bound := p.bound ++ [⟨[r.field], scheme.build r.flag⟩] }) hinted ok mem
      exact .finished fault (kept.trans same)

/-! ## Messages -/

variable {steps : List BindStep} {t : BindTree}

/-- The steps of a tree follow its keys. The bound on the depth is never met. -/
theorem takeSteps_course (unfolds : Unfolds s steps t) (deep : t.height ≤ depth + 1)
    (hinted : ∀ e ∈ t.entries scheme, Hinted e.registration) (ok : p.fault = none) :
    Course p.registry.keys (t.keys scheme) (takeSteps s depth scheme steps p) := by
  induction unfolds generalizing depth scheme p with
  | nil => exact .finished ok (List.append_nil _).symm
  | @register r steps rest _ ih =>
    rw [takeSteps_cons ok, BindTree.keys_register]
    rw [BindTree.entries, List.forall_mem_cons] at hinted
    have first : Course p.registry.keys [Entry.key ⟨scheme, r⟩] (register scheme r p) :=
      register_course hinted.1 ok
    exact first.andThen (fun fine => ih deep hinted.2 fine) takeSteps_of_fault
  | @nest field segment target n steps inner rest found _ _ ihInner ihRest =>
    rw [takeSteps_cons ok, BindTree.keys_nest]
    rw [BindTree.entries, List.forall_mem_append] at hinted
    rw [BindTree.height] at deep
    have positive := inner.height_pos
    have first : Course p.registry.keys (inner.keys (scheme.nested segment))
        (takeStep s depth scheme p (.nest field segment target)) := by
      rw [takeStep]
      split
      case h_1 => exact .misfit (List.nil_append _).symm (List.append_nil _).symm rfl
      case h_2 m innerRecord here =>
        obtain ⟨depth, rfl⟩ : ∃ d, depth = d + 1 := ⟨depth - 1, by omega⟩
        obtain rfl : n = m := by
          unfold nestedRecord at here
          split at here <;> simp_all
        have low : inner.height ≤ depth + 1 := by omega
        have deeper := ihInner (p := ⟨innerRecord, p.registry, [], none⟩) low hinted.1 rfl
        rw [← bindMessage_succ] at deeper
        exact deeper.congr rfl rfl
    exact first.andThen (fun fine => ihRest (by omega) hinted.2 fine) takeSteps_of_fault

/-- The binding of a message follows the keys of its tree. -/
theorem bindMessage_course {m : Message} (unfolds : Unfolds s (Plan.ofMessage m).steps t)
    (deep : t.height ≤ depth) (hinted : ∀ e ∈ t.entries scheme, Hinted e.registration)
    (record : Record) (registry : Registry) :
    Course registry.keys (t.keys scheme) (bindMessage s depth scheme m record registry) := by
  obtain ⟨depth, rfl⟩ : ∃ d, depth = d + 1 := ⟨depth - 1, by have := t.height_pos; omega⟩
  rw [bindMessage_succ]
  exact takeSteps_course (p := ⟨record, registry, [], none⟩) unfolds deep hinted rfl

theorem hinted_of_mem_entries {m : Message} (h : Unfolds s (Plan.ofMessage m).steps t)
    (pass : AllPass s m) {e : Entry} (mem : e ∈ t.entries scheme) : Hinted e.registration := by
  obtain ⟨-, -, -, -, x, -, -, of, -, common⟩ := h.checked_of_mem_entries pass mem
  obtain ⟨-, -, -, -, -, -, deprecation⟩ := registration_of? of
  intro blank
  rw [deprecation] at blank
  split at blank
  · rename_i deprecated
    have given := (checkCommon_ok_iff.1 common).2.2 deprecated
    have empty : x.2.common.deprecatedUsage = "" := by simpa using blank
    simp [isBlankText, empty] at given
  · simp at blank

/-- Binding a covered message registers the keys of its tree, as far as it comes. -/
theorem bindMessage_course_of_accepted {m : Message} (accepted : Accepted s)
    (enabled : m.disabled = false) (covered : Covered s m)
    (unfolds : Unfolds s (Plan.ofMessage m).steps t)
    (low : t.height ≤ depthOf s) (deep : depthOf s ≤ depth) (record : Record) :
    Course [] (t.keys {}) (bindMessage s depth {} m record .empty) :=
  bindMessage_course unfolds (Nat.le_trans low deep)
    (fun _ mem => hinted_of_mem_entries unfolds
      (accepted.allPass enabled covered) mem) record .empty

end FlagBinding.Binding
