import FlagBinding.Binding.Run
import FlagBinding.Proofs.Checks.Steps
import FlagBinding.Proofs.Naming.Dotted

/-!
# The tree of a binding

To bind a message is to register its flags and to bind in turn the messages that it nests. All of
this is a tree, which depends on the schema alone. A message has a place in the tree for every way
that leads to it, and each place has a naming scheme of its own.

## Main definitions

* `BindTree`, `Unfolds`: trees of registrations, and the tree of a list of steps.
* `BindTree.entries`, `BindTree.keys`: what is registered, in order.
* `BindTree.places`: the places of messages in a tree.

## Main statements

* `exists_unfolds_of_accepted`: the tree of a checked message, and a bound for its height.
* `Unfolds.reaches`: at every place is a message that is reached by nesting.
* `Unfolds.forall_segments`: where the segments of names come from.
* `Unfolds.entries_perm`: what is registered, place by place.
-/

namespace FlagBinding.Binding

open Schema Emit Check NamingScheme

/-- All that is done to bind a message, with the messages in it. -/
inductive BindTree
  | done
  | register (r : Registration) (rest : BindTree)
  /-- The message `n` in a field is bound below a segment of names. -/
  | nest (field segment : String) (n : Message) (inner rest : BindTree)

/-- The tree of a list of steps: every message that is bound in turn is looked up and unfolded. -/
inductive Unfolds (s : Schema) : List BindStep → BindTree → Prop
  | nil : Unfolds s [] .done
  | register {r : Registration} {steps : List BindStep} {rest : BindTree} :
      Unfolds s steps rest → Unfolds s (.register r :: steps) (.register r rest)
  | nest {field segment target : String} {n : Message} {steps : List BindStep}
      {inner rest : BindTree} (found : s.findMessage? target = some n) :
      Unfolds s (Plan.ofMessage n).steps inner → Unfolds s steps rest →
      Unfolds s (.nest field segment target :: steps) (.nest field segment n inner rest)

/-- A registration with the scheme that makes the name of its flag. -/
structure Entry where
  scheme : NamingScheme
  registration : Registration

def Entry.key (e : Entry) : FlagKey :=
  ⟨e.scheme.build e.registration.flag, e.registration.short⟩

/-- The registration that a step is. -/
def registration? : BindStep → Option Registration
  | .register r => some r
  | .nest _ _ _ => none

def registrationsOf (m : Message) : List Registration :=
  (Plan.ofMessage m).steps.filterMap registration?

def segment? : BindStep → Option String
  | .register _ => none
  | .nest _ segment _ => some (trimDots segment)

theorem filterMap_segment?_nest (field segment target : String) (steps : List BindStep) :
    (BindStep.nest field segment target :: steps).filterMap segment? =
      trimDots segment :: steps.filterMap segment? := rfl

/-- The segments that a message adds to the names of the messages that it nests. -/
def segmentsOf (m : Message) : List String :=
  (Plan.ofMessage m).steps.filterMap segment?

/-- A message at a place of a tree, with the scheme there. -/
structure Place where
  scheme : NamingScheme
  message : Message

def Place.entries (place : Place) : List Entry :=
  (registrationsOf place.message).map (⟨place.scheme, ·⟩)

def Place.keys (place : Place) : List FlagKey :=
  place.entries.map Entry.key

namespace BindTree

/-- All registrations in their order. -/
def entries (scheme : NamingScheme) : BindTree → List Entry
  | done => []
  | register r rest => ⟨scheme, r⟩ :: rest.entries scheme
  | nest _ segment _ inner rest => inner.entries (scheme.nested segment) ++ rest.entries scheme

/-- Names and aliases in the order of registration. -/
def keys (scheme : NamingScheme) (t : BindTree) : List FlagKey :=
  (t.entries scheme).map Entry.key

/-- The places of nested messages. -/
def innerPlaces (scheme : NamingScheme) : BindTree → List Place
  | done => []
  | register _ rest => rest.innerPlaces scheme
  | nest _ segment n inner rest =>
    ⟨scheme.nested segment, n⟩ ::
      (inner.innerPlaces (scheme.nested segment) ++ rest.innerPlaces scheme)

/-- The places of all messages in the tree of `m`, the outermost first. -/
def places (scheme : NamingScheme) (m : Message) (t : BindTree) : List Place :=
  ⟨scheme, m⟩ :: t.innerPlaces scheme

/-- How deep messages are nested. -/
def height : BindTree → Nat
  | done => 1
  | register _ rest => rest.height
  | nest _ _ _ inner rest => max (inner.height + 1) rest.height

theorem keys_register (scheme : NamingScheme) (r : Registration) (rest : BindTree) :
    (register r rest).keys scheme = [Entry.key ⟨scheme, r⟩] ++ rest.keys scheme := rfl

theorem keys_nest (scheme : NamingScheme) (field segment : String) (n : Message)
    (inner rest : BindTree) : (nest field segment n inner rest).keys scheme =
      inner.keys (scheme.nested segment) ++ rest.keys scheme :=
  List.map_append

theorem innerPlaces_nest (scheme : NamingScheme) (field segment : String) (n : Message)
    (inner rest : BindTree) : (nest field segment n inner rest).innerPlaces scheme =
      inner.places (scheme.nested segment) n ++ rest.innerPlaces scheme := rfl

theorem height_pos (t : BindTree) : 0 < t.height := by
  induction t with
  | done => simp [height]
  | register r rest ih => exact ih
  | nest field segment n inner rest _ ih => simp only [height]; omega

end BindTree

variable {s : Schema} {m : Message}

/-- A list of steps has no more than one tree. -/
theorem Unfolds.unique {steps : List BindStep} {t t' : BindTree} (h : Unfolds s steps t)
    (h' : Unfolds s steps t') : t = t' := by
  induction h generalizing t' with
  | nil => cases h'; rfl
  | register _ ih =>
    cases h' with
    | register rest => rw [ih rest]
  | nest found _ _ ihInner ihRest =>
    cases h' with
    | nest found' inner rest =>
      obtain rfl := Option.some.inj (found.symm.trans found')
      rw [ihInner inner, ihRest rest]

/-! ## Existence -/

theorem exists_unfolds_of_steps {bound : Nat} {steps : List BindStep}
    (nested : ∀ field segment target, .nest field segment target ∈ steps → ∃ n inner,
      s.findMessage? target = some n ∧ Unfolds s (Plan.ofMessage n).steps inner ∧
        inner.height ≤ bound) :
    ∃ t, Unfolds s steps t ∧ t.height ≤ bound + 1 := by
  induction steps with
  | nil => exact ⟨.done, .nil, by simp [BindTree.height]⟩
  | cons step steps ih =>
    obtain ⟨rest, unfolds, low⟩ := ih fun f g t mem => nested f g t (by simp [mem])
    cases step with
    | register r => exact ⟨.register r rest, .register unfolds, low⟩
    | nest field segment target =>
      obtain ⟨n, inner, found, deeper, lower⟩ := nested field segment target (by simp)
      exact ⟨.nest field segment n inner rest, .nest found deeper unfolds, by
        simp only [BindTree.height]; omega⟩

/-- A message whose nested messages have trees has a tree. -/
theorem exists_unfolds_of_nested {bound : Nat} (passes : Passes s m)
    (nested : ∀ n, Nests s m n → ∃ inner, Unfolds s (Plan.ofMessage n).steps inner ∧
      inner.height ≤ bound) :
    ∃ t, Unfolds s (Plan.ofMessage m).steps t ∧ t.height ≤ bound + 1 := by
  refine exists_unfolds_of_steps fun field segment target mem => ?_
  obtain ⟨n, found, -, nests⟩ := passes.nests_of_mem_steps mem
  obtain ⟨inner, unfolds, low⟩ := nested n nests
  exact ⟨n, inner, (target?_eq_some_iff.1 found).1, unfolds, low⟩

/-- The messages that a search has put in order have trees, no higher than the list is long. -/
theorem exists_unfolds_of_ordered {done : List String} (ordered : Ordered s done) {name : String}
    (mem : name ∈ done) (found : target? s name = some m) (pass : AllPass s m) :
    ∃ t, Unfolds s (Plan.ofMessage m).steps t ∧ t.height ≤ done.length := by
  induction ordered generalizing name m with
  | nil => simp at mem
  | @cons first k done _ _ here nested _ ih =>
    rcases List.mem_cons.1 mem with rfl | mem
    · obtain rfl : k = m := by simpa [here] using found
      refine exists_unfolds_of_nested (pass k .refl) fun n nests => ?_
      have ⟨target, listed, found⟩ := nests
      exact ih (nested target listed (by simp [found])) found (pass.nested nests)
    · obtain ⟨t, unfolds, low⟩ := ih mem found pass
      exact ⟨t, unfolds, Nat.le_succ_of_le low⟩

/-- Binding a checked message unfolds into a tree if all that it nests has been checked. -/
theorem exists_unfolds_of_accepted (accepted : Accepted s) (enabled : m.disabled = false)
    (covered : Covered s m) :
    ∃ t, Unfolds s (Plan.ofMessage m).steps t ∧ t.height ≤ depthOf s := by
  obtain ⟨done, ordered, reached⟩ := exists_ordered_of_checkNesting (accepted_iff.1 accepted).2
  have pass : AllPass s m := accepted.allPass enabled covered
  have short : done.length ≤ s.messages.length :=
    length_le_of_nodup ordered.nodup ordered.subset
  have nested : ∀ n, Nests s m n → ∃ inner, Unfolds s (Plan.ofMessage n).steps inner ∧
      inner.height ≤ done.length := by
    intro n nests
    have ⟨name, _, here⟩ := nests
    have found := target?_fullName here
    exact exists_unfolds_of_ordered ordered
      (reached n (covered n (.single nests)) (by simp [found])) found (pass.nested nests)
  obtain ⟨t, unfolds, low⟩ := exists_unfolds_of_nested (pass m .refl) nested
  exact ⟨t, unfolds, by rw [depthOf]; omega⟩

/-! ## Places -/

variable {steps : List BindStep} {t : BindTree} {scheme : NamingScheme}

theorem Unfolds.reaches_of_mem_innerPlaces (h : Unfolds s steps t)
    (pass : ∀ field segment target n, .nest field segment target ∈ steps →
      s.findMessage? target = some n → AllPass s n)
    {place : Place} (mem : place ∈ t.innerPlaces scheme) :
    ∃ field segment target n, .nest field segment target ∈ steps ∧
      s.findMessage? target = some n ∧ Relation.ReflTransGen (Nests s) n place.message := by
  induction h generalizing scheme with
  | nil => simp [BindTree.innerPlaces] at mem
  | register _ ih =>
    obtain ⟨f, g, t, n, listed, rest⟩ := ih (fun f g t n mem => pass f g t n (by simp [mem])) mem
    exact ⟨f, g, t, n, by simp [listed], rest⟩
  | @nest field segment target n steps inner rest found _ _ ihInner ihRest =>
    have here : AllPass s n := pass field segment target n (by simp) found
    simp only [BindTree.innerPlaces, List.mem_cons, List.mem_append] at mem
    rcases mem with rfl | mem | mem
    · exact ⟨field, segment, target, n, by simp, found, .refl⟩
    · obtain ⟨f, g, t, k, listed, look, reached⟩ := ihInner (fun f g t k listed look =>
        here.nested (here.nests_of_mem_steps listed look)) mem
      exact ⟨field, segment, target, n, by simp, found,
        .head (here.nests_of_mem_steps listed look) reached⟩
    · obtain ⟨f, g, t, k, listed, rest⟩ :=
        ihRest (fun f g t n mem => pass f g t n (by simp [mem])) mem
      exact ⟨f, g, t, k, by simp [listed], rest⟩

/-- At every place of a tree is a message that is reached by nesting. -/
theorem Unfolds.reaches (h : Unfolds s (Plan.ofMessage m).steps t) (pass : AllPass s m)
    {place : Place} (mem : place ∈ t.places scheme m) :
    Relation.ReflTransGen (Nests s) m place.message := by
  rcases List.mem_cons.1 mem with rfl | mem
  · exact .refl
  · obtain ⟨f, g, t, n, listed, look, reached⟩ := h.reaches_of_mem_innerPlaces
      (fun f g t n mem look => pass.nested (pass.nests_of_mem_steps mem look)) mem
    exact .head (pass.nests_of_mem_steps listed look) reached

theorem Unfolds.entries_perm_of_steps (h : Unfolds s steps t) (scheme : NamingScheme) :
    (t.entries scheme).Perm ((steps.filterMap registration?).map (⟨scheme, ·⟩) ++
      (t.innerPlaces scheme).flatMap Place.entries) := by
  induction h generalizing scheme with
  | nil => simp [BindTree.entries, BindTree.innerPlaces]
  | register _ ih =>
    simpa [BindTree.entries, BindTree.innerPlaces, registration?] using ih scheme
  | @nest field segment target n steps inner rest _ _ _ ihInner ihRest =>
    have parts := (ihInner (scheme.nested segment)).append (ihRest scheme)
    -- The registrations after the nested message stand before those in it.
    have swap := List.perm_append_comm_assoc
      ((inner.places (scheme.nested segment) n).flatMap Place.entries)
      ((steps.filterMap registration?).map (⟨scheme, ·⟩))
      ((rest.innerPlaces scheme).flatMap Place.entries)
    have skip : (BindStep.nest field segment target :: steps).filterMap registration? =
        steps.filterMap registration? := rfl
    rw [skip]
    refine parts.trans ?_
    simpa [BindTree.places, BindTree.innerPlaces, Place.entries, registrationsOf] using swap

/-- What is registered, place by place. -/
theorem Unfolds.entries_perm (h : Unfolds s (Plan.ofMessage m).steps t) (scheme : NamingScheme) :
    (t.entries scheme).Perm ((t.places scheme m).flatMap Place.entries) :=
  h.entries_perm_of_steps scheme

theorem Unfolds.mem_entries_iff (h : Unfolds s (Plan.ofMessage m).steps t) {e : Entry} :
    e ∈ t.entries scheme ↔ ∃ place ∈ t.places scheme m, e ∈ place.entries := by
  rw [(h.entries_perm scheme).mem_iff, List.mem_flatMap]

/-! ## Schemes -/

/-- What holds of a scheme and passes to the schemes of nested messages holds at every place. -/
theorem scheme_of_mem_innerPlaces {P : NamingScheme → Prop} (initial : P scheme)
    (nested : ∀ scheme segment, P scheme → P (scheme.nested segment)) {place : Place}
    (mem : place ∈ t.innerPlaces scheme) : P place.scheme := by
  induction t generalizing scheme with
  | done => simp [BindTree.innerPlaces] at mem
  | register r rest ih => exact ih initial mem
  | nest field segment n inner rest ihInner ihRest =>
    simp only [BindTree.innerPlaces, List.mem_cons, List.mem_append] at mem
    rcases mem with rfl | mem | mem
    · exact nested _ _ initial
    · exact ihInner (nested _ _ initial) mem
    · exact ihRest initial mem

theorem dotted_of_mem_places (dotted : Dotted scheme) {place : Place}
    (mem : place ∈ t.places scheme m) : Dotted place.scheme := by
  rcases List.mem_cons.1 mem with rfl | mem
  · exact dotted
  · exact scheme_of_mem_innerPlaces dotted (fun _ segment h => h.nested segment) mem

theorem Unfolds.forall_segments_of_steps {P : String → Prop} (h : Unfolds s steps t)
    (initial : ∀ part ∈ scheme.segments, P part) (first : ∀ part ∈ steps.filterMap segment?, P part)
    (later : ∀ place ∈ t.innerPlaces scheme, ∀ part ∈ segmentsOf place.message, P part)
    {place : Place} (mem : place ∈ t.innerPlaces scheme) :
    ∀ part ∈ place.scheme.segments, P part := by
  induction h generalizing scheme place with
  | nil => simp [BindTree.innerPlaces] at mem
  | register _ ih => exact ih initial first later mem
  | @nest field segment target n steps inner rest _ _ _ ihInner ihRest =>
    rw [BindTree.innerPlaces_nest] at mem later
    rw [List.forall_mem_append, BindTree.places, List.forall_mem_cons] at later
    obtain ⟨⟨here, laterInner⟩, laterRest⟩ := later
    rw [filterMap_segment?_nest, List.forall_mem_cons] at first
    obtain ⟨firstHere, firstRest⟩ := first
    have extended : ∀ part ∈ (scheme.nested segment).segments, P part := by
      rw [segments_nested, List.forall_mem_append]
      exact ⟨initial, fun part hp => eq_trimDots_of_mem_keptSegments hp ▸ firstHere⟩
    rcases List.mem_append.1 mem with mem | mem
    · rcases List.mem_cons.1 mem with rfl | mem
      · exact extended
      · exact ihInner extended here laterInner mem
    · exact ihRest initial firstRest laterRest mem

/-- What holds of the segments that the messages of a tree add holds of all segments in it. -/
theorem Unfolds.forall_segments {P : String → Prop} (h : Unfolds s (Plan.ofMessage m).steps t)
    (added : ∀ place ∈ t.places {} m, ∀ part ∈ segmentsOf place.message, P part) {place : Place}
    (mem : place ∈ t.places {} m) : ∀ part ∈ place.scheme.segments, P part := by
  have ⟨here, below⟩ := List.forall_mem_cons.1 added
  rcases List.mem_cons.1 mem with rfl | mem
  · simp
  · exact h.forall_segments_of_steps (by simp) here below mem

/-! ## Registrations -/

theorem mem_registrationsOf_iff {r : Registration} :
    r ∈ registrationsOf m ↔ .register r ∈ (Plan.ofMessage m).steps := by
  rw [registrationsOf, List.mem_filterMap]
  constructor
  · rintro ⟨step, mem, hr⟩
    cases step with
    | register r' =>
      obtain rfl : r' = r := by simpa [registration?] using hr
      exact mem
    | nest => simp [registration?] at hr
  · exact fun mem => ⟨_, mem, rfl⟩

/-- Every registration is that of a field, at some place, whose options have passed their checks. -/
theorem Unfolds.checked_of_mem_entries (h : Unfolds s (Plan.ofMessage m).steps t)
    (pass : AllPass s m) {e : Entry} (mem : e ∈ t.entries scheme) :
    ∃ place ∈ t.places scheme m, e.scheme = place.scheme ∧
      Relation.ReflTransGen (Nests s) m place.message ∧ ∃ x ∈ flagged place.message,
        x.2.registers ∧ Registration.of? x.1 x.2 = some e.registration ∧
        checkKind s x.1 x.2.kind = .ok () ∧ checkCommon x.2 = .ok () := by
  obtain ⟨place, hp, he⟩ := h.mem_entries_iff.1 mem
  have reached := h.reaches pass hp
  obtain ⟨r, hr, rfl⟩ := List.mem_map.1 he
  exact ⟨place, hp, rfl, reached,
    (pass _ reached).exists_flagged_of_mem_steps (mem_registrationsOf_iff.1 hr)⟩

end FlagBinding.Binding
