import FlagBinding.Proofs.Binding.Course
import FlagBinding.Proofs.Naming.Defaults

/-!
# The spelling of registered names

The checks of a schema do not look at how names are spelled; a registry does, when a flag is
registered. Whether it accepts a name is a matter of the parts of the name.

## Main definitions

* `Entry.Writable`: a registration whose key can be written on a command line.
* `Spelled`: a field that contributes nothing to names that cannot be written.

## Main statements

* `Entry.fault?_eq_none_iff`: the keys that a registry accepts, by the parts of the name.
* `spelled_of_default`: a field without a chosen name is spelled if its own name starts with a
  letter.
-/

namespace FlagBinding.Binding

open Schema Emit Check NamingScheme

/-! ## Keys -/

/-- A registration whose key can be written on a command line. -/
structure Entry.Writable (e : Entry) : Prop where
  plain : ∀ part ∈ e.scheme.parts e.registration.flag, '=' ∉ part.toList
  start : ∀ part, (e.scheme.parts e.registration.flag).head? = some part →
    part.toList.head? ≠ some '-'
  /-- A name without segments is that of the flag. -/
  bare : e.scheme.segments = [] → e.registration.flag ≠ "" ∧ e.registration.flag ≠ restName
  short : e.registration.short ≠ some '-'

/-- A key is accepted if the parts of its name can be written. -/
theorem Entry.fault?_eq_none_iff {e : Entry} (dotted : Dotted e.scheme) :
    e.key.fault? = none ↔ e.Writable := by
  have plain : '=' ∉ e.key.name.toList ↔
      ∀ part ∈ e.scheme.parts e.registration.flag, '=' ∉ part.toList := by
    rw [Entry.key, dotted.mem_toList_build_iff (by decide)]
    simp
  have start : e.key.name.toList.head? ≠ some '-' ↔
      ∀ part, (e.scheme.parts e.registration.flag).head? = some part →
        part.toList.head? ≠ some '-' := by
    rw [Entry.key, dotted.head?_build]
    simp [Option.bind_eq_some_iff]
  have bare : (e.key.name ≠ "" ∧ e.key.name ≠ restName) ↔ (e.scheme.segments = [] →
      e.registration.flag ≠ "" ∧ e.registration.flag ≠ restName) := by
    by_cases none : e.scheme.segments = []
    · have same : e.key.name = e.registration.flag := by
        rw [← String.toList_inj, Entry.key, dotted.toList_build]
        simp [parts, none]
      rw [same]
      simp [none]
    · -- The name has a dot, unlike the reserved one.
      have dot : '.' ∈ e.key.name.toList := dotted.dot_mem_build none
      have nonempty : e.key.name ≠ "" := fun h => by simp [h] at dot
      have free : e.key.name ≠ restName := fun h => by
        rw [h] at dot
        exact absurd dot (by decide)
      simp [none, nonempty, free]
  rw [FlagKey.fault?_eq_none_iff, plain, start]
  constructor
  · rintro ⟨empty, start, plain, rest, short⟩
    exact ⟨plain, start, bare.1 ⟨empty, rest⟩, short⟩
  · rintro ⟨plain, start, counts, short⟩
    exact ⟨(bare.2 counts).1, start, plain, (bare.2 counts).2, short⟩

/-! ## Fields -/

/-- A text that a name can start with. -/
structure CanStart (part : String) : Prop where
  plain : '=' ∉ part.toList
  start : part.toList.head? ≠ some '-'

/-- A field that contributes nothing to names that cannot be written. -/
structure Spelled (x : Flagged) : Prop where
  flag : x.2.registers → CanStart (x.1.flagName x.2) ∧ x.1.flagName x.2 ≠ "" ∧
    x.1.flagName x.2 ≠ restName
  short : x.2.registers → x.2.common.short ≠ some "-"
  segment : x.2.nests → CanStart (trimDots (x.1.flagName x.2))

theorem canStart_default {name : String} (identifier : IsIdentifier name) :
    CanStart (defaultFlagName name) ∧ defaultFlagName name ≠ "" ∧ defaultFlagName name ≠ restName ∧
      trimDots (defaultFlagName name) = defaultFlagName name := by
  obtain ⟨c, rest, chars, first, word⟩ := toList_defaultFlagName_of_isIdentifier identifier
  have other : ∀ d : Char, d.isAlphanum = false → d ≠ '-' → d ∉ (defaultFlagName name).toList := by
    intro d wordless noDash mem
    rw [chars, List.mem_cons] at mem
    rcases mem with rfl | mem
    · simp [first] at wordless
    · rcases word d mem with h | rfl
      · simp [h] at wordless
      · exact noDash rfl
  refine ⟨⟨other '=' (by decide) (by decide), ?_⟩, ?_, ?_, ?_⟩
  · rw [chars, List.head?_cons, ne_eq, Option.some.injEq]
    rintro rfl
    exact absurd first (by decide)
  · intro empty
    simp [empty] at chars
  · intro reserved
    exact other '_' (by decide) (by decide) (by rw [reserved]; decide)
  · exact trimDots_of_not_mem (other '.' (by decide) (by decide))

/-- A field without a chosen name is spelled if its own name starts with a letter. -/
theorem spelled_of_default {x : Flagged} (unnamed : x.2.common.name = none)
    (identifier : IsIdentifier x.1.name) (short : x.2.common.short ≠ some "-") : Spelled x := by
  have name : x.1.flagName x.2 = defaultFlagName x.1.name := by simp [Field.flagName, unnamed]
  obtain ⟨start, nonempty, free, trimmed⟩ := canStart_default identifier
  exact ⟨fun _ => by rw [name]; exact ⟨start, nonempty, free⟩, fun _ => short,
    fun _ => by rw [name, trimmed]; exact start⟩

/-! ## Bindings -/

variable {s : Schema} {m : Message} {t : BindTree}

theorem exists_flagged_of_mem_segmentsOf {part : String} (mem : part ∈ segmentsOf m) :
    ∃ x ∈ flagged m, x.2.nests ∧ part = trimDots (x.1.flagName x.2) := by
  obtain ⟨step, hs, hp⟩ := List.mem_filterMap.1 mem
  obtain ⟨x, hx, of⟩ := mem_collect_iff.1 hs
  cases step with
  | register r => simp [segment?] at hp
  | nest field segment target =>
    obtain ⟨nests, -, rfl, -⟩ := bindStep_eq_nest_iff.1 of
    exact ⟨x, hx, nests, by simpa [segment?] using hp.symm⟩

/-- All registrations of a tree of spelled fields can be written. -/
theorem Unfolds.writable_of_spelled (h : Unfolds s (Plan.ofMessage m).steps t) (pass : AllPass s m)
    (spelled : ∀ n, Relation.ReflTransGen (Nests s) m n → ∀ x ∈ flagged n, Spelled x) {e : Entry}
    (mem : e ∈ t.entries {}) : e.Writable := by
  obtain ⟨place, hp, here, reached, x, hx, registers, of, -, common⟩ :=
    h.checked_of_mem_entries pass mem
  have segments : ∀ part ∈ e.scheme.segments, CanStart part := by
    rw [here]
    refine h.forall_segments (fun place mem part listed => ?_) hp
    obtain ⟨x, hx, nests, rfl⟩ := exists_flagged_of_mem_segmentsOf listed
    exact (spelled _ (h.reaches pass mem) x hx).segment nests
  obtain ⟨-, -, flag, short, -⟩ := registration_of? of
  have ⟨start, nonempty, free⟩ := (spelled _ reached x hx).flag registers
  have all : ∀ part ∈ e.scheme.parts e.registration.flag, CanStart part := by
    rw [parts, List.forall_mem_append, List.forall_mem_singleton, flag]
    exact ⟨segments, start⟩
  refine ⟨fun part mem => (all part mem).plain, fun part first => ?_, fun _ => ?_, fun dash => ?_⟩
  · exact (all part (List.mem_of_mem_head? first)).start
  · exact flag ▸ ⟨nonempty, free⟩
  · obtain ⟨text, given, head⟩ := Option.bind_eq_some_iff.1 (short.symm.trans dash)
    have one := (checkCommon_ok_iff.1 common).1 text given
    obtain rfl : text = "-" := eq_of_head?_eq one (by decide) (by simpa using head)
    exact (spelled _ reached x hx).short registers given

/-- The names that a covered message registers are accepted if and only if their parts can be
written, which the parts that spelled fields and fields without chosen names contribute can. Nothing
else makes the binding fail with an invalid name. -/
theorem bindMessage_names_accepted (accepted : Accepted s) (enabled : m.disabled = false)
    (covered : Covered s m) :
    ∃ t, Unfolds s (Plan.ofMessage m).steps t ∧
      (∀ e ∈ t.entries {}, e.key.fault? = none ↔ e.Writable) ∧
      ((∀ n, Relation.ReflTransGen (Nests s) m n → ∀ x ∈ flagged n, Spelled x ∨
          (x.2.common.name = none ∧ IsIdentifier x.1.name ∧ x.2.common.short ≠ some "-")) →
        ∀ e ∈ t.entries {}, e.Writable) ∧
      ∀ depth ≥ depthOf s, ∀ record,
        ((∀ e ∈ t.entries {}, e.Writable) → ∀ name fault,
          (bindMessage s depth {} m record .empty).fault ≠ some (.flag (.invalidName name fault))) ∧
        ((bindMessage s depth {} m record .empty).fault = none →
          ∀ e ∈ t.entries {}, e.Writable) := by
  obtain ⟨t, unfolds, low⟩ := exists_unfolds_of_accepted accepted enabled covered
  have pass := accepted.allPass enabled covered
  have legal : ∀ e ∈ t.entries {}, e.key.fault? = none ↔ e.Writable := by
    intro e mem
    obtain ⟨place, hp, he⟩ := unfolds.mem_entries_iff.1 mem
    obtain ⟨r, -, rfl⟩ := List.mem_map.1 he
    exact Entry.fault?_eq_none_iff (dotted_of_mem_places Dotted.initial hp)
  refine ⟨t, unfolds, legal, fun fields e mem => ?_, fun depth deep record => ?_⟩
  · refine unfolds.writable_of_spelled pass (fun n reached x hx => ?_) mem
    rcases fields n reached x hx with spelled | ⟨unnamed, identifier, short⟩
    · exact spelled
    · exact spelled_of_default unnamed identifier short
  have course := bindMessage_course_of_accepted accepted enabled covered unfolds low deep record
  constructor
  · intro writable name fault
    refine course.ne_invalidName (fun key mem => ?_) name fault
    obtain ⟨e, he, rfl⟩ := List.mem_map.1 mem
    exact (legal e he).2 (writable e he)
  · intro ok e mem
    have same : _ = t.keys {} := course.keys_eq ok
    have there : e.key ∈ (bindMessage s depth {} m record .empty).registry.keys := by
      rw [same]
      exact List.mem_map_of_mem mem
    exact (legal e mem).1 (Registry.fault?_of_mem_keys there)

/-- A message with one field, which gives its name to its flag. -/
def point (field : String) : Message where
  name := "Point"
  fullName := "demo.Point"
  path := ["Point"]
  disabled := false
  fields := [
    { name := field, number := 1, type := .scalar .int32,
      flags := some ⟨{ short := some "x", usage := "a number" }, .scalar .int32 none⟩ }]

/-- A message that nests the one with the field, below its own name for it. -/
def shape : Message where
  name := "Shape"
  fullName := "demo.Shape"
  path := ["Shape"]
  disabled := false
  fields := [
    { name := "top_left", number := 1, type := .message ⟨"demo.Point", none⟩,
      flags := some ⟨{}, .message true⟩ }]

def drawing (field : String) : Schema :=
  ⟨[⟨"demo.proto", "demo", true, [point field, shape]⟩]⟩

theorem covered_drawing {field : String} {m : Message} (mem : m ∈ [point field, shape]) :
    Covered (drawing field) m :=
  covered_of_generate (by simp [drawing]) (by simpa [Schema.messages, drawing] using mem)

theorem bindMessage_names_accepted_drawing :
    let s := drawing "x_axis"
    Accepted s ∧ shape.disabled = false ∧ Covered s shape ∧
      ∃ t, Unfolds s (Plan.ofMessage shape).steps t ∧ (∀ e ∈ t.entries {}, e.Writable) ∧
        ∀ record name fault, (bindMessage s (depthOf s) {} shape record .empty).fault ≠
          some (.flag (.invalidName name fault)) := by
  intro s
  have accepted : Accepted s := by unfold Accepted; decide +kernel
  have covered : Covered s shape := covered_drawing (by simp)
  obtain ⟨t, unfolds, -, spelled, course⟩ := bindMessage_names_accepted accepted rfl covered
  have fields : ∀ n ∈ [point "x_axis", shape], ∀ x ∈ flagged n, x.2.common.name = none ∧
      x.2.common.short ≠ some "-" ∧ (x.1.name = "x_axis" ∨ x.1.name = "top_left") := by
    decide +kernel
  have writable : ∀ e ∈ t.entries {}, e.Writable := by
    refine spelled fun n reached x mem => ?_
    obtain ⟨unnamed, short, name⟩ := fields n (covered n reached) x mem
    refine .inr ⟨unnamed, ?_, short⟩
    rcases name with name | name
    · exact ⟨'x', "_axis".toList, by rw [name]; decide, by decide, by simp⟩
    · exact ⟨'t', "op_left".toList, by rw [name]; decide, by decide, by simp⟩
  exact ⟨accepted, rfl, covered, t, unfolds, writable, fun record =>
    (course _ (Nat.le_refl _) record).1 writable⟩

/-- A field whose name starts with an underscore passes the checks but cannot be bound. -/
theorem drawing_name_refused :
    let s := drawing "_axis"
    let m := point "_axis"
    Accepted s ∧ m.disabled = false ∧ Covered s m ∧
      (∀ t, Unfolds s (Plan.ofMessage m).steps t → ∃ e ∈ t.entries {}, e.key.fault? ≠ none) ∧
      (bindMessage s (depthOf s) {} m (.blank m) .empty).fault =
        some (.flag (.invalidName "-axis" .startsWithDash)) := by
  intro s m
  refine ⟨?accepted, rfl, covered_drawing (by simp [m]), ?entries, ?fault⟩
  case accepted => unfold Accepted; decide +kernel
  case entries =>
    intro t unfolds
    cases unfolds with
    | register rest => exact ⟨_, List.mem_cons_self, by decide +kernel⟩
  case fault => decide +kernel

end FlagBinding.Binding
