import FlagBinding.Proofs.Binding.Course

/-!
# Clashes of flags

The checks compare the flags of one message with each other. So two flags that clash when a message
is bound stand at different places of its tree, and whether there are such is a matter of the
segments that lead to the places, and of the aliases.

## Main definitions

* `Separated`: a message whose nested messages cannot share names.

## Main statements

* `pairwise_keys_of_passes`: the flags of a checked message are distinct.
* `Unfolds.pairwise_keys_iff`: distinct flags in a tree, place by place.
* `Unfolds.pairwise_names_of_separated`: the names at different places of separated messages.
-/

namespace FlagBinding.Binding

open Schema Emit Check NamingScheme

/-! ## The flags of one message -/

theorem registrationsOf_eq (m : Message) :
    registrationsOf m = (registering m).filterMap fun x => Registration.of? x.1 x.2 := by
  have steps : (Plan.ofMessage m).steps = collect m BindStep.of? := rfl
  rw [registrationsOf, steps, collect_eq_filterMap, List.filterMap_filterMap, registering,
    List.filterMap_filter]
  refine List.filterMap_congr fun x _ => Option.ext fun r => ?_
  have register : (BindStep.of? x.1 x.2).bind registration? = some r ↔
      BindStep.of? x.1 x.2 = some (.register r) := by
    rw [Option.bind_eq_some_iff]
    constructor
    · rintro ⟨step, hs, hr⟩
      cases step <;> simp_all [registration?]
    · exact fun hs => ⟨_, hs, rfl⟩
  rw [register, bindStep_eq_register_iff]
  cases h : x.2.registers <;> simp [h]

variable {s : Schema} {m : Message} {scheme : NamingScheme}

theorem distinct_of_compatible {x y : Flagged} (hx : checkCommon x.2 = .ok ())
    (hy : checkCommon y.2 = .ok ()) (compatible : Compatible x y) {r r' : Registration}
    (hr : Registration.of? x.1 x.2 = some r) (hr' : Registration.of? y.1 y.2 = some r')
    (unchanged : scheme.rename? = none) :
    (Entry.key ⟨scheme, r⟩).Distinct (Entry.key ⟨scheme, r'⟩) := by
  obtain ⟨-, -, flag, short, -⟩ := registration_of? hr
  obtain ⟨-, -, flag', short', -⟩ := registration_of? hr'
  obtain ⟨names, aliases⟩ := compatible
  constructor
  · intro same
    have : r.flag = r'.flag := build_injective unchanged same
    exact names (by rw [← flag, ← flag', this])
  · cases ha : x.2.common.short with
    | none => exact .inl (by simp [Entry.key, short, ha])
    | some a =>
      refine .inr fun same => ?_
      have one := (checkCommon_ok_iff.1 hx).1 a ha
      have first : r.short = a.toList.head? := by simp [short, ha]
      obtain ⟨c, hc⟩ : ∃ c, a.toList = [c] := by
        rwa [← String.length_toList, List.length_eq_one_iff] at one
      cases hb : y.2.common.short with
      | none => simp [Entry.key, first, short', hb, hc] at same
      | some b =>
        have heads : a.toList.head? = b.toList.head? := by
          simpa [Entry.key, first, short', hb] using same
        have : a = b := eq_of_head?_eq one ((checkCommon_ok_iff.1 hy).1 b hb) heads
        simp [ha, hb, this] at aliases

/-- The flags of a checked message are distinct, wherever it stands. -/
theorem pairwise_keys_of_passes (passes : Passes s m) (unchanged : scheme.rename? = none) :
    (Place.keys ⟨scheme, m⟩).Pairwise FlagKey.Distinct := by
  simp only [Place.keys, Place.entries, registrationsOf_eq]
  rw [List.pairwise_map, List.pairwise_map, List.pairwise_filterMap]
  have common : ∀ x ∈ registering m, checkCommon x.2 = .ok () := by
    intro x hx
    obtain ⟨mem, registers⟩ := List.mem_filter.1 hx
    exact ((checkField_ok_iff.1 (passes.fields x mem)).2 (registers_iff.1 registers).1).2
  refine passes.names.imp_of_mem fun hx hy compatible r hr r' hr' => ?_
  exact distinct_of_compatible (common _ hx) (common _ hy) compatible hr hr' unchanged

/-! ## Places -/

variable {steps : List BindStep} {t : BindTree}

/-- What holds of any two keys of a tree, place by place. -/
theorem Unfolds.pairwise_keys_iff {R : FlagKey → FlagKey → Prop} (symm : ∀ {a b}, R a b → R b a)
    (h : Unfolds s (Plan.ofMessage m).steps t) :
    (t.keys scheme).Pairwise R ↔ (∀ place ∈ t.places scheme m, place.keys.Pairwise R) ∧
      (t.places scheme m).Pairwise fun a b => ∀ k ∈ a.keys, ∀ k' ∈ b.keys, R k k' := by
  have perm := (h.entries_perm scheme).map Entry.key
  rw [List.map_flatMap] at perm
  rw [BindTree.keys, perm.pairwise_iff symm, List.pairwise_flatMap]
  rfl

/-! ## Segments -/

/-- A message whose nested messages are told apart by their segments, and whose parts of names have
no dots. -/
structure Separated (m : Message) : Prop where
  counts : "" ∉ segmentsOf m
  distinct : (segmentsOf m).Nodup
  plainSegments : ∀ segment ∈ segmentsOf m, '.' ∉ segment.toList
  plainFlags : ∀ r ∈ registrationsOf m, '.' ∉ r.flag.toList

theorem segments_of_mem_places {segment : String} {n : Message} (counts : trimDots segment ≠ "")
    (below : ∀ place ∈ t.innerPlaces (scheme.nested segment),
      ∃ more, place.scheme.segments = (scheme.nested segment).segments ++ more)
    {place : Place} (mem : place ∈ t.places (scheme.nested segment) n) :
    ∃ more, place.scheme.segments = scheme.segments ++ trimDots segment :: more := by
  have here : (scheme.nested segment).segments = scheme.segments ++ [trimDots segment] := by
    rw [segments_nested, keptSegments_singleton counts]
  rcases List.mem_cons.1 mem with rfl | mem
  · exact ⟨[], here⟩
  · obtain ⟨more, same⟩ := below place mem
    exact ⟨more, by simp [same, here]⟩

/-- The first of the segments that lead to a place is that of a step. -/
theorem Unfolds.segments_of_mem_innerPlaces (h : Unfolds s steps t)
    (counts : "" ∉ steps.filterMap segment?)
    (separated : ∀ place ∈ t.innerPlaces scheme, Separated place.message) {place : Place}
    (mem : place ∈ t.innerPlaces scheme) :
    ∃ first ∈ steps.filterMap segment?, ∃ more,
      place.scheme.segments = scheme.segments ++ first :: more := by
  induction h generalizing scheme place with
  | nil => simp [BindTree.innerPlaces] at mem
  | register _ ih => exact ih counts separated mem
  | @nest field segment target n steps inner rest found _ _ ihInner ihRest =>
    rw [BindTree.innerPlaces_nest] at mem separated
    rw [List.forall_mem_append, BindTree.places, List.forall_mem_cons] at separated
    obtain ⟨⟨here, separatedInner⟩, separatedRest⟩ := separated
    rw [filterMap_segment?_nest, List.mem_cons, not_or] at counts
    obtain ⟨counts, countsRest⟩ := counts
    rcases List.mem_append.1 mem with mem | mem
    · refine ⟨trimDots segment, by simp [filterMap_segment?_nest], ?_⟩
      refine segments_of_mem_places (Ne.symm counts) (fun place mem => ?_) mem
      obtain ⟨first, -, more, same⟩ := ihInner here.counts separatedInner mem
      exact ⟨first :: more, same⟩
    · obtain ⟨first, listed, more⟩ := ihRest countsRest separatedRest mem
      exact ⟨first, by simp [filterMap_segment?_nest, listed], more⟩

/-- The segments that lead to two places below a separated message differ. -/
theorem Unfolds.pairwise_segments_ne (h : Unfolds s steps t)
    (counts : "" ∉ steps.filterMap segment?) (distinct : (steps.filterMap segment?).Nodup)
    (separated : ∀ place ∈ t.innerPlaces scheme, Separated place.message) :
    (t.innerPlaces scheme).Pairwise fun a b => a.scheme.segments ≠ b.scheme.segments := by
  induction h generalizing scheme with
  | nil => simp [BindTree.innerPlaces]
  | register _ ih => exact ih counts distinct separated
  | @nest field segment target n steps inner rest found unfolds unfoldsRest ihInner ihRest =>
    rw [BindTree.innerPlaces_nest] at separated ⊢
    rw [List.forall_mem_append, BindTree.places, List.forall_mem_cons] at separated
    obtain ⟨⟨here, separatedInner⟩, separatedRest⟩ := separated
    rw [filterMap_segment?_nest, List.mem_cons, not_or] at counts
    obtain ⟨counts, countsRest⟩ := counts
    rw [filterMap_segment?_nest, List.nodup_cons] at distinct
    obtain ⟨fresh, distinctRest⟩ := distinct
    have below : ∀ place ∈ inner.innerPlaces (scheme.nested segment), ∃ first more,
        place.scheme.segments = (scheme.nested segment).segments ++ first :: more := by
      intro place mem
      obtain ⟨first, -, rest⟩ := unfolds.segments_of_mem_innerPlaces here.counts separatedInner mem
      exact ⟨first, rest⟩
    rw [List.pairwise_append, BindTree.places, List.pairwise_cons]
    refine ⟨⟨fun b hb => ?_, ihInner here.counts here.distinct separatedInner⟩,
      ihRest countsRest distinctRest separatedRest, fun a ha b hb same => ?_⟩
    · obtain ⟨first, more, same⟩ := below b hb
      simp [same]
    · -- The places differ in the segment of the step.
      obtain ⟨more, ha⟩ := segments_of_mem_places (Ne.symm counts) (fun place mem => by
        obtain ⟨first, more, same⟩ := below place mem
        exact ⟨first :: more, same⟩) ha
      obtain ⟨first, listed, more', hb⟩ :=
        unfoldsRest.segments_of_mem_innerPlaces countsRest separatedRest hb
      rw [ha, hb, List.append_cancel_left_eq, List.cons.injEq] at same
      exact fresh (same.1 ▸ listed)

/-- Flags at different places of separated messages have different names. -/
theorem Unfolds.pairwise_names_of_separated (h : Unfolds s (Plan.ofMessage m).steps t)
    (separated : ∀ place ∈ t.places {} m, Separated place.message) :
    (t.places {} m).Pairwise fun a b => ∀ k ∈ a.keys, ∀ k' ∈ b.keys, k.name ≠ k'.name := by
  have ⟨here, below⟩ := List.forall_mem_cons.1 separated
  have plain : ∀ place ∈ t.places {} m, ∀ r ∈ registrationsOf place.message,
      ∀ part ∈ place.scheme.parts r.flag, '.' ∉ part.toList := by
    intro place mem r hr
    rw [parts, List.forall_mem_append, List.forall_mem_singleton]
    refine ⟨h.forall_segments (fun place mem => (separated place mem).plainSegments) mem, ?_⟩
    exact (separated place mem).plainFlags r hr
  have segments : (t.places {} m).Pairwise fun a b => a.scheme.segments ≠ b.scheme.segments := by
    refine List.pairwise_cons.2
      ⟨fun b hb => ?_, h.pairwise_segments_ne here.counts here.distinct below⟩
    obtain ⟨first, -, more, same⟩ := h.segments_of_mem_innerPlaces here.counts below hb
    simp [same]
  refine segments.imp_of_mem fun {a b} ha hb differ k hk k' hk' same => differ ?_
  simp only [Place.keys, Place.entries, List.map_map, List.mem_map] at hk hk'
  obtain ⟨r, hr, rfl⟩ := hk
  obtain ⟨r', hr', rfl⟩ := hk'
  have dotted := dotted_of_mem_places Dotted.initial ha
  have dotted' := dotted_of_mem_places Dotted.initial hb
  exact ((dotted.build_eq_iff dotted' (plain a ha r hr) (plain b hb r' hr')).1 same).1

/-! ## Bindings -/

/-- The flags that a covered message registers at one place of its tree are distinct. So names clash
only between places, which they do not if all messages are separated, and aliases clash only between
places. Nothing else makes the binding fail with a clash. -/
theorem bindMessage_without_clashes (accepted : Accepted s) (enabled : m.disabled = false)
    (covered : Covered s m) :
    ∃ t, Unfolds s (Plan.ofMessage m).steps t ∧
      (∀ place ∈ t.places {} m, place.keys.Pairwise FlagKey.Distinct) ∧
      ((t.keys {}).Pairwise (fun a b => a.name ≠ b.name) ↔ (t.places {} m).Pairwise
        fun a b => ∀ k ∈ a.keys, ∀ k' ∈ b.keys, k.name ≠ k'.name) ∧
      ((∀ n, Relation.ReflTransGen (Nests s) m n → Separated n) →
        (t.keys {}).Pairwise fun a b => a.name ≠ b.name) ∧
      ((t.keys {}).Pairwise (fun a b => a.short = none ∨ a.short ≠ b.short) ↔
        (t.places {} m).Pairwise
        fun a b => ∀ k ∈ a.keys, ∀ k' ∈ b.keys, k.short = none ∨ k.short ≠ k'.short) ∧
      ∀ depth ≥ depthOf s, ∀ record,
        ((t.keys {}).Pairwise FlagKey.Distinct → ∀ e,
          (bindMessage s depth {} m record .empty).fault = some (.flag e) → ¬ e.IsClash) ∧
        ((bindMessage s depth {} m record .empty).fault = none →
          (bindMessage s depth {} m record .empty).registry.keys = t.keys {} ∧
            (t.keys {}).Pairwise FlagKey.Distinct) := by
  obtain ⟨t, unfolds, low⟩ := exists_unfolds_of_accepted accepted enabled covered
  have pass := accepted.allPass enabled covered
  have here : ∀ place ∈ t.places {} m, place.keys.Pairwise FlagKey.Distinct := fun place mem =>
    pairwise_keys_of_passes (pass _ (unfolds.reaches pass mem))
      (dotted_of_mem_places Dotted.initial mem).unchanged
  have names : (t.keys {}).Pairwise (fun a b => a.name ≠ b.name) ↔ (t.places {} m).Pairwise
      fun a b => ∀ k ∈ a.keys, ∀ k' ∈ b.keys, k.name ≠ k'.name :=
    (unfolds.pairwise_keys_iff fun differ => differ.symm).trans
      (and_iff_right fun place mem => (here place mem).imp fun distinct => distinct.1)
  have aliases : (t.keys {}).Pairwise (fun a b => a.short = none ∨ a.short ≠ b.short) ↔
      (t.places {} m).Pairwise
        fun a b => ∀ k ∈ a.keys, ∀ k' ∈ b.keys, k.short = none ∨ k.short ≠ k'.short :=
    (unfolds.pairwise_keys_iff fun differ => by grind).trans
      (and_iff_right fun place mem => (here place mem).imp fun distinct => distinct.2)
  refine ⟨t, unfolds, here, names, fun separated => ?_, aliases, fun depth deep record => ?_⟩
  · refine names.2 (unfolds.pairwise_names_of_separated fun place mem => ?_)
    exact separated _ (unfolds.reaches pass mem)
  · have course := bindMessage_course_of_accepted accepted enabled covered unfolds low deep record
    refine ⟨fun distinct e fault => course.not_isClash distinct fault, fun ok => ?_⟩
    have same : _ = t.keys {} := course.keys_eq ok
    exact ⟨same, by rw [← same]; exact Registry.pairwise_keys _⟩

/-- A message with one flag. -/
def leaf (short : Option String) : Message where
  name := "Leaf"
  fullName := "demo.Leaf"
  path := ["Leaf"]
  disabled := false
  fields := [
    { name := "value", number := 1, type := .scalar .int32,
      flags := some ⟨{ name := some "value", short, usage := "a number" }, .scalar .int32 none⟩ }]

/-- A message that nests another one twice, under two segments. -/
def fork (first second : String) : Message where
  name := "Fork"
  fullName := "demo.Fork"
  path := ["Fork"]
  disabled := false
  fields := [
    { name := "first", number := 1, type := .message ⟨"demo.Leaf", none⟩,
      flags := some ⟨{ name := some first }, .message true⟩ },
    { name := "second", number := 2, type := .message ⟨"demo.Leaf", none⟩,
      flags := some ⟨{ name := some second }, .message true⟩ }]

def forked (first second : String) (short : Option String) : Schema :=
  ⟨[⟨"demo.proto", "demo", true, [leaf short, fork first second]⟩]⟩

/-- The tree of the outer message. -/
def forkedTree (first second : String) (short : Option String) : BindTree :=
  let flag : Registration :=
    ⟨"value", .plain (.scalar .int32), "value", short.bind (·.toList.head?),
      "a number", false, none⟩
  .nest "first" first (leaf short) (.register flag .done)
    (.nest "second" second (leaf short) (.register flag .done) .done)

theorem covered_fork (first second : String) (short : Option String) :
    Covered (forked first second short) (fork first second) :=
  covered_of_generate (by simp [forked]) (by simp [Schema.messages, forked])

theorem unfolds_fork (first second : String) (short : Option String) :
    Unfolds (forked first second short) (Plan.ofMessage (fork first second)).steps
      (forkedTree first second short) := by
  have found : (forked first second short).findMessage? "demo.Leaf" = some (leaf short) := by
    simp [Schema.findMessage?, Schema.messages, forked, leaf, relativeName, Text.trimStart]
  exact .nest found (.register .nil) (.nest found (.register .nil) .nil)

theorem bindMessage_without_clashes_forked :
    let s := forked "left" "right" none
    let m := fork "left" "right"
    Accepted s ∧ m.disabled = false ∧ Covered s m ∧ ∃ t, Unfolds s (Plan.ofMessage m).steps t ∧
      (t.keys {}).Pairwise FlagKey.Distinct ∧ ∀ record e,
        (bindMessage s (depthOf s) {} m record .empty).fault = some (.flag e) → ¬ e.IsClash := by
  intro s m
  have accepted : Accepted s := by unfold Accepted; decide +kernel
  have covered : Covered s m := covered_fork "left" "right" none
  obtain ⟨t, unfolds, -, -, -, -, course⟩ := bindMessage_without_clashes accepted rfl covered
  obtain rfl : t = forkedTree "left" "right" none := unfolds.unique (unfolds_fork ..)
  have distinct : ((forkedTree "left" "right" none).keys {}).Pairwise FlagKey.Distinct := by
    decide +kernel
  exact ⟨accepted, rfl, covered, _, unfolds, distinct, fun record =>
    (course _ (Nat.le_refl _) record).1 distinct⟩

/-- Flags of nested messages do clash: two segments may be the same, and so may two aliases. -/
theorem forked_clashes :
    let s := forked "part" "part" none
    let m := fork "part" "part"
    let s' := forked "left" "right" (some "v")
    let m' := fork "left" "right"
    (Accepted s ∧ m.disabled = false ∧ Covered s m ∧
      (∀ t, Unfolds s (Plan.ofMessage m).steps t →
        ¬ (t.keys {}).Pairwise fun a b => a.name ≠ b.name) ∧
      (bindMessage s (depthOf s) {} m (.blank m) .empty).fault =
        some (.flag (.redefined "part.value"))) ∧
    Accepted s' ∧ m'.disabled = false ∧ Covered s' m' ∧
      (∀ t, Unfolds s' (Plan.ofMessage m').steps t →
        ¬ (t.keys {}).Pairwise fun a b => a.short = none ∨ a.short ≠ b.short) ∧
      (bindMessage s' (depthOf s') {} m' (.blank m') .empty).fault =
        some (.flag (.shortRedefined 'v' "right.value" "left.value")) := by
  intro s m s' m'
  refine ⟨⟨?accepted, rfl, covered_fork _ _ _, ?names, ?fault⟩, ?accepted', rfl, covered_fork _ _ _,
    ?aliases, ?fault'⟩
  case accepted | accepted' => unfold Accepted; decide +kernel
  case names =>
    intro t unfolds
    obtain rfl : t = forkedTree "part" "part" none := unfolds.unique (unfolds_fork ..)
    decide +kernel
  case aliases =>
    intro t unfolds
    obtain rfl : t = forkedTree "left" "right" (some "v") := unfolds.unique (unfolds_fork ..)
    decide +kernel
  case fault | fault' => decide +kernel

end FlagBinding.Binding
