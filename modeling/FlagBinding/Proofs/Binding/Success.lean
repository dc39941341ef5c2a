import FlagBinding.Proofs.Binding.Course
import FlagBinding.Proofs.Binding.Records
import FlagBinding.Proofs.Emission.Cells

/-!
# Bindings that succeed

The cell of a checked field can be put around every content of the field. So the binding of a record
of its message ends early only where a name or an alias is refused.

## Main statements

* `exists_wrap`: a cell that fits goes around every content of the type.
* `bindMessage_sound`: a binding keeps a record what it is, and finds a cell for every field.
* `bindMessage_ok_iff`: when a binding succeeds.
-/

namespace FlagBinding.Binding

open Schema Emit Check Relation

/-! ## Cells -/

theorem exists_mapM {α β : Type} {f : α → Option β} {xs : List α} (all : ∀ x ∈ xs, (f x).isSome) :
    ∃ ys, xs.mapM f = some ys := by
  induction xs with
  | nil => exact ⟨[], rfl⟩
  | cons x xs ih =>
    rw [List.forall_mem_cons] at all
    obtain ⟨y, hy⟩ := Option.isSome_iff_exists.1 all.1
    obtain ⟨ys, hys⟩ := ih all.2
    exact ⟨y :: ys, by simp [List.mapM_cons, hy, hys]⟩

theorem exists_mapValues {α β : Type} {f : α → Option β} {d : Dict α}
    (all : ∀ e ∈ d.entries, (f e.2).isSome) : ∃ d', mapValues? f d = some d' := by
  obtain ⟨entries, changed⟩ :=
    exists_mapM (f := fun e : String × α => (f e.2).map fun y => (e.1, y))
      fun e mem => by simpa using all e mem
  exact ⟨.ofList entries, by simp [mapValues?, changed]⟩

theorem isSome_element? {format : ElementFormat} {d : Datum} (typed : d.type = itemTypeOf format) :
    (element? format d).isSome := by
  cases format <;> cases d <;> first | rfl | contradiction

theorem isSome_jsonItem? {e : JsonElement} {type : ItemType} {d : Datum}
    (read : jsonElement? type = some e) (typed : d.type = type) : (jsonItem? e d).isSome := by
  subst typed
  cases d <;> first | (obtain rfl := Option.some.inj read; rfl) | contradiction

/-- A cell that fits goes around every content of the type. -/
theorem exists_wrap {cell : CellTerm} {type : StorageType} {c : Content} (fits : Fits cell type)
    (typed : c.IsOf type) : ∃ w, wrap? cell c = some w := by
  rw [← Option.isSome_iff_exists]
  cases fits with
  | plain codec =>
    cases c with
    | plain d => simpa [wrap?] using isSome_element? typed
    | _ => exact typed.elim
  | optional codec =>
    cases c with
    | optional o =>
      cases o with
      | none => rfl
      | some d => simpa [wrap?] using isSome_element? (typed d rfl)
    | _ => exact typed.elim
  | repeated codec =>
    cases c with
    | list ds =>
      obtain ⟨xs, read⟩ := exists_mapM fun d mem => isSome_element? (typed d mem)
      simp [wrap?, read]
    | _ => exact typed.elim
  | stringMap codec =>
    cases c with
    | map own entries =>
      obtain ⟨-, typed⟩ := typed
      obtain ⟨d, read⟩ := exists_mapValues fun e mem => isSome_element? (typed e mem)
      simp [wrap?, read]
    | _ => exact typed.elim
  | @jsonMap type readable =>
    cases c with
    | map own entries =>
      obtain ⟨rfl, typed⟩ := typed
      obtain ⟨e, element⟩ := Option.isSome_iff_exists.1 readable
      obtain ⟨d, read⟩ := exists_mapValues fun x mem => isSome_jsonItem? element (typed x mem)
      simp [wrap?, element, read]
    | _ => exact typed.elim

/-- A field with a cell holds no message. -/
theorem memberType_of_fits {cell : CellTerm} {f : Field} (fits : Fits cell (storageOf f)) :
    memberType f = storageOf f := by
  unfold memberType
  split
  case h_1 fullName storage =>
    rw [storage] at fits
    generalize type : StorageType.optional (.message fullName) = storage at fits
    cases fits with
    | optional codec =>
      exact absurd (StorageType.optional.inj type).symm (itemOf_ne_message codec _)
    | _ => contradiction
  case h_2 => rfl

/-! ## Steps -/

variable {s : Schema} {m : Message} {depth : Nat} {scheme : NamingScheme} {p : Progress}

/-- A binding of a message has come along with a record of it, and with a cell for every field so
far. -/
structure Sound (s : Schema) (m : Message) (p : Progress) : Prop where
  record : Record.IsOf s m p.record
  fits : ∀ field, p.fault ≠ some (.storage field)

theorem Sound.change {r : Except FlagError Registry} (h : Sound s m p) :
    Sound s m (p.change r) := by
  cases r with
  | ok registry => exact ⟨h.record, h.fits⟩
  | error e => exact ⟨h.record, by simp [Progress.change, Progress.stop]⟩

theorem Sound.andThen {step : Progress → Progress} (h : Sound s m p)
    (sound : Sound s m (step p)) : Sound s m (p.andThen step) := by
  unfold Progress.andThen
  split
  · exact h
  · exact sound

theorem Sound.mark (h : Sound s m p) (r : Registration) (name : String) :
    Sound s m (mark r name p) := by
  have hide : Sound s m (if r.hidden then p.change (p.registry.markHidden name) else p) := by
    split
    · exact h.change
    · exact h
  rw [Binding.mark]
  refine hide.andThen ?_
  split
  · exact hide.change
  · exact hide

/-- A registration finds the content of its field, and a cell for it. -/
theorem Sound.register {r : Registration} {f : Field} (h : Sound s m p) (mem : f ∈ m.fields)
    (field : r.field = f.name) (fits : Fits r.cell (storageOf f)) :
    Sound s m (register scheme r p) := by
  obtain ⟨-, holds, -⟩ := h.record
  obtain ⟨c, here, typed⟩ := holds f mem
  obtain ⟨w, wrapped⟩ := exists_wrap fits (memberType_of_fits fits ▸ typed)
  have found : (p.record.get? r.field).bind (wrap? r.cell) = some w := by
    rw [field, here, Option.bind_some, wrapped]
  rw [Binding.register, found]
  simp only
  split
  case h_1 => exact ⟨h.record, by simp [Progress.stop]⟩
  case h_2 registry _ =>
    exact Sound.mark (p := { p with registry, bound := _ }) ⟨h.record, h.fits⟩ r _

theorem sound_register_of_mem_steps (passes : Passes s m) {r : Registration}
    (mem : .register r ∈ (Plan.ofMessage m).steps) (h : Sound s m p) :
    Sound s m (register scheme r p) := by
  obtain ⟨x, listed, registers, of, checked, -⟩ := passes.exists_flagged_of_mem_steps mem
  obtain ⟨kind, field, -⟩ := registration_of? of
  obtain ⟨cell, kind', fits⟩ := exists_fits_of_checkKind checked (registers_iff.1 registers).2
  obtain rfl := Option.some.inj (kind.symm.trans kind')
  exact h.register (mem_flagged_iff.1 listed).1 field fits

/-- The step for a nested message belongs to a field that holds such messages. -/
theorem exists_field_of_mem_steps (passes : Passes s m) {field segment target : String}
    (mem : .nest field segment target ∈ (Plan.ofMessage m).steps) :
    ∃ f ∈ m.fields, field = f.name ∧ memberType f = .message target ∧
      ∃ n, s.findMessage? target = some n ∧ Nests s m n := by
  obtain ⟨x, listed, step⟩ := mem_collect_iff.1 mem
  obtain ⟨nests, rfl, -, rfl⟩ := bindStep_eq_nest_iff.1 step
  obtain ⟨singular, type, -, typed, own, -⟩ := checkNested_ok_iff.1 (passes.nested_ok listed nests)
  obtain ⟨n, found, -, nested⟩ := passes.nests_of_mem_steps mem
  refine ⟨x.1, (mem_flagged_iff.1 listed).1, rfl, ?_, n, (target?_eq_some_iff.1 found).1, nested⟩
  rw [memberType_of_message singular typed own, typed]
  rfl

theorem takeSteps_sound {steps : List BindStep} (h : Sound s m p)
    (sound : ∀ step ∈ steps, ∀ p, Sound s m p → Sound s m (takeStep s depth scheme p step)) :
    Sound s m (takeSteps s depth scheme steps p) := by
  induction steps generalizing p with
  | nil => exact h
  | cons step steps ih =>
    rw [List.forall_mem_cons] at sound
    exact ih (h.andThen (sound.1 p h)) sound.2

/-- A binding keeps a record what it is, and finds a cell for every field. -/
theorem bindMessage_sound (pass : AllPass s m)
    (distinct : ∀ n, ReflTransGen (Nests s) m n → (n.fields.map (·.name)).Nodup) {record : Record}
    (struct : Record.IsOf s m record) (registry : Registry) :
    Sound s m (bindMessage s depth scheme m record registry) := by
  induction depth generalizing scheme m record registry with
  | zero => exact ⟨struct, fun _ => nofun⟩
  | succ depth ih =>
    rw [bindMessage_succ]
    refine takeSteps_sound ⟨struct, fun _ => nofun⟩ fun step mem p h => ?_
    cases step with
    | register r => exact sound_register_of_mem_steps (pass m .refl) mem h
    | nest field segment target =>
      obtain ⟨f, listed, rfl, typed, n, found, nests⟩ :=
        exists_field_of_mem_steps (pass m .refl) mem
      obtain ⟨-, holds, nested⟩ := h.record
      obtain ⟨c, here, isOf⟩ := holds f listed
      rw [typed] at isOf
      obtain ⟨held, rfl⟩ := isOf.exists_message
      have inside : Record.IsOf s n (held.getD (Record.blank n)) := by
        cases held with
        | none => exact Record.isOf_blank (distinct n (.single nests))
        | some r => exact nested f listed target n r typed found here
      have below : Sound s n (bindMessage s depth (scheme.nested segment) n
          (held.getD (Record.blank n)) p.registry) :=
        ih (pass.nested nests) (fun k reached => distinct k (.head nests reached)) inside p.registry
      rw [takeStep, here, nestedRecord_eq found]
      refine ⟨?_, below.fits⟩
      refine h.record.put (distinct m .refl) listed (by rw [typed]; trivial) ?_
      intro target' n' i typed' found' same
      obtain rfl := StorageType.message.inj (typed.symm.trans typed')
      obtain rfl := Option.some.inj (found.symm.trans found')
      obtain rfl := Option.some.inj (Content.message.inj same)
      exact below.record

/-! ## Messages -/

/-- A covered message binds a record of its own, such as the blank one, exactly if the names and
aliases in its tree are distinct and can be written. Otherwise one of them is refused. -/
theorem bindMessage_ok_iff (accepted : Accepted s) (enabled : m.disabled = false)
    (covered : Covered s m)
    (distinct : ∀ n, ReflTransGen (Nests s) m n → (n.fields.map (·.name)).Nodup) {record : Record}
    (struct : Record.IsOf s m record) :
    ∃ t, Unfolds s (Plan.ofMessage m).steps t ∧ ∀ depth ≥ depthOf s,
      ((bindMessage s depth {} m record .empty).fault = none ↔
        (t.keys {}).Pairwise FlagKey.Distinct ∧ ∀ key ∈ t.keys {}, key.fault? = none) ∧
      (∀ fault, (bindMessage s depth {} m record .empty).fault = some fault →
        ∃ e, fault = .flag e ∧ ∃ key ∈ t.keys {},
          (bindMessage s depth {} m record .empty).registry.refusal? key = some e) := by
  obtain ⟨t, unfolds, low⟩ := exists_unfolds_of_accepted accepted enabled covered
  refine ⟨t, unfolds, fun depth deep => ?_⟩
  have course := bindMessage_course_of_accepted accepted enabled covered unfolds low deep record
  have sound : Sound s m (bindMessage s depth {} m record .empty) :=
    bindMessage_sound (accepted.allPass enabled covered) distinct struct .empty
  generalize bindMessage s depth {} m record .empty = p at course sound
  cases course with
  | finished ok same =>
    rw [List.nil_append] at same
    refine ⟨iff_of_true ok ⟨?_, fun key mem => ?_⟩, by simp [ok]⟩
    · rw [← same]
      exact Registry.pairwise_keys _
    · exact Registry.fault?_of_mem_keys (same ▸ mem)
  | @refused before after key e split same stop refusal =>
    rw [List.nil_append] at same
    refine ⟨iff_of_false (by simp [stop]) ?_, fun fault own => ?_⟩
    · rintro ⟨apart, legal⟩
      rw [split, List.pairwise_append] at apart
      have fresh : ∀ k ∈ p.registry.keys, k.Distinct key :=
        fun k mem => apart.2.2 k (same ▸ mem) key (by simp)
      have := Registry.refusal?_eq_none_iff.2 ⟨legal key (by simp [split]), fresh⟩
      simp [refusal] at this
    · obtain rfl := Option.some.inj (stop.symm.trans own)
      exact ⟨e, rfl, key, by simp [split], refusal⟩
  | misfit _ _ stop => exact absurd stop (sound.fits _)

end FlagBinding.Binding
