import FlagBinding.NamingScheme

/-!
# Dotted names

Without renaming and with a dot as the delimiter, the name of a flag is a list of parts with dots
between neighbours: the segments of the scheme, none of them empty, and the name of the flag itself.

## Main definitions

* `Dotted`: schemes that make such names.
* `parts`: the parts of a name.

## Main statements

* `Dotted.build_eq_iff`: names without dots in their parts are equal only if their parts are.
* `Dotted.mem_toList_build_iff`: the characters of a name.
-/

namespace FlagBinding.NamingScheme

/-- A scheme that joins segments with dots. -/
structure Dotted (scheme : NamingScheme) : Prop where
  delimiter : scheme.delimiter = "."
  unchanged : scheme.rename? = none
  kept : ∀ segment ∈ scheme.segments, segment ≠ ""

/-- The parts of the name of a flag. -/
def parts (scheme : NamingScheme) (flag : String) : List String :=
  scheme.segments ++ [flag]

theorem segments_nested (scheme : NamingScheme) (segment : String) :
    (scheme.nested segment).segments = scheme.segments ++ keptSegments [segment] := rfl

theorem trimDots_of_not_mem {segment : String} (noDot : '.' ∉ segment.toList) :
    trimDots segment = segment := by
  rw [trimDots, Text.trim_eq_self, String.ofList_toList]
  exact fun c mem => by simpa using fun h : c = '.' => noDot (h ▸ mem)

theorem keptSegments_singleton {segment : String} (counts : trimDots segment ≠ "") :
    keptSegments [segment] = [trimDots segment] := by
  simp [keptSegments, counts]

theorem eq_trimDots_of_mem_keptSegments {segment part : String}
    (mem : part ∈ keptSegments [segment]) : part = trimDots segment := by
  simp only [keptSegments, List.map_cons, List.map_nil, List.mem_filter, List.mem_singleton] at mem
  exact mem.1

theorem build_injective {scheme : NamingScheme} (unchanged : scheme.rename? = none) {f g : String}
    (same : scheme.build f = scheme.build g) : f = g := by
  simp only [build, unchanged, joined] at same
  simpa [← String.toList_inj] using same

namespace Dotted

/-- The scheme to begin with. -/
theorem initial : Dotted {} := ⟨rfl, rfl, by simp⟩

variable {scheme a b : NamingScheme}

theorem nested (h : Dotted scheme) (segment : String) : Dotted (scheme.nested segment) where
  delimiter := h.delimiter
  unchanged := h.unchanged
  kept := by
    rw [segments_nested, List.forall_mem_append]
    exact ⟨h.kept, by simp [keptSegments]⟩

theorem toList_build (h : Dotted scheme) (flag : String) :
    (scheme.build flag).toList = ['.'].intercalate ((scheme.parts flag).map String.toList) := by
  simp only [build, h.unchanged, joined, h.delimiter, parts]
  induction scheme.segments with
  | nil => simp
  | cons segment segments ih =>
    have more : (segments ++ [flag]).map String.toList ≠ [] := by simp
    simp only [List.cons_append, List.map_cons]
    rw [List.intercalate_cons_of_ne_nil more, ← ih]
    simp

/-- A character of a name is in one of its parts unless it is a dot. -/
theorem mem_toList_build_iff (h : Dotted scheme) {flag : String} {c : Char} (noDot : c ≠ '.') :
    c ∈ (scheme.build flag).toList ↔ ∃ part ∈ scheme.parts flag, c ∈ part.toList := by
  rw [h.toList_build]
  induction scheme.parts flag with
  | nil => simp
  | cons part rest ih =>
    cases rest with
    | nil => simp
    | cons next rest => simp_all

/-- Names without dots in their parts are equal only if their parts are. -/
theorem build_eq_iff (ha : Dotted a) (hb : Dotted b) {f g : String}
    (fa : ∀ part ∈ a.parts f, '.' ∉ part.toList) (fb : ∀ part ∈ b.parts g, '.' ∉ part.toList) :
    a.build f = b.build g ↔ a.segments = b.segments ∧ f = g := by
  constructor
  · intro same
    rw [← String.toList_inj, ha.toList_build, hb.toList_build] at same
    have split := congrArg (List.splitOn '.') same
    rw [List.splitOn_intercalate _ (by simpa using fa) (by simp [parts]),
      List.splitOn_intercalate _ (by simpa using fb) (by simp [parts])] at split
    have pieces := (List.map_inj_right fun _ _ => String.toList_inj.1).1 split
    simpa [parts] using pieces
  · rintro ⟨segments, rfl⟩
    simp only [build, ha.unchanged, hb.unchanged, joined, ha.delimiter, hb.delimiter, segments]

/-- A name with a segment has a dot. -/
theorem dot_mem_build (h : Dotted scheme) {flag : String} (nonempty : scheme.segments ≠ []) :
    '.' ∈ (scheme.build flag).toList := by
  obtain ⟨segment, segments, hs⟩ := List.exists_cons_of_ne_nil nonempty
  rw [h.toList_build, parts, hs, List.cons_append, List.map_cons,
    List.intercalate_cons_of_ne_nil (by simp)]
  simp

/-- The first character of a name. -/
theorem head?_build (h : Dotted scheme) (flag : String) :
    (scheme.build flag).toList.head? =
      ((scheme.parts flag).head?.bind fun part => part.toList.head?) := by
  rw [h.toList_build]
  cases hs : scheme.segments with
  | nil => simp [parts, hs]
  | cons segment segments =>
    obtain ⟨c, rest, hc⟩ : ∃ c rest, segment.toList = c :: rest := by
      refine List.exists_cons_of_ne_nil ?_
      simpa using h.kept segment (by simp [hs])
    rw [parts, hs, List.cons_append, List.map_cons, List.intercalate_cons_of_ne_nil (by simp), hc]
    simp [hc]

end Dotted

end FlagBinding.NamingScheme
