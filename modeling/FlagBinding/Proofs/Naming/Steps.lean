import FlagBinding.Proofs.Naming.Dotted
import Mathlib.Data.List.Induction

/-!
# Schemes that are set up in steps

A scheme starts out plain and is set up by steps in any order. What its names look like depends on
three things only: all segments in the order in which they were given, the last delimiter and the
last renaming.

## Main definitions

* `Step`, `afterSteps`: the steps, and the scheme after them.
* `Strips`, `Keeps`: a segment without the dots at its ends, and the segments that count.

## Main statements

* `keeps_iff`: the segments that count are those that a scheme keeps.
* `segments_afterSteps`, `delimiter_afterSteps`, `rename?_afterSteps`: a scheme after steps, part by
  part.
* `build_afterSteps`: the names that it makes.
-/

namespace FlagBinding.NamingScheme

/-- A step that sets up a scheme. -/
inductive Step
  | under (segments : List String)
  | nested (segment : String)
  | delimiter (mark : String)
  | renamer (rename : String → String)

namespace Step

def segments : Step → List String
  | under segments => segments
  | nested segment => [segment]
  | delimiter _ | renamer _ => []

/-- The delimiter that a step sets. -/
def delimiter? : Step → Option String
  | delimiter mark => some mark
  | _ => none

/-- The renaming that a step sets. -/
def rename? : Step → Option (String → String)
  | renamer rename => some rename
  | _ => none

def apply (scheme : NamingScheme) : Step → NamingScheme
  | under segments => scheme.under segments
  | nested segment => scheme.nested segment
  | delimiter mark => scheme.withDelimiter mark
  | renamer rename => scheme.withRenaming rename

end Step

def afterSteps (steps : List Step) : NamingScheme :=
  steps.foldl Step.apply {}

/-- All segments that steps give, in order. -/
def givenSegments (steps : List Step) : List String :=
  steps.flatMap Step.segments

/-- The delimiter that is set last; a dot if none is set. -/
def lastDelimiter (steps : List Step) : String :=
  (steps.filterMap Step.delimiter?).getLast?.getD "."

/-- The renaming that is set last; if none is set, names stay as they are. -/
def lastRenaming (steps : List Step) : String → String :=
  (steps.filterMap Step.rename?).getLast?.getD id

/-- A segment and what it is without the dots at its ends. -/
structure Strips (segment part : String) : Prop where
  dots : ∃ before after : Nat, segment.toList =
    List.replicate before '.' ++ part.toList ++ List.replicate after '.'
  start : part.toList.head? ≠ some '.'
  ending : part.toList.getLast? ≠ some '.'

/-- Segments and those of them that count: a segment of dots alone does not, and the others count
without the dots at their ends. -/
inductive Keeps : List String → List String → Prop
  | nil : Keeps [] []
  | dropped {segment : String} {segments parts : List String} (dots : Strips segment "")
      (rest : Keeps segments parts) : Keeps (segment :: segments) parts
  | kept {segment part : String} {segments parts : List String} (strips : Strips segment part)
      (nonempty : part ≠ "") (rest : Keeps segments parts) :
        Keeps (segment :: segments) (part :: parts)

/-! ## Segments -/

/-- Dots, as many as there are. -/
theorem eq_replicate_dots {l : List Char} (dots : ∀ c ∈ l, (c == '.') = true) :
    l = List.replicate l.length '.' :=
  List.eq_replicate_iff.2 ⟨rfl, fun c mem => by simpa using dots c mem⟩

/-- There is one way to take the dots away. -/
theorem strips_iff {segment part : String} : Strips segment part ↔ part = trimDots segment := by
  constructor
  · rintro ⟨⟨before, after, split⟩, start, ending⟩
    have trimmed : Text.trim (· == '.') segment.toList = part.toList := by
      rw [split]
      apply Text.trim_append
      · grind
      · grind
      · exact fun c first => by grind
      · exact fun c last => by grind
    rw [trimDots, trimmed, String.ofList_toList]
  · rintro rfl
    obtain ⟨before, after, front, back, split⟩ :=
      Text.exists_eq_append_trim (· == '.') segment.toList
    have chars : (trimDots segment).toList = Text.trim (· == '.') segment.toList := by
      rw [trimDots, String.toList_ofList]
    refine ⟨⟨before.length, after.length, ?_⟩, fun first => ?_, fun last => ?_⟩
    · rw [chars, ← eq_replicate_dots front, ← eq_replicate_dots back]
      exact split
    · exact absurd (Text.head?_trim (chars ▸ first)) (by decide)
    · exact absurd (Text.getLast?_trim (chars ▸ last)) (by decide)

theorem keptSegments_cons (segment : String) (segments : List String) :
    keptSegments (segment :: segments) =
      if trimDots segment = "" then keptSegments segments
      else trimDots segment :: keptSegments segments := by
  unfold keptSegments
  grind

theorem keptSegments_append (segments more : List String) :
    keptSegments (segments ++ more) = keptSegments segments ++ keptSegments more := by
  simp [keptSegments]

/-- The segments that count are those that a scheme keeps. -/
theorem keeps_iff {segments parts : List String} :
    Keeps segments parts ↔ parts = keptSegments segments := by
  constructor
  · intro keeps
    induction keeps with
    | nil => rfl
    | dropped dots rest ih => rw [keptSegments_cons, ← strips_iff.1 dots, if_pos rfl, ih]
    | kept strips nonempty rest ih =>
      rw [keptSegments_cons, ← strips_iff.1 strips, if_neg nonempty, ih]
  · rintro rfl
    induction segments with
    | nil => exact .nil
    | cons segment segments ih =>
      have strips : Strips segment (trimDots segment) := strips_iff.2 rfl
      rw [keptSegments_cons]
      split
      case isTrue empty => exact .dropped (empty ▸ strips) ih
      case isFalse nonempty => exact .kept strips nonempty ih

theorem Keeps.stripped {segments parts : List String} (keeps : Keeps segments parts) :
    ∀ part ∈ parts, part ≠ "" ∧ part.toList.head? ≠ some '.' ∧ part.toList.getLast? ≠ some '.' := by
  induction keeps with
  | nil => simp
  | dropped dots rest ih => exact ih
  | kept strips nonempty rest ih =>
    exact List.forall_mem_cons.2 ⟨⟨nonempty, strips.start, strips.ending⟩, ih⟩

/-! ## Steps -/

/-- The scheme with a step more. -/
theorem afterSteps_concat (steps : List Step) (step : Step) :
    afterSteps (steps ++ [step]) = step.apply (afterSteps steps) := by
  rw [afterSteps, List.foldl_append]
  rfl

theorem segments_apply (scheme : NamingScheme) (step : Step) :
    (step.apply scheme).segments = scheme.segments ++ keptSegments step.segments := by
  cases step with
  | under | nested => rfl
  | delimiter | renamer => exact (List.append_nil _).symm

theorem delimiter_apply (scheme : NamingScheme) (step : Step) :
    (step.apply scheme).delimiter = step.delimiter?.getD scheme.delimiter := by
  cases step <;> rfl

theorem rename?_apply (scheme : NamingScheme) (step : Step) :
    (step.apply scheme).rename? = step.rename?.or scheme.rename? := by
  cases step <;> rfl

/-- A setting after one more step: what the step sets, or else what was set before. -/
theorem getLast?_filterMap_concat {β : Type} (setting : Step → Option β) (steps : List Step)
    (step : Step) : ((steps ++ [step]).filterMap setting).getLast? =
      (setting step).or (steps.filterMap setting).getLast? := by
  cases h : setting step <;> simp [h]

theorem segments_afterSteps (steps : List Step) :
    (afterSteps steps).segments = keptSegments (givenSegments steps) := by
  induction steps using List.reverseRecOn with
  | nil => rfl
  | append_singleton steps step ih =>
    rw [afterSteps_concat, segments_apply, ih, givenSegments, givenSegments, List.flatMap_append,
      List.flatMap_singleton, keptSegments_append]

theorem delimiter_afterSteps (steps : List Step) :
    (afterSteps steps).delimiter = lastDelimiter steps := by
  induction steps using List.reverseRecOn with
  | nil => rfl
  | append_singleton steps step ih =>
    rw [afterSteps_concat, delimiter_apply, ih, lastDelimiter, lastDelimiter,
      getLast?_filterMap_concat]
    cases step.delimiter? <;> rfl

theorem rename?_afterSteps (steps : List Step) :
    (afterSteps steps).rename? = (steps.filterMap Step.rename?).getLast? := by
  induction steps using List.reverseRecOn with
  | nil => rfl
  | append_singleton steps step ih =>
    rw [afterSteps_concat, rename?_apply, ih, getLast?_filterMap_concat]

/-! ## Names -/

theorem joined_eq_foldr (scheme : NamingScheme) (suffix : String) : scheme.joined suffix =
    scheme.segments.foldr (fun part rest => part ++ scheme.delimiter ++ rest) suffix := by
  rw [joined]
  induction scheme.segments with
  | nil => simp
  | cons part parts ih =>
      rw [List.foldr_cons, ← ih, List.map_cons, String.join_cons, String.append_assoc]

/-- The names that a scheme makes depend on its segments, its delimiter and its renaming. -/
theorem build_eq_of_afterSteps (steps : List Step) (suffix : String) :
    (afterSteps steps).build suffix = lastRenaming steps
      ((keptSegments (givenSegments steps)).foldr
        (fun part rest => part ++ lastDelimiter steps ++ rest)
        suffix) := by
  rw [build, rename?_afterSteps, lastRenaming, joined_eq_foldr, segments_afterSteps,
    delimiter_afterSteps]
  cases (steps.filterMap Step.rename?).getLast? <;> rfl

/-- After any steps, a name is made of the segments that count, each with the last delimiter behind
it, and of the name of the flag, and is then renamed in the way that was set last. So the order
among steps of different kinds does not matter. No segment that counts is empty or has a dot at
either end, and as long as nothing is renamed, different flags have different names. -/
theorem build_afterSteps (steps : List Step) :
    ∃ parts, (∀ others, Keeps (givenSegments steps) others ↔ others = parts) ∧
      (afterSteps steps).segments = parts ∧
      (∀ part ∈ parts, part ≠ "" ∧ part.toList.head? ≠ some '.' ∧ part.toList.getLast? ≠ some '.') ∧
      (∀ suffix, (afterSteps steps).build suffix = lastRenaming steps
        (parts.foldr (fun part rest => part ++ lastDelimiter steps ++ rest) suffix)) ∧
      (∀ other, givenSegments other = givenSegments steps →
        lastDelimiter other = lastDelimiter steps →
        lastRenaming other = lastRenaming steps →
          (afterSteps other).build = (afterSteps steps).build) ∧
      ((∀ step ∈ steps, step.rename? = none) →
        ∀ s t, (afterSteps steps).build s = (afterSteps steps).build t → s = t) := by
  have keeps : Keeps (givenSegments steps) (keptSegments (givenSegments steps)) := keeps_iff.2 rfl
  refine ⟨keptSegments (givenSegments steps), fun others => keeps_iff,
    segments_afterSteps steps, keeps.stripped, build_eq_of_afterSteps steps,
    fun other segments delimiter renamer => ?_, fun unchanged s t same => ?_⟩
  · funext suffix
    rw [build_eq_of_afterSteps, build_eq_of_afterSteps, segments, delimiter, renamer]
  · have none : (afterSteps steps).rename? = .none := by
      rw [rename?_afterSteps, List.filterMap_eq_nil_iff.2 unchanged, List.getLast?_nil]
    exact build_injective none same

/-- Steps in any order, with dots at the ends of segments and a segment of dots alone. -/
example :
    (afterSteps [.delimiter "-", .under [".api.", "..", "v1"], .nested "tls.",
      .delimiter "/"]).build "cert" = "api/v1/tls/cert" := by
  decide +kernel

end FlagBinding.NamingScheme
