import FlagBinding.Cell.Repeated
import FlagBinding.Element.Scalar
import FlagBinding.Proofs.Csv.Brackets

/-!
# Lists through text

What a list cell shows is an argument for the elements that it holds. So a list may be cut anywhere
and given to a fresh cell piece by piece: the first piece takes the place of what was there, and the
others are appended. A list can also be given as it is written, without the brackets in which it is
shown.

## Main statements

* `parse_format`: the effect of one shown list on any cell.
* `parseAll_format_chunks`: the effect of the pieces of a list on a fresh cell.
* `parse_write`: the effect of a written list of texts on a fresh cell.
-/

namespace FlagBinding

open Text

namespace Repeated

variable {α : Type} {c : Codec α}

/-- The cell after several arguments, up to the first that is refused. -/
def parseAll (c : Codec α) (cell : Repeated α) (inputs : List String) :
    Except ValueError (Repeated α) :=
  inputs.foldlM (parse c) cell

/-- The text of the first element does not begin with a byte-order mark. -/
def StartsUnmarked (c : Codec α) (items : List α) : Prop :=
  ∀ x, items.head? = some x → (c.encode x).toList.head? ≠ some Csv.byteOrderMark

theorem decodeAll_encode {items : List α} (exact : ∀ x ∈ items, c.Exact x) :
    decodeAll c (items.map c.encode) = .ok items := by
  induction items with
  | nil => rfl
  | cons x items ih =>
    have first : c.decode (c.encode x) = .ok x := exact x (by simp)
    have rest := ih fun y hy => exact y (by simp [hy])
    rw [decodeAll] at rest ⊢
    rw [List.map_cons, List.mapM_cons, first, rest]
    rfl

theorem elements_format {cell : Repeated α} (exact : ∀ x ∈ cell.items, c.Exact x)
    (unmarked : StartsUnmarked c cell.items) : elements c (cell.format c) = .ok cell.items := by
  have fields : Csv.read (Csv.write (cell.encoded c)) = cell.encoded c := by
    refine Csv.read_write fun text ht => ?_
    rw [encoded, List.head?_map, Option.map_eq_some_iff] at ht
    obtain ⟨x, hx, rfl⟩ := ht
    exact unmarked x hx
  rw [elements, format, Csv.stripBrackets_wrap, fields]
  exact decodeAll_encode exact

/-- A shown list replaces what an untouched cell holds and is appended to what a touched one
holds. -/
theorem parse_format (cell shown : Repeated α) (exact : ∀ x ∈ shown.items, c.Exact x)
    (unmarked : StartsUnmarked c shown.items) :
    cell.parse c (shown.format c) =
      .ok ⟨if cell.touched then cell.items ++ shown.items else shown.items, true⟩ := by
  rw [parse, elements_format exact unmarked]
  rfl

theorem parseAll_cons {cell next : Repeated α} {input : String} (inputs : List String)
    (first : cell.parse c input = .ok next) :
    parseAll c cell (input :: inputs) = parseAll c next inputs := by
  rw [parseAll, List.foldlM_cons, first]
  rfl

theorem parseAll_format_touched {chunks : List (List α)} (exact : ∀ x ∈ chunks.flatten, c.Exact x)
    (unmarked : ∀ chunk ∈ chunks, StartsUnmarked c chunk) (before : List α) :
    parseAll c ⟨before, true⟩ (chunks.map fun chunk => format c { items := chunk }) =
      .ok ⟨before ++ chunks.flatten, true⟩ := by
  induction chunks generalizing before with
  | nil => simp [parseAll, pure, Except.pure]
  | cons chunk chunks ih =>
    rw [List.flatten_cons, List.forall_mem_append] at exact
    rw [List.forall_mem_cons] at unmarked
    have first := parse_format ⟨before, true⟩ { items := chunk } exact.1 unmarked.1
    rw [List.map_cons, parseAll_cons _ first, if_pos rfl, ih exact.2 unmarked.2]
    simp

/-- A list that is cut into pieces and given to a fresh cell piece by piece is put together
again. -/
theorem parseAll_format_chunks (c : Codec α) {chunks : List (List α)} (nonempty : chunks ≠ [])
    (exact : ∀ x ∈ chunks.flatten, c.Exact x)
    (unmarked : ∀ chunk ∈ chunks, StartsUnmarked c chunk) (prior : List α) :
    parseAll c { items := prior } (chunks.map fun chunk => format c { items := chunk }) =
      .ok ⟨chunks.flatten, true⟩ := by
  obtain ⟨chunk, chunks, rfl⟩ := List.exists_cons_of_ne_nil nonempty
  rw [List.flatten_cons, List.forall_mem_append] at exact
  rw [List.forall_mem_cons] at unmarked
  have first := parse_format { items := prior } { items := chunk } exact.1 unmarked.1
  rw [List.map_cons, parseAll_cons _ first, if_neg (by simp)]
  exact parseAll_format_touched exact.2 unmarked.2 chunk

theorem parseAll_format_chunks_text :
    let chunks := [["a,b", "say \"hi\"\r\n"], [], [""], ["[::1]", "", " "]]
    chunks ≠ [] ∧ (∀ x ∈ chunks.flatten, Codec.text.Exact x) ∧
      (∀ chunk ∈ chunks, StartsUnmarked Codec.text chunk) ∧
      parseAll Codec.text { items := ["old"] }
          (chunks.map fun chunk => format Codec.text { items := chunk }) =
        .ok ⟨["a,b", "say \"hi\"\r\n", "", "[::1]", "", " "], true⟩ := by
  intro chunks
  have nonempty : chunks ≠ [] := by simp [chunks]
  have exact : ∀ x ∈ chunks.flatten, Codec.text.Exact x := fun x _ => rfl
  have unmarked : ∀ chunk ∈ chunks, StartsUnmarked Codec.text chunk := by
    simp [chunks, StartsUnmarked, Codec.text, Csv.byteOrderMark]
  exact ⟨nonempty, exact, unmarked,
    parseAll_format_chunks Codec.text nonempty exact unmarked ["old"]⟩

/-! ## Lists as they are written -/

/-- A list of texts takes any argument. -/
theorem parse_text (prior : List String) (input : String) :
    parse Codec.text { items := prior } input = .ok ⟨Csv.read (Csv.stripBrackets input), true⟩ := by
  have decoded (inputs : List String) : decodeAll Codec.text inputs = .ok inputs := by
    have exact : ∀ x ∈ inputs, Codec.text.Exact x := fun x _ => rfl
    simpa [Codec.text] using decodeAll_encode exact
  rw [parse, elements, decoded]
  rfl

/-- A written list of texts takes the place of what a fresh cell held, whatever brackets are in its
texts, unless it begins with a bracket of its first text and ends with one of its last and neither
text stands between quotes. Then the two are taken for the brackets of a shown list and what is
between them is read: but for a byte-order mark behind the first bracket, it is the very text that
is shown for that other list. -/
theorem parse_write (prior : List String) {texts : List String}
    (unmarked : StartsUnmarked Codec.text texts) :
    (¬ Csv.Bracketed texts →
      parse Codec.text { items := prior } (Csv.write texts) = .ok ⟨texts, true⟩) ∧
    (Csv.Bracketed texts →
      parse Codec.text { items := prior } (Csv.write texts) = .ok ⟨Csv.inside texts, true⟩ ∧
      Csv.inside texts ≠ texts ∧
      ((Csv.write texts).toList[1]? ≠ some Csv.byteOrderMark →
        format Codec.text { items := Csv.inside texts } = Csv.write texts)) := by
  rw [parse_text]
  constructor
  · intro bare
    rw [Csv.stripBrackets_write_eq_self_iff.2 bare, Csv.read_write unmarked]
  · intro bracketed
    refine ⟨?_, Csv.inside_ne_self bracketed, fun clean => ?_⟩
    · rw [Csv.read_stripBrackets_of_bracketed bracketed]
    · simpa [format, encoded, Codec.text] using Csv.wrap_write_inside bracketed clean

theorem parse_write_addresses :
    let quoted := ["[::1]", "[a,b]"]
    let bare := ["[::1]:80", "[::2]"]
    StartsUnmarked Codec.text quoted ∧ ¬ Csv.Bracketed quoted ∧
      parse Codec.text { items := ["old"] } "[::1],\"[a,b]\"" = .ok ⟨quoted, true⟩ ∧
      StartsUnmarked Codec.text bare ∧ Csv.Bracketed bare ∧
      parse Codec.text { items := ["old"] } "[::1]:80,[::2]" = .ok ⟨["::1]:80", "[::2"], true⟩ := by
  intro quoted bare
  have unmarked : StartsUnmarked Codec.text quoted := by
    simp [quoted, StartsUnmarked, Codec.text, Csv.byteOrderMark]
  have unmarked' : StartsUnmarked Codec.text bare := by
    simp [bare, StartsUnmarked, Codec.text, Csv.byteOrderMark]
  have closedByQuote : ¬ Csv.Bracketed quoted := by
    rintro ⟨-, last, here, plain, -⟩
    obtain rfl : "[a,b]" = last := Option.some.inj here
    exact absurd plain (by decide)
  have bracketed : Csv.Bracketed bare :=
    ⟨⟨"[::1]:80", rfl, by decide, by decide⟩, ⟨"[::2]", rfl, by decide, by decide⟩⟩
  have whole := (parse_write ["old"] unmarked).1 closedByQuote
  have parts := ((parse_write ["old"] unmarked').2 bracketed).1
  have written : Csv.write quoted = "[::1],\"[a,b]\"" := by decide +kernel
  have written' : Csv.write bare = "[::1]:80,[::2]" := by decide +kernel
  have between : Csv.inside bare = ["::1]:80", "[::2"] := by decide +kernel
  rw [written] at whole
  rw [written', between] at parts
  exact ⟨unmarked, closedByQuote, whole, unmarked', bracketed, parts⟩

/-- Two addresses in brackets of their own lose the outer ones. -/
theorem not_parse_write :
    ¬ ∀ prior texts, texts ≠ [] → StartsUnmarked Codec.text texts →
      parse Codec.text { items := prior } (Csv.write texts) = .ok ⟨texts, true⟩ := by
  intro all
  have addresses := all [] ["[::1]", "[::2]"] (by simp) (by
    simp [StartsUnmarked, Codec.text, Csv.byteOrderMark])
  have read : Csv.read (Csv.stripBrackets (Csv.write ["[::1]", "[::2]"])) = ["::1]", "[::2"] := by
    decide +kernel
  rw [parse_text, read] at addresses
  simp at addresses

end Repeated

end FlagBinding
