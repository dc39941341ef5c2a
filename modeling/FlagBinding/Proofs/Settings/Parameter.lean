import FlagBinding.Proofs.Checks.Accepted
import FlagBinding.Proofs.Settings.Pieces

/-!
# The parameter and the settings

A parameter is read piece by piece. It is accepted exactly if each of its pieces is blank or gives
an accepted value for a known key, and then every setting has the value that is given last for its
key. A path of the library loses the separators at its end only after it has been accepted: so a
path of separators alone, which says nothing, is accepted as well.

## Main definitions

* `Accepts`, `Usable`: the values that are accepted for a key, and those that leave the setting
  usable.
* `Holds`: settings that say what a value asks for.
* `Reads`: pieces with the entries in them.
* `Rearranges`: pieces in another order, and with other blank pieces between them.

## Main statements

* `foldlM_applyPiece_ok_iff`: settings after pieces.
* `ofParameter_reads`: the settings that a parameter gives.
-/

namespace FlagBinding.Settings

open Check (bind_ok_iff)
open Text

/-! ## Values -/

def word (b : Bool) : String :=
  if b then "true" else "false"

/-- A text of separators alone. -/
def IsSeparators (path : String) : Prop :=
  ∃ n, path.toList = (List.replicate n [':', ':']).flatten

/-- A path and what is left of it without the separators at its end. -/
def Strips (path stripped : String) : Prop :=
  (∃ n, path.toList = stripped.toList ++ (List.replicate n [':', ':']).flatten) ∧
    ∀ l, stripped.toList ≠ l ++ [':', ':']

/-- The values that are accepted for a key. -/
inductive Accepts : String → String → Prop
  | runtime {path : String} (nonempty : path ≠ "") : Accepts "runtime" path
  | suffix {ending : String} (nonempty : ending ≠ "") : Accepts "suffix" ending
  | format (b : Bool) : Accepts "format" (word b)

/-- The values that leave the setting usable: a path is more than separators. -/
def Usable (key value : String) : Prop :=
  Accepts key value ∧ (key = "runtime" → ¬ IsSeparators value)

/-- Settings that say what a value for a key asks for. -/
inductive Holds (s : Settings) : String → String → Prop
  | runtime {path : String} (strips : Strips path s.runtime) : Holds s "runtime" path
  | suffix : Holds s "suffix" s.suffix
  | format : Holds s "format" (word s.format)

/-- The settings with the value of a key, if it is one that is accepted. -/
def put (s : Settings) (key value : String) : Settings :=
  if key = "runtime" then s.withRuntime value
  else if key = "suffix" then s.withSuffix value
  else { s with format := value = "true" }

theorem strips_dropSeparators (path : List Char) : (∃ n, path =
      (List.replicate n [':', ':']).flatten ++ dropSeparators path) ∧
    ∀ l, dropSeparators path ≠ ':' :: ':' :: l := by
  fun_induction dropSeparators path with
  | case1 rest ih =>
    obtain ⟨⟨n, split⟩, done⟩ := ih
    refine ⟨⟨n + 1, ?_⟩, done⟩
    rw [List.replicate_succ, List.flatten_cons]
    conv_lhs => rw [split]
    simp
  | case2 path other => exact ⟨⟨0, by simp⟩, other⟩

theorem reverse_separators (n : Nat) : (List.replicate n [':', ':']).flatten.reverse =
    (List.replicate n [':', ':']).flatten := by
  simp [List.reverse_flatten]

theorem strips_withRuntime (s : Settings) (path : String) :
    Strips path (s.withRuntime path).runtime := by
  obtain ⟨⟨n, split⟩, done⟩ := strips_dropSeparators path.toList.reverse
  have chars : (s.withRuntime path).runtime.toList =
      (dropSeparators path.toList.reverse).reverse := by
    rw [withRuntime, String.toList_ofList]
  refine ⟨⟨n, ?_⟩, fun l same => done l.reverse ?_⟩
  · rw [chars, ← reverse_separators n, ← List.reverse_append, ← split, List.reverse_reverse]
  · rw [chars, List.reverse_eq_iff] at same
    simpa using same

/-- Nothing is left of a path exactly if it is separators alone. -/
theorem Strips.eq_empty_iff {path stripped : String} (strips : Strips path stripped) :
    stripped = "" ↔ IsSeparators path := by
  obtain ⟨⟨n, split⟩, done⟩ := strips
  constructor
  · rintro rfl
    exact ⟨n, by simpa using split⟩
  · rintro ⟨k, separators⟩
    rw [separators] at split
    have lengths : 2 * k = stripped.toList.length + 2 * n := by
      simpa [List.length_flatten, Nat.mul_comm] using congrArg List.length split
    have sized : k = (k - n) + n := by omega
    rw [sized, List.replicate_add, List.flatten_append, List.append_left_inj] at split
    -- more than nothing would end with a separator
    cases left : k - n with
    | zero =>
      rw [left] at split
      exact String.toList_eq_nil_iff.1 split.symm
    | succ m =>
      rw [left, List.replicate_succ', List.flatten_concat] at split
      exact absurd split.symm (done _)

theorem assign_ok_iff {s s' : Settings} {key value : String} :
    s.assign key value = .ok s' ↔ Accepts key value ∧ s' = s.put key value := by
  constructor
  · intro assigned
    unfold assign at assigned
    split at assigned
    case h_1 =>
      split at assigned
      case isTrue => cases assigned
      case isFalse nonempty =>
        cases assigned
        exact ⟨.runtime (by simpa using nonempty), rfl⟩
    case h_2 =>
      split at assigned
      case isTrue => cases assigned
      case isFalse nonempty =>
        cases assigned
        exact ⟨.suffix (by simpa using nonempty), rfl⟩
    case h_3 =>
      split at assigned
      case h_1 => cases assigned; exact ⟨.format true, rfl⟩
      case h_2 => cases assigned; exact ⟨.format false, rfl⟩
      case h_3 => cases assigned
    case h_4 => cases assigned
  · rintro ⟨accepts, rfl⟩
    cases accepts with
    | runtime nonempty => simp [assign, put, nonempty]
    | suffix nonempty => simp [assign, put, nonempty]
    | format b => cases b <;> rfl

/-- A value of a known key is what the settings say from then on about the key. -/
theorem holds_put (s : Settings) {key value : String} (accepts : Accepts key value) :
    Holds (s.put key value) key value := by
  cases accepts with
  | runtime => exact .runtime (strips_withRuntime s _)
  | suffix => exact .suffix (s := s.withSuffix value)
  | format b =>
    have kept : (s.put "format" (word b)).format = b := by cases b <;> rfl
    have held : Holds (s.put "format" (word b)) "format" (word (s.put "format" (word b)).format) :=
      .format
    rwa [kept] at held

theorem Holds.strips {s : Settings} {path : String} (holds : Holds s "runtime" path) :
    Strips path s.runtime := by
  generalize key : "runtime" = k at holds
  cases holds with
  | runtime strips => exact strips
  | suffix | format => exact absurd key (by decide)

theorem Holds.suffix_eq {s : Settings} {ending : String} (holds : Holds s "suffix" ending) :
    s.suffix = ending := by
  generalize key : "suffix" = k at holds
  cases holds with
  | suffix => rfl
  | runtime | format => exact absurd key (by decide)

theorem Accepts.ne_empty {key value : String} (accepts : Accepts key value) : value ≠ "" := by
  cases accepts with
  | runtime nonempty | suffix nonempty => exact nonempty
  | format b => cases b <;> decide

/-- Values of other keys do not matter to what settings say about a key. -/
theorem holds_put_of_ne {s : Settings} {key value other text : String}
    (accepts : Accepts other text) (ne : other ≠ key) (holds : Holds s key value)
    : Holds (s.put other text) key value := by
  cases accepts <;> cases holds
  case runtime.suffix => exact .suffix (s := s.withRuntime _)
  case runtime.format => exact .format (s := s.withRuntime _)
  case suffix.runtime strips => exact .runtime strips
  case suffix.format => exact .format (s := s.withSuffix _)
  case format.runtime strips => exact .runtime strips
  case format.suffix => exact .suffix
  all_goals exact absurd rfl ne

/-- Values of different keys may be taken in either order. -/
theorem put_comm (s : Settings) {key value other text : String} (accepts : Accepts key value)
    (accepts' : Accepts other text) (ne : key ≠ other) :
    (s.put key value).put other text = (s.put other text).put key value := by
  cases accepts <;> cases accepts' <;> first | rfl | exact absurd rfl ne

/-! ## Many pieces -/

theorem applyPiece_ok_iff {s s' : Settings} {piece : String} :
    s.applyPiece (trimBlanks piece) = .ok s' ↔
      IsVoid piece ∧ s' = s ∨
        ∃ key value, Gives piece key value ∧ Accepts key value ∧ s' = s.put key value := by
  rw [applyPiece]
  by_cases void : IsVoid piece
  · rw [if_pos (isEmpty_trimBlanks_iff.2 void)]
    constructor
    · rintro ⟨⟩
      exact .inl ⟨void, rfl⟩
    · rintro (⟨-, rfl⟩ | ⟨key, value, gives, -⟩)
      · rfl
      · exact absurd void gives.not_void
  · rw [if_neg (mt isEmpty_trimBlanks_iff.1 void)]
    cases cut : cutFirst? '=' (trimBlanks piece) with
    | none => simp [void, not_gives_of_cut cut]
    | some parts =>
      obtain ⟨front, back⟩ := parts
      have gives := gives_of_cut cut
      simp only [assign_ok_iff, void, false_and, false_or]
      constructor
      · exact fun assigned => ⟨_, _, gives, assigned⟩
      · rintro ⟨key, value, gives', assigned⟩
        obtain ⟨rfl, rfl⟩ := gives.unique gives'
        exact assigned

/-- Pieces with the entries in them, each with an accepted value for its key. -/
inductive Reads : List String → List (String × String) → Prop
  | nil : Reads [] []
  | void {piece : String} {pieces : List String} {entries : List (String × String)}
      (void : IsVoid piece) (rest : Reads pieces entries) : Reads (piece :: pieces) entries
  | entry {piece key value : String} {pieces : List String} {entries : List (String × String)}
      (gives : Gives piece key value) (accepts : Accepts key value) (rest : Reads pieces entries) :
      Reads (piece :: pieces) ((key, value) :: entries)

def putAll (s : Settings) (entries : List (String × String)) : Settings :=
  entries.foldl (fun s e => s.put e.1 e.2) s

/-- Pieces are carried out exactly if they can all be read, and then entry by entry. -/
theorem foldlM_applyPiece_ok_iff {s s' : Settings} {pieces : List String} :
    (pieces.map trimBlanks).foldlM applyPiece s = .ok s' ↔
      ∃ entries, Reads pieces entries ∧ s' = s.putAll entries := by
  induction pieces generalizing s with
  | nil =>
    constructor
    · rintro ⟨⟩
      exact ⟨[], .nil, rfl⟩
    · rintro ⟨_, ⟨⟩, rfl⟩
      rfl
  | cons piece pieces ih =>
    simp only [List.map_cons, List.foldlM_cons, bind_ok_iff, applyPiece_ok_iff, ih]
    constructor
    · rintro ⟨_, ⟨void, rfl⟩ | ⟨key, value, gives, accepts, rfl⟩, entries, reads, rfl⟩
      · exact ⟨entries, .void void reads, rfl⟩
      · exact ⟨(key, value) :: entries, .entry gives accepts reads, rfl⟩
    · rintro ⟨entries, reads, rfl⟩
      cases reads with
      | void void rest => exact ⟨s, .inl ⟨void, rfl⟩, entries, rest, rfl⟩
      | entry gives accepts rest => exact ⟨_, .inr ⟨_, _, gives, accepts, rfl⟩, _, rest, rfl⟩

theorem exists_reads_iff {pieces : List String} : (∃ entries, Reads pieces entries) ↔
    ∀ piece ∈ pieces, IsVoid piece ∨ ∃ key value, Gives piece key value ∧ Accepts key value := by
  induction pieces with
  | nil => exact iff_of_true ⟨[], .nil⟩ (by simp)
  | cons piece pieces ih =>
    rw [List.forall_mem_cons, ← ih]
    constructor
    · rintro ⟨entries, reads⟩
      cases reads with
      | void void rest => exact ⟨.inl void, _, rest⟩
      | entry gives accepts rest => exact ⟨.inr ⟨_, _, gives, accepts⟩, _, rest⟩
    · rintro ⟨void | ⟨key, value, gives, accepts⟩, entries, rest⟩
      · exact ⟨entries, .void void rest⟩
      · exact ⟨_, .entry gives accepts rest⟩

theorem Reads.accepts {pieces : List String} {entries : List (String × String)}
    (reads : Reads pieces entries) : ∀ e ∈ entries, Accepts e.1 e.2 := by
  induction reads with
  | nil => simp
  | void void rest ih => exact ih
  | entry gives accepts rest ih => exact List.forall_mem_cons.2 ⟨accepts, ih⟩

/-! ## Entries -/

variable {s : Settings} {entries : List (String × String)}

theorem putAll_concat (s : Settings) (entries : List (String × String)) (e : String × String) :
    s.putAll (entries ++ [e]) = (s.putAll entries).put e.1 e.2 := by
  simp [putAll]

/-- The last entry for a key counts. -/
theorem holds_putAll (accepts : ∀ e ∈ entries, Accepts e.1 e.2) {key value : String}
    (last : LastEntry entries key value) : Holds (s.putAll entries) key value := by
  induction entries using List.reverseRecOn with
  | nil => simp [LastEntry] at last
  | append_singleton entries e ih =>
    obtain ⟨accepts, own⟩ := List.forall_mem_append.1 accepts
    rw [putAll_concat]
    rcases lastEntry_concat_iff.1 last with rfl | ⟨ne, last⟩
    · exact holds_put _ (own _ (by simp))
    · exact holds_put_of_ne (own e (by simp)) ne (ih accepts last)

/-- A part of the settings that no entry is about stays as it is. -/
theorem putAll_kept {α : Type} {part : Settings → α}
    (kept : ∀ s, ∀ e ∈ entries, part (s.put e.1 e.2) = part s) :
    part (s.putAll entries) = part s := by
  induction entries using List.reverseRecOn with
  | nil => rfl
  | append_singleton entries e ih =>
    rw [putAll_concat, kept _ e (by simp)]
    exact ih fun s e mem => kept s e (List.mem_append_left _ mem)

theorem runtime_put_of_ne (s : Settings) {key value : String} (accepts : Accepts key value)
    (ne : key ≠ "runtime") : (s.put key value).runtime = s.runtime := by
  cases accepts <;> first | rfl | exact absurd rfl ne

theorem suffix_put_of_ne (s : Settings) {key value : String} (accepts : Accepts key value)
    (ne : key ≠ "suffix") : (s.put key value).suffix = s.suffix := by
  cases accepts <;> first | rfl | exact absurd rfl ne

theorem format_put_of_ne (s : Settings) {key value : String} (accepts : Accepts key value)
    (ne : key ≠ "format") : (s.put key value).format = s.format := by
  cases accepts <;> first | rfl | exact absurd rfl ne

/-- The ending of file names is never empty. -/
theorem suffix_putAll_ne (accepts : ∀ e ∈ entries, Accepts e.1 e.2) (some : s.suffix ≠ "") :
    (s.putAll entries).suffix ≠ "" := by
  by_cases own : ∃ e ∈ entries, e.1 = "suffix"
  · obtain ⟨ending, last⟩ := exists_lastEntry_iff.2 own
    rw [(holds_putAll accepts last).suffix_eq]
    obtain ⟨before, later, split, -⟩ := last
    exact (accepts ("suffix", ending) (by simp [split])).ne_empty
  · rw [putAll_kept fun t e mem => suffix_put_of_ne t (accepts e mem) fun same =>
      own ⟨e, mem, same⟩]
    exact some

/-! ## The order of pieces -/

/-- Pieces in another order, in which those of one key stay as they are, and with other blank
pieces. -/
inductive Rearranges : List String → List String → Prop
  | refl (pieces : List String) : Rearranges pieces pieces
  | symm {pieces others : List String} (same : Rearranges pieces others) : Rearranges others pieces
  | trans {pieces others more : List String} (first : Rearranges pieces others)
      (second : Rearranges others more) : Rearranges pieces more
  | cons {pieces others : List String} (piece : String) (rest : Rearranges pieces others) :
      Rearranges (piece :: pieces) (piece :: others)
  | swap {piece other : String} (pieces : List String)
      (different : ∀ key value text, Gives piece key value → ¬ Gives other key text) :
      Rearranges (piece :: other :: pieces) (other :: piece :: pieces)
  | blank {piece : String} (pieces : List String) (void : IsVoid piece) :
      Rearranges (piece :: pieces) pieces

/-- What settings are after pieces, if all of these are accepted. -/
def Leads (s : Settings) (pieces : List String) (s' : Settings) : Prop :=
  (pieces.map trimBlanks).foldlM applyPiece s = .ok s'

theorem leads_cons_iff {s s' : Settings} {piece : String} {pieces : List String} :
    Leads s (piece :: pieces) s' ↔ IsVoid piece ∧ Leads s pieces s' ∨
      ∃ key value, Gives piece key value ∧ Accepts key value ∧
        Leads (s.put key value) pieces s' := by
  simp only [Leads, List.map_cons, List.foldlM_cons, bind_ok_iff, applyPiece_ok_iff]
  constructor
  · rintro ⟨_, ⟨void, rfl⟩ | ⟨key, value, gives, accepts, rfl⟩, rest⟩
    · exact .inl ⟨void, rest⟩
    · exact .inr ⟨key, value, gives, accepts, rest⟩
  · rintro (⟨void, rest⟩ | ⟨key, value, gives, accepts, rest⟩)
    · exact ⟨s, .inl ⟨void, rfl⟩, rest⟩
    · exact ⟨_, .inr ⟨key, value, gives, accepts, rfl⟩, rest⟩

theorem Leads.swap {s s' : Settings} {piece other : String} {pieces : List String}
    (different : ∀ key value text, Gives piece key value → ¬ Gives other key text)
    (leads : Leads s (piece :: other :: pieces) s') : Leads s (other :: piece :: pieces) s' := by
  simp only [leads_cons_iff] at leads ⊢
  rcases leads with ⟨void, rest⟩ | ⟨key, value, gives, accepts, rest⟩
  · rcases rest with ⟨void', rest⟩ | ⟨key', value', gives', accepts', rest⟩
    · exact .inl ⟨void', .inl ⟨void, rest⟩⟩
    · exact .inr ⟨key', value', gives', accepts', .inl ⟨void, rest⟩⟩
  · rcases rest with ⟨void', rest⟩ | ⟨key', value', gives', accepts', rest⟩
    · exact .inl ⟨void', .inr ⟨key, value, gives, accepts, rest⟩⟩
    · have ne : key ≠ key' := by
        rintro rfl
        exact different key value value' gives gives'
      rw [put_comm s accepts accepts' ne] at rest
      exact .inr ⟨key', value', gives', accepts', .inr ⟨key, value, gives, accepts, rest⟩⟩

theorem Rearranges.leads_iff {pieces others : List String} (same : Rearranges pieces others) :
    ∀ s s', Leads s pieces s' ↔ Leads s others s' := by
  induction same with
  | refl pieces => exact fun s s' => .rfl
  | symm same ih => exact fun s s' => (ih s s').symm
  | trans first second ih ih' => exact fun s s' => (ih s s').trans (ih' s s')
  | cons piece rest ih =>
    intro s s'
    simp only [leads_cons_iff, ih]
  | swap pieces different =>
    exact fun s s' => ⟨.swap different, .swap fun key value text gives gives' =>
      different key text value gives' gives⟩
  | blank pieces void =>
    intro s s'
    simp only [leads_cons_iff, void, true_and]
    refine or_iff_left ?_
    rintro ⟨key, value, gives, -⟩
    exact gives.not_void void

/-! ## The parameter -/

theorem ofParameter_ok_iff {parameter : Option String} {s : Settings} :
    ofParameter parameter = .ok s ↔
    ∃ entries, Reads (pieces ',' (parameter.getD "")) entries ∧ s = putAll {} entries :=
  foldlM_applyPiece_ok_iff

/-- The settings of a parameter. It is accepted exactly if each piece between its commas is blank or
gives an accepted value for a key. Then the last value for each key counts, and the defaults stand
where there is none. Pieces of different keys may be given in any order, and blank ones may be
added. The path of the library never ends with a separator, and it is empty only if the last one
that is given is made of separators. -/
theorem ofParameter_reads (parameter : Option String) :
    ((∃ s, ofParameter parameter = .ok s) ↔ ∀ piece ∈ pieces ',' (parameter.getD ""),
      IsVoid piece ∨ ∃ key value, Gives piece key value ∧ Accepts key value) ∧
    (∀ s, ofParameter parameter = .ok s →
      ∃ entries, Reads (pieces ',' (parameter.getD "")) entries ∧
      (∀ key value, LastEntry entries key value → Holds s key value) ∧
      ((∀ e ∈ entries, e.1 ≠ "runtime") → s.runtime = "::protoflags") ∧
      ((∀ e ∈ entries, e.1 ≠ "suffix") → s.suffix = ".flags.rs") ∧
      ((∀ e ∈ entries, e.1 ≠ "format") → s.format = true) ∧
      s.suffix ≠ "" ∧ (∀ l, s.runtime.toList ≠ l ++ [':', ':']) ∧
      (s.runtime = "" ↔ ∃ path, LastEntry entries "runtime" path ∧ IsSeparators path)) ∧
    ∀ other : Option String,
      Rearranges (pieces ',' (parameter.getD "")) (pieces ',' (other.getD "")) →
      ∀ s, ofParameter other = .ok s ↔ ofParameter parameter = .ok s := by
  refine ⟨?accepted, fun s given => ?settings, fun other same s => (same.leads_iff {} s).symm⟩
  case accepted =>
    simp only [ofParameter_ok_iff, ← exists_reads_iff]
    exact ⟨fun ⟨s, entries, reads, same⟩ => ⟨entries, reads⟩,
      fun ⟨entries, reads⟩ => ⟨_, entries, reads, rfl⟩⟩
  case settings =>
    obtain ⟨entries, reads, rfl⟩ := ofParameter_ok_iff.1 given
    have accepts := reads.accepts
    have default : (∀ e ∈ entries, e.1 ≠ "runtime") →
        (putAll {} entries).runtime = "::protoflags" :=
      fun none => putAll_kept fun s e mem => runtime_put_of_ne s (accepts e mem) (none e mem)
    have path : ∀ path, LastEntry entries "runtime" path →
        Strips path (putAll {} entries).runtime :=
      fun path last => (holds_putAll accepts last).strips
    have given : (∃ path, LastEntry entries "runtime" path) ∨ ∀ e ∈ entries, e.1 ≠ "runtime" := by
      rw [exists_lastEntry_iff]
      grind
    refine ⟨entries, reads, fun key value => holds_putAll accepts, default,
      fun none => putAll_kept fun s e mem => suffix_put_of_ne s (accepts e mem) (none e mem),
      fun none => putAll_kept fun s e mem => format_put_of_ne s (accepts e mem) (none e mem),
      suffix_putAll_ne accepts (by decide), ?ending, ?empty⟩
    case ending =>
      rcases given with ⟨p, last⟩ | none
      · exact (path p last).2
      · rw [default none]
        intro l same
        have last := congrArg List.getLast? same
        simp at last
    case empty =>
      constructor
      · intro empty
        rcases given with ⟨p, last⟩ | none
        · exact ⟨p, last, (path p last).eq_empty_iff.1 empty⟩
        · rw [default none] at empty
          exact absurd empty (by decide)
      · rintro ⟨p, last, separators⟩
        exact (path p last).eq_empty_iff.2 separators

theorem Gives.eq_of_cut {piece front back key value : String}
    (cut : cutFirst? '=' (trimBlanks piece) = some (front, back)) (gives : Gives piece key value) :
    key = trimBlanks front ∧ value = trimBlanks back :=
  (gives_of_cut cut).unique gives

/-- A path between blanks with separators at its end, a blank piece and an ending given twice, in
two orders. -/
theorem ofParameter_reads_rearranged :
    let given := some "runtime = ::a:: , ,suffix=.b,suffix=.c"
    let other := some "suffix=.b,suffix=.c,runtime = ::a:: "
    let settings : Settings := { runtime := "::a", suffix := ".c" }
    ofParameter given = .ok settings ∧
    Rearranges (pieces ',' (given.getD "")) (pieces ',' (other.getD "")) ∧
    ofParameter other = .ok settings ∧
    ∃ entries, Reads (pieces ',' (given.getD "")) entries ∧
      (∀ key value, LastEntry entries key value → Holds settings key value) := by
  intro given other settings
  have accepted : ofParameter given = .ok settings := by decide +kernel
  have before : pieces ',' (given.getD "") =
      ["runtime = ::a:: ", " ", "suffix=.b", "suffix=.c"] := by
    decide +kernel
  have behind : pieces ',' (other.getD "") = ["suffix=.b", "suffix=.c", "runtime = ::a:: "] := by
    decide +kernel
  have path : cutFirst? '=' (trimBlanks "runtime = ::a:: ") = some ("runtime ", " ::a::") := by
    decide +kernel
  have apart (ending : String)
      (cut : cutFirst? '=' (trimBlanks ("suffix=" ++ ending)) = some ("suffix", ending)) :
      ∀ key value text, Gives "runtime = ::a:: " key value →
        ¬ Gives ("suffix=" ++ ending) key text := by
    intro key value text gives gives'
    have named := (Gives.eq_of_cut path gives).1.symm.trans (Gives.eq_of_cut cut gives').1
    exact absurd named (by decide +kernel)
  have rearranged : Rearranges (pieces ',' (given.getD "")) (pieces ',' (other.getD "")) := by
    rw [before, behind]
    refine .trans (.cons _ (.blank _ ?_)) (.trans (.swap _ (apart ".b" ?_))
      (.cons _ (.swap _ (apart ".c" ?_))))
    · exact List.all_eq_true.1 (by decide +kernel)
    · decide +kernel
    · decide +kernel
  obtain ⟨-, settled, orderless⟩ := ofParameter_reads given
  obtain ⟨entries, reads, last, -⟩ := settled settings accepted
  exact ⟨accepted, rearranged, (orderless other rearranged settings).2 accepted,
    entries, reads, last⟩

/-- A path of separators alone is accepted, although it leaves no path. -/
theorem ofParameter_separators : ofParameter (some "runtime=::") = .ok { runtime := "" } ∧
    ¬ ∀ piece ∈ pieces ',' "runtime=::",
      IsVoid piece ∨ ∃ key value, Gives piece key value ∧ Usable key value := by
  refine ⟨by decide +kernel, fun usable => ?_⟩
  have cut : cutFirst? '=' (trimBlanks "runtime=::") = some ("runtime", "::") := by decide +kernel
  rcases usable "runtime=::" (by decide +kernel) with void | ⟨key, value, gives, -, more⟩
  · exact absurd (void 'r' (by decide)) (by decide)
  · obtain ⟨rfl, rfl⟩ := Gives.eq_of_cut cut gives
    exact more (by decide +kernel) ⟨1, by decide +kernel⟩

end FlagBinding.Settings
