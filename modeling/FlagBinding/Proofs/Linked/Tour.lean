import FlagBinding.Linked.Schema
import FlagBinding.Proofs.Checks.Search
import FlagBinding.Proofs.Linked.Presence
import Mathlib.Data.List.Flatten
import Mathlib.Data.List.Forall2
import Mathlib.Data.List.Nodup
import Mathlib.Data.List.TakeWhile

/-!
# The order of messages

The messages of a file form trees. A position in them is a list of indices: that of a message at the
top of the file, that of a message in it, and so on. In lexicographic order a message comes before
those in it, and these come before whatever is declared after it. That is the order of a schema,
which has a message for every position but for those at or under the entries of a map that stand
inside another message.

## Main definitions

* `descend?`: the messages on the way to a position.
* `Listed`: the positions for which a schema has a message.
* `dotted`: names joined with dots.
* `LoadedAs`, `LoadedFile`: what a schema has of a message, and of a file.

## Main statements

* `pairwise_lt_tourOfAll`, `mem_tourOfAll_iff`: a tour has every listed position once, in order.
* `loadedAs_messagesOf`: what a schema has of the messages under a message.
* `Pool.loadedFile_schema`: what a schema has of the files of a pool, and how its messages are
  found.
-/

namespace FlagBinding.Linked

open Descriptor (Edition qualify)
open Options (Record)

variable {ω : Type} {p : Pool}

/-! ## Positions -/

/-- The messages on the way to a position, the outermost first. -/
def descend? (ms : List (Message ω)) : List Nat → Option (List (Message ω))
  | [] => some []
  | i :: pos => do
    let m ← ms[i]?
    return m :: (← descend? m.nested pos)

theorem descend?_cons_eq_some_iff {ms : List (Message ω)} {i : Nat} {pos : List Nat}
    {chain : List (Message ω)} : descend? ms (i :: pos) = some chain ↔
      ∃ m below, ms[i]? = some m ∧ descend? m.nested pos = some below ∧ chain = m :: below := by
  simp only [descend?, Option.bind_eq_bind, Option.pure_def, Option.bind_eq_some_iff,
    Option.some.injEq, eq_comm (a := chain)]
  tauto

/-- The positions of messages of a file, but for those at or under the entries of a map that stand
inside another message. -/
def Listed (file : File ω) (pos : List Nat) : Prop :=
  ∃ top below, descend? file.messages pos = some (top :: below) ∧ ∀ m ∈ below, m.isMapEntry = false

mutual

/-- The positions of the messages under a message that a schema keeps, that of the message itself
first. -/
def Message.tour : Message ω → List (List Nat)
  | ⟨_, _, _, nested, _⟩ => [] :: Message.tourOfAll (!·.isMapEntry) 0 nested

/-- The positions in and under those messages of a list that are kept, where indices begin at
`i`. -/
def Message.tourOfAll (keep : Message ω → Bool) (i : Nat) : List (Message ω) → List (List Nat)
  | [] => []
  | m :: rest =>
    (if keep m then m.tour.map (i :: ·) else []) ++ Message.tourOfAll keep (i + 1) rest

end

def File.tour (file : File ω) : List (List Nat) :=
  Message.tourOfAll (fun _ => true) 0 file.messages

namespace Message

theorem tour_eq (m : Message ω) : m.tour = [] :: tourOfAll (!·.isMapEntry) 0 m.nested := by
  cases m
  rw [tour]

variable {keep : Message ω → Bool}

theorem mem_tourOfAll_iff {pos : List Nat} {ms : List (Message ω)} {k : Nat} :
    pos ∈ tourOfAll keep k ms ↔
      ∃ i rest m, pos = (k + i) :: rest ∧ ms[i]? = some m ∧ keep m ∧ rest ∈ m.tour := by
  induction ms generalizing k with
  | nil => simp [tourOfAll]
  | cons first others ih =>
    rw [tourOfAll, List.mem_append, ih]
    constructor
    · rintro (mem | ⟨i, rest, m, rfl, found, kept, mem⟩)
      · split at mem
        case isFalse => cases mem
        case isTrue kept =>
          obtain ⟨rest, visited, rfl⟩ := List.mem_map.1 mem
          exact ⟨0, rest, first, rfl, rfl, kept, visited⟩
      · exact ⟨i + 1, rest, m, by rw [Nat.add_right_comm, Nat.add_assoc], found, kept, mem⟩
    · rintro ⟨i, rest, m, rfl, found, kept, mem⟩
      cases i with
      | zero =>
        obtain rfl : first = m := Option.some.inj found
        rw [if_pos kept]
        exact .inl (List.mem_map_of_mem mem)
      | succ i =>
        exact .inr ⟨i, rest, m, by rw [Nat.add_right_comm, Nat.add_assoc], found, kept, mem⟩

/-- The positions that a tour of a message visits: no entries of a map lie on the way to them. -/
theorem mem_tour_iff {m : Message ω} {pos : List Nat} : pos ∈ m.tour ↔
    ∃ below, descend? m.nested pos = some below ∧ ∀ n ∈ below, n.isMapEntry = false := by
  induction pos generalizing m with
  | nil => simp [tour_eq, descend?]
  | cons i pos ih =>
    rw [tour_eq, List.mem_cons, mem_tourOfAll_iff]
    simp only [reduceCtorEq, false_or, Nat.zero_add, List.cons.injEq, descend?_cons_eq_some_iff]
    constructor
    · rintro ⟨_, _, n, ⟨rfl, rfl⟩, found, kept, mem⟩
      obtain ⟨below, way, plain⟩ := ih.1 mem
      exact ⟨n :: below, ⟨n, below, found, way, rfl⟩,
        List.forall_mem_cons.2 ⟨by simpa using kept, plain⟩⟩
    · rintro ⟨_, ⟨n, below, found, way, rfl⟩, plain⟩
      obtain ⟨kept, plain⟩ := List.forall_mem_cons.1 plain
      exact ⟨i, pos, n, ⟨rfl, rfl⟩, found, by simp [kept], ih.2 ⟨below, way, plain⟩⟩

mutual

/-- A tour visits a message before those in it, and these from the first to the last. -/
theorem pairwise_lt_tour : ∀ m : Message ω, m.tour.Pairwise (· < ·)
  | ⟨_, _, _, nested, _⟩ => by
    rw [tour]
    refine List.Pairwise.cons ?_ (pairwise_lt_tourOfAll _ _ nested)
    intro pos mem
    obtain ⟨i, rest, m, rfl, -⟩ := mem_tourOfAll_iff.1 mem
    exact List.nil_lt_cons _ _

theorem pairwise_lt_tourOfAll (keep : Message ω → Bool) (k : Nat) :
    ∀ ms : List (Message ω), (tourOfAll keep k ms).Pairwise (· < ·)
  | [] => by
    rw [tourOfAll]
    exact .nil
  | m :: ms => by
    rw [tourOfAll, List.pairwise_append]
    refine ⟨?_, pairwise_lt_tourOfAll keep (k + 1) ms, ?_⟩
    · split
      case isFalse => exact .nil
      case isTrue =>
        exact List.pairwise_map.2 ((pairwise_lt_tour m).imp fun before =>
          List.cons_lt_cons_iff.2 (.inr ⟨rfl, before⟩))
    · intro pos mem other mem'
      obtain ⟨i, rest, n, rfl, -⟩ := mem_tourOfAll_iff.1 mem'
      split at mem
      case isFalse => cases mem
      case isTrue =>
        obtain ⟨rest', -, rfl⟩ := List.mem_map.1 mem
        exact List.cons_lt_cons_iff.2 (.inl (by omega))

end

end Message

theorem File.mem_tour_iff {file : File ω} {pos : List Nat} : pos ∈ file.tour ↔ Listed file pos := by
  rw [File.tour, Message.mem_tourOfAll_iff, Listed]
  constructor
  · rintro ⟨i, rest, m, rfl, found, -, mem⟩
    obtain ⟨below, way, plain⟩ := Message.mem_tour_iff.1 mem
    refine ⟨m, below, descend?_cons_eq_some_iff.2 ⟨m, below, ?_, way, rfl⟩, plain⟩
    rwa [Nat.zero_add]
  · rintro ⟨top, below, way, plain⟩
    cases pos with
    | nil => cases way
    | cons i rest =>
      obtain ⟨m, below, found, way, same⟩ := descend?_cons_eq_some_iff.1 way
      obtain ⟨rfl, rfl⟩ := List.cons.inj same
      exact ⟨i, rest, top, by rw [Nat.zero_add], found, rfl, Message.mem_tour_iff.2 ⟨_, way, plain⟩⟩

/-! ## Names with dots -/

/-- Names joined with dots. Where the first names are empty, as that of a missing package is, no
dots stand for them. -/
def dotted (names : List String) : String :=
  ".".intercalate (names.dropWhile (·.isEmpty))

theorem dotted_singleton (name : String) : dotted [name] = name := by
  by_cases empty : name.isEmpty
  · simp [dotted, String.isEmpty_iff.1 empty]
  · simp [dotted, empty]

theorem dotted_isEmpty_iff {names : List String} :
    (dotted names).isEmpty ↔ names.dropWhile (·.isEmpty) = [] := by
  rw [dotted]
  cases kept : names.dropWhile (·.isEmpty) with
  | nil => simp
  | cons first rest =>
    have filled : first.isEmpty = false := by
      have := List.head_dropWhile_not (·.isEmpty) (l := names) (by simp [kept])
      simpa [kept] using this
    cases rest <;> simp_all [String.intercalate_cons_cons]

/-- The name of a declaration adds its own to the names of what is around it. -/
theorem qualify_dotted (names : List String) (name : String) :
    qualify (dotted names) name = dotted (names ++ [name]) := by
  by_cases none : names.dropWhile (·.isEmpty) = []
  · rw [qualify, if_pos (dotted_isEmpty_iff.2 none), dotted, List.dropWhile_append, none]
    exact (dotted_singleton name).symm
  · rw [qualify, if_neg (mt dotted_isEmpty_iff.1 none), dotted, dotted, List.dropWhile_append,
      if_neg (by simpa using none), String.intercalate_append_of_ne_nil none (by simp),
      String.intercalate_singleton]

/-! ## Messages of a schema -/

/-- What a schema has of the last one of messages that stand inside one another. -/
structure LoadedAs (p : Pool) (file : File Record) (chain : List (Message Record))
    (loaded : Schema.Message) : Prop where
  declared : ∃ m ∈ chain.getLast?, loaded.name = m.name ∧
    loaded.disabled = (extensionRecord? p messageExtension m.options).any Options.isDisabled ∧
    loaded.fields = m.fields.map (fieldOf p file.edition)
  path : loaded.path = chain.map (·.name)
  fullName : loaded.fullName = dotted (file.package :: loaded.path)

/-- What a schema has for a position among messages that stand inside all of `above`, where indices
begin at `k`. -/
def LoadedAmong (p : Pool) (file : File Record) (above : List (Message Record)) (k : Nat)
    (ms : List (Message Record)) (pos : List Nat) (loaded : Schema.Message) : Prop :=
  ∃ i rest m below, pos = (k + i) :: rest ∧ ms[i]? = some m ∧ descend? m.nested rest = some below ∧
    LoadedAs p file (above ++ m :: below) loaded

variable {file : File Record} {above ms : List (Message Record)} {pos : List Nat}
    {loaded : Schema.Message}

theorem LoadedAmong.cons {k : Nat} (m : Message Record)
    (among : LoadedAmong p file above (k + 1) ms pos loaded) :
    LoadedAmong p file above k (m :: ms) pos loaded := by
  obtain ⟨i, rest, n, below, rfl, found⟩ := among
  exact ⟨i + 1, rest, n, below, by rw [Nat.add_right_comm, Nat.add_assoc], found⟩

theorem LoadedAmong.exists_descend? (among : LoadedAmong p file above 0 ms pos loaded) :
    ∃ chain, descend? ms pos = some chain ∧ LoadedAs p file (above ++ chain) loaded := by
  obtain ⟨i, rest, m, below, rfl, found, way, loads⟩ := among
  rw [Nat.zero_add]
  exact ⟨m :: below, descend?_cons_eq_some_iff.2 ⟨m, below, found, way, rfl⟩, loads⟩

theorem nestedMessagesOf_eq_flatMap {edition : Edition} {scope : String} {path : List String}
    (ms : List (Message Record)) : nestedMessagesOf p edition scope path ms =
      (ms.filter (!·.isMapEntry)).flatMap (messagesOf p edition scope path) := by
  induction ms with
  | nil => rfl
  | cons m ms ih =>
    rw [nestedMessagesOf, ih]
    cases entry : m.isMapEntry <;> simp [entry]

mutual

/-- The messages of a schema that come from a message, in the order of a tour. -/
theorem loadedAs_messagesOf {above : List (Message Record)} {scope : String}
    (around : scope = dotted (file.package :: above.map (·.name))) : ∀ m : Message Record,
      List.Forall₂ (fun pos loaded => ∃ below, descend? m.nested pos = some below ∧
          LoadedAs p file (above ++ m :: below) loaded)
        m.tour (messagesOf p file.edition scope (above.map (·.name)) m)
  | ⟨name, isMapEntry, fields, nested, options⟩ => by
    let m : Message Record := ⟨name, isMapEntry, fields, nested, options⟩
    have names : (above ++ [m]).map (·.name) = above.map (·.name) ++ [name] := List.map_append
    have inside : qualify scope name = dotted (file.package :: (above ++ [m]).map (·.name)) := by
      rw [names, around, qualify_dotted, List.cons_append]
    have under := loadedAmong_flatMap inside (!·.isMapEntry) 0 nested
    rw [Message.tour, messagesOf, nestedMessagesOf_eq_flatMap, ← names]
    refine .cons ⟨[], rfl, ⟨⟨m, List.getLast?_concat, rfl, rfl, rfl⟩, rfl, inside⟩⟩ ?_
    refine under.imp fun pos loaded among => ?_
    obtain ⟨chain, way, loads⟩ := among.exists_descend?
    exact ⟨chain, way, by rwa [List.append_assoc] at loads⟩

theorem loadedAmong_flatMap {above : List (Message Record)} {scope : String}
    (around : scope = dotted (file.package :: above.map (·.name))) (keep : Message Record → Bool)
    (k : Nat) : ∀ ms : List (Message Record),
      List.Forall₂ (LoadedAmong p file above k ms) (Message.tourOfAll keep k ms)
        ((ms.filter keep).flatMap (messagesOf p file.edition scope (above.map (·.name))))
  | [] => by
    rw [Message.tourOfAll]
    exact .nil
  | m :: ms => by
    have others := (loadedAmong_flatMap around keep (k + 1) ms).imp fun _ _ among => among.cons m
    rw [Message.tourOfAll]
    cases kept : keep m with
    | false => simpa [kept] using others
    | true =>
      rw [if_pos rfl, List.filter_cons_of_pos kept, List.flatMap_cons]
      refine List.rel_append ?_ others
      rw [List.forall₂_map_left_iff]
      exact (loadedAs_messagesOf around m).imp fun rest _ ⟨below, way, loads⟩ =>
        ⟨0, rest, m, below, rfl, rfl, way, loads⟩

end

/-! ## Full names -/

mutual

/-- No name is new in a schema. -/
theorem fullName_messagesOf_sublist {edition : Edition} {scope : String} {path : List String} :
    ∀ m : Message Record, ((messagesOf p edition scope path m).map (·.fullName)).Sublist
      ((m.listing scope).map (·.1))
  | ⟨_, _, _, nested, _⟩ => by
    rw [messagesOf, Message.listing]
    exact (fullName_nestedMessagesOf_sublist nested).cons_cons _

theorem fullName_nestedMessagesOf_sublist {edition : Edition} {scope : String}
    {path : List String} :
    ∀ ms : List (Message Record),
      ((nestedMessagesOf p edition scope path ms).map (·.fullName)).Sublist
      ((Message.listingOfAll scope ms).map (·.1))
  | [] => by
    rw [nestedMessagesOf]
    exact List.nil_sublist _
  | m :: ms => by
    rw [nestedMessagesOf, Message.listingOfAll, List.map_append, List.map_append]
    refine .append ?_ (fullName_nestedMessagesOf_sublist ms)
    split
    case isTrue => exact List.nil_sublist _
    case isFalse => exact fullName_messagesOf_sublist m

end

theorem fullName_fileOf_sublist (wanted : List String) (file : File Record) :
    ((fileOf p wanted file).messages.map (·.fullName)).Sublist file.names := by
  rw [File.names, File.listing, listingOfAll_eq_flatMap, fileOf, List.map_flatMap, List.map_flatMap]
  exact List.Sublist.flatMap_right _ fun m _ => fullName_messagesOf_sublist m

theorem nodup_fullNames_schema (p : Pool) (wanted : List String) :
    (Check.fullNames (p.schema wanted)).Nodup := by
  rw [Check.fullNames, Schema.messages, Pool.schema, List.map_flatMap, List.flatMap_map]
  exact p.distinct.sublist
    (List.Sublist.flatMap_right _ fun file _ => fullName_fileOf_sublist wanted file)

end FlagBinding.Linked

namespace FlagBinding.Schema

theorem relativeName_eq_self_iff {name : String} :
    relativeName name = name ↔ name.toList.head? ≠ some '.' := by
  rw [relativeName, ← String.toList_inj, String.toList_ofList, Text.trimStart]
  cases name.toList with
  | nil => simp
  | cons c rest => simp [List.dropWhile_eq_self_iff]

/-- Where all full names differ, a message is found by its own if no dots are taken off it. -/
theorem findMessage?_fullName_eq_some_iff {s : Schema} (distinct : (Check.fullNames s).Nodup)
    {m : Message} (mem : m ∈ s.messages)
    : s.findMessage? m.fullName = some m ↔ m.fullName.toList.head? ≠ some '.' := by
  rw [← relativeName_eq_self_iff]
  constructor
  · exact fun found => (Check.mem_of_findMessage? found).2.symm
  · intro relative
    cases found : s.findMessage? m.fullName with
    | none =>
      rw [Schema.findMessage?, relative] at found
      exact absurd (List.find?_eq_none.1 found m mem) (by simp)
    | some n =>
      obtain ⟨mem', same⟩ := Check.mem_of_findMessage? found
      rw [List.inj_on_of_nodup_map distinct mem' mem (same.trans relative)]

end FlagBinding.Schema

namespace FlagBinding

open Linked
open Options (Record)

/-- What a schema, in which code is wanted for some files, has of a file of a pool. -/
structure LoadedFile (p : Pool) (wanted : List String) (file : Linked.File Record)
    (loaded : Schema.File) :
    Prop where
  name : loaded.name = file.name
  package : loaded.package = file.package
  generate : loaded.generate ↔ file.name ∈ wanted
  messages : ∃ positions : List (List Nat), positions.Pairwise (· < ·) ∧
    (∀ pos, pos ∈ positions ↔ Listed file pos) ∧
    List.Forall₂ (fun pos m => ∃ chain, descend? file.messages pos = some chain ∧
      LoadedAs p file chain m)
      positions loaded.messages
  distinct : (loaded.messages.map (·.fullName)).Nodup

namespace Pool

theorem loadedFile_fileOf {p : Pool} (wanted : List String) {file : Linked.File Record}
    (mem : file ∈ p.files) : LoadedFile p wanted file (fileOf p wanted file) where
  name := rfl
  package := rfl
  generate := List.contains_iff_mem
  messages := by
    refine ⟨file.tour, Message.pairwise_lt_tourOfAll _ 0 _, fun _ => File.mem_tour_iff, ?_⟩
    have around :
        file.package = dotted (file.package :: List.map (·.name) ([] : List (Message Record))) :=
      (dotted_singleton _).symm
    have loads := loadedAmong_flatMap (p := p) around (fun _ => true) 0 file.messages
    rw [List.filter_true] at loads
    exact loads.imp fun _ _ among => among.exists_descend?
  distinct :=
    ((List.nodup_flatMap.1 p.distinct).1 file mem).sublist (fullName_fileOf_sublist wanted file)

/-- A schema has a file for every file of the pool, and in it a message for every position in that
file which is not at or under the entries of a map inside another message, in the order of a tour,
under the names of the messages on the way. All full names differ. A message is found by its own,
unless that begins with a dot. -/
theorem loadedFile_schema (p : Pool) (wanted : List String) :
    List.Forall₂ (LoadedFile p wanted) p.files (p.schema wanted).files ∧
      (Check.fullNames (p.schema wanted)).Nodup ∧
      ∀ m ∈ (p.schema wanted).messages, (p.schema wanted).findMessage? m.fullName = some m ↔
        m.fullName.toList.head? ≠ some '.' := by
  have distinct := nodup_fullNames_schema p wanted
  refine ⟨?_, distinct, fun m mem => Schema.findMessage?_fullName_eq_some_iff distinct mem⟩
  rw [Pool.schema, List.forall₂_map_right_iff, List.forall₂_same]
  exact fun file mem => loadedFile_fileOf wanted mem

/-- A file without a package. Entries of a map stand at its top, and inside a message others with a
message in them. The names of further messages are empty, or begin with a dot. -/
def strayFile : Linked.File Record where
  name := "stray.proto"
  package := ""
  edition := .proto3
  messages := [
    ⟨"Loose", true, [], [], []⟩,
    ⟨"Outer", false, [], [⟨"Entry", true, [], [⟨"Inner", false, [], [], []⟩], []⟩], []⟩,
    ⟨"", false, [], [⟨"Kept", false, [], [], []⟩], []⟩,
    ⟨".Hidden", false, [], [], []⟩]

def strayPool : Pool where
  files := [strayFile]
  extensions := []
  distinct := by decide

/-- It is not the entries of maps, and nothing else, that a schema leaves out. Full names are not
always made of all names on the way, and not every message is found by its own. -/
theorem not_loadedFile_stray :
    (∃ l ∈ strayFile.listing, l.2.isMapEntry ∧ l.1 ∈ Check.fullNames (strayPool.schema [])) ∧
      (∃ l ∈ strayFile.listing, l.2.isMapEntry = false ∧
        l.1 ∉ Check.fullNames (strayPool.schema [])) ∧
      (∃ m ∈ (strayPool.schema []).messages, m.fullName ≠ ".".intercalate m.path) ∧
      ∃ m ∈ (strayPool.schema []).messages,
        (strayPool.schema []).findMessage? m.fullName = none := by
  decide +kernel

end Pool

end FlagBinding
