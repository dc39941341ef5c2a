import FlagBinding.Proofs.Checks.Accepted
import Mathlib.Data.List.Basic
import Mathlib.Data.List.Perm.Subperm
import Mathlib.Logic.Relation

/-!
# The search for nested messages

The search lists every message after the messages that it nests, so its list orders the messages
that it has seen. The messages on the way to the one being searched are distinct, so the search is
never cut short by its bound.

## Main definitions

* `target?`: the message that a name stands for, if flags are bound to it.
* `Nests`: one message nests another.
* `Ordered`: a list in which the messages nested by any of them come later.

## Main statements

* `exists_ordered_of_checkNesting`: a search that finds no message inside itself has put all
  messages for which code is wanted in order.
-/

namespace FlagBinding.Check

open Schema

/-- The message that a name stands for, unless its flags are disabled. -/
def target? (s : Schema) (name : String) : Option Message :=
  (s.findMessage? name).filter fun m => !m.disabled

/-- A field of `m` nests the message `n`. -/
def Nests (s : Schema) (m n : Message) : Prop :=
  ∃ name ∈ nestedNames m, target? s name = some n

def fullNames (s : Schema) : List String :=
  s.messages.map (·.fullName)

theorem mem_messages_of_wanted {s : Schema} {m : Message} (wanted : m ∈ wantedMessages s) :
    m ∈ s.messages := by
  simp only [wantedMessages, Schema.wanted, List.mem_flatMap, List.mem_filter] at wanted
  obtain ⟨file, ⟨hf, -⟩, hm⟩ := wanted
  exact List.mem_flatMap.2 ⟨file, hf, hm⟩

theorem relativeName_idem (name : String) :
    relativeName (relativeName name) = relativeName name := by
  simp [relativeName, Text.trimStart_idem]

theorem findMessage?_relativeName (s : Schema) (name : String) :
    s.findMessage? (relativeName name) = s.findMessage? name := by
  rw [Schema.findMessage?, Schema.findMessage?, relativeName_idem]

theorem mem_of_findMessage? {s : Schema} {name : String} {m : Message}
    (found : s.findMessage? name = some m) : m ∈ s.messages ∧ m.fullName = relativeName name :=
  ⟨List.mem_of_find?_eq_some found, by simpa using List.find?_some found⟩

theorem target?_eq_some_iff {s : Schema} {name : String} {m : Message} :
    target? s name = some m ↔ s.findMessage? name = some m ∧ m.disabled = false := by
  simp [target?, Option.filter_eq_some_iff]

/-- What a message nests is found again by its own name. -/
theorem target?_fullName {s : Schema} {name : String} {m : Message}
    (found : target? s name = some m) : target? s m.fullName = some m := by
  rw [target?_eq_some_iff] at found ⊢
  rw [(mem_of_findMessage? found.1).2, findMessage?_relativeName]
  exact found

theorem relativeName_of_mem_nestedNames {m : Message} {name : String}
    (mem : name ∈ nestedNames m) : relativeName name = name := by
  obtain ⟨f, -, hf⟩ := List.mem_filterMap.1 mem
  obtain ⟨target, -, rfl⟩ := Option.map_eq_some_iff.1 hf
  exact relativeName_idem target

/-- The name under which a message is nested is its full name. -/
theorem fullName_of_mem_nestedNames {s : Schema} {m n : Message} {name : String}
    (mem : name ∈ nestedNames m) (found : target? s name = some n) : n.fullName = name := by
  rw [(mem_of_findMessage? (target?_eq_some_iff.1 found).1).2]
  exact relativeName_of_mem_nestedNames mem

theorem fullName_mem_fullNames {s : Schema} {name : String} {m : Message}
    (found : target? s name = some m) : m.fullName ∈ fullNames s :=
  List.mem_map_of_mem (mem_of_findMessage? (target?_eq_some_iff.1 found).1).1

/-! ## The order of a search -/

/-- A list of names without repetition in which the messages that one of them nests come later. -/
inductive Ordered (s : Schema) : List String → Prop
  | nil : Ordered s []
  | cons {name : String} {m : Message} {done : List String} (fresh : name ∉ done)
      (known : name ∈ fullNames s) (found : target? s name = some m)
      (nested : ∀ t ∈ nestedNames m, (target? s t).isSome → t ∈ done) :
      Ordered s done → Ordered s (name :: done)

theorem Ordered.nodup {s : Schema} {done : List String} (h : Ordered s done) : done.Nodup := by
  induction h with
  | nil => exact List.nodup_nil
  | cons fresh _ _ _ _ ih => exact List.nodup_cons.2 ⟨fresh, ih⟩

theorem Ordered.subset {s : Schema} {done : List String} (h : Ordered s done) :
    done ⊆ fullNames s := by
  induction h with
  | nil => exact List.nil_subset _
  | cons _ known _ _ _ ih => exact List.cons_subset.2 ⟨known, ih⟩

theorem length_le_of_nodup {s : Schema} {names : List String} (nodup : names.Nodup)
    (known : names ⊆ fullNames s) : names.length ≤ s.messages.length := by
  have := (nodup.subperm known).length_le
  rwa [fullNames, List.length_map] at this

/-- What a search adds to the names that were done before it: nothing that lies on its path. -/
structure Extends (s : Schema) (path done done' : List String) : Prop where
  ordered : Ordered s done'
  grows : done ⊆ done'
  avoids : ∀ x ∈ done', x ∈ done ∨ x ∉ path

theorem Extends.refl {s : Schema} {path done : List String} (h : Ordered s done) :
    Extends s path done done :=
  ⟨h, List.Subset.refl _, fun _ hx => .inl hx⟩

theorem Extends.trans {s : Schema} {path a b c : List String} (h : Extends s path a b)
    (g : Extends s path b c) : Extends s path a c :=
  ⟨g.ordered, List.Subset.trans h.grows g.grows, fun x hx => (g.avoids x hx).elim (h.avoids x) .inr⟩

/-- The success of a search from `name`: it has been put in order, if it is a message to search. -/
structure Searched (s : Schema) (path done : List String) (name : String) (done' : List String) :
    Prop extends Extends s path done done' where
  reached : (target? s name).isSome → name ∈ done'

theorem foldlM_searched {s : Schema} {path names : List String}
    {search : List String → String → Except String (List String)}
    (spec : ∀ name ∈ names, ∀ done done', Ordered s done → search done name = .ok done' →
      Searched s path done name done')
    {done done' : List String} (ordered : Ordered s done)
    (ok : names.foldlM search done = .ok done') :
    Extends s path done done' ∧ ∀ name ∈ names, (target? s name).isSome → name ∈ done' := by
  induction names generalizing done with
  | nil =>
    obtain rfl : done = done' := by simpa [pure, Except.pure] using ok
    exact ⟨.refl ordered, by simp⟩
  | cons name names ih =>
    rw [List.foldlM_cons, bind_ok_iff] at ok
    obtain ⟨mid, first, rest⟩ := ok
    have head := spec name (by simp) done mid ordered first
    have ⟨tail, reached⟩ := ih (fun n hn => spec n (by simp [hn])) head.ordered rest
    refine ⟨head.toExtends.trans tail, fun n hn target => ?_⟩
    rcases List.mem_cons.1 hn with rfl | hn
    · exact tail.grows (head.reached target)
    · exact reached n hn target

/-- A step of the search, with the cases that it tells apart. -/
theorem visit_succ (s : Schema) (depth : Nat) (path done : List String) (name : String) :
    visit s (depth + 1) path done name =
      match target? s name with
      | none => .ok done
      | some m =>
        if path.contains name then .error name
        else if done.contains name then .ok done
        else do
          let done ← (nestedNames m).foldlM
            (fun done target => visit s depth (name :: path) done target) done
          return name :: done := by
  rw [visit, target?]
  cases s.findMessage? name with
  | none => rfl
  | some m => cases h : m.disabled <;> simp [h, Option.filter]

/-- What a successful step of the search has done: nothing, for a name that is no message to search
or that is done, or it has searched what the message nests and then put the message first. -/
theorem visit_cases {s : Schema} {depth : Nat} {path done done' : List String} {name : String}
    (ok : visit s (depth + 1) path done name = .ok done') :
    (target? s name = none ∧ done' = done) ∨ (name ∈ done ∧ done' = done) ∨
      ∃ m inner, target? s name = some m ∧ name ∉ path ∧ name ∉ done ∧
        (nestedNames m).foldlM (visit s depth (name :: path)) done = .ok inner ∧
        done' = name :: inner := by
  rw [visit_succ] at ok
  split at ok
  case h_1 none => exact .inl ⟨none, by simpa using ok.symm⟩
  case h_2 m found =>
    split at ok
    case isTrue => simp at ok
    case isFalse off =>
      split at ok
      case isTrue seen => exact .inr (.inl ⟨by simpa using seen, by simpa using ok.symm⟩)
      case isFalse new =>
        obtain ⟨inner, below, last⟩ := bind_ok_iff.1 ok
        have put : done' = name :: inner := by simpa [pure, Except.pure] using last.symm
        exact .inr (.inr ⟨m, inner, found, by simpa using off, by simpa using new, below, put⟩)

/-- After the search below a message, the message itself is put first. -/
theorem Extends.put {s : Schema} {path done inner : List String} {name : String} {m : Message}
    (h : Extends s (name :: path) done inner) (off : name ∉ path) (new : name ∉ done)
    (known : name ∈ fullNames s) (found : target? s name = some m)
    (nested : ∀ t ∈ nestedNames m, (target? s t).isSome → t ∈ inner) :
    Extends s path done (name :: inner) where
  ordered := by
    have fresh : name ∉ inner := fun mem => (h.avoids name mem).elim new (by simp)
    exact .cons fresh known found nested h.ordered
  grows _ hx := List.mem_cons_of_mem _ (h.grows hx)
  avoids x hx := by
    rcases List.mem_cons.1 hx with rfl | hx
    · exact .inr off
    · exact (h.avoids x hx).imp_right fun away path => away (List.mem_cons_of_mem _ path)

theorem visit_searched {s : Schema} {depth : Nat} {path done done' : List String} {name : String}
    (deep : s.messages.length < depth + path.length) (distinct : path.Nodup)
    (onPath : path ⊆ fullNames s) (known : (target? s name).isSome → name ∈ fullNames s)
    (ordered : Ordered s done) (ok : visit s depth path done name = .ok done') :
    Searched s path done name done' := by
  induction depth generalizing path done done' name with
  | zero =>
    -- The path cannot be that long: its names are distinct.
    have := length_le_of_nodup distinct onPath
    omega
  | succ depth ih =>
    obtain ⟨none, rfl⟩ | ⟨seen, rfl⟩ | ⟨m, inner, found, off, new, below, rfl⟩ := visit_cases ok
    · exact ⟨.refl ordered, by simp [none]⟩
    · exact ⟨.refl ordered, fun _ => seen⟩
    · have here : name ∈ fullNames s := known (by simp [found])
      have spec : ∀ t ∈ nestedNames m, ∀ done done', Ordered s done →
          visit s depth (name :: path) done t = .ok done' →
          Searched s (name :: path) done t done' := by
        intro t ht done done' h step
        refine ih ?_ (List.nodup_cons.2 ⟨off, distinct⟩)
          (List.cons_subset.2 ⟨here, onPath⟩) ?_ h step
        · rw [List.length_cons]; omega
        · intro some
          obtain ⟨n, hn⟩ := Option.isSome_iff_exists.1 some
          exact fullName_of_mem_nestedNames ht hn ▸ fullName_mem_fullNames hn
      obtain ⟨extended, reached⟩ := foldlM_searched spec ordered below
      exact ⟨extended.put off new here found reached, fun _ => by simp⟩

/-- A search that finds no message inside itself has put in order all messages for which code is
wanted. -/
theorem exists_ordered_of_checkNesting {s : Schema} (ok : checkNesting s = .ok ()) :
    ∃ done, Ordered s done ∧
      ∀ m ∈ wantedMessages s, (target? s m.fullName).isSome → m.fullName ∈ done := by
  unfold checkNesting at ok
  split at ok
  case h_1 => simp at ok
  case h_2 done search =>
    rw [← List.foldlM_map (f := fun m : Message => m.fullName)
      (g := fun done name => visit s (depthBound s) [] done name)] at search
    have spec : ∀ name ∈ (wantedMessages s).map (·.fullName), ∀ done done', Ordered s done →
        visit s (depthBound s) [] done name = .ok done' → Searched s [] done name done' := by
      intro name hn done done' h step
      obtain ⟨m, hm, rfl⟩ := List.mem_map.1 hn
      exact visit_searched (by simp [depthBound]) List.nodup_nil (List.nil_subset _)
        (fun _ => List.mem_map_of_mem (mem_messages_of_wanted hm)) h step
    obtain ⟨extended, reached⟩ := foldlM_searched spec .nil search
    exact ⟨done, extended.ordered, fun m hm => reached m.fullName (List.mem_map_of_mem hm)⟩

end FlagBinding.Check
