import FlagBinding.Proofs.Checks.Search
import Mathlib.Data.List.Nodup

/-!
# Messages that nest themselves

The search from the messages for which code is wanted ends, and it fails exactly if it can come to a
message that nests itself, directly or through others. It then names such a message.

## Main definitions

* `Links`: the graph of the messages that nest each other.
* `Root`: the messages at which the search starts.
* `Circular`, `Unwinds`: a message on a cycle of the graph, and one below which there is none.
* `Searches`: the search as rules that know of no bound on its depth.

## Main statements

* `searches_visit`: the search obeys the rules, which fix its answer.
* `Searches.circular`: what a failing search names lies on a cycle below a message that it was
  given.
* `Ordered.unwinds`: below a message that has been put in order there is no cycle.
* `checkSchema_nesting`: what the search says about a schema whose messages pass their own checks.
-/

namespace FlagBinding.Check

open Schema Relation

/-! ## The graph -/

/-- A message that is found by its own name and whose flags are not disabled nests another such
one. -/
def Links (s : Schema) (m n : Message) : Prop :=
  target? s m.fullName = some m ∧ Nests s m n

/-- What the name of a message stands for, if code is wanted for the message. -/
def Root (s : Schema) (n : Message) : Prop :=
  ∃ m ∈ wantedMessages s, target? s m.fullName = some n

/-- A message that nests itself, directly or through others. -/
def Circular (s : Schema) (m : Message) : Prop :=
  TransGen (Links s) m m

/-- A message that nests no circular message and is none itself. -/
def Unwinds (s : Schema) (m : Message) : Prop :=
  ∀ n, ReflTransGen (Links s) m n → ¬ Circular s n

variable {s : Schema} {m n : Message} {name : String}

theorem links_of_mem (found : target? s name = some m) {t : String} (listed : t ∈ nestedNames m)
    (below : target? s t = some n) : Links s m n :=
  ⟨target?_fullName found, t, listed, below⟩

theorem unwinds_of_links (below : ∀ n, Links s m n → Unwinds s n) : Unwinds s m := by
  intro k reached cycle
  rcases ReflTransGen.cases_head reached with rfl | ⟨n, first, rest⟩
  · -- A cycle through `m` itself is also one below the first message on it.
    obtain ⟨n, first, rest⟩ := TransGen.head'_iff.1 cycle
    exact below n first m rest cycle
  · exact below n first k rest cycle

/-- A message from which a cycle is reached nests something. -/
theorem exists_links (reached : ReflTransGen (Links s) m n) (cycle : Circular s n) :
    ∃ k, Links s m k := by
  rcases ReflTransGen.cases_head reached with rfl | ⟨k, link, -⟩
  · obtain ⟨k, link, -⟩ := TransGen.head'_iff.1 cycle
    exact ⟨k, link⟩
  · exact ⟨k, link⟩

/-- If full names are distinct then the search starts at the messages whose full names are those for
which code is wanted, without the dots in front of them. -/
theorem root_iff (unique : (fullNames s).Nodup) : Root s n ↔ n ∈ s.messages ∧ n.disabled = false ∧
    ∃ m ∈ wantedMessages s, relativeName m.fullName = n.fullName := by
  constructor
  · rintro ⟨m, wanted, found⟩
    obtain ⟨look, enabled⟩ := target?_eq_some_iff.1 found
    obtain ⟨mem, name⟩ := mem_of_findMessage? look
    exact ⟨mem, enabled, m, wanted, name.symm⟩
  · rintro ⟨mem, enabled, m, wanted, name⟩
    refine ⟨m, wanted, target?_eq_some_iff.2 ⟨?_, enabled⟩⟩
    cases look : s.findMessage? m.fullName with
    | none =>
      have := List.find?_eq_none.1 look n mem
      simp [name] at this
    | some k =>
      obtain ⟨mem', name'⟩ := mem_of_findMessage? look
      rw [List.inj_on_of_nodup_map unique mem' mem (name'.trans name)]

/-- Where no name starts with a dot, these are the messages themselves for which code is wanted. -/
theorem root_iff_wanted (unique : (fullNames s).Nodup)
    (relative : ∀ m ∈ wantedMessages s, relativeName m.fullName = m.fullName) :
    Root s n ↔ n ∈ wantedMessages s ∧ n.disabled = false := by
  rw [root_iff unique]
  constructor
  · rintro ⟨mem, enabled, m, wanted, name⟩
    rw [relative m wanted] at name
    obtain rfl := List.inj_on_of_nodup_map unique (mem_messages_of_wanted wanted) mem name
    exact ⟨wanted, enabled⟩
  · rintro ⟨wanted, enabled⟩
    exact ⟨mem_messages_of_wanted wanted, enabled, n, wanted, relative n wanted⟩

/-- Below a message for which code is wanted is no cycle if there is none below those at which the
search starts. -/
theorem unwinds_of_wanted (roots : ∀ n, Root s n → Unwinds s n) (wanted : m ∈ wantedMessages s) :
    Unwinds s m := by
  intro k reached cycle
  obtain ⟨n, link⟩ := exists_links reached cycle
  exact roots m ⟨m, wanted, link.1⟩ k reached cycle

/-! ## The search without a bound -/

/-- The search for the names of a list, one after the other. `path` holds the messages around them
and `done` those whose search has ended. -/
inductive Searches (s : Schema) :
    List String → List String → List String → Except String (List String) → Prop
  | nil {path done : List String} : Searches s path done [] (.ok done)
  /-- No message has the name, or its flags are disabled. -/
  | skip {path done names : List String} {name : String} {r : Except String (List String)}
      (absent : target? s name = none) (rest : Searches s path done names r) :
      Searches s path done (name :: names) r
  /-- The message is around itself. -/
  | inside {path done names : List String} {name : String} {m : Message}
      (found : target? s name = some m) (on : name ∈ path) :
      Searches s path done (name :: names) (.error name)
  | known {path done names : List String} {name : String} {m : Message}
      {r : Except String (List String)} (found : target? s name = some m) (off : name ∉ path)
      (seen : name ∈ done) (rest : Searches s path done names r) :
      Searches s path done (name :: names) r
  | fail {path done names : List String} {name e : String} {m : Message}
      (found : target? s name = some m) (off : name ∉ path) (new : name ∉ done)
      (below : Searches s (name :: path) done (nestedNames m) (.error e)) :
      Searches s path done (name :: names) (.error e)
  | enter {path done inner names : List String} {name : String} {m : Message}
      {r : Except String (List String)} (found : target? s name = some m) (off : name ∉ path)
      (new : name ∉ done) (below : Searches s (name :: path) done (nestedNames m) (.ok inner))
      (rest : Searches s path (name :: inner) names r) : Searches s path done (name :: names) r

variable {path done names : List String} {r r' : Except String (List String)}

/-- The rules fix the answer. -/
theorem Searches.unique (h : Searches s path done names r) (h' : Searches s path done names r') :
    r = r' := by
  induction h generalizing r' with
  | nil => cases h'; rfl
  | skip absent _ ih => cases h' <;> grind
  | inside found on => cases h' <;> grind
  | known found off seen _ ih => cases h' <;> grind
  | fail found off new _ ih =>
    cases h' with
    | fail found' _ _ below' =>
      obtain rfl := Option.some.inj (found.symm.trans found')
      exact ih below'
    | enter found' _ _ below' _ =>
      obtain rfl := Option.some.inj (found.symm.trans found')
      cases ih below'
    | _ => grind
  | enter found off new _ _ ihBelow ihRest =>
    cases h' with
    | fail found' _ _ below' =>
      obtain rfl := Option.some.inj (found.symm.trans found')
      cases ihBelow below'
    | enter found' _ _ below' rest' =>
      obtain rfl := Option.some.inj (found.symm.trans found')
      obtain rfl := Except.ok.inj (ihBelow below')
      exact ihRest rest'
    | _ => grind

theorem searches_visit {depth : Nat} (deep : s.messages.length < depth + path.length)
    (distinct : path.Nodup) (onPath : path ⊆ fullNames s)
    (known : ∀ name ∈ names, (target? s name).isSome → name ∈ fullNames s) :
    Searches s path done names (names.foldlM (visit s depth path) done) := by
  induction depth generalizing path done names with
  | zero =>
    -- The path cannot be that long: its names are distinct.
    have := length_le_of_nodup distinct onPath
    omega
  | succ depth ih =>
    induction names generalizing done with
    | nil => exact .nil
    | cons name names ihNames =>
      rw [List.forall_mem_cons] at known
      have rest := fun done => @ihNames done known.2
      rw [List.foldlM_cons, visit_succ]
      cases found : target? s name with
      | none => exact .skip found (rest done)
      | some m =>
        by_cases on : name ∈ path
        · simp only [List.contains_eq_mem, on]
          exact .inside found on
        by_cases seen : name ∈ done
        · simp only [List.contains_eq_mem, on, seen]
          exact .known found on seen (rest done)
        have here : name ∈ fullNames s := known.1 (by simp [found])
        have below : Searches s (name :: path) done (nestedNames m)
            ((nestedNames m).foldlM (visit s depth (name :: path)) done) := by
          refine ih ?_ (List.nodup_cons.2 ⟨on, distinct⟩) (List.cons_subset.2 ⟨here, onPath⟩) ?_
          · rw [List.length_cons]; omega
          · intro t ht some
            obtain ⟨n, hn⟩ := Option.isSome_iff_exists.1 some
            exact fullName_of_mem_nestedNames ht hn ▸ fullName_mem_fullNames hn
        simp only [List.contains_eq_mem, on, seen]
        cases inner : (nestedNames m).foldlM (visit s depth (name :: path)) done with
        | error e => exact .fail found on seen (inner ▸ below)
        | ok inner' => exact .enter found on seen (inner ▸ below) (rest (name :: inner'))

/-- What a failing search names lies on a cycle below a message that it was given, if the messages
around the search come to all messages that it was given. -/
theorem Searches.circular {e : String} (h : Searches s path done names (.error e))
    (relative : path ≠ [] → ∀ name ∈ names, relativeName name = name)
    (around : ∀ name ∈ names, ∀ n, target? s name = some n →
      ∀ p ∈ path, ∃ m, target? s p = some m ∧ TransGen (Links s) m n) :
    ∃ m, m.fullName = e ∧ Circular s m ∧
      ∃ name ∈ names, ∃ n, target? s name = some n ∧ ReflTransGen (Links s) n m := by
  generalize outcome : Except.error e = r at h
  induction h with
  | nil => cases outcome
  | skip _ _ ih | known _ _ _ _ ih | enter _ _ _ _ _ _ ih =>
    obtain ⟨m, named, cycle, t, ht, n, hn, reached⟩ := ih
      (fun inner t ht => relative inner t (List.mem_cons_of_mem _ ht))
      (fun t ht => around t (List.mem_cons_of_mem _ ht)) outcome
    exact ⟨m, named, cycle, t, List.mem_cons_of_mem _ ht, n, hn, reached⟩
  | @inside path done names name m found on =>
    obtain rfl := Except.error.inj outcome
    obtain ⟨m', found', cycle⟩ := around e (by simp) m found e on
    obtain rfl := Option.some.inj (found.symm.trans found')
    have named : m.fullName = e := by
      rw [(mem_of_findMessage? (target?_eq_some_iff.1 found).1).2]
      exact relative (List.ne_nil_of_mem on) e (by simp)
    exact ⟨m, named, cycle, e, by simp, m, found, .refl⟩
  | @fail path done names name e' m found off new below ih =>
    have around' : ∀ t ∈ nestedNames m, ∀ n, target? s t = some n →
        ∀ p ∈ name :: path, ∃ m, target? s p = some m ∧ TransGen (Links s) m n := by
      intro t ht n hn p hp
      have step : Links s m n := links_of_mem found ht hn
      rcases List.mem_cons.1 hp with rfl | hp
      · exact ⟨m, found, .single step⟩
      · obtain ⟨k, hk, reached⟩ := around name (by simp) m found p hp
        exact ⟨k, hk, reached.tail step⟩
    obtain ⟨k, named, cycle, t, ht, n, hn, reached⟩ :=
      ih (fun _ t => relativeName_of_mem_nestedNames) around' outcome
    exact ⟨k, named, cycle, name, by simp, m, found, .head (links_of_mem found ht hn) reached⟩

/-- Below a message that has been put in order there is no cycle. -/
theorem Ordered.unwinds {done : List String} (h : Ordered s done) :
    ∀ name ∈ done, ∀ m, target? s name = some m → Unwinds s m := by
  induction h with
  | nil => simp
  | @cons name m done fresh known found nested rest ih =>
    intro t ht n hn
    rcases List.mem_cons.1 ht with rfl | ht
    · obtain rfl := Option.some.inj (found.symm.trans hn)
      refine unwinds_of_links fun k link => ?_
      obtain ⟨-, t, listed, below⟩ := link
      exact ih t (nested t listed (by simp [below])) k below
    · exact ih t ht n hn

/-! ## Schemas -/

def wantedNames (s : Schema) : List String :=
  (wantedMessages s).map (·.fullName)

/-- What the answer of the search says about a schema. -/
def verdict (r : Except String (List String)) : Except CompileError Unit :=
  (r.mapError CompileError.recursion).map fun _ => ()

theorem checkNesting_eq (s : Schema) :
    checkNesting s = verdict ((wantedNames s).foldlM (visit s (depthBound s) []) []) := by
  rw [checkNesting, wantedNames, List.foldlM_map]
  split <;> simp_all [verdict, Except.map]

theorem searches_wanted (s : Schema) : Searches s [] [] (wantedNames s)
    ((wantedNames s).foldlM (visit s (depthBound s) []) []) := by
  refine searches_visit (by simp [depthBound]) List.nodup_nil (List.nil_subset _)
    fun name mem _ => ?_
  obtain ⟨m, hm, rfl⟩ := List.mem_map.1 mem
  exact List.mem_map_of_mem (mem_messages_of_wanted hm)

theorem unwinds_of_checkNesting (ok : checkNesting s = .ok ()) (root : Root s n) : Unwinds s n := by
  obtain ⟨done, ordered, reached⟩ := exists_ordered_of_checkNesting ok
  obtain ⟨m, wanted, found⟩ := root
  exact ordered.unwinds m.fullName (reached m wanted (by simp [found])) n found

theorem circular_of_checkNesting {e : CompileError} (refused : checkNesting s = .error e) :
    ∃ m, e = .recursion m.fullName ∧ Circular s m ∧ ∃ n, Root s n ∧ ReflTransGen (Links s) n m := by
  have search := searches_wanted s
  rw [checkNesting_eq, verdict] at refused
  cases answer : (wantedNames s).foldlM (visit s (depthBound s) []) [] with
  | ok done => simp [answer, Except.map] at refused
  | error name =>
    obtain rfl : .recursion name = e := by
      simpa [answer, Except.map] using refused
    rw [answer] at search
    obtain ⟨m, rfl, cycle, t, ht, n, hn, reached⟩ := search.circular (by simp) (by simp)
    obtain ⟨w, wanted, rfl⟩ := List.mem_map.1 ht
    exact ⟨m, rfl, cycle, n, ⟨w, wanted, hn⟩, reached⟩

/-- If the messages of a schema pass their own checks then its search has one answer, by rules that
know of no bound. The schema is accepted if and only if no cycle can be reached from the messages at
which the search starts, and it is refused in the name of a message on such a cycle. Where full
names are distinct, the search starts at what they stand for without the dots in front of them: at
the messages themselves for which code is wanted, unless one has a name that starts with a dot. In
any case there is no cycle below these if the schema is accepted. -/
theorem checkSchema_nesting (s : Schema)
    (passed : ∀ m ∈ wantedMessages s, (checkMessage s m).result = .ok ()) :
    (∃ r, Searches s [] [] (wantedNames s) r ∧
      (∀ r', Searches s [] [] (wantedNames s) r' → r' = r) ∧
      (checkSchema s).result = verdict r) ∧
    ((checkSchema s).result = .ok () ↔ ∀ m, Root s m → Unwinds s m) ∧
    (∀ e, (checkSchema s).result = .error e →
      ∃ m, e = .recursion m.fullName ∧ Circular s m ∧ ∃ n, Root s n ∧ ReflTransGen (Links s) n m) ∧
    ((checkSchema s).result = .ok () → ∀ m ∈ wantedMessages s, Unwinds s m) ∧
    ((fullNames s).Nodup →
      (∀ n, Root s n ↔ n ∈ s.messages ∧ n.disabled = false ∧
        ∃ m ∈ wantedMessages s, relativeName m.fullName = n.fullName) ∧
      ((∀ m ∈ wantedMessages s, relativeName m.fullName = m.fullName) →
        (∀ m, Root s m ↔ m ∈ wantedMessages s ∧ m.disabled = false) ∧
        ((checkSchema s).result = .ok () ↔ ∀ m ∈ wantedMessages s, Unwinds s m))) := by
  have outcome : (checkSchema s).result = checkNesting s := by
    rw [checkSchema, Journaled.result_bind, checkMessages_ok_iff.2 passed]
    rfl
  have accepted : (checkSchema s).result = .ok () ↔ ∀ m, Root s m → Unwinds s m := by
    rw [outcome]
    refine ⟨fun ok m => unwinds_of_checkNesting ok, fun unwinds => ?_⟩
    cases answer : checkNesting s with
    | ok => rfl
    | error e =>
      obtain ⟨m, -, cycle, n, root, reached⟩ := circular_of_checkNesting answer
      exact absurd cycle (unwinds n root m reached)
  have wanted (ok : (checkSchema s).result = .ok ()) : ∀ m ∈ wantedMessages s, Unwinds s m :=
    fun m mem => unwinds_of_wanted (accepted.1 ok) mem
  refine ⟨⟨_, searches_wanted s, fun r' h => h.unique (searches_wanted s), ?_⟩,
    accepted, ?_, wanted, fun unique => ⟨fun n => root_iff unique, fun relative => ?_⟩⟩
  · rw [outcome, checkNesting_eq]
  · rw [outcome]
    exact fun e => circular_of_checkNesting
  · refine ⟨fun m => root_iff_wanted unique relative, wanted,
      fun unwinds => accepted.2 fun m root => ?_⟩
    exact unwinds m ((root_iff_wanted unique relative).1 root).1

/-- A message that nests others. -/
def nesting (name : String) (targets : List String) : Message where
  name := name
  fullName := "demo." ++ name
  path := [name]
  disabled := false
  fields := targets.map fun target =>
    { name := target, number := 1, type := .message ⟨".demo." ++ target, none⟩,
      flags := some ⟨{}, .message true⟩ }

/-- Two ways lead from the message for which code is wanted to the last one. -/
def twoWays (last : List String) : Schema :=
  ⟨[⟨"top.proto", "demo", true, [nesting "Top" ["Left", "Right"]]⟩,
    ⟨"rest.proto", "demo", false,
      [nesting "Left" ["Leaf"], nesting "Right" ["Leaf"], nesting "Leaf" last]⟩]⟩

theorem checkSchema_nesting_twoWays :
    (∀ m ∈ wantedMessages (twoWays []), (checkMessage (twoWays []) m).result = .ok ()) ∧
      (∀ m, Root (twoWays []) m → Unwinds (twoWays []) m) ∧
      (∀ m ∈ wantedMessages (twoWays ["Right"]),
        (checkMessage (twoWays ["Right"]) m).result = .ok ()) ∧
      ∃ m, m.fullName = "demo.Leaf" ∧ Circular (twoWays ["Right"]) m := by
  have passed : ∀ last ∈ [[], ["Right"]], ∀ m ∈ wantedMessages (twoWays last),
      (checkMessage (twoWays last) m).result = .ok () := by decide +kernel
  obtain ⟨-, accepted, -⟩ := checkSchema_nesting (twoWays []) (passed [] (by simp))
  obtain ⟨-, -, refused, -⟩ := checkSchema_nesting (twoWays ["Right"]) (passed ["Right"] (by simp))
  refine ⟨passed [] (by simp), accepted.1 (by decide +kernel), passed ["Right"] (by simp), ?_⟩
  obtain ⟨m, name, cycle, -⟩ := refused (.recursion "demo.Leaf") (by decide +kernel)
  exact ⟨m, by simpa using name.symm, cycle⟩

/-- Code is wanted for a message without fields. Its name starts with a dot, and without that it is
the name of another message, which nests itself. -/
def dotted : Schema :=
  ⟨[⟨"top.proto", ".demo", true, [{ nesting "Leaf" [] with fullName := ".demo.Leaf" }]⟩,
    ⟨"rest.proto", "demo", false, [nesting "Leaf" ["Leaf"]]⟩]⟩

/-- The search goes from the name that starts with a dot to the other message, and refuses a schema
in which no cycle can be reached from the messages for which code is wanted. -/
theorem not_checkSchema_nesting_dotted :
    ¬ ∀ s : Schema, (fullNames s).Nodup → (∀ m ∈ s.messages, (checkMessage s m).result = .ok ()) →
      ((checkSchema s).result = .ok () ↔ ∀ m ∈ wantedMessages s, Unwinds s m) := by
  intro claim
  have refused : (checkSchema dotted).result = .error (.recursion "demo.Leaf") := by decide +kernel
  -- A message that its own name does not find has no place in the graph.
  have absent : ∀ m ∈ wantedMessages dotted, target? dotted m.fullName ≠ some m := by decide +kernel
  have unwinds : ∀ m ∈ wantedMessages dotted, Unwinds dotted m := by
    intro m wanted n reached cycle
    obtain ⟨k, link⟩ := exists_links reached cycle
    exact absent m wanted link.1
  have accepted := (claim dotted (by decide +kernel) (by decide +kernel)).2 unwinds
  rw [refused] at accepted
  contradiction

end FlagBinding.Check
