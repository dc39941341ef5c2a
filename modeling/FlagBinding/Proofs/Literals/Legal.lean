import FlagBinding.Proofs.Literals.Layout
import FlagBinding.Proofs.Literals.Plain

/-!
# The literals of legal code

Code is brought to its legal form before it is laid out. Only paths, positions and comments change,
so it has the same literals then.

## Main statements

* `isPlain_canonicalPath?`, `isPlain_canonicalMember?`: legal names are plain if the names are.
* `Expr.Has.canonical`, `Impl.Has.canonical`: the legal form of code has the literals of the code.
-/

namespace FlagBinding.Target

open Text Number

variable {found : List Literal}

/-! ## Names -/

theorem mem_of_mem_segments {l piece : List Char} {c : Char} (mem : piece ∈ segments l)
    (here : c ∈ piece) : c ∈ l := by
  fun_induction segments l generalizing piece <;> grind

theorem isPlain_canonicalPath? {path path' : String} (plain : IsPlain path)
    (legal : canonicalPath? path = some path') : IsPlain path' := by
  simp only [canonicalPath?] at legal
  obtain ⟨-, same⟩ := Option.ite_none_right_eq_some.1 legal
  rw [← Option.some.inj same]
  refine isPlain_join (by decide) fun t mem c here => ?_
  obtain ⟨piece, cut, rfl⟩ := List.mem_map.1 mem
  obtain ⟨before, after, -, -, whole⟩ := exists_eq_append_trim isBlank piece
  refine plain c (mem_of_mem_segments cut ?_)
  rw [trimBlanks, String.toList_ofList, String.toList_ofList] at here
  rw [whole]
  simp [here]

theorem isPlain_canonicalMember? {name name' : String} (plain : IsPlain name)
    (legal : canonicalMember? name = some name') : IsPlain name' := by
  rw [canonicalMember?] at legal
  split at legal
  · exact Option.some.inj legal ▸ plain
  · obtain ⟨n, -, rfl⟩ := Option.map_eq_some_iff.1 legal
    exact isPlain_decimalNat n

/-! ## Code -/

section Bind

variable {α β γ : Type} {x : Option α} {y : Option β}

theorem eq_some_of_bind {f : α → γ} {c : γ} (h : (do return f (← x)) = some c) :
    ∃ a, x = some a ∧ f a = c := by
  simpa [Option.bind_eq_some_iff] using h

theorem eq_some_of_bind₂ {f : α → β → γ} {c : γ} (h : (do return f (← x) (← y)) = some c) :
    ∃ a b, x = some a ∧ y = some b ∧ f a b = c := by
  simpa [Option.bind_eq_some_iff] using h

end Bind

mutual

theorem Expr.Has.canonical {e e' : Expr} {found : List Literal} (h : e.Has found)
    (legal : e.canonical? = some e') : e'.Has found :=
  match h with
  | .path plain => by
    simp only [Expr.canonical?, Option.map_eq_map, Option.map_eq_some_iff] at legal
    obtain ⟨path, legal, rfl⟩ := legal
    exact .path (isPlain_canonicalPath? plain legal)
  | .literal reads => by
    obtain rfl := Option.some.inj legal
    exact .literal reads
  | .field base plain => by
    obtain ⟨_, _, first, member, rfl⟩ := eq_some_of_bind₂ legal
    exact .field (base.canonical first) (isPlain_canonicalMember? plain member)
  | .call function args => by
    obtain ⟨_, _, first, rest, rfl⟩ := eq_some_of_bind₂ legal
    exact .call (function.canonical first) (args.canonical rest)
  | .method receiver plain args => by
    obtain ⟨_, _, first, rest, rfl⟩ := eq_some_of_bind₂ legal
    exact .method (receiver.canonical first) plain (args.canonical rest)
  | .borrow e => by
    obtain ⟨_, first, rfl⟩ := eq_some_of_bind legal
    exact .borrow (e.canonical first)
  | .tuple elements => by
    obtain ⟨_, rest, rfl⟩ := eq_some_of_bind legal
    exact .tuple (elements.canonical rest)
  | .array elements => by
    obtain ⟨_, rest, rfl⟩ := eq_some_of_bind legal
    exact .array (elements.canonical rest)
  | .propagate e => by
    obtain ⟨_, first, rfl⟩ := eq_some_of_bind legal
    exact .propagate (e.canonical first)

theorem Expr.HasAll.canonical {es es' : List Expr} {found : List Literal} (h : Expr.HasAll es found)
    (legal : Expr.canonicalAll? es = some es') : Expr.HasAll es' found :=
  match h with
  | .nil => by
    obtain rfl := Option.some.inj legal
    exact .nil
  | .cons e rest => by
    obtain ⟨_, _, first, more, rfl⟩ := eq_some_of_bind₂ legal
    exact .cons (e.canonical first) (rest.canonical more)

end

mutual

theorem Stmt.Has.canonical {s s' : Stmt} {found : List Literal} (h : s.Has found)
    (legal : s.canonical? = some s') : s'.Has found :=
  match h with
  | .define plain value => by
    obtain ⟨_, first, rfl⟩ := eq_some_of_bind legal
    exact .define plain (value.canonical first)
  | .run e => by
    obtain ⟨_, first, rfl⟩ := eq_some_of_bind legal
    exact .run (e.canonical first)
  | .assign target value => by
    obtain ⟨_, _, first, second, rfl⟩ := eq_some_of_bind₂ legal
    exact .assign (target.canonical first) (value.canonical second)
  | .block body => by
    obtain ⟨_, rest, rfl⟩ := eq_some_of_bind legal
    exact .block (body.canonical rest)
  | .answer e => by
    obtain ⟨_, first, rfl⟩ := eq_some_of_bind legal
    exact .answer (e.canonical first)

theorem Stmt.HasAll.canonical {stmts stmts' : List Stmt} {found : List Literal}
    (h : Stmt.HasAll stmts found) (legal : Stmt.canonicalAll? stmts = some stmts') :
    Stmt.HasAll stmts' found :=
  match h with
  | .nil => by
    obtain rfl := Option.some.inj legal
    exact .nil
  | .cons s rest => by
    obtain ⟨_, _, first, more, rfl⟩ := eq_some_of_bind₂ legal
    exact .cons (s.canonical first) (rest.canonical more)

end

mutual

theorem TypeExpr.IsBare.canonical {type type' : TypeExpr} (h : type.IsBare)
    (legal : type.canonical? = some type') : type'.IsBare :=
  match h with
  | .lifetime reads => by
    obtain rfl := Option.some.inj legal
    exact .lifetime reads
  | .path plain args => by
    obtain ⟨_, _, path, rest, rfl⟩ := eq_some_of_bind₂ legal
    exact .path (isPlain_canonicalPath? plain path) (args.canonical rest)
  | .borrow type => by
    obtain ⟨_, first, rfl⟩ := eq_some_of_bind legal
    exact .borrow (type.canonical first)
  | .unit => by
    obtain rfl := Option.some.inj legal
    exact .unit

theorem TypeExpr.AreBare.canonical {types types' : List TypeExpr} (h : TypeExpr.AreBare types)
    (legal : TypeExpr.canonicalAll? types = some types') : TypeExpr.AreBare types' :=
  match h with
  | .nil => by
    obtain rfl := Option.some.inj legal
    exact .nil
  | .cons type rest => by
    obtain ⟨_, _, first, more, rfl⟩ := eq_some_of_bind₂ legal
    exact .cons (type.canonical first) (rest.canonical more)

end

theorem isLine_canonicalDoc? {doc doc' : String} (legal : canonicalDoc? doc = some doc') :
    IsLine doc' := by
  unfold canonicalDoc? at legal
  split at legal
  case isTrue => cases legal
  case isFalse single =>
    obtain rfl := Option.some.inj legal
    intro c mem
    obtain ⟨after, -, whole⟩ := exists_eq_trimEnd_append (· == ' ') doc.toList
    rw [String.toList_ofList] at mem
    have inside : c ∈ doc.toList := by
      rw [whole]
      exact List.mem_append_left _ mem
    simp only [List.any_eq_true, not_exists, not_and, Bool.or_eq_true, beq_iff_eq, not_or] at single
    exact single c inside

section MapM

variable {α β : Type} {f : α → Option β} {l : List α} {l' : List β}

theorem forall₂_of_mapM (h : l.mapM f = some l') : List.Forall₂ (fun a b => f a = some b) l l' := by
  induction l generalizing l' with
  | nil =>
    obtain rfl := Option.some.inj h
    exact .nil
  | cons a l ih =>
    rw [List.mapM_cons] at h
    obtain ⟨b, rest, first, more, rfl⟩ := eq_some_of_bind₂ h
    exact .cons first (ih more)

theorem exists_of_mapM (h : l.mapM f = some l') : ∀ b ∈ l', ∃ a ∈ l, f a = some b := by
  have pairs := forall₂_of_mapM h
  clear h
  induction pairs with
  | nil => simp
  | cons first _ ih => grind

end MapM

theorem Method.Has.canonical {m m' : Method} (h : m.Has found) (legal : m.canonical? = some m') :
    m'.Has found := by
  simp only [Method.canonical?, Option.bind_eq_bind, Option.bind_eq_some_iff,
    Option.pure_def] at legal
  obtain ⟨docs, legalDocs, params, legalParams, legal⟩ := legal
  obtain ⟨result, body, bare, legalBody, rfl⟩ : ∃ result body,
      (∀ type, result = some type → type.IsBare) ∧
      Stmt.canonicalAll? m.body = some body ∧ { m with docs, params, result, body } = m' := by
    cases answer : m.result with
    | none =>
      simp only [answer, Option.bind_some, Option.bind_eq_some_iff, Option.some.injEq] at legal
      obtain ⟨body, legalBody, same⟩ := legal
      exact ⟨none, body, by simp, legalBody, same⟩
    | some type =>
      simp only [answer, Option.map_eq_map, Option.bind_eq_some_iff, Option.map_eq_some_iff,
        Option.some.injEq] at legal
      obtain ⟨_, ⟨type', legal, rfl⟩, body, legalBody, same⟩ := legal
      refine ⟨some type', body, fun _ other => ?_, legalBody, same⟩
      obtain rfl := Option.some.inj other
      exact (h.result type answer).canonical legal
  exact {
    docs := fun doc mem => by
      obtain ⟨_, -, legal⟩ := exists_of_mapM legalDocs doc mem
      exact isLine_canonicalDoc? legal
    attributes := h.attributes
    name := h.name
    lifetimes := h.lifetimes
    receiver := h.receiver
    params := fun p mem => by
      obtain ⟨q, listed, legal⟩ := exists_of_mapM legalParams p mem
      simp only [Option.bind_eq_some_iff, Option.some.injEq] at legal
      obtain ⟨type, legal, rfl⟩ := legal
      exact ⟨(h.params q listed).1, (h.params q listed).2.canonical legal⟩
    result := bare
    body := h.body.canonical legalBody }

/-- The legal form of an implementation has the literals of the implementation. -/
theorem Impl.Has.canonical {i i' : Impl} (h : i.Has found) (legal : i.canonical? = some i') :
    i'.Has found := by
  simp only [Impl.canonical?, Option.bind_eq_bind, Option.bind_eq_some_iff, Option.pure_def,
    Option.some.injEq] at legal
  obtain ⟨_, trait, _, type, _, method, rfl⟩ := legal
  exact ⟨isPlain_canonicalPath? h.trait trait, isPlain_canonicalPath? h.type type,
    h.method.canonical method⟩

/-- The legal forms of implementations have their literals. -/
theorem has_of_mapM {impls impls' : List Impl} {founds : List (List Literal)}
    (has : List.Forall₂ Impl.Has impls founds) (legal : impls.mapM Impl.canonical? = some impls') :
    List.Forall₂ Impl.Has impls' founds := by
  have pairs := forall₂_of_mapM legal
  clear legal
  induction has generalizing impls' with
  | nil =>
    cases pairs
    exact .nil
  | cons first _ ih =>
    cases pairs with
    | cons legal rest => exact .cons (first.canonical legal) (ih rest)

end FlagBinding.Target
