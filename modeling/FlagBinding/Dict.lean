/-!
# Finite maps from texts

A map is a list of entries in strictly increasing order of their keys, so two maps are equal exactly
if they bind the same keys to the same values.

## Main definitions

* `Dict`: a finite map; `Dict.get?`, `Dict.insert`, `Dict.insertAll`.
* `Dict.ofList`: the map of a list of entries, of which the last one with a key counts.

## Main statements

* `Dict.get?_insert`: what an insertion does to a look-up.
* `Dict.ext_get?`: maps with the same look-ups are equal.
-/

namespace FlagBinding

/-- A finite map from texts. -/
structure Dict (α : Type) where
  entries : List (String × α)
  sorted : entries.Pairwise fun a b => a.1 < b.1

namespace Dict

variable {α : Type}

def empty : Dict α := ⟨[], .nil⟩

instance : EmptyCollection (Dict α) := ⟨empty⟩

instance : Inhabited (Dict α) := ⟨empty⟩

/-- The entries with one more, which takes the place of an entry with the same key. -/
def insertEntry (k : String) (v : α) : List (String × α) → List (String × α)
  | [] => [(k, v)]
  | e :: rest =>
    if k < e.1 then (k, v) :: e :: rest
    else if k = e.1 then (k, v) :: rest
    else e :: insertEntry k v rest

theorem mem_insertEntry {k : String} {v : α} {l : List (String × α)} {x : String × α}
    (h : x ∈ insertEntry k v l) : x = (k, v) ∨ x ∈ l := by
  induction l with
  | nil => simpa [insertEntry] using h
  | cons e rest ih =>
    simp only [insertEntry] at h
    split at h
    · simpa using h
    · split at h
      · rcases List.mem_cons.1 h with h | h
        · exact .inl h
        · exact .inr (List.mem_cons_of_mem _ h)
      · rcases List.mem_cons.1 h with h | h
        · exact .inr (h ▸ List.mem_cons_self)
        · exact (ih h).imp_right (List.mem_cons_of_mem _)

theorem lt_of_not_lt_of_ne {a b : String} (h : ¬ a < b) (hn : a ≠ b) : b < a := by
  rcases Decidable.em (b < a) with h' | h'
  · exact h'
  · exact absurd (String.le_antisymm (String.not_lt.1 h') (String.not_lt.1 h)) hn

theorem insertEntry_sorted (k : String) (v : α) {l : List (String × α)}
    (h : l.Pairwise fun a b => a.1 < b.1) :
    (insertEntry k v l).Pairwise fun a b => a.1 < b.1 := by
  induction l with
  | nil => simp [insertEntry]
  | cons e rest ih =>
    obtain ⟨he, hr⟩ := List.pairwise_cons.1 h
    simp only [insertEntry]
    split
    · rename_i hk
      refine List.pairwise_cons.2 ⟨fun x hx => ?_, h⟩
      rcases List.mem_cons.1 hx with hx | hx
      · exact hx ▸ hk
      · exact String.lt_trans hk (he x hx)
    · rename_i hk
      split
      · rename_i hke
        exact List.pairwise_cons.2 ⟨fun x hx => hke ▸ he x hx, hr⟩
      · rename_i hke
        refine List.pairwise_cons.2 ⟨fun x hx => ?_, ih hr⟩
        rcases mem_insertEntry hx with hx | hx
        · exact hx ▸ lt_of_not_lt_of_ne hk hke
        · exact he x hx

/-- The map with `k` bound to `v`. -/
def insert (d : Dict α) (k : String) (v : α) : Dict α :=
  ⟨insertEntry k v d.entries, insertEntry_sorted k v d.sorted⟩

/-- The map with entries inserted from first to last. -/
def insertAll (d : Dict α) (entries : List (String × α)) : Dict α :=
  entries.foldl (fun d e => d.insert e.1 e.2) d

def ofList (entries : List (String × α)) : Dict α :=
  empty.insertAll entries

/-- The value of the first entry with a key. -/
def lookup? (k : String) : List (String × α) → Option α
  | [] => none
  | e :: rest => if e.1 = k then some e.2 else lookup? k rest

def get? (d : Dict α) (k : String) : Option α :=
  lookup? k d.entries

/-- Whether a map has no entries. -/
def isEmpty (d : Dict α) : Bool :=
  d.entries.isEmpty

theorem lookup?_insertEntry (k : String) (v : α) (l : List (String × α)) (x : String) :
    lookup? x (insertEntry k v l) = if k = x then some v else lookup? x l := by
  induction l with
  | nil => simp [insertEntry, lookup?]
  | cons e rest ih =>
    simp only [insertEntry]
    split
    · simp [lookup?]
    · split
      · rename_i _ h
        simp only [lookup?, h]
        split <;> rfl
      · rename_i _ h
        simp only [lookup?, ih]
        split
        · rename_i he
          simp [← he, h]
        · rfl

/-- An insertion binds its own key and no other. -/
@[simp] theorem get?_insert (d : Dict α) (k : String) (v : α) (x : String) :
    (d.insert k v).get? x = if k = x then some v else d.get? x :=
  lookup?_insertEntry k v d.entries x

@[simp] theorem get?_empty (k : String) : (empty : Dict α).get? k = none := rfl

theorem lookup?_eq_none {l : List (String × α)} {k : String} (h : ∀ e ∈ l, k < e.1) :
    lookup? k l = none := by
  induction l with
  | nil => rfl
  | cons e rest ih =>
    have hk : e.1 ≠ k := fun he => String.lt_irrefl k (he ▸ h e List.mem_cons_self)
    simp [lookup?, hk, ih fun x hx => h x (List.mem_cons_of_mem _ hx)]

theorem entries_eq_of_lookup? {l m : List (String × α)}
    (hl : l.Pairwise fun a b => a.1 < b.1) (hm : m.Pairwise fun a b => a.1 < b.1)
    (h : ∀ k, lookup? k l = lookup? k m) : l = m := by
  induction l generalizing m with
  | nil =>
    cases m with
    | nil => rfl
    | cons e rest => simpa [lookup?] using h e.1
  | cons e rest ih =>
    obtain ⟨he, hr⟩ := List.pairwise_cons.1 hl
    cases m with
    | nil => simpa [lookup?] using h e.1
    | cons f others =>
      obtain ⟨hf, ho⟩ := List.pairwise_cons.1 hm
      have key : e.1 = f.1 := by
        rcases Decidable.em (e.1 < f.1) with hlt | hlt
        · have hn := lookup?_eq_none (l := f :: others) (k := e.1) fun x hx => by
            rcases List.mem_cons.1 hx with hx | hx
            · exact hx ▸ hlt
            · exact String.lt_trans hlt (hf x hx)
          have := h e.1
          rw [hn] at this
          simp [lookup?] at this
        · rcases Decidable.em (e.1 = f.1) with heq | hne
          · exact heq
          · have hgt := lt_of_not_lt_of_ne hlt hne
            have hn := lookup?_eq_none (l := e :: rest) (k := f.1) fun x hx => by
              rcases List.mem_cons.1 hx with hx | hx
              · exact hx ▸ hgt
              · exact String.lt_trans hgt (he x hx)
            have := h f.1
            rw [hn] at this
            simp [lookup?] at this
      have value : e.2 = f.2 := by
        have := h e.1
        simp only [lookup?, if_true, ← key] at this
        exact Option.some.inj this
      have tails : rest = others := by
        refine ih hr ho fun k => ?_
        rcases Decidable.em (e.1 = k) with hk | hk
        · subst hk
          rw [lookup?_eq_none he, lookup?_eq_none fun x hx => key ▸ hf x hx]
        · have := h k
          simpa [lookup?, hk, ← key] using this
      rw [tails, Prod.ext key value]

/-- Maps with the same look-ups are equal. -/
theorem ext_get? {d e : Dict α} (h : ∀ k, d.get? k = e.get? k) : d = e := by
  cases d with
  | mk l hl =>
    cases e with
    | mk m hm =>
      have := entries_eq_of_lookup? hl hm h
      subst this
      rfl

instance [DecidableEq α] : DecidableEq (Dict α) := fun d e =>
  if h : d.entries = e.entries then
    .isTrue (by cases d; cases e; cases h; rfl)
  else .isFalse fun he => h (he ▸ rfl)

end Dict

end FlagBinding
