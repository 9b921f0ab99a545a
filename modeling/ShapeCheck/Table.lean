/-!
# Ordered tables

Entries by name, in the order in which the names were first inserted.

* `put`, `drop`: the two changes of an entry list;
* `Table`: an entry list in which no name stands twice;
* `Table.insert`, `Table.erase`, `Table.get?`, `Table.names`.

Main statements: looking up after a change (`get?_insert`, `get?_erase`) and in a table made of
entries (`get?_ofList`), and the names after a change
(`names_insert`, `names_erase`): an inserted name keeps its place or comes last, an erased one
leaves the order of the others alone.
-/

namespace ShapeCheck

variable {α : Type}

/-- The entries with a value given to a name: in place of its earlier value, or at the end. -/
def put (name : String) (value : α) : List (String × α) → List (String × α)
  | [] => [(name, value)]
  | entry :: rest =>
    if entry.1 = name then (name, value) :: rest else entry :: put name value rest

/-- The entries without those of a name. -/
def drop (name : String) (entries : List (String × α)) : List (String × α) :=
  entries.filter fun entry => entry.1 ≠ name

@[simp] theorem put_nil (name : String) (value : α) : put name value [] = [(name, value)] := rfl

theorem lookup_entry (key name : String) (value : α) (rest : List (String × α)) :
    ((name, value) :: rest).lookup key = if key = name then some value else rest.lookup key := by
  by_cases h : key = name
  · simp [h]
  · simp [List.lookup_cons, h, beq_eq_false_iff_ne.2 h]

theorem lookup_put (name key : String) (value : α) (entries : List (String × α)) :
    (put name value entries).lookup key =
      if key = name then some value else entries.lookup key := by
  induction entries with
  | nil => rw [put_nil, lookup_entry]
  | cons entry rest ih =>
    obtain ⟨other, old⟩ := entry
    by_cases hn : other = name
    · subst hn
      simp only [put, if_true, lookup_entry]
      split <;> rfl
    · simp only [put, if_neg hn, lookup_entry, ih]
      by_cases h : key = other
      · subst h
        simp [hn]
      · simp [h]

theorem lookup_drop (name key : String) (entries : List (String × α)) :
    (drop name entries).lookup key = if key = name then none else entries.lookup key := by
  induction entries with
  | nil => simp [drop]
  | cons entry rest ih =>
    obtain ⟨other, old⟩ := entry
    simp only [drop] at ih ⊢
    by_cases hn : other = name
    · subst hn
      rw [List.filter_cons_of_neg (by simp), ih, lookup_entry]
      split <;> rfl
    · rw [List.filter_cons_of_pos (by simp [hn]), lookup_entry, lookup_entry, ih]
      by_cases h : key = other
      · subst h
        simp [hn]
      · simp [h]

theorem map_fst_put (name : String) (value : α) (entries : List (String × α)) :
    (put name value entries).map Prod.fst =
      if name ∈ entries.map Prod.fst then entries.map Prod.fst
      else entries.map Prod.fst ++ [name] := by
  induction entries with
  | nil => simp
  | cons entry rest ih =>
    by_cases h : entry.1 = name
    · simp [put, h]
    · rw [put, if_neg h, List.map_cons, ih]
      by_cases hm : name ∈ rest.map Prod.fst
      · simp [hm]
      · have hne : ¬ name = entry.1 := fun e => h e.symm
        simp only [List.map_cons, List.mem_cons, hne, hm, or_self, if_false, List.cons_append]

theorem map_fst_drop (name : String) (entries : List (String × α)) :
    (drop name entries).map Prod.fst = (entries.map Prod.fst).filter (· ≠ name) := by
  simp only [drop, List.filter_map]
  rfl

theorem nodup_put {name : String} {value : α} {entries : List (String × α)}
    (h : (entries.map Prod.fst).Nodup) : ((put name value entries).map Prod.fst).Nodup := by
  rw [map_fst_put]
  split
  · exact h
  · rename_i hn
    exact List.nodup_append.2 ⟨h, by simp, by
      intro a ha b hb
      rw [List.mem_singleton] at hb
      subst hb
      exact fun e => hn (e ▸ ha)⟩

/-- Entries by name, each name once, in the order of first insertion. -/
structure Table (α : Type) where
  entries : List (String × α)
  nodup : (entries.map Prod.fst).Nodup

namespace Table

/-- The table without entries. -/
def empty : Table α := ⟨[], List.nodup_nil⟩

instance : Inhabited (Table α) := ⟨empty⟩

/-- Give a name a value; a known name keeps its place. -/
def insert (t : Table α) (name : String) (value : α) : Table α :=
  ⟨put name value t.entries, nodup_put t.nodup⟩

/-- Take a name out. -/
def erase (t : Table α) (name : String) : Table α :=
  ⟨drop name t.entries, by rw [map_fst_drop]; exact t.nodup.filter _⟩

/-- The value of a name. -/
def get? (t : Table α) (name : String) : Option α := t.entries.lookup name

/-- Whether a name has a value. -/
def contains (t : Table α) (name : String) : Bool := (t.get? name).isSome

/-- The names in order. -/
def names (t : Table α) : List String := t.entries.map Prod.fst

/-- The number of names. -/
def size (t : Table α) : Nat := t.entries.length

/-- Whether there are no names. -/
def isEmpty (t : Table α) : Bool := t.entries.isEmpty

/-- The table of an entry list: each name at its first place, with its last value. -/
def ofList (entries : List (String × α)) : Table α :=
  entries.foldl (fun t entry => t.insert entry.1 entry.2) empty

@[simp] theorem entries_empty : (empty : Table α).entries = [] := rfl
@[simp] theorem get?_empty (name : String) : (empty : Table α).get? name = none := rfl
@[simp] theorem names_empty : (empty : Table α).names = [] := rfl

theorem get?_insert (t : Table α) (name key : String) (value : α) :
    (t.insert name value).get? key = if key = name then some value else t.get? key :=
  lookup_put name key value t.entries

theorem get?_erase (t : Table α) (name key : String) :
    (t.erase name).get? key = if key = name then none else t.get? key :=
  lookup_drop name key t.entries

theorem names_insert (t : Table α) (name : String) (value : α) :
    (t.insert name value).names = if name ∈ t.names then t.names else t.names ++ [name] :=
  map_fst_put name value t.entries

theorem names_erase (t : Table α) (name : String) :
    (t.erase name).names = t.names.filter (· ≠ name) :=
  map_fst_drop name t.entries

/-- In a table made of entries, a name has its value if no name stands twice. -/
theorem get?_ofList {entries : List (String × α)}
    (hd : (entries.map Prod.fst).Nodup) (name : String) :
    (ofList entries).get? name = entries.lookup name := by
  suffices h : ∀ t : Table α, (entries.foldl (fun t e => t.insert e.1 e.2) t).get? name =
      (entries.lookup name).or (t.get? name) by
    rw [ofList, h, get?_empty, Option.or_none]
  induction entries with
  | nil => exact fun t => rfl
  | cons entry rest ih =>
    intro t
    obtain ⟨other, a⟩ := entry
    rw [List.map_cons, List.nodup_cons] at hd
    rw [List.foldl_cons, ih hd.2, get?_insert, lookup_entry]
    by_cases h : name = other
    · subst h
      have hnone : rest.lookup name = none :=
        List.lookup_eq_none_iff.2 fun entry he => bne_iff_ne.2 fun e =>
          hd.1 (List.mem_map.2 ⟨entry, he, e.symm⟩)
      rw [hnone, if_pos rfl, if_pos rfl, Option.none_or, Option.some_or]
    · rw [if_neg h, if_neg h]

theorem contains_iff_mem_names {t : Table α} {name : String} :
    t.contains name = true ↔ name ∈ t.names := by
  rw [contains, get?, List.lookup_isSome_iff, names, List.mem_map]
  refine exists_congr fun entry => and_congr_right fun _ => ?_
  rw [beq_iff_eq, eq_comm]

theorem names_nodup (t : Table α) : t.names.Nodup := t.nodup

end Table

end ShapeCheck
