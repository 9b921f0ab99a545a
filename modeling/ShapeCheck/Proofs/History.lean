import Mathlib.Data.List.Induction
import ShapeCheck.Proofs.Reordering
import ShapeCheck.Table

/-!
# Tables and their histories

A table is what its changes have made of it.  Here the changes are kept, and names, order and values
are read off them by their moments alone.

* `Table.Step`, `Table.History`: a change, and the changes in the order in which they were made;
* `History.StandsAt`: the moment at which a name got the value that it still has;
* `History.EntersAt`: the moment from which a name has been in the table without a break;
* `Table.Follows`: a table has the names that stand, in the order in which they entered, with the
  values that stand;
* `Follows.insert`, `Follows.erase`: a change of a table that follows a history, put on record,
  gives a table that follows the longer history;
* `names_insertAll`, `get?_insertAll`: a table that entries are only put into.
-/

namespace ShapeCheck

variable {α β : Type}

theorem getElem?_concat_eq_some_iff {xs : List α} {x y : α} {i : Nat} :
    (xs ++ [x])[i]? = some y ↔ xs[i]? = some y ∨ i = xs.length ∧ x = y := by
  rcases Nat.lt_trichotomy i xs.length with h | h | h
  · rw [List.getElem?_append_left h]
    simp [Nat.ne_of_lt h]
  · subst h
    simp
  · rw [List.getElem?_append_right (Nat.le_of_lt h), List.getElem?_eq_none (Nat.le_of_lt h)]
    have hi : i - xs.length ≠ 0 := by omega
    simp [hi, Nat.ne_of_gt h]

theorem lt_length_of_getElem? {xs : List α} {x : α} {i : Nat} (h : xs[i]? = some x) :
    i < xs.length :=
  (List.getElem?_eq_some_iff.1 h).1

namespace Table

/-! ### Histories -/

/-- A change of a table. -/
inductive Step (β : Type) where
  | insert (name : String) (value : β)
  | erase (name : String)

/-- The name that a change is about. -/
def Step.name : Step β → String
  | insert name _ => name
  | erase name => name

/-- Changes in the order in which they were made. -/
abbrev History (β : Type) := List (Step β)

namespace History

/-- At this moment the name got the value, and no later change is about the name. -/
structure StandsAt (log : History β) (name : String) (value : β) (i : Nat) : Prop where
  filed : log[i]? = some (.insert name value)
  settled : ∀ j step, i < j → log[j]? = some step → step.name ≠ name

/-- The name was last given this value, and has not been taken out since. -/
def Stands (log : History β) (name : String) (value : β) : Prop := ∃ i, log.StandsAt name value i

/-- At this moment the name was put in for the first time after it was last taken out: it has not
been taken out since, and after each earlier time that it was put in it was taken out again. -/
structure EntersAt (log : History β) (name : String) (i : Nat) : Prop where
  filed : ∃ value, log[i]? = some (.insert name value)
  kept : ∀ j, i < j → log[j]? ≠ some (.erase name)
  first : ∀ j value, j < i → log[j]? = some (.insert name value) →
    ∃ k, j < k ∧ k < i ∧ log[k]? = some (.erase name)

/-- The first name entered before the second. -/
def Precedes (log : History β) (name other : String) : Prop :=
  ∃ i j, log.EntersAt name i ∧ log.EntersAt other j ∧ i < j

/-! ### One more change -/

variable {log : History β} {step : Step β} {name : String} {value : β}

/-- What is said of a name last is what stands. -/
theorem stands_concat_iff : Stands (log ++ [step]) name value ↔
    step = .insert name value ∨ step.name ≠ name ∧ log.Stands name value := by
  constructor
  · rintro ⟨i, filed, settled⟩
    rcases getElem?_concat_eq_some_iff.1 filed with hi | ⟨-, hs⟩
    · -- the new change comes after the moment, so it is about another name
      have hn : step.name ≠ name :=
        settled _ step (lt_length_of_getElem? hi) (getElem?_concat_eq_some_iff.2 (.inr ⟨rfl, rfl⟩))
      exact .inr ⟨hn, i, hi, fun j other hj h =>
        settled j other hj (getElem?_concat_eq_some_iff.2 (.inl h))⟩
    · exact .inl hs
  · rintro (rfl | ⟨hn, i, filed, settled⟩)
    · refine ⟨log.length, getElem?_concat_eq_some_iff.2 (.inr ⟨rfl, rfl⟩), fun j other hj h => ?_⟩
      have hl := lt_length_of_getElem? h
      rw [List.length_append, List.length_singleton] at hl
      omega
    · refine ⟨i, getElem?_concat_eq_some_iff.2 (.inl filed), fun j other hj h => ?_⟩
      rcases getElem?_concat_eq_some_iff.1 h with h | ⟨-, rfl⟩
      · exact settled j other hj h
      · exact hn

/-- A name stays where it entered, unless it is taken out. -/
theorem EntersAt.concat {i : Nat} (h : log.EntersAt name i) (hs : step ≠ .erase name) :
    EntersAt (log ++ [step]) name i := by
  obtain ⟨⟨value, hv⟩, kept, first⟩ := h
  have hlt : i < log.length := lt_length_of_getElem? hv
  refine ⟨⟨value, getElem?_concat_eq_some_iff.2 (.inl hv)⟩, fun j hj he => ?_,
    fun j other hj hf => ?_⟩
  · rcases getElem?_concat_eq_some_iff.1 he with he | ⟨-, he⟩
    · exact kept j hj he
    · exact hs he
  · rcases getElem?_concat_eq_some_iff.1 hf with hf | ⟨rfl, -⟩
    · obtain ⟨k, hjk, hki, he⟩ := first j other hj hf
      exact ⟨k, hjk, hki, getElem?_concat_eq_some_iff.2 (.inl he)⟩
    · omega

theorem Precedes.concat {other : String} (h : log.Precedes name other)
    (hn : step ≠ .erase name) (ho : step ≠ .erase other) :
    Precedes (log ++ [step]) name other := by
  obtain ⟨i, j, hi, hj, hij⟩ := h
  exact ⟨i, j, hi.concat hn, hj.concat ho, hij⟩

/-- A name that does not stand was taken out after each time that it was put in. -/
theorem exists_erase_of_not_stands (h : ∀ b, ¬ log.Stands name b) {j : Nat}
    (hj : log[j]? = some (.insert name value)) : ∃ k, j < k ∧ log[k]? = some (.erase name) := by
  induction log using List.reverseRecOn with
  | nil => simp at hj
  | append_singleton log step ih =>
    by_cases he : step = .erase name
    · -- taken out last of all
      subst he
      rcases getElem?_concat_eq_some_iff.1 hj with hj | ⟨-, hj⟩
      · exact ⟨log.length, lt_length_of_getElem? hj,
          getElem?_concat_eq_some_iff.2 (.inr ⟨rfl, rfl⟩)⟩
      · cases hj
    · have hn : step.name ≠ name := by
        cases step with
        | insert key other =>
          rintro rfl
          exact h other (stands_concat_iff.2 (.inl rfl))
        | erase key =>
          rintro rfl
          exact he rfl
      have hb : ∀ b, ¬ Stands log name b := fun b hb => h b (stands_concat_iff.2 (.inr ⟨hn, hb⟩))
      rcases getElem?_concat_eq_some_iff.1 hj with hj | ⟨-, rfl⟩
      · obtain ⟨k, hjk, hk⟩ := ih hb hj
        exact ⟨k, hjk, getElem?_concat_eq_some_iff.2 (.inl hk)⟩
      · exact absurd rfl hn

/-- A name that does not stand enters when it is put in. -/
theorem entersAt_length (h : ∀ b, ¬ log.Stands name b) (value : β) :
    EntersAt (log ++ [.insert name value]) name log.length := by
  refine ⟨⟨value, getElem?_concat_eq_some_iff.2 (.inr ⟨rfl, rfl⟩)⟩, fun j hj he => ?_,
    fun j other hj hf => ?_⟩
  · rcases getElem?_concat_eq_some_iff.1 he with he | ⟨-, hs⟩
    · exact absurd (lt_length_of_getElem? he) (by omega)
    · cases hs
  · rcases getElem?_concat_eq_some_iff.1 hf with hf | ⟨rfl, -⟩
    · obtain ⟨k, hjk, hk⟩ := exists_erase_of_not_stands h hf
      exact ⟨k, hjk, lt_length_of_getElem? hk, getElem?_concat_eq_some_iff.2 (.inl hk)⟩
    · omega

/-- A name that stands has entered. -/
theorem exists_entersAt (h : log.Stands name value) : ∃ i, log.EntersAt name i := by
  induction log using List.reverseRecOn generalizing value with
  | nil =>
    obtain ⟨i, hi⟩ := h
    simpa using hi.filed
  | append_singleton log step ih =>
    rcases stands_concat_iff.1 h with rfl | ⟨hn, hb⟩
    · by_cases hs : ∃ b, Stands log name b
      · obtain ⟨b, hb⟩ := hs
        obtain ⟨i, hi⟩ := ih hb
        exact ⟨i, hi.concat (by simp)⟩
      · exact ⟨log.length, entersAt_length (not_exists.1 hs) value⟩
    · obtain ⟨i, hi⟩ := ih hb
      refine ⟨i, hi.concat ?_⟩
      rintro rfl
      exact hn rfl

end History

/-! ### Tables that follow a history -/

/-- The table has the names that stand in the history, each once and in the order in which they
entered, and what is seen of the value of a name is the value that stands. -/
structure Follows (view : α → β) (log : History β) (t : Table α) : Prop where
  nodup : t.names.Nodup
  mem : ∀ name, name ∈ t.names ↔ ∃ b, log.Stands name b
  order : t.names.Pairwise log.Precedes
  value : ∀ name b, (t.get? name).map view = some b ↔ log.Stands name b

variable {view : α → β} {log : History β} {t : Table α}

theorem follows_of {log : History β} (order : t.names.Pairwise log.Precedes)
    (value : ∀ name b, (t.get? name).map view = some b ↔ log.Stands name b) :
    Follows view log t := by
  refine ⟨t.names_nodup, fun name => ?_, order, value⟩
  simp only [← value, ← contains_iff_mem_names, contains]
  cases t.get? name <;> simp

theorem follows_empty (view : α → β) : Follows view [] (.empty : Table α) := by
  refine follows_of .nil fun name b => ?_
  refine iff_of_false (by simp) ?_
  rintro ⟨i, hi⟩
  simpa using hi.filed

theorem Follows.insert (h : Follows view log t) (name : String) (a : α) :
    Follows view (log ++ [.insert name (view a)]) (t.insert name a) := by
  have order : t.names.Pairwise (History.Precedes (log ++ [.insert name (view a)])) :=
    h.order.imp fun hp => hp.concat (by simp) (by simp)
  refine follows_of ?_ fun key b => ?_
  · rw [names_insert]
    split
    · exact order
    · rename_i hn
      -- the new name comes last, and what was there before entered before it
      have hs : ∀ b, ¬ log.Stands name b := fun b hb => hn ((h.mem name).2 ⟨b, hb⟩)
      refine List.pairwise_append.2 ⟨order, List.pairwise_singleton _ _, fun key hk other ho => ?_⟩
      rw [List.mem_singleton] at ho
      subst ho
      obtain ⟨b, hb⟩ := (h.mem key).1 hk
      obtain ⟨i, hi⟩ := History.exists_entersAt hb
      obtain ⟨c, hc⟩ := hi.filed
      exact ⟨i, log.length, hi.concat (by simp), History.entersAt_length hs _,
        lt_length_of_getElem? hc⟩
  · rw [get?_insert, History.stands_concat_iff, ← h.value]
    by_cases hk : key = name
    · subst hk
      simp [Step.name]
    · simp [Step.name, hk, Ne.symm hk]

theorem Follows.erase (h : Follows view log t) (name : String) :
    Follows view (log ++ [.erase name]) (t.erase name) := by
  refine follows_of ?_ fun key b => ?_
  · rw [names_erase]
    refine (h.order.filter _).imp_of_mem fun hi hj hp => ?_
    have hne {key : String} (hk : key ∈ t.names.filter (· ≠ name)) :
        (.erase name : Step β) ≠ .erase key := by
      rintro ⟨⟩
      simpa using (List.mem_filter.1 hk).2
    exact hp.concat (hne hi) (hne hj)
  · rw [get?_erase, History.stands_concat_iff, ← h.value]
    by_cases hk : key = name
    · subst hk
      simp [Step.name]
    · simp [Step.name, hk, Ne.symm hk]

/-! ### Tables that are only added to -/

/-- Entries put in one after the other. -/
def insertAll (t : Table α) (entries : List (String × α)) : Table α :=
  entries.foldl (fun t entry => t.insert entry.1 entry.2) t

theorem insertAll_append (t : Table α) (entries more : List (String × α)) :
    t.insertAll (entries ++ more) = (t.insertAll entries).insertAll more :=
  List.foldl_append

/-- The names that were there come first, then the new ones, each at its first place. -/
theorem names_insertAll (t : Table α) (entries : List (String × α)) :
    (t.insertAll entries).names =
      t.names ++ ((entries.map Prod.fst).filter (· ∉ t.names)).eraseDups := by
  induction entries generalizing t with
  | nil => simp [insertAll]
  | cons entry rest ih =>
    obtain ⟨name, a⟩ := entry
    have hi : (t.insertAll ((name, a) :: rest)).names = ((t.insert name a).insertAll rest).names :=
      rfl
    rw [hi, ih, names_insert, List.map_cons]
    split
    · rename_i hn
      rw [List.filter_cons_of_neg (by simpa using hn)]
    · rename_i hn
      rw [List.filter_cons_of_pos (by simpa using hn), List.eraseDups_cons, List.filter_filter,
        List.append_assoc, List.singleton_append]
      refine congrArg (fun names => t.names ++ name :: List.eraseDups names) ?_
      refine List.filter_congr fun key _ => ?_
      by_cases hk : key = name <;> simp [hk]

/-- A name has the value that it was given last, or the one that it had. -/
theorem get?_insertAll (t : Table α) (entries : List (String × α)) (name : String) :
    (t.insertAll entries).get? name = (entries.reverse.lookup name).or (t.get? name) := by
  induction entries generalizing t with
  | nil => rfl
  | cons entry rest ih =>
    obtain ⟨key, a⟩ := entry
    have hi : (t.insertAll ((key, a) :: rest)).get? name =
        ((t.insert key a).insertAll rest).get? name := rfl
    rw [hi, ih, get?_insert, List.reverse_cons, List.lookup_append, lookup_entry, List.lookup_nil,
      Option.or_assoc]
    split <;> rfl

end Table

end ShapeCheck
