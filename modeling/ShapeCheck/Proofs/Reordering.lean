import Mathlib.Data.List.Forall2
import Mathlib.Data.List.Perm.Basic
import ShapeCheck.Proofs.Distinct
import ShapeCheck.Report

/-!
# Equality up to the order of members

* `Reordered`: lists of which one, in another order, is related to the other element by element;
* `Json.Equiv`: values that are equal up to the order of members, at whatever depth;
* `Report.Equiv`: reports that are permutations of each other, values to blame up to the order of
  members.

What is read off equivalent values is the same or equivalent: `Json.Equiv.text?_eq` and its like,
and `Reordered.lookup` for members.
-/

namespace ShapeCheck

/-! ### Lists in another order -/

section Lists

variable {α β γ δ : Type}

/-- The first list, in some order, is related to the second one element by element. -/
def Reordered (R : α → β → Prop) (xs : List α) (ys : List β) : Prop :=
  ∃ zs, xs.Perm zs ∧ List.Forall₂ R zs ys

/-- Two entries have the same name and related values. -/
inductive Named (R : α → β → Prop) : String × α → String × β → Prop where
  | mk {name : String} {a : α} {b : β} (h : R a b) : Named R (name, a) (name, b)

theorem forall₂_imp_of_mem {R Q : α → β → Prop} {xs : List α} {ys : List β}
    (h : List.Forall₂ R xs ys) (hi : ∀ x ∈ xs, ∀ y, R x y → Q x y) : List.Forall₂ Q xs ys := by
  have hm : List.Forall₂ (fun x y => x ∈ xs ∧ R x y) xs ys :=
    (List.forall₂_and_left _ _).2 ⟨fun _ hx => hx, h⟩
  exact hm.imp fun x y hxy => hi x hxy.1 y hxy.2

namespace Reordered

variable {R : α → β → Prop} {S : γ → δ → Prop} {xs us : List α} {ys vs : List β}

theorem of_forall₂ (h : List.Forall₂ R xs ys) : Reordered R xs ys := ⟨xs, .refl xs, h⟩

theorem append (h : Reordered R xs ys) (h' : Reordered R us vs) :
    Reordered R (xs ++ us) (ys ++ vs) := by
  obtain ⟨zs, hp, hf⟩ := h
  obtain ⟨ws, hp', hf'⟩ := h'
  exact ⟨zs ++ ws, hp.append hp', List.rel_append hf hf'⟩

theorem eq_nil_iff (h : Reordered R xs ys) : xs = [] ↔ ys = [] := by
  obtain ⟨zs, hp, hf⟩ := h
  rw [← List.length_eq_zero_iff, ← List.length_eq_zero_iff, hp.length_eq, hf.length_eq]

theorem imp_of_mem {Q : α → β → Prop} (h : Reordered R xs ys)
    (hi : ∀ x ∈ xs, ∀ y, R x y → Q x y) : Reordered Q xs ys := by
  obtain ⟨zs, hp, hf⟩ := h
  exact ⟨zs, hp, forall₂_imp_of_mem hf fun z hz => hi z (hp.mem_iff.2 hz)⟩

theorem flatMap_of_forall₂ {f : α → List γ} {g : β → List δ} (h : List.Forall₂ R xs ys)
    (hf : ∀ x y, R x y → Reordered S (f x) (g y)) :
    Reordered S (xs.flatMap f) (ys.flatMap g) := by
  induction h with
  | nil => exact of_forall₂ .nil
  | cons hxy _ ih => exact (hf _ _ hxy).append ih

/-- What related elements contribute may itself be put in another order. -/
theorem flatMap {f : α → List γ} {g : β → List δ} (h : Reordered R xs ys)
    (hf : ∀ x y, R x y → Reordered S (f x) (g y)) :
    Reordered S (xs.flatMap f) (ys.flatMap g) := by
  obtain ⟨zs, hp, hr⟩ := h
  obtain ⟨ws, hp', hr'⟩ := flatMap_of_forall₂ hr hf
  exact ⟨ws, (hp.flatMap_right f).trans hp', hr'⟩

theorem of_toList {o : Option γ} {p : Option δ} (h : Option.Rel S o p) :
    Reordered S o.toList p.toList := by
  cases h with
  | none => exact of_forall₂ .nil
  | some h => exact of_forall₂ (.cons h .nil)

theorem filterMap {f : α → Option γ} {g : β → Option δ} (h : Reordered R xs ys)
    (hf : ∀ x y, R x y → Option.Rel S (f x) (g y)) :
    Reordered S (xs.filterMap f) (ys.filterMap g) := by
  rw [List.filterMap_eq_flatMap_toList, List.filterMap_eq_flatMap_toList]
  exact h.flatMap fun x y hxy => of_toList (hf x y hxy)

theorem filter {p : α → Bool} {q : β → Bool} (h : Reordered R xs ys)
    (hpq : ∀ x y, R x y → p x = q y) : Reordered R (xs.filter p) (ys.filter q) := by
  obtain ⟨zs, hp, hf⟩ := h
  refine ⟨zs.filter p, hp.filter p, List.rel_filter (fun x y hxy => ?_) hf⟩
  show p x = true ↔ q y = true
  rw [hpq x y hxy]

end Reordered

theorem isSome_eq_of_rel {R : α → β → Prop} {o : Option α} {p : Option β} (h : Option.Rel R o p) :
    o.isSome = p.isSome := by
  cases h <;> rfl

theorem rel_map {R : α → β → Prop} {S : γ → δ → Prop} {o : Option α} {p : Option β}
    (h : Option.Rel R o p) {f : α → γ} {g : β → δ} (hfg : ∀ a b, R a b → S (f a) (g b)) :
    Option.Rel S (o.map f) (p.map g) := by
  cases h with
  | none => exact .none
  | some h => exact .some (hfg _ _ h)

/-! ### Entries by name -/

theorem lookup_eq_some_iff_mem {ms : List (String × α)} (hd : (ms.map Prod.fst).Nodup)
    {name : String} {a : α} : ms.lookup name = some a ↔ (name, a) ∈ ms := by
  refine ⟨mem_of_lookup, fun hm => ?_⟩
  induction ms with
  | nil => cases hm
  | cons m rest ih =>
    obtain ⟨other, b⟩ := m
    rw [List.map_cons, List.nodup_cons] at hd
    rw [lookup_entry]
    rcases List.mem_cons.1 hm with he | hr
    · cases he
      rw [if_pos rfl]
    · -- the name stands behind the first entry, so it cannot stand there as well
      have hne : name ≠ other := by
        rintro rfl
        exact hd.1 (List.mem_map.2 ⟨(name, a), hr, rfl⟩)
      rw [if_neg hne]
      exact ih hd.2 hr

theorem lookup_eq_of_perm {ms ns : List (String × α)} (h : ms.Perm ns)
    (hd : (ms.map Prod.fst).Nodup) (name : String) : ms.lookup name = ns.lookup name := by
  refine Option.ext fun a => ?_
  rw [lookup_eq_some_iff_mem hd, lookup_eq_some_iff_mem ((h.map Prod.fst).nodup_iff.1 hd),
    h.mem_iff]

theorem lookup_of_forall₂ {R : α → β → Prop} {ms : List (String × α)} {ns : List (String × β)}
    (h : List.Forall₂ (Named R) ms ns) (name : String) :
    Option.Rel R (ms.lookup name) (ns.lookup name) := by
  induction h with
  | nil => exact .none
  | cons hm _ ih =>
    obtain ⟨hab⟩ := hm
    rw [lookup_entry, lookup_entry]
    split
    · exact .some hab
    · exact ih

/-- In another order, look-ups give the same, as long as names are not repeated. -/
theorem Reordered.lookup {R : α → β → Prop} {ms : List (String × α)} {ns : List (String × β)}
    (h : Reordered (Named R) ms ns) (hd : (ms.map Prod.fst).Nodup) (name : String) :
    Option.Rel R (ms.lookup name) (ns.lookup name) := by
  obtain ⟨ls, hp, hf⟩ := h
  rw [lookup_eq_of_perm hp hd]
  exact lookup_of_forall₂ hf name

end Lists

/-! ### Values -/

namespace Json

/-- The values are equal up to the order of members, at whatever depth; numbers and texts are the
same. -/
inductive Equiv : Json → Json → Prop where
  | null : Equiv .null .null
  | bool (b : Bool) : Equiv (.bool b) (.bool b)
  | number (n : Number) : Equiv (.number n) (.number n)
  | string (s : String) : Equiv (.string s) (.string s)
  | array {vs ws : List Json} (h : List.Forall₂ Equiv vs ws) : Equiv (.array vs) (.array ws)
  | object {ms ls ns : Members} (order : ms.Perm ls) (h : List.Forall₂ (Named Equiv) ls ns) :
      Equiv (.object ms) (.object ns)

theorem equiv_object_iff {ms ns : Members} :
    Equiv (.object ms) (.object ns) ↔ Reordered (Named Equiv) ms ns := by
  constructor
  · intro h
    cases h with
    | object order h => exact ⟨_, order, h⟩
  · rintro ⟨ls, order, h⟩
    exact .object order h

theorem Equiv.refl (v : Json) : v.Equiv v := by
  induction v using Json.inductionOn with
  | step v ih =>
    cases v with
    | null => exact .null
    | bool b => exact .bool b
    | number n => exact .number n
    | string s => exact .string s
    | array vs => exact .array (List.forall₂_same.2 ih)
    | object ms =>
      refine .object (.refl ms) (List.forall₂_same.2 ?_)
      rintro ⟨name, w⟩ hm
      exact .mk (ih w (mem_children_of_mem hm))

/-! ### What is read off values -/

namespace Equiv

variable {v w : Json}

theorem text?_eq (h : v.Equiv w) : v.text? = w.text? := by cases h <;> rfl

theorem bool?_eq (h : v.Equiv w) : v.bool? = w.bool? := by cases h <;> rfl

theorem toBinary64?_eq (h : v.Equiv w) : v.toBinary64? = w.toBinary64? := by cases h <;> rfl

theorem typeName_eq (h : v.Equiv w) : v.typeName = w.typeName := by cases h <;> rfl

theorem eq_null_iff (h : v.Equiv w) : v = .null ↔ w = .null := by cases h <;> simp

theorem lookup {ms ns : Members} (h : Equiv (.object ms) (.object ns))
    (hd : Distinct (.object ms)) (name : String) :
    Option.Rel Equiv (ms.lookup name) (ns.lookup name) :=
  (equiv_object_iff.1 h).lookup hd.names_nodup name

theorem lookup_isSome_eq {ms ns : Members} (h : Equiv (.object ms) (.object ns))
    (hd : Distinct (.object ms)) (name : String) :
    (ms.lookup name).isSome = (ns.lookup name).isSome :=
  isSome_eq_of_rel (h.lookup hd name)

end Equiv

end Json

/-! ### Reports -/

/-- The violations differ at most in the order of members of the value to blame. -/
structure Violation.Equiv (r s : Violation) : Prop where
  locator : r.locator = s.locator
  field : r.field = s.field
  message : r.message = s.message
  actual : r.actual.Equiv s.actual

theorem Violation.Equiv.refl (r : Violation) : r.Equiv r := ⟨rfl, rfl, rfl, .refl _⟩

/-- The reports are permutations of each other. -/
def Report.Equiv (r s : Report) : Prop := Reordered Violation.Equiv r s

namespace Report.Equiv

theorem refl (r : Report) : Report.Equiv r r :=
  .of_forall₂ (List.forall₂_same.2 fun v _ => .refl v)

theorem isEmpty_eq {r s : Report} (h : Report.Equiv r s) : r.isEmpty = s.isEmpty := by
  rw [Bool.eq_iff_iff, List.isEmpty_iff, List.isEmpty_iff]
  exact h.eq_nil_iff

/-- One violation each, about equivalent values. -/
theorem single (loc field message : String) {v w : Json} (h : v.Equiv w) :
    Report.Equiv [⟨loc, field, message, v⟩] [⟨loc, field, message, w⟩] :=
  .of_forall₂ (.cons ⟨rfl, rfl, rfl, h⟩ .nil)

end Report.Equiv

end ShapeCheck
