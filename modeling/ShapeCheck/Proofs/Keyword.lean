import ShapeCheck.Proofs.Number
import ShapeCheck.Proofs.Tree

/-!
# Keywords

What the values of single keywords should look like, and that a keyword is reported exactly if it
does not look like this.

* `Json.IsBool`, `Json.IsText`, `Json.IsCount`, `Json.IsNumber`, `Json.IsListOf`: forms of values;
* `Keyword`: the value of a key, if the key is there, has some form;
* `Checker.TextKeywords`, `Checker.NumberKeywords`: the keywords of leaves;
* `errors_flag`, `errors_count`, `errors_bound`, …: a keyword is reported exactly if it is not sound.
-/

namespace ShapeCheck

open Json (Members)

/-! ### Forms of values -/

namespace Json

/-- The value is true or false. -/
def IsBool (v : Json) : Prop := ∃ b, v = .bool b

/-- The value is a text. -/
def IsText (v : Json) : Prop := ∃ s, v = .string s

/-- The value is a whole number from zero on. -/
def IsCount (v : Json) : Prop := ∃ n : Number, v = .number n ∧ n.IsWhole ∧ n.IsNonneg

/-- The value is a number, a whole one if `integral` is set. -/
def IsNumber (integral : Bool) (v : Json) : Prop :=
  ∃ n : Number, v = .number n ∧ (integral = true → n.IsWhole)

/-- The value is a list of values of some form. -/
def IsListOf (P : Json → Prop) (v : Json) : Prop := ∃ vs, v = .array vs ∧ ∀ w ∈ vs, P w

theorem isSome_text?_iff {v : Json} : v.text?.isSome = true ↔ v.IsText := by
  cases v <;> simp [text?, IsText]

theorem isSome_number?_iff {integral : Bool} {v : Json} :
    (Checker.number? integral v).isSome = true ↔ v.IsNumber integral := by
  rw [Option.isSome_iff_exists]
  simp only [Checker.number?_eq_some_iff, IsNumber]
  constructor
  · rintro ⟨x, n, rfl, h, -⟩
    exact ⟨n, rfl, h⟩
  · rintro ⟨n, rfl, h⟩
    exact ⟨n.toBinary64, n, rfl, h, rfl⟩

end Json

/-- The value of a key, if the key is there, has some form. -/
def Keyword (ms : Members) (key : String) (P : Json → Prop) : Prop :=
  ∀ v, ms.lookup key = some v → P v

theorem keyword_of_lookup_none {ms : Members} {key : String} {P : Json → Prop}
    (h : ms.lookup key = none) : Keyword ms key P := by
  intro v hv
  simp [h] at hv

theorem keyword_iff_of_lookup {ms : Members} {key : String} {P : Json → Prop} {v : Json}
    (h : ms.lookup key = some v) : Keyword ms key P ↔ P v := by
  simp [Keyword, h]

namespace Checker

variable {c : Checker} {loc key : String} {ms : Members} {integral : Bool}

/-! ### Single keywords -/

theorem errors_flag : (flag loc key ms).errors = [] ↔ Keyword ms key Json.IsBool := by
  unfold flag
  split
  · rename_i h
    exact iff_of_true rfl (keyword_of_lookup_none h)
  · rename_i b h
    exact iff_of_true rfl ((keyword_iff_of_lookup h).2 ⟨b, rfl⟩)
  · rename_i v hb h
    rw [keyword_iff_of_lookup h]
    refine iff_of_false (by simp) ?_
    rintro ⟨b, hv⟩
    exact hb b hv

theorem errors_count : (count loc key ms).errors = [] ↔ Keyword ms key Json.IsCount := by
  unfold count
  split
  · rename_i h
    exact iff_of_true rfl (keyword_of_lookup_none h)
  · rename_i v h
    rw [keyword_iff_of_lookup h]
    cases v with
    | number n =>
      have hiff : (n.toBinary64.IsWhole ∧ 0 ≤ n.toBinary64.units) ↔ Json.IsCount (.number n) := by
        simp [Json.IsCount]
      simp only [Json.toBinary64?, ← hiff]
      split
      · rename_i hn
        exact iff_of_true rfl hn
      · rename_i hn
        exact iff_of_false (by simp) hn
    | _ => simp [Json.toBinary64?, Json.IsCount]

theorem errors_bound {exclusiveKey : String} :
    (bound integral loc key exclusiveKey ms).errors = [] ↔
      Keyword ms key (Json.IsNumber integral) ∧
        ((ms.lookup key).isSome = true → Keyword ms exclusiveKey Json.IsBool) := by
  unfold bound
  split
  · rename_i h
    refine iff_of_true rfl ⟨keyword_of_lookup_none h, fun hs => ?_⟩
    simp [h] at hs
  · rename_i v h
    rw [keyword_iff_of_lookup h, ← Json.isSome_number?_iff, h]
    cases number? integral v with
    | none => simp
    | some x => simp [errors_flag]

theorem errors_enumElements {α : Type} {element : Json → Option α} {message base : String}
    (i : Nat) (vs : List Json) :
    (enumElements element message base i vs).errors = [] ↔
      ∀ v ∈ vs, (element v).isSome = true := by
  induction vs generalizing i with
  | nil => simp [enumElements]
  | cons v rest ih =>
    simp only [enumElements, Checked.errors_map, Checked.errors_both, List.append_eq_nil_iff, ih,
      List.forall_mem_cons]
    cases element v <;> simp

theorem errors_enumeration {α : Type} {element : Json → Option α} {message : String} :
    (enumeration element message loc ms).errors = [] ↔
      Keyword ms "enum" (Json.IsListOf fun v => (element v).isSome = true) := by
  unfold enumeration
  split
  · rename_i h
    exact iff_of_true rfl (keyword_of_lookup_none h)
  · rename_i vs h
    rw [keyword_iff_of_lookup h, Checked.errors_map, errors_enumElements]
    simp [Json.IsListOf]
  · rename_i v ha h
    rw [keyword_iff_of_lookup h]
    refine iff_of_false (by simp) ?_
    rintro ⟨vs, hv, -⟩
    exact ha vs hv

theorem errors_pattern :
    (pattern loc ms).errors = [] ↔
      Keyword ms "pattern" fun v =>
        ∃ source, v = .string source ∧ (Pattern.compile? source).isSome = true := by
  unfold pattern
  split
  · rename_i h
    exact iff_of_true rfl (keyword_of_lookup_none h)
  · rename_i source h
    rw [keyword_iff_of_lookup h]
    cases hp : Pattern.compile? source <;> simp [hp]
  · rename_i v hs h
    rw [keyword_iff_of_lookup h]
    refine iff_of_false (by simp) ?_
    rintro ⟨s, hv, -⟩
    exact hs s hv

theorem errors_format :
    (c.format loc ms).errors = [] ↔
      Keyword ms "format" fun v => ∃ name, v = .string name ∧ name ∈ c.formats.names := by
  unfold format
  split
  · rename_i h
    exact iff_of_true rfl (keyword_of_lookup_none h)
  · rename_i v h
    rw [keyword_iff_of_lookup h]
    cases v with
    | string name =>
      simp only [Json.text?, Option.filter_some, Json.string.injEq, exists_eq_left',
        ← Table.contains_iff_mem_names]
      cases c.formats.contains name <;> simp
    | _ => simp [Json.text?]

theorem errors_unsupported :
    c.unsupported loc ms = [] ↔
      (c.rejectUnsupported = true → ∀ key ∈ unsupportedKeywords, ms.lookup key = none) := by
  unfold unsupported
  split
  · rename_i h
    simp [List.filterMap_eq_nil_iff, h]
  · rename_i h
    simp [h]

/-! ### The keywords of leaves -/

/-- The keywords of a string are sound. -/
structure TextKeywords (c : Checker) (ms : Members) : Prop where
  minLength : Keyword ms "minLength" Json.IsCount
  maxLength : Keyword ms "maxLength" Json.IsCount
  pattern : Keyword ms "pattern" fun v =>
    ∃ source, v = .string source ∧ (Pattern.compile? source).isSome = true
  format : Keyword ms "format" fun v => ∃ name, v = .string name ∧ name ∈ c.formats.names
  choice : Keyword ms "enum" (Json.IsListOf Json.IsText)

/-- The keywords of a number are sound; whether a limit is exclusive is asked only if there is one. -/
structure NumberKeywords (integral : Bool) (ms : Members) : Prop where
  minimum : Keyword ms "minimum" (Json.IsNumber integral)
  exclusiveMinimum : (ms.lookup "minimum").isSome = true →
    Keyword ms "exclusiveMinimum" Json.IsBool
  maximum : Keyword ms "maximum" (Json.IsNumber integral)
  exclusiveMaximum : (ms.lookup "maximum").isSome = true →
    Keyword ms "exclusiveMaximum" Json.IsBool
  choice : Keyword ms "enum" (Json.IsListOf (Json.IsNumber integral))

theorem errors_textRules : (c.textRules loc ms).errors = [] ↔ c.TextKeywords ms := by
  simp only [textRules, Checked.errors_map, Checked.errors_both, List.append_eq_nil_iff,
    errors_count, errors_pattern, errors_format, errors_enumeration, Json.isSome_text?_iff]
  constructor
  · rintro ⟨⟨hl, hm⟩, ⟨hp, hf⟩, hc⟩
    exact ⟨hl, hm, hp, hf, hc⟩
  · rintro ⟨hl, hm, hp, hf, hc⟩
    exact ⟨⟨hl, hm⟩, ⟨hp, hf⟩, hc⟩

theorem errors_numberRules : (numberRules integral loc ms).errors = [] ↔ NumberKeywords integral ms := by
  simp only [numberRules, Checked.errors_map, Checked.errors_both, List.append_eq_nil_iff,
    errors_bound, errors_enumeration, Json.isSome_number?_iff]
  constructor
  · rintro ⟨⟨⟨hl, hel⟩, hm, hem⟩, hc⟩
    exact ⟨hl, hel, hm, hem, hc⟩
  · rintro ⟨hl, hel, hm, hem, hc⟩
    exact ⟨⟨⟨hl, hel⟩, hm, hem⟩, hc⟩

end Checker

end ShapeCheck
