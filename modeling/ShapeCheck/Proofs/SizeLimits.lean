import ShapeCheck.Proofs.Finding
import ShapeCheck.Proofs.History
import ShapeCheck.Proofs.Rounding

/-!
# Limits on lengths and numbers of elements

A limit on a size is rounded to a double and capped before it is compared.  For all sizes that occur
this makes no difference.

* `Json.Number.value`: a number as written, exactly;
* `Json.Number.limit`: the count that a number is read as;
* `Json.Number.limit_eq_or`: it is the number itself, or both are beyond all sizes below `2 ^ 53`;
* `SizeLimit`: the four limits, with the violation of each;
* `SizeLimit.errors_drop`: a whole number from zero on is taken as any of them;
* `SizeLimit.size_limits_exact`: the violation is reported exactly if the size is on the wrong side
  of the number.
-/

namespace ShapeCheck

open Json (Members)

/-! ### Numbers -/

namespace Json.Number

/-- The number as written, exactly. -/
def value : Number → ℚ
  | integer i _ => i
  | double x => x.units / Binary64.one

/-- The count that a number is read as. -/
def limit (m : Number) : Nat := min m.toBinary64.wholePart Checker.maxCount

/-- The units of a double that stands for a natural number. -/
theorem units_of_value {x : Binary64} {k : Nat} (h : (double x).value = k) :
    x.units = k * (Binary64.one : Int) := by
  have hone : (Binary64.one : ℚ) ≠ 0 := by exact_mod_cast Binary64.one_pos.ne'
  rw [value, div_eq_iff hone] at h
  exact_mod_cast h

theorem magnitude_of_value {x : Binary64} {k : Nat} (h : (double x).value = k) :
    x.magnitude = k * Binary64.one := by
  have hu := units_of_value h
  rw [Binary64.units] at hu
  split at hu
  · -- both zeros stand for zero
    have hk : 0 ≤ (k : Int) * (Binary64.one : Int) :=
      Int.mul_nonneg (Int.natCast_nonneg k) Binary64.one_pos.le
    have hm : (k * Binary64.one : Nat) = (k : Int) * (Binary64.one : Int) := Nat.cast_mul _ _
    omega
  · exact_mod_cast hu

theorem isWhole_of_value {m : Number} {k : Nat} (h : m.value = k) : m.IsWhole := by
  cases m with
  | integer i hi => trivial
  | double x =>
    rw [IsWhole, Binary64.IsWhole, magnitude_of_value h]
    exact Nat.mul_mod_left _ _

theorem isNonneg_of_value {m : Number} {k : Nat} (h : m.value = k) : m.IsNonneg := by
  cases m with
  | integer i hi =>
    have hik : i = k := by exact_mod_cast (show (i : ℚ) = k from h)
    rw [IsNonneg]
    omega
  | double x =>
    rw [IsNonneg, units_of_value h]
    exact Int.mul_nonneg (Int.natCast_nonneg k) Binary64.one_pos.le

/-- The whole part of the double of a natural number. -/
theorem wholePart_of_value {m : Number} {k : Nat} (h : m.value = k) :
    m.toBinary64.wholePart = k ∨ k < 2 ^ 64 ∧ m.toBinary64.wholePart = Binary64.roundNat k := by
  have hone : 0 < Binary64.one := by exact_mod_cast Binary64.one_pos
  cases m with
  | integer i hi =>
    have hik : i = k := by exact_mod_cast (show (i : ℚ) = k from h)
    subst hik
    have hm := (Binary64.magnitude_ofNat (decide ((k : Int) < 0)) (k : Int).natAbs (by
      have hlimit : 1 <<< 65 = 36893488147419103232 := rfl
      omega)).2
    refine .inr ⟨by omega, ?_⟩
    rw [Number.toBinary64, Binary64.ofInt, Binary64.wholePart, hm, Nat.mul_div_cancel _ hone,
      Int.natAbs_natCast]
  | double x =>
    refine .inl ?_
    rw [Number.toBinary64, Binary64.wholePart, magnitude_of_value h, Nat.mul_div_cancel _ hone]

/-- A natural number is read as itself, or as some number from `2 ^ 53` on if it is one of these. -/
theorem limit_eq_or {m : Number} {k : Nat} (h : m.value = k) :
    m.limit = k ∨ 2 ^ 53 ≤ m.limit ∧ 2 ^ 53 ≤ k := by
  have hc : Checker.maxCount = 2 ^ 64 - 1 := rfl
  rw [limit, hc]
  rcases wholePart_of_value h with hw | ⟨hk, hw⟩
  · rw [hw]
    omega
  · rw [hw]
    rcases Nat.le_total k (2 ^ 53) with hle | hle
    · rw [Binary64.roundNat_of_le hle]
      omega
    · have hr := Binary64.roundNat_mono hle
      rw [Binary64.roundNat_of_le (Nat.le_refl _)] at hr
      omega

end Json.Number

/-! ### The four limits -/

/-- The limits on the length of texts and on the number of elements. -/
inductive SizeLimit where
  | minLength
  | maxLength
  | minItems
  | maxItems
  deriving DecidableEq

namespace SizeLimit

/-- The keyword of a limit. -/
def key : SizeLimit → String
  | minLength => "minLength"
  | maxLength => "maxLength"
  | minItems => "minItems"
  | maxItems => "maxItems"

/-- The kind of the values with the size. -/
def kind : SizeLimit → Kind
  | minLength | maxLength => .string
  | minItems | maxItems => .array

/-- The size of a value: the characters of a text, the elements of a list. -/
def size? : SizeLimit → Json → Option Nat
  | minLength, .string s | maxLength, .string s => some s.length
  | minItems, .array vs | maxItems, .array vs => some vs.length
  | _, _ => none

/-- The size is on the wrong side of a number. -/
def Excludes : SizeLimit → Nat → Nat → Prop
  | minLength, size, k | minItems, size, k => size < k
  | maxLength, size, k | maxItems, size, k => k < size

instance (l : SizeLimit) (size k : Nat) : Decidable (l.Excludes size k) :=
  match l with
  | minLength | minItems => inferInstanceAs (Decidable (size < k))
  | maxLength | maxItems => inferInstanceAs (Decidable (k < size))

/-- The words in front of the number in a message. -/
def opening : SizeLimit → String
  | minLength => "length must be greater than or equal to ["
  | maxLength => "length must be less than or equal to ["
  | minItems => "need at least ["
  | maxItems => "need at most ["

/-- The words behind the number. -/
def closing : SizeLimit → String
  | minLength | maxLength => "]"
  | minItems | maxItems => "] items"

/-- The message for a size on the wrong side. -/
def message (l : SizeLimit) (k : Nat) : String := l.opening ++ toString k ++ l.closing

/-- What is told of a value of the size: a text itself, the number of elements of a list. -/
def actual : SizeLimit → Json → Json
  | _, .array vs => .number (.ofNat vs.length)
  | _, v => v

/-- The violation by a value at a locator. -/
def violation (l : SizeLimit) (loc : String) (m : Json.Number) (v : Json) : Violation :=
  ⟨loc, "", l.message m.limit, l.actual v⟩

/-- A number beyond all sizes excludes what any other number beyond them excludes. -/
theorem excludes_limit_iff {l : SizeLimit} {m : Json.Number} {k size : Nat} (h : m.value = k)
    (hs : size < 2 ^ 53) : l.Excludes size m.limit ↔ l.Excludes size k := by
  have hk := Json.Number.limit_eq_or h
  cases l <;> simp only [Excludes] <;> omega

/-! ### Schemas -/

section Schemas

open Checker

variable {l : SizeLimit} {ms : Members} {m : Json.Number} {k : Nat} {c : Checker} {loc : String}

theorem count_of_value {key : String} (given : ms.lookup key = some (.number m))
    (value : m.value = k) : count loc key ms = .ok (some m.limit) := by
  have hw := (Json.Number.toBinary64_isWhole_iff m).2 (Json.Number.isWhole_of_value value)
  have hn := (Json.Number.zero_le_units_iff m).2 (Json.Number.isNonneg_of_value value)
  rw [count, given]
  exact if_pos ⟨hw, hn⟩

theorem lookup_drop_of_ne {key : String} (h : key ≠ l.key) :
    (drop l.key ms).lookup key = ms.lookup key := by
  rw [lookup_drop, if_neg h]

/-- Nothing is reported of the limit, nor of its absence, and other counts are left as they are. -/
theorem errors_count_drop (given : ms.lookup l.key = some (.number m)) (value : m.value = k)
    (key : String) : (count loc key (drop l.key ms)).errors = (count loc key ms).errors := by
  by_cases hk : key = l.key
  · subst hk
    rw [count_of_value given value, count, lookup_drop, if_pos rfl]
    rfl
  · rw [count, count, lookup_drop_of_ne hk]

theorem errors_textRules_drop (given : ms.lookup l.key = some (.number m)) (value : m.value = k) :
    (c.textRules loc (drop l.key ms)).errors = (c.textRules loc ms).errors := by
  have hp : pattern loc (drop l.key ms) = pattern loc ms := by
    rw [pattern, pattern, lookup_drop_of_ne (by cases l <;> decide)]
  have hf : c.format loc (drop l.key ms) = c.format loc ms := by
    rw [format, format, lookup_drop_of_ne (by cases l <;> decide)]
  have he : enumeration Json.text? (typeMessage "string") loc (drop l.key ms) =
      enumeration Json.text? (typeMessage "string") loc ms := by
    rw [enumeration, enumeration, lookup_drop_of_ne (by cases l <;> decide)]
  simp only [textRules, Checked.errors_map, Checked.errors_both, hp, hf, he,
    errors_count_drop given value]

theorem arrayFindings_drop (given : ms.lookup l.key = some (.number m)) (value : m.value = k) :
    arrayFindings loc (drop l.key ms) = arrayFindings loc ms := by
  have hc : (itemCounts loc (drop l.key ms)).errors = (itemCounts loc ms).errors := by
    simp only [itemCounts, Checked.errors_both, errors_count_drop given value]
  rw [arrayFindings, arrayFindings, heldFindings, heldFindings,
    lookup_drop_of_ne (by cases l <;> decide), hc]

/-- What is found at a document is found without the limit as well. -/
theorem memberFindings_drop (kind : ms.lookup "kind" = some (.string l.kind.name))
    (given : ms.lookup l.key = some (.number m)) (value : m.value = k) :
    c.memberFindings loc (drop l.key ms) = c.memberFindings loc ms := by
  have hk : (drop l.key ms).lookup "kind" = some (.string l.kind.name) := by
    rw [lookup_drop_of_ne (by cases l <;> decide), kind]
  have hf : flag loc "required" (drop l.key ms) = flag loc "required" ms := by
    rw [flag, flag, lookup_drop_of_ne (by cases l <;> decide)]
  have hr : c.kindFindings loc (drop l.key ms) (.string l.kind.name) =
      c.kindFindings loc ms (.string l.kind.name) := by
    cases l with
    | minLength | maxLength =>
      exact congrArg (fun report => [Finding.demands report]) (errors_textRules_drop given value)
    | minItems | maxItems => exact arrayFindings_drop given value
  simp only [memberFindings, hk, kind, hf, hr]

/-- A whole number from zero on is taken: the report is the same without it. -/
theorem errors_drop (kind : ms.lookup "kind" = some (.string l.kind.name))
    (given : ms.lookup l.key = some (.number m)) (value : m.value = k) (c : Checker)
    (loc : String) :
    (c.node loc (.object ms)).errors = (c.node loc (.object (drop l.key ms))).errors := by
  have hu : c.unsupported loc (drop l.key ms) = c.unsupported loc ms := by
    have hn : ∀ key ∈ unsupportedKeywords, key ≠ l.key := by cases l <;> decide
    unfold unsupported
    split
    · refine List.filterMap_congr fun key hm => ?_
      rw [lookup_drop_of_ne (hn key hm)]
    · rfl
  rw [errors_node_object_eq, errors_node_object_eq, memberFindings_drop kind given value, hu]

/-- The count that rules have for a limit. -/
def limit? : SizeLimit → Rules → Option Nat
  | minLength, .string r => r.minLength
  | maxLength, .string r => r.maxLength
  | minItems, .array _ least _ => least
  | maxItems, .array _ _ most => most
  | _, _ => none

/-- The lengths that rules for strings have are the counts given for them. -/
theorem counts_of_textRules {r : TextRules} (h : c.textRules loc ms = .ok r) :
    count loc "minLength" ms = .ok r.minLength ∧ count loc "maxLength" ms = .ok r.maxLength := by
  obtain ⟨⟨lengths, names, allowed⟩, hb, rfl⟩ := Checked.map_eq_ok_iff.1 h
  exact Checked.both_eq_ok_iff.1 (Checked.both_eq_ok_iff.1 hb).1

/-- The count that a compiled node has for a limit is the one that is given for it. -/
theorem count_of_took {n : Node} (h : c.Took loc ms n)
    (kind : ms.lookup "kind" = some (.string l.kind.name)) :
    count loc l.key ms = .ok (l.limit? n.rules) := by
  cases l with
  | minLength =>
    obtain ⟨r, hr, hn⟩ := h.textRules kind
    rw [hn]
    exact (counts_of_textRules hr).1
  | maxLength =>
    obtain ⟨r, hr, hn⟩ := h.textRules kind
    rw [hn]
    exact (counts_of_textRules hr).2
  | minItems =>
    obtain ⟨items, least, most, -, hb, hn⟩ := h.arrayRules kind
    rw [hn]
    exact (Checked.both_eq_ok_iff.1 hb).1
  | maxItems =>
    obtain ⟨items, least, most, -, hb, hn⟩ := h.arrayRules kind
    rw [hn]
    exact (Checked.both_eq_ok_iff.1 hb).2

/-- The count that a compiled node has for a limit is the one that the number is read as. -/
theorem limit?_of_took {n : Node} (h : c.Took loc ms n)
    (kind : ms.lookup "kind" = some (.string l.kind.name))
    (given : ms.lookup l.key = some (.number m)) (value : m.value = k) :
    l.limit? n.rules = some m.limit :=
  Checked.ok.inj ((count_of_took h kind).symm.trans (count_of_value given value))

end Schemas

/-! ### Values -/

theorem mem_ruleViolation_iff {α : Type} {rule : Option α} {broken : α → Bool} {loc : String}
    {message : α → String} {actual : Json} {x : Violation} :
    x ∈ ruleViolation rule broken loc message actual ↔
      ∃ a, rule = some a ∧ broken a = true ∧ x = ⟨loc, "", message a, actual⟩ := by
  cases rule with
  | none => simp [ruleViolation]
  | some a => cases hb : broken a <;> simp [ruleViolation, violationIf, hb]

/-- Texts that differ in one character before their ends differ whatever follows. -/
theorem append_ne_append {a b : String} {i : Nat} {c d : Char} (ha : a.toList[i]? = some c)
    (hb : b.toList[i]? = some d) (h : c ≠ d) (x y : String) : a ++ x ≠ b ++ y := by
  intro he
  have hc : (a ++ x).toList[i]? = some c := by
    rw [String.toList_append, List.getElem?_append_left (lt_length_of_getElem? ha), ha]
  have hd : (b ++ y).toList[i]? = some d := by
    rw [String.toList_append, List.getElem?_append_left (lt_length_of_getElem? hb), hb]
  rw [he, hd] at hc
  exact h (Option.some.inj hc).symm

/-- The message of a limit says of a size, and not of the value, what must be the case. -/
theorem not_isDemand_message (l : SizeLimit) (k : Nat) : ¬ IsDemand (l.message k) := by
  have hm : "must ".toList[0]? = some 'm' := by decide
  have hl : l.opening.toList[0]? = some 'l' ∨ l.opening.toList[0]? = some 'n' := by
    cases l <;> decide
  rintro ⟨demand, h⟩
  rw [message, String.append_assoc] at h
  rcases hl with hl | hl
  · exact append_ne_append hl hm (by decide) _ _ h
  · exact append_ne_append hl hm (by decide) _ _ h

theorem message_length_ne (k k' : Nat) : minLength.message k ≠ maxLength.message k' := by
  have hl : minLength.opening.toList[15]? = some 'g' := by decide
  have hm : maxLength.opening.toList[15]? = some 'l' := by decide
  rw [message, message, String.append_assoc, String.append_assoc]
  exact append_ne_append hl hm (by decide) _ _

theorem message_items_ne (k k' : Nat) : minItems.message k ≠ maxItems.message k' := by
  have hl : minItems.opening.toList[8]? = some 'l' := by decide
  have hm : maxItems.opening.toList[8]? = some 'm' := by decide
  rw [message, message, String.append_assoc, String.append_assoc]
  exact append_ne_append hl hm (by decide) _ _

/-- Limits for one kind are told apart by their messages. -/
theorem eq_of_message_eq {l l' : SizeLimit} {k k' : Nat} (hk : l.kind = l'.kind)
    (h : l.message k = l'.message k') : l = l' := by
  cases l <;> cases l' <;> first
    | rfl
    | exact absurd hk (by decide)
    | exact absurd h (message_length_ne _ _)
    | exact absurd h.symm (message_length_ne _ _)
    | exact absurd h (message_items_ne _ _)
    | exact absurd h.symm (message_items_ne _ _)

theorem kind_of_limit? {l : SizeLimit} {rules : Rules} {k : Nat} (h : l.limit? rules = some k) :
    rules.kind = l.kind := by
  cases l <;> cases rules <;> first
    | rfl
    | cases h

theorem isDemand_of_mem_ruleViolation {α : Type} {rule : Option α} {broken : α → Bool}
    {loc : String} {message : α → String} {actual : Json} {x : Violation}
    (hm : ∀ a, IsDemand (message a)) (h : x ∈ ruleViolation rule broken loc message actual) :
    IsDemand x.message := by
  obtain ⟨a, -, -, rfl⟩ := mem_ruleViolation_iff.1 h
  exact hm a

/-- Of the rules for strings only the limits on the length have messages that are no demands. -/
theorem mem_textViolations_iff {formats : Formats} {r : TextRules} {loc s : String} {x : Violation}
    (hx : ¬ IsDemand x.message) :
    x ∈ textViolations formats r loc s ↔
      ∃ (l : SizeLimit) (k : Nat), l.limit? (.string r) = some k ∧ l.Excludes s.length k ∧
        x = ⟨loc, "", l.message k, .string s⟩ := by
  have hp : ∀ p : Pattern,
      IsDemand ("must match against the regular expression [" ++ p.source ++ "]") := fun p =>
    (IsDemand.append ⟨"match against the regular expression [", rfl⟩ p.source).append "]"
  have hf : ∀ name : String, IsDemand ("must match against the format [" ++ name ++ "]") :=
    fun name => (IsDemand.append ⟨"match against the format [", rfl⟩ name).append "]"
  simp only [textViolations, List.mem_append]
  constructor
  · rintro ((((h | h) | h) | h) | h)
    · obtain ⟨k, hr, hb, hk⟩ := mem_ruleViolation_iff.1 h
      exact ⟨minLength, k, hr, of_decide_eq_true hb, hk⟩
    · obtain ⟨k, hr, hb, hk⟩ := mem_ruleViolation_iff.1 h
      exact ⟨maxLength, k, hr, of_decide_eq_true hb, hk⟩
    · exact absurd (isDemand_of_mem_ruleViolation hp h) hx
    · exact absurd (isDemand_of_mem_ruleViolation hf h) hx
    · exact absurd (isDemand_of_mem_ruleViolation isDemand_choiceMessage h) hx
  · rintro ⟨l, k, hr, hb, hk⟩
    cases l with
    | minLength =>
      exact .inl (.inl (.inl (.inl (mem_ruleViolation_iff.2 ⟨k, hr, decide_eq_true hb, hk⟩))))
    | maxLength =>
      exact .inl (.inl (.inl (.inr (mem_ruleViolation_iff.2 ⟨k, hr, decide_eq_true hb, hk⟩))))
    | minItems | maxItems => cases hr

/-- What is said of an element is said further down. -/
theorem locator_ne_of_mem_itemViolations {env : Environment} {loc : String} {i : Nat}
    {items : Items} {v : Json} {x : Violation}
    (h : x ∈ env.itemViolations (Locator.withIndex loc i) items v) : x.locator ≠ loc := by
  have hs : env.itemViolations (Locator.withIndex loc i ++ "") items v = _ :=
    Environment.itemViolations_append (fun n _ l w => env.violations_append _ l n w) "" v
  rw [String.append_empty] at hs
  rw [hs] at h
  obtain ⟨rest, hr⟩ := Violation.exists_of_mem_map_under x h
  rw [hr, Locator.withIndex, Locator.extend_of_not_isEmpty (by simp [Locator.Segment.IsEmpty])]
  intro he
  have hl := congrArg String.length he
  have hb : "[".length = 1 := rfl
  simp only [Locator.Segment.text, Locator.Segment.chars, String.length_append,
    String.length_ofList, List.length_append, List.length_cons] at hl
  omega

/-- Of the rules for lists only the limits on the number of elements speak of the list itself. -/
theorem mem_arrayViolations_iff {env : Environment} {items : Items} {least most : Option Nat}
    {loc : String} {vs : List Json} {x : Violation} (hx : x.locator = loc) :
    x ∈ env.ruleViolations loc (.array items least most) (.array vs) ↔
      ∃ (l : SizeLimit) (k : Nat), l.limit? (.array items least most) = some k ∧
        l.Excludes vs.length k ∧ x = ⟨loc, "", l.message k, .number (.ofNat vs.length)⟩ := by
  rw [Environment.ruleViolations_array, List.mem_append]
  simp only [countViolations, List.mem_append]
  constructor
  · rintro ((h | h) | h)
    · obtain ⟨k, hr, hb, hk⟩ := mem_ruleViolation_iff.1 h
      exact ⟨minItems, k, hr, of_decide_eq_true hb, hk⟩
    · obtain ⟨k, hr, hb, hk⟩ := mem_ruleViolation_iff.1 h
      exact ⟨maxItems, k, hr, of_decide_eq_true hb, hk⟩
    · obtain ⟨y, -, hy⟩ := List.mem_flatMap.1 h
      exact absurd hx (locator_ne_of_mem_itemViolations hy)
  · rintro ⟨l, k, hr, hb, hk⟩
    cases l with
    | minItems => exact .inl (.inl (mem_ruleViolation_iff.2 ⟨k, hr, decide_eq_true hb, hk⟩))
    | maxItems => exact .inl (.inr (mem_ruleViolation_iff.2 ⟨k, hr, decide_eq_true hb, hk⟩))
    | minLength | maxLength => cases hr

section Values

variable {l : SizeLimit} {env : Environment} {rules : Rules} {loc : String} {m : Json.Number}
  {v : Json} {size : Nat}

/-- Rules say of the size of a value what their limits say of it. -/
theorem violation_mem_iff_exists (hk : l.limit? rules = some m.limit) (hs : l.size? v = some size) :
    l.violation loc m v ∈ env.ruleViolations loc rules v ↔
      ∃ (l' : SizeLimit) (k : Nat), l'.limit? rules = some k ∧ l'.Excludes size k ∧
        l.violation loc m v = ⟨loc, "", l'.message k, l.actual v⟩ := by
  cases l with
  | minLength | maxLength =>
    cases rules with
    | string r =>
      cases v with
      | string s =>
        obtain rfl := Option.some.inj hs
        exact mem_textViolations_iff (not_isDemand_message _ _)
      | _ => cases hs
    | _ => cases hk
  | minItems | maxItems =>
    cases rules with
    | array items least most =>
      cases v with
      | array vs =>
        obtain rfl := Option.some.inj hs
        exact mem_arrayViolations_iff rfl
      | _ => cases hs
    | _ => cases hk

/-- Rules report the violation of a limit exactly if the count that they have for it excludes the
size. -/
theorem violation_mem_ruleViolations_iff (hk : l.limit? rules = some m.limit)
    (hs : l.size? v = some size) :
    l.violation loc m v ∈ env.ruleViolations loc rules v ↔ l.Excludes size m.limit := by
  rw [violation_mem_iff_exists hk hs]
  constructor
  · rintro ⟨l', k, hr, hb, he⟩
    obtain rfl : l = l' := eq_of_message_eq ((kind_of_limit? hk).symm.trans (kind_of_limit? hr))
      (congrArg Violation.message he)
    obtain rfl := Option.some.inj (hk.symm.trans hr)
    exact hb
  · exact fun hb => ⟨l, m.limit, hk, hb, rfl⟩

theorem ne_null_of_size? (hs : l.size? v = some size) : v ≠ .null := by
  rintro rfl
  cases l <;> cases hs

/-- **Limits on sizes are exact.** A whole number from zero on, as large as may be, is taken for
each of the four limits: the report about the document is the same without it.  And if the document
is compiled, the violation of the limit is reported of a value of fewer than `2 ^ 53` characters or
elements exactly if the number as written excludes its size, or if a custom validation happens to
say the same. -/
theorem size_limits_exact (l : SizeLimit) {ms : Members} {k : Nat}
    (kind : ms.lookup "kind" = some (.string l.kind.name))
    (given : ms.lookup l.key = some (.number m)) (value : m.value = k) (c : Checker)
    (loc : String) :
    (c.node loc (.object ms)).errors = (c.node loc (.object (drop l.key ms))).errors ∧
      ∀ n, c.node loc (.object ms) = .ok n → ∀ (env : Environment) (loc' : String) (v : Json)
        (size : Nat), l.size? v = some size → size < 2 ^ 53 →
          (l.violation loc' m v ∈ env.violations loc' n v ↔
            l.Excludes size k ∨
              l.violation loc' m v ∈ env.customViolations n.source loc' v) := by
  refine ⟨errors_drop kind given value c loc, fun n hn env loc' v size hs hlt => ?_⟩
  have hk := limit?_of_took (Checker.took_of_node hn) kind given value
  have hv : ¬ n.RefusesNull v := fun h => ne_null_of_size? hs h.1
  rw [Environment.violations_of_not_refusesNull env loc' hv, List.mem_append,
    violation_mem_ruleViolations_iff hk hs, excludes_limit_iff value hlt, or_comm]

end Values

/-- The least number that is changed by rounding. -/
def oddNumber : Json.Number := .integer 9007199254740993 (by decide)

/-- Texts of so many characters. -/
def longTexts : Members := [("kind", .string "string"), ("minLength", .number oddNumber)]

/-- The number is rounded down, and all texts of fewer than `2 ^ 53` characters are still too
short. -/
theorem longTexts_exact :
    longTexts.lookup "kind" = some (.string minLength.kind.name) ∧
      longTexts.lookup minLength.key = some (.number oddNumber) ∧
      oddNumber.value = (9007199254740993 : Nat) ∧
      ∃ n, Checker.node ⟨.empty, true⟩ Locator.root (.object longTexts) = .ok n ∧
        ∀ s : String, s.length < 2 ^ 53 →
          minLength.violation Locator.root oddNumber (.string s) ∈
            Environment.violations ⟨.empty, .empty⟩ Locator.root n (.string s) := by
  have hk : longTexts.lookup "kind" = some (.string minLength.kind.name) := rfl
  have hg : longTexts.lookup minLength.key = some (.number oddNumber) := rfl
  have hv : oddNumber.value = (9007199254740993 : Nat) := rfl
  obtain ⟨he, hn⟩ := size_limits_exact minLength hk hg hv ⟨.empty, true⟩ Locator.root
  have hd : (Checker.node ⟨.empty, true⟩ Locator.root
      (.object (drop minLength.key longTexts))).errors = [] := rfl
  obtain ⟨n, hc⟩ := (Checked.errors_eq_nil_iff _).1 (he.trans hd)
  refine ⟨hk, hg, hv, n, hc, fun s hs => ?_⟩
  refine (hn n hc ⟨.empty, .empty⟩ Locator.root (.string s) s.length rfl hs).2 (.inl ?_)
  show s.length < 9007199254740993
  omega

end SizeLimit

end ShapeCheck
