import ShapeCheck.Proofs.Keyword

/-!
# The grammar of schema documents

What a well-formed schema document is, said without locators, messages and reports.

* `Checker.WellFormed`: a document is a text that names a kind, or an object with the keywords of
  one;
* `additional_eq`, `properties_eq`, `oneOf_eq`, `items_eq`: the keywords that hold nodes, read off
  the values of their keys;
* `Checker.errors_node`: nothing is reported, at whatever locator, exactly if the document is well
  formed;
* `Checker.check_decides_wellFormed`: a document gives a node or a report, never both or neither,
  according to whether it is well formed.
-/

namespace ShapeCheck

open Json (Members)

theorem declaredKind_eq_some_iff {declared : Json} {k : Kind} :
    declared.text?.bind Kind.ofName? = some k ↔ declared = .string k.name := by
  cases declared <;> simp [Json.text?, Kind.ofName?_eq_some_iff]

namespace Checker

/-! ### The grammar -/

mutual

/-- A document is a text that names a kind, or an object that declares a kind, has sound keywords
and none that are refused. -/
inductive WellFormed (c : Checker) : Json → Prop where
  | name (k : Kind) : WellFormed c (.string k.name)
  | object {ms : Members} {k : Kind} (kind : ms.lookup "kind" = some (.string k.name))
      (required : Keyword ms "required" Json.IsBool)
      (supported : c.rejectUnsupported = true →
        ∀ key ∈ unsupportedKeywords, ms.lookup key = none)
      (keywords : KindKeywords c k ms) : WellFormed c (.object ms)

/-- The keywords of a kind are sound; those of the other kinds do not matter. -/
inductive KindKeywords (c : Checker) : Kind → Members → Prop where
  | string {ms : Members} (h : c.TextKeywords ms) : KindKeywords c .string ms
  | number {ms : Members} (h : NumberKeywords false ms) : KindKeywords c .number ms
  | integer {ms : Members} (h : NumberKeywords true ms) : KindKeywords c .integer ms
  | boolean (ms : Members) : KindKeywords c .boolean ms
  | null (ms : Members) : KindKeywords c .null ms
  | any (ms : Members) : KindKeywords c .any ms
  | object {ms : Members} (additional : Keyword ms "additionalProperties" (AdditionalForm c))
      (properties : Keyword ms "properties" (MembersForm c))
      (oneOf : Keyword ms "oneOf" (ElementsForm c)) : KindKeywords c .object ms
  | array {ms : Members} (items : Keyword ms "items" (ItemsForm c))
      (minItems : Keyword ms "minItems" Json.IsCount)
      (maxItems : Keyword ms "maxItems" Json.IsCount) : KindKeywords c .array ms

/-- True, false or a document. -/
inductive AdditionalForm (c : Checker) : Json → Prop where
  | bool (b : Bool) : AdditionalForm c (.bool b)
  | node {v : Json} (h : WellFormed c v) : AdditionalForm c v

/-- An object of documents. -/
inductive MembersForm (c : Checker) : Json → Prop where
  | object {ms : Members} (h : ∀ name v, (name, v) ∈ ms → WellFormed c v) :
      MembersForm c (.object ms)

/-- A list of documents. -/
inductive ElementsForm (c : Checker) : Json → Prop where
  | array {vs : List Json} (h : ∀ v ∈ vs, WellFormed c v) : ElementsForm c (.array vs)

/-- A document or a list of documents. -/
inductive ItemsForm (c : Checker) : Json → Prop where
  | node {v : Json} (h : WellFormed c v) : ItemsForm c v
  | list {v : Json} (h : ElementsForm c v) : ItemsForm c v

end

variable {c : Checker} {loc : String} {ms : Members}

/-! ### Keywords that hold nodes -/

/-- What a value of `additionalProperties` stands for. -/
def additionalOf (c : Checker) (loc : String) (v : Json) : Checked Additional :=
  match v.bool? with
  | some false => .ok .forbidden
  | some true => .ok .allowed
  | none => (c.node (Locator.withKey loc "additionalProperties") v).map .schema

/-- What a value of `properties` stands for. -/
def propertiesOf (c : Checker) (loc : String) : Json → Checked (List (String × Node))
  | .object declared => c.memberNodes (Locator.withKey loc "properties") declared
  | v => .fail loc "properties" (typeMessage "object") (.string v.typeName)

/-- What a value of `oneOf` stands for. -/
def oneOfOf (c : Checker) (loc : String) : Json → Checked (Option (List Node))
  | .array vs => (c.elementNodes (Locator.withKey loc "oneOf") 0 vs).map some
  | v => .fail loc "oneOf" (typeMessage "array") (.string v.typeName)

/-- What a value of `items` stands for. -/
def itemsOf (c : Checker) (loc : String) : Json → Checked Items
  | .array vs => (c.elementNodes (Locator.withKey loc "items") 0 vs).map .alternatives
  | v => (c.node (Locator.withKey loc "items") v).map .single

theorem additional_eq (c : Checker) (loc : String) (ms : Members) :
    c.additional loc ms =
      (ms.lookup "additionalProperties").elim (.ok .forbidden) (c.additionalOf loc) := by
  induction ms with
  | nil => rfl
  | cons m rest ih =>
    obtain ⟨name, v⟩ := m
    rw [additional, lookup_entry, ih]
    simp only [eq_comm (a := name)]
    split <;> rfl

theorem properties_eq (c : Checker) (loc : String) (ms : Members) :
    c.properties loc ms = (ms.lookup "properties").elim (.ok []) (c.propertiesOf loc) := by
  induction ms with
  | nil => rfl
  | cons m rest ih =>
    obtain ⟨name, v⟩ := m
    by_cases h : name = "properties"
    · subst h
      rw [List.lookup_cons_self]
      cases v <;> simp only [properties, if_true] <;> rfl
    · rw [lookup_entry, if_neg (Ne.symm h), ← ih]
      cases v <;> simp only [properties, if_neg h]

theorem oneOf_eq (c : Checker) (loc : String) (ms : Members) :
    c.oneOf loc ms = (ms.lookup "oneOf").elim (.ok none) (c.oneOfOf loc) := by
  induction ms with
  | nil => rfl
  | cons m rest ih =>
    obtain ⟨name, v⟩ := m
    by_cases h : name = "oneOf"
    · subst h
      rw [List.lookup_cons_self]
      cases v <;> simp only [oneOf, if_true] <;> rfl
    · rw [lookup_entry, if_neg (Ne.symm h), ← ih]
      cases v <;> simp only [oneOf, if_neg h]

theorem items_eq (c : Checker) (loc : String) (ms : Members) :
    c.items loc ms = (ms.lookup "items").elim (.ok .free) (c.itemsOf loc) := by
  induction ms with
  | nil => rfl
  | cons m rest ih =>
    obtain ⟨name, v⟩ := m
    rw [items, lookup_entry, ih]
    simp only [eq_comm (a := name)]
    split
    · cases v <;> rfl
    · rfl

/-! ### Reports and well-formedness -/

/-- The checker is right about a document: it reports nothing, at whatever locator, exactly if the
document is well formed. -/
def Decides (c : Checker) (v : Json) : Prop :=
  ∀ loc, (c.node loc v).errors = [] ↔ c.WellFormed v

/-- A keyword whose value is read by some function, with a default for the keyword left out. -/
theorem errors_elim {α : Type} {key : String} {absent : α} {read : Json → Checked α}
    {P : Json → Prop} (h : ∀ v, ms.lookup key = some v → ((read v).errors = [] ↔ P v)) :
    ((ms.lookup key).elim (.ok absent) read).errors = [] ↔ Keyword ms key P := by
  cases hl : ms.lookup key with
  | none => exact iff_of_true rfl (keyword_of_lookup_none hl)
  | some v =>
    rw [keyword_iff_of_lookup hl]
    exact h v hl

theorem errors_memberNodes {base : String}
    (ih : ∀ name v, (name, v) ∈ ms → c.Decides v) :
    (c.memberNodes base ms).errors = [] ↔ ∀ name v, (name, v) ∈ ms → c.WellFormed v := by
  induction ms with
  | nil => simp [memberNodes]
  | cons m rest hr =>
    obtain ⟨name, v⟩ := m
    rw [memberNodes, Checked.errors_map, Checked.errors_both, List.append_eq_nil_iff,
      ih name v List.mem_cons_self, hr fun name v h => ih name v (List.mem_cons_of_mem _ h)]
    constructor
    · rintro ⟨hv, hrest⟩ other w hw
      rcases List.mem_cons.1 hw with he | hw
      · cases he
        exact hv
      · exact hrest other w hw
    · intro h
      exact ⟨h name v List.mem_cons_self, fun other w hw => h other w (List.mem_cons_of_mem _ hw)⟩

theorem errors_elementNodes {base : String} (i : Nat) (vs : List Json)
    (ih : ∀ v ∈ vs, c.Decides v) :
    (c.elementNodes base i vs).errors = [] ↔ ∀ v ∈ vs, c.WellFormed v := by
  induction vs generalizing i with
  | nil => simp [elementNodes]
  | cons v rest hr =>
    rw [elementNodes, Checked.errors_map, Checked.errors_both, List.append_eq_nil_iff,
      ih v List.mem_cons_self, hr (i + 1) fun w h => ih w (List.mem_cons_of_mem _ h),
      List.forall_mem_cons]

section Below

/-! The keywords that hold nodes, given that the values below are judged rightly. -/

variable {v : Json}

theorem errors_additionalOf (ih : c.Decides v) :
    (c.additionalOf loc v).errors = [] ↔ c.AdditionalForm v := by
  cases v with
  | bool b =>
    refine iff_of_true ?_ (.bool b)
    cases b <;> rfl
  | _ =>
    rw [additionalOf]
    simp only [Json.bool?, Checked.errors_map, ih _]
    constructor
    · exact .node
    · intro h
      cases h with
      | node h => exact h

theorem errors_propertiesOf (ih : ∀ w ∈ v.children, c.Decides w) :
    (c.propertiesOf loc v).errors = [] ↔ c.MembersForm v := by
  cases v with
  | object declared =>
    have hd (name : String) (w : Json) (h : (name, w) ∈ declared) : c.Decides w :=
      ih w (List.mem_map.2 ⟨(name, w), h, rfl⟩)
    rw [propertiesOf, errors_memberNodes hd]
    constructor
    · exact .object
    · intro h
      cases h with
      | object h => exact h
  | _ => exact iff_of_false (List.cons_ne_nil _ _) fun h => by cases h

theorem errors_oneOfOf (ih : ∀ w ∈ v.children, c.Decides w) :
    (c.oneOfOf loc v).errors = [] ↔ c.ElementsForm v := by
  cases v with
  | array vs =>
    rw [oneOfOf, Checked.errors_map, errors_elementNodes 0 vs ih]
    constructor
    · exact .array
    · intro h
      cases h with
      | array h => exact h
  | _ => exact iff_of_false (List.cons_ne_nil _ _) fun h => by cases h

theorem errors_itemsOf (ih : c.Decides v) (ihc : ∀ w ∈ v.children, c.Decides w) :
    (c.itemsOf loc v).errors = [] ↔ c.ItemsForm v := by
  cases v with
  | array vs =>
    rw [itemsOf, Checked.errors_map, errors_elementNodes 0 vs ihc]
    constructor
    · exact fun h => .list (.array h)
    · rintro (⟨⟨⟩⟩ | ⟨⟨h⟩⟩)
      exact h
  | _ =>
    rw [itemsOf, Checked.errors_map, ih _]
    · constructor
      · exact .node
      · rintro (h | ⟨⟨⟩⟩)
        exact h
    · intro vs he
      cases he

end Below

theorem kindKeywords_string : c.KindKeywords .string ms ↔ c.TextKeywords ms := by
  constructor
  · intro h
    cases h with
    | string h => exact h
  · exact .string

theorem kindKeywords_number : c.KindKeywords .number ms ↔ NumberKeywords false ms := by
  constructor
  · intro h
    cases h with
    | number h => exact h
  · exact .number

theorem kindKeywords_integer : c.KindKeywords .integer ms ↔ NumberKeywords true ms := by
  constructor
  · intro h
    cases h with
    | integer h => exact h
  · exact .integer

/-- The keywords of the declared kind, given that those of objects and arrays are judged rightly. -/
theorem errors_kindRules {declared : Json} {object array : Unit → Checked Rules}
    (ho : (object ()).errors = [] ↔ c.KindKeywords .object ms)
    (ha : (array ()).errors = [] ↔ c.KindKeywords .array ms) :
    (c.kindRules loc ms declared object array).errors = [] ↔
      ∃ k : Kind, declared = .string k.name ∧ c.KindKeywords k ms := by
  rw [kindRules]
  cases hk : declared.text?.bind Kind.ofName? with
  | none =>
    refine iff_of_false (List.cons_ne_nil _ _) ?_
    rintro ⟨k, hd, -⟩
    rw [declaredKind_eq_some_iff.2 hd] at hk
    cases hk
  | some k =>
    -- the kind is declared by its name, so that no other kind is meant
    have hiff : (∃ l : Kind, declared = .string l.name ∧ c.KindKeywords l ms) ↔
        c.KindKeywords k ms := by
      constructor
      · rintro ⟨l, hl, h⟩
        rw [declaredKind_eq_some_iff.2 hl] at hk
        exact Option.some.inj hk ▸ h
      · exact fun h => ⟨k, declaredKind_eq_some_iff.1 hk, h⟩
    rw [hiff]
    cases k with
    | string => rw [Checked.errors_map, errors_textRules, kindKeywords_string]
    | number => rw [Checked.errors_map, errors_numberRules, kindKeywords_number]
    | integer => rw [Checked.errors_map, errors_numberRules, kindKeywords_integer]
    | boolean => exact iff_of_true rfl (.boolean ms)
    | null => exact iff_of_true rfl (.null ms)
    | any => exact iff_of_true rfl (.any ms)
    | object => exact ho
    | array => exact ha

/-- The document with the given members, given that the keywords of objects and arrays are judged
rightly. -/
theorem errors_assemble {object array : Unit → Checked Rules}
    (ho : (object ()).errors = [] ↔ c.KindKeywords .object ms)
    (ha : (array ()).errors = [] ↔ c.KindKeywords .array ms) :
    (c.assemble loc ms object array).errors = [] ↔ c.WellFormed (.object ms) := by
  rw [assemble]
  cases hk : ms.lookup "kind" with
  | none =>
    refine iff_of_false (List.cons_ne_nil _ _) ?_
    rintro (_ | ⟨kind, -, -, -⟩)
    rw [hk] at kind
    cases kind
  | some declared =>
    simp only [Checked.errors_map, Checked.errors_both, Checked.errors_ofReport,
      List.append_eq_nil_iff, errors_flag, errors_unsupported, errors_kindRules ho ha]
    constructor
    · rintro ⟨⟨hr, hs⟩, k, rfl, h⟩
      exact .object hk hr hs h
    · rintro (_ | ⟨kind, hr, hs, h⟩)
      rw [hk] at kind
      exact ⟨⟨hr, hs⟩, _, Option.some.inj kind, h⟩

/-! ### Texts for documents -/

theorem lookup_shorthand {s key : String} (h : key ≠ "kind") :
    (shorthand s).lookup key = none := by
  rw [shorthand, lookup_entry, if_neg h]
  rfl

theorem keyword_shorthand {s key : String} {P : Json → Prop} (h : key ≠ "kind") :
    Keyword (shorthand s) key P :=
  keyword_of_lookup_none (lookup_shorthand h)

theorem kindKeywords_shorthand (c : Checker) (k : Kind) (s : String) :
    c.KindKeywords k (shorthand s) := by
  have hn (integral : Bool) : NumberKeywords integral (shorthand s) :=
    ⟨keyword_shorthand (by decide), fun _ => keyword_shorthand (by decide),
      keyword_shorthand (by decide), fun _ => keyword_shorthand (by decide),
      keyword_shorthand (by decide)⟩
  cases k with
  | string =>
    exact .string ⟨keyword_shorthand (by decide), keyword_shorthand (by decide),
      keyword_shorthand (by decide), keyword_shorthand (by decide), keyword_shorthand (by decide)⟩
  | number => exact .number (hn false)
  | integer => exact .integer (hn true)
  | boolean => exact .boolean _
  | null => exact .null _
  | any => exact .any _
  | object =>
    exact .object (keyword_shorthand (by decide)) (keyword_shorthand (by decide))
      (keyword_shorthand (by decide))
  | array =>
    exact .array (keyword_shorthand (by decide)) (keyword_shorthand (by decide))
      (keyword_shorthand (by decide))

/-- A text is as good a document as the object that it stands for. -/
theorem wellFormed_shorthand {s : String} :
    c.WellFormed (.object (shorthand s)) ↔ c.WellFormed (.string s) := by
  have hk : (shorthand s).lookup "kind" = some (.string s) := List.lookup_cons_self
  constructor
  · rintro (_ | ⟨kind, -, -, -⟩)
    rw [hk] at kind
    rw [Json.string.inj (Option.some.inj kind)]
    exact .name _
  · rintro (⟨k⟩ | _)
    refine .object hk (keyword_shorthand (by decide)) (fun _ key hm => ?_)
      (kindKeywords_shorthand c k _)
    refine lookup_shorthand ?_
    rintro rfl
    exact absurd hm (by decide)

/-! ### Documents -/

/-- The checker is right about a document as soon as it is about the values one and two steps
below: a keyword holds a list of documents one step below its value. -/
theorem decides_of_children {d : Json}
    (ih : ∀ v ∈ d.children, c.Decides v ∧ ∀ w ∈ v.children, c.Decides w) : c.Decides d := by
  intro loc
  cases d with
  | string s =>
    -- a text stands for an object that has no keywords, so nothing is asked of values below
    rw [node, ← wellFormed_shorthand]
    exact errors_assemble (iff_of_true rfl (kindKeywords_shorthand c .object s))
      (iff_of_true rfl (kindKeywords_shorthand c .array s))
  | object ms =>
    have hv {key : String} {v : Json} (h : ms.lookup key = some v) :=
      ih v (Json.mem_children_of_lookup h)
    rw [node]
    refine errors_assemble ?_ ?_
    · rw [Checked.errors_map, Checked.errors_both, Checked.errors_both, List.append_eq_nil_iff,
        List.append_eq_nil_iff, additional_eq, properties_eq, oneOf_eq,
        errors_elim fun v h => errors_additionalOf (hv h).1,
        errors_elim fun v h => errors_propertiesOf (hv h).2,
        errors_elim fun v h => errors_oneOfOf (hv h).2]
      constructor
      · rintro ⟨ha, hp, ho⟩
        exact .object ha hp ho
      · intro h
        cases h with
        | object ha hp ho => exact ⟨ha, hp, ho⟩
    · rw [Checked.errors_map, Checked.errors_both, List.append_eq_nil_iff, items_eq, itemCounts,
        Checked.errors_both, List.append_eq_nil_iff, errors_count, errors_count,
        errors_elim fun v h => errors_itemsOf (hv h).1 (hv h).2]
      constructor
      · rintro ⟨hi, hl, hm⟩
        exact .array hi hl hm
      · intro h
        cases h with
        | array hi hl hm => exact ⟨hi, hl, hm⟩
  | _ => exact iff_of_false (List.cons_ne_nil _ _) fun h => by cases h

/-- Nothing is reported, at whatever locator, exactly if the document is well formed. -/
theorem errors_node (c : Checker) (loc : String) (d : Json) :
    (c.node loc d).errors = [] ↔ c.WellFormed d := by
  induction d using Json.inductionOnTwo generalizing loc with
  | step d ih => exact decides_of_children ih loc

instance (c : Checker) (d : Json) : Decidable (c.WellFormed d) :=
  decidable_of_iff ((c.node Locator.root d).errors = []) (errors_node c Locator.root d)

-- A limit that is not there cannot be exclusive in a wrong way.
example : (⟨.empty, true⟩ : Checker).WellFormed
    (.object [("kind", .string "number"), ("exclusiveMinimum", .string "yes")]) := by decide

/-- **A well-formed document gives a node and no report, every other one a report that is not empty
and no node.** -/
theorem check_decides_wellFormed (c : Checker) (d : Json) :
    (((c.check d).errors = [] ∧ ∃ n, (c.check d).value? = some n) ↔ c.WellFormed d) ∧
      (((c.check d).errors ≠ [] ∧ (c.check d).value? = none) ↔ ¬ c.WellFormed d) ∧
      ((∃ n, (c.check d).value? = some n ∧ Schema.compile c d = .ok ⟨n, d⟩) ↔ c.WellFormed d) ∧
      ((∃ first rest, (c.check d).errors = first :: rest ∧
        Schema.compile c d = .bad first rest) ↔ ¬ c.WellFormed d) := by
  rw [← errors_node c Locator.root d, Schema.compile, check]
  cases c.node Locator.root d with
  | ok n => simp [Checked.map]
  | bad first rest => simp [Checked.map]

end Checker

end ShapeCheck
