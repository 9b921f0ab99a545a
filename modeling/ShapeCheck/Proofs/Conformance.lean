import ShapeCheck.Proofs.Number
import ShapeCheck.Proofs.Walk

/-!
# Conformance

What it means that a value conforms to a node, said without locators, messages and reports.

* `TextRules.Accepts`, `NumberRules.Accepts`: the rules for leaves;
* `Environment.Conforms`: a value conforms to a node, with one rule for each form of a node;
* `Environment.violations_eq_nil_iff`: nothing is reported, at whatever locator, exactly if the value
  conforms;
* `Environment.no_violations_iff_conforms`: the same at the root.

Numbers are compared as doubles, as which limits and choices are kept.
-/

namespace ShapeCheck

/-! ### Leaves -/

/-- A text satisfies the rules for strings. -/
structure TextRules.Accepts (formats : Formats) (r : TextRules) (s : String) : Prop where
  least : ∀ n, r.minLength = some n → n ≤ s.length
  most : ∀ n, r.maxLength = some n → s.length ≤ n
  pattern : ∀ p, r.pattern = some p → p.isMatch s = true
  format : ∀ name, r.format = some name →
    ∃ f, formats.get? name = some f ∧ f.accepts s = true
  choice : ∀ allowed, r.allowed = some allowed → s ∈ allowed

/-- The limit is below the number, or is the number and not excluded. -/
def Bound.IsMinimumOf (b : Bound) (x : Binary64) : Prop :=
  b.limit ≤ x ∧ (b.exclusive = true → b.limit < x)

/-- The limit is above the number, or is the number and not excluded. -/
def Bound.IsMaximumOf (b : Bound) (x : Binary64) : Prop :=
  x ≤ b.limit ∧ (b.exclusive = true → x < b.limit)

/-- A number satisfies the rules for numbers. -/
structure NumberRules.Accepts (r : NumberRules) (x : Binary64) : Prop where
  minimum : ∀ b, r.minimum = some b → b.IsMinimumOf x
  maximum : ∀ b, r.maximum = some b → b.IsMaximumOf x
  choice : ∀ allowed, r.allowed = some allowed → ∃ a ∈ allowed, a.units = x.units

/-- A number of elements lies within the bounds. -/
structure CountWithin (least most : Option Nat) (n : Nat) : Prop where
  least : ∀ k, least = some k → k ≤ n
  most : ∀ k, most = some k → n ≤ k

/-! ### Silence of the rules for leaves -/

theorem textViolations_eq_nil_iff {formats : Formats} {r : TextRules} {loc s : String} :
    textViolations formats r loc s = [] ↔ r.Accepts formats s := by
  have hf (name : String) : (formats.check? name s != some true) = false ↔
      ∃ f, formats.get? name = some f ∧ f.accepts s = true := by
    simp [Formats.check?]
  simp only [textViolations, List.append_eq_nil_iff, ruleViolation_eq_nil_iff, hf,
    decide_eq_false_iff_not, Nat.not_lt, Bool.not_eq_false', List.contains_iff_mem]
  constructor
  · rintro ⟨⟨⟨⟨hl, hm⟩, hp⟩, hf⟩, hc⟩
    exact ⟨hl, hm, hp, hf, hc⟩
  · rintro ⟨hl, hm, hp, hf, hc⟩
    exact ⟨⟨⟨⟨hl, hm⟩, hp⟩, hf⟩, hc⟩

theorem Bound.isAbove_eq_false_iff {b : Bound} {x : Binary64} :
    b.isAbove x = false ↔ b.IsMinimumOf x := by
  obtain ⟨limit, exclusive⟩ := b
  cases exclusive with
  | false => simp [isAbove, IsMinimumOf, Binary64.le_def, Binary64.lt_def]
  | true =>
    simp only [isAbove, IsMinimumOf, Binary64.le_def, Binary64.lt_def]
    simp
    omega

theorem Bound.isBelow_eq_false_iff {b : Bound} {x : Binary64} :
    b.isBelow x = false ↔ b.IsMaximumOf x := by
  obtain ⟨limit, exclusive⟩ := b
  cases exclusive with
  | false => simp [isBelow, IsMaximumOf, Binary64.le_def, Binary64.lt_def]
  | true =>
    simp only [isBelow, IsMaximumOf, Binary64.le_def, Binary64.lt_def]
    simp
    omega

theorem numberViolations_eq_nil_iff {r : NumberRules} {loc : String} {actual : Json}
    {x : Binary64} : numberViolations r loc actual x = [] ↔ r.Accepts x := by
  have hc (allowed : List Binary64) : (!allowed.any (·.eqv x)) = false ↔
      ∃ a ∈ allowed, a.units = x.units := by
    simp
  simp only [numberViolations, List.append_eq_nil_iff, ruleViolation_eq_nil_iff, hc,
    Bound.isAbove_eq_false_iff, Bound.isBelow_eq_false_iff]
  constructor
  · rintro ⟨⟨hl, hm⟩, hc⟩
    exact ⟨hl, hm, hc⟩
  · rintro ⟨hl, hm, hc⟩
    exact ⟨⟨hl, hm⟩, hc⟩

theorem numericViolations_eq_nil_iff {integral : Bool} {r : NumberRules} {loc : String} {v : Json} :
    numericViolations integral r loc v = [] ↔
      ∃ n : Json.Number, v = .number n ∧ (integral = true → n.IsWhole) ∧
        r.Accepts n.toBinary64 := by
  unfold numericViolations
  split
  · rename_i x hx
    obtain ⟨n, rfl, hw, rfl⟩ := Checker.number?_eq_some_iff.1 hx
    rw [numberViolations_eq_nil_iff]
    constructor
    · exact fun h => ⟨n, rfl, hw, h⟩
    · rintro ⟨m, hm, -, h⟩
      rwa [Json.number.inj hm]
  · rename_i hx
    refine iff_of_false (wrongType_ne_nil _ _ _) ?_
    rintro ⟨n, rfl, hw, -⟩
    rw [Checker.number?_eq_some_iff.2 ⟨n, rfl, hw, rfl⟩] at hx
    cases hx

theorem countViolations_eq_nil_iff {least most : Option Nat} {loc : String} {n : Nat} :
    countViolations least most loc n = [] ↔ CountWithin least most n := by
  simp only [countViolations, List.append_eq_nil_iff, ruleViolation_eq_nil_iff,
    decide_eq_false_iff_not, Nat.not_lt]
  constructor
  · rintro ⟨hl, hm⟩
    exact ⟨hl, hm⟩
  · rintro ⟨hl, hm⟩
    exact ⟨hl, hm⟩

theorem missingViolations_eq_nil_iff {properties : List (String × Node)} {ms : Json.Members}
    {loc : String} :
    missingViolations properties ms loc = [] ↔
      ∀ name n, (name, n) ∈ properties → n.required = true → ∃ v, (name, v) ∈ ms := by
  simp only [missingViolations, List.filterMap_eq_nil_iff, Prod.forall,
    ← lookup_isSome_iff_exists_mem]
  refine forall₂_congr fun name n => imp_congr_right fun _ => ?_
  cases n.required <;> cases ms.lookup name <;> simp

namespace Environment

/-- Every custom validation that a key of the node names is silent. -/
def Unobjected (env : Environment) (source : Json.Members) (v : Json) : Prop :=
  ∀ name f, (name, f) ∈ env.customs.entries → (∃ w, (name, w) ∈ source) →
    f source v = none ∨ f source v = some ""

theorem customViolations_eq_nil_iff {env : Environment} {source : Json.Members} {loc : String}
    {v : Json} : env.customViolations source loc v = [] ↔ env.Unobjected source v := by
  simp only [customViolations, List.map_eq_nil_iff, Customs.messages, List.filterMap_eq_nil_iff,
    Prod.forall, Unobjected, ← lookup_isSome_iff_exists_mem]
  refine forall₂_congr fun name f => imp_congr_right fun _ => ?_
  unfold Customs.message?
  cases (source.lookup name).isSome with
  | false => simp
  | true => cases hf : f source v <;> simp [hf]

/-! ### The relation -/

mutual

/-- A value conforms to a node: it is not a null out of place, no custom validation objects to it,
and it satisfies the rules. -/
inductive Conforms (env : Environment) : Node → Json → Prop where
  | mk {required : Bool} {source : Json.Members} {rules : Rules} {v : Json}
      (null : v = .null → rules.kind = .null ∨ rules.kind = .any)
      (custom : env.Unobjected source v) (satisfies : Satisfies env rules v) :
      Conforms env (.mk required source rules) v

/-- A value satisfies the rules of a kind. -/
inductive Satisfies (env : Environment) : Rules → Json → Prop where
  | string {r : TextRules} {s : String} (h : r.Accepts env.formats s) :
      Satisfies env (.string r) (.string s)
  | number {r : NumberRules} {x : Json.Number} (h : r.Accepts x.toBinary64) :
      Satisfies env (.number r) (.number x)
  | integer {r : NumberRules} {x : Json.Number} (whole : x.IsWhole) (h : r.Accepts x.toBinary64) :
      Satisfies env (.integer r) (.number x)
  | boolean (b : Bool) : Satisfies env .boolean (.bool b)
  | null (v : Json) : Satisfies env .null v
  | any (v : Json) : Satisfies env .any v
  | noAlternative {properties : List (String × Node)} {additional : Additional}
      (ms : Json.Members) : Satisfies env (.object properties additional (some [])) (.object ms)
  | alternative {properties : List (String × Node)} {additional : Additional} {nodes : List Node}
      {ms : Json.Members} {n : Node} (hn : n ∈ nodes) (h : Conforms env n (.object ms)) :
      Satisfies env (.object properties additional (some nodes)) (.object ms)
  | members {properties : List (String × Node)} {additional : Additional} {ms : Json.Members}
      (present : ∀ name n, (name, n) ∈ properties → n.required = true → ∃ v, (name, v) ∈ ms)
      (each : ∀ name v, (name, v) ∈ ms → MemberConforms env properties additional name v) :
      Satisfies env (.object properties additional none) (.object ms)
  | array {items : Items} {least most : Option Nat} {vs : List Json}
      (count : CountWithin least most vs.length) (each : ∀ v ∈ vs, ItemConforms env items v) :
      Satisfies env (.array items least most) (.array vs)

/-- A member is as declared, or may be there without being declared. -/
inductive MemberConforms (env : Environment) :
    List (String × Node) → Additional → String → Json → Prop where
  | declared {properties : List (String × Node)} {additional : Additional} {name : String}
      {n : Node} {v : Json} (hn : properties.lookup name = some n) (h : Conforms env n v) :
      MemberConforms env properties additional name v
  | allowed {properties : List (String × Node)} {name : String} {v : Json}
      (hn : properties.lookup name = none) : MemberConforms env properties .allowed name v
  | additional {properties : List (String × Node)} {name : String} {n : Node} {v : Json}
      (hn : properties.lookup name = none) (h : Conforms env n v) :
      MemberConforms env properties (.schema n) name v

/-- An element is as asked for. -/
inductive ItemConforms (env : Environment) : Items → Json → Prop where
  | free (v : Json) : ItemConforms env .free v
  | single {n : Node} {v : Json} (h : Conforms env n v) : ItemConforms env (.single n) v
  | alternative {nodes : List Node} {n : Node} {v : Json} (hn : n ∈ nodes)
      (h : Conforms env n v) : ItemConforms env (.alternatives nodes) v

end

/-! ### Reports and conformance -/

variable {env : Environment}

theorem memberViolations_eq_nil_iff {properties : List (String × Node)} {additional : Additional}
    {oneOf : Option (List Node)}
    (ih : ∀ child ∈ (Rules.object properties additional oneOf).children, ∀ loc v,
      env.violations loc child v = [] ↔ env.Conforms child v) (loc name : String) (v : Json) :
    env.memberViolations loc properties additional name v = [] ↔
      env.MemberConforms properties additional name v := by
  cases hl : properties.lookup name with
  | some n =>
    rw [memberViolations_declared env loc hl, ih n (mem_children_of_declared hl)]
    constructor
    · exact fun h => .declared hl h
    · intro h
      cases h with
      | declared hn h => rwa [Option.some.inj (hl.symm.trans hn)]
      | allowed hn => simp [hl] at hn
      | additional hn _ => simp [hl] at hn
  | none =>
    rw [memberViolations_undeclared env loc hl]
    cases additional with
    | allowed => exact iff_of_true rfl (.allowed hl)
    | forbidden =>
      refine iff_of_false (List.cons_ne_nil _ _) fun h => ?_
      cases h with
      | declared hn _ => simp [hl] at hn
    | schema n =>
      have hn : n ∈ (Rules.object properties (.schema n) oneOf).children :=
        List.mem_append_right _ (List.mem_append_left _ (List.mem_singleton_self n))
      have hiff := ih n hn (Locator.withKey loc name) v
      rw [additionalViolations_schema]
      constructor
      · intro h
        by_cases he : env.violations (Locator.withKey loc name) n v = []
        · exact .additional hl (hiff.1 he)
        · rw [if_neg he] at h
          exact absurd h (List.cons_ne_nil _ _)
      · intro h
        cases h with
        | declared hn _ => simp [hl] at hn
        | additional _ h => rw [if_pos (hiff.2 h)]

theorem itemViolations_eq_nil_iff {items : Items}
    (ih : ∀ child ∈ items.children, ∀ loc v,
      env.violations loc child v = [] ↔ env.Conforms child v) (loc : String) (v : Json) :
    env.itemViolations loc items v = [] ↔ env.ItemConforms items v := by
  cases items with
  | free => exact iff_of_true rfl (.free v)
  | single n =>
    rw [itemViolations, ih n (List.mem_singleton_self n)]
    constructor
    · exact .single
    · rintro (_ | h)
      exact h
  | alternatives nodes =>
    have hiff : (nodes.all fun n => !(env.violations loc n v).isEmpty) = false ↔
        ∃ n ∈ nodes, env.Conforms n v := by
      rw [List.all_eq_false]
      refine exists_congr fun n => and_congr_right fun hn => ?_
      rw [← ih n hn loc v]
      simp
    rw [itemViolations_alternatives, violationIf_eq_nil_iff, hiff]
    constructor
    · rintro ⟨n, hn, h⟩
      exact .alternative hn h
    · intro h
      cases h with
      | alternative hn h => exact ⟨_, hn, h⟩

theorem objectViolations_eq_nil_iff {properties : List (String × Node)} {additional : Additional}
    {oneOf : Option (List Node)}
    (ih : ∀ child ∈ (Rules.object properties additional oneOf).children, ∀ loc v,
      env.violations loc child v = [] ↔ env.Conforms child v) (loc : String) (ms : Json.Members) :
    env.ruleViolations loc (.object properties additional oneOf) (.object ms) = [] ↔
      env.Satisfies (.object properties additional oneOf) (.object ms) := by
  cases oneOf with
  | none =>
    have hm (m : String × Json) : env.memberViolations loc properties additional m.1 m.2 = [] ↔
        env.MemberConforms properties additional m.1 m.2 :=
      memberViolations_eq_nil_iff ih loc m.1 m.2
    rw [ruleViolations_members, List.append_eq_nil_iff, missingViolations_eq_nil_iff,
      List.flatMap_eq_nil_iff]
    constructor
    · rintro ⟨hp, he⟩
      exact .members hp fun name v hv => (hm (name, v)).1 (he _ hv)
    · intro h
      cases h with
      | members hp he => exact ⟨hp, fun m hv => (hm m).2 (he m.1 m.2 hv)⟩
  | some nodes =>
    have hn (n : Node) (h : n ∈ nodes) : env.violations loc n (.object ms) = [] ↔
        env.Conforms n (.object ms) :=
      ih n (List.mem_append_right _ (List.mem_append_right _ h)) loc _
    rw [ruleViolations_oneOf, firstClean_eq_nil_iff, List.map_eq_nil_iff, List.mem_map]
    constructor
    · rintro (rfl | ⟨n, hm, h⟩)
      · exact .noAlternative ms
      · exact .alternative hm ((hn n hm).1 h)
    · intro h
      cases h with
      | noAlternative => exact .inl rfl
      | alternative hm h => exact .inr ⟨_, hm, (hn _ hm).2 h⟩

theorem arrayViolations_eq_nil_iff {items : Items} {least most : Option Nat}
    (ih : ∀ child ∈ items.children, ∀ loc v,
      env.violations loc child v = [] ↔ env.Conforms child v) (loc : String) (vs : List Json) :
    env.ruleViolations loc (.array items least most) (.array vs) = [] ↔
      env.Satisfies (.array items least most) (.array vs) := by
  rw [ruleViolations_array, List.append_eq_nil_iff, countViolations_eq_nil_iff,
    List.flatMap_eq_nil_iff]
  constructor
  · rintro ⟨hc, he⟩
    refine .array hc fun v hv => ?_
    obtain ⟨i, hi, rfl⟩ := List.mem_iff_getElem.1 hv
    have hx : (vs[i], i) ∈ vs.zipIdx := List.mem_zipIdx_iff_getElem?.2 (List.getElem?_eq_getElem hi)
    exact (itemViolations_eq_nil_iff ih _ _).1 (he _ hx)
  · intro h
    cases h with
    | array hc he =>
      refine ⟨hc, fun x hx => (itemViolations_eq_nil_iff ih _ _).2 (he x.1 ?_)⟩
      exact List.mem_of_getElem? (List.mem_zipIdx_iff_getElem?.1 hx)

/-- The rules of each kind, given the nodes below. -/
theorem ruleViolations_eq_nil_iff {rules : Rules}
    (ih : ∀ child ∈ rules.children, ∀ loc v,
      env.violations loc child v = [] ↔ env.Conforms child v) (loc : String) (v : Json) :
    env.ruleViolations loc rules v = [] ↔ env.Satisfies rules v := by
  cases rules with
  | string r =>
    cases v with
    | string s =>
      show textViolations env.formats r loc s = [] ↔ _
      rw [textViolations_eq_nil_iff]
      constructor
      · exact .string
      · intro h
        cases h with
        | string h => exact h
    | _ => exact iff_of_false (wrongType_ne_nil _ _ _) fun h => by cases h
  | number r =>
    rw [ruleViolations, numericViolations_eq_nil_iff]
    constructor
    · rintro ⟨n, rfl, -, h⟩
      exact .number h
    · rintro (_ | h)
      exact ⟨_, rfl, fun hi => absurd hi Bool.false_ne_true, h⟩
  | integer r =>
    rw [ruleViolations, numericViolations_eq_nil_iff]
    constructor
    · rintro ⟨n, rfl, hw, h⟩
      exact .integer (hw rfl) h
    · rintro (_ | _ | ⟨hw, h⟩)
      exact ⟨_, rfl, fun _ => hw, h⟩
  | boolean =>
    cases v with
    | bool b => exact iff_of_true rfl (.boolean b)
    | _ => exact iff_of_false (wrongType_ne_nil _ _ _) fun h => by cases h
  | null => exact iff_of_true rfl (.null v)
  | any => exact iff_of_true rfl (.any v)
  | object properties additional oneOf =>
    cases v with
    | object ms => exact objectViolations_eq_nil_iff ih loc ms
    | _ => exact iff_of_false (wrongType_ne_nil _ _ _) fun h => by cases h
  | array items least most =>
    cases v with
    | array vs => exact arrayViolations_eq_nil_iff ih loc vs
    | _ => exact iff_of_false (wrongType_ne_nil _ _ _) fun h => by cases h

/-- Nothing is reported, at whatever locator, exactly if the value conforms. -/
theorem violations_eq_nil_iff (n : Node) (loc : String) (v : Json) :
    env.violations loc n v = [] ↔ env.Conforms n v := by
  -- on the node and not on the value: an alternative is asked about the value as a whole
  induction n using Node.inductionOn generalizing loc v with
  | step n ih =>
    obtain ⟨required, source, rules⟩ := n
    by_cases hn : (Node.mk required source rules).RefusesNull v
    · rw [violations_of_refusesNull env loc hn]
      refine iff_of_false (List.cons_ne_nil _ _) ?_
      rintro ⟨null, -, -⟩
      exact Node.isNullable_eq_false_iff.1 hn.2 (null hn.1)
    · rw [violations_of_not_refusesNull env loc hn, List.append_eq_nil_iff,
        customViolations_eq_nil_iff]
      constructor
      · rintro ⟨hc, hr⟩
        exact .mk (Node.not_refusesNull_iff.1 hn) hc ((ruleViolations_eq_nil_iff ih loc v).1 hr)
      · rintro ⟨-, hc, hr⟩
        exact ⟨hc, (ruleViolations_eq_nil_iff ih loc v).2 hr⟩

instance (env : Environment) (n : Node) (v : Json) : Decidable (env.Conforms n v) :=
  decidable_of_iff (env.violations Locator.root n v = [])
    (violations_eq_nil_iff n Locator.root v)

/-- **A value is reported to have no violations exactly if it conforms.** -/
theorem no_violations_iff_conforms (env : Environment) (n : Node) (v : Json) :
    env.violations Locator.root n v = [] ↔ env.Conforms n v :=
  violations_eq_nil_iff n Locator.root v

end Environment

end ShapeCheck
