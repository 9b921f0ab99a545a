import ShapeCheck.Proofs.Rebuild

/-!
# Documents as written

A compiled node next to the members that its document has as written.

* `Json.written`: the members of a document, those of the object that a text stands for included;
* `Checker.Took`: what a compiled node takes over from the members of its document;
* `Checker.took_of_node`: every compiled node does;
* `Checker.declared_of_properties`, `Checker.nodes_of_oneOf`, `Checker.single_of_items`: the nodes
  below come from the documents below.
-/

namespace ShapeCheck

open Json (Members)

/-- The members of a document; those of a text are the ones that it stands for. -/
def Json.written : Json → Members
  | .string kind => Checker.shorthand kind
  | .object ms => ms
  | _ => []

namespace Checker

variable {c : Checker} {loc base : String} {ms : Members} {d : Json} {n : Node}

theorem node_written (h : c.node loc d = .ok n) : c.node loc (.object d.written) = .ok n := by
  cases d with
  | string s => rwa [node_string] at h
  | object ms => exact h
  | _ => exact absurd h (Checked.fail_ne_ok _ _ _ _ _)

/-! ### The node of some members -/

/-- The rules that a document with the given members has by its kind. -/
def rulesOf (c : Checker) (loc : String) (ms : Members) : Kind → Checked Rules
  | .string => (c.textRules loc ms).map .string
  | .number => (numberRules false loc ms).map .number
  | .integer => (numberRules true loc ms).map .integer
  | .boolean => .ok .boolean
  | .null => .ok .null
  | .any => .ok .any
  | .object =>
    ((c.additional loc ms).both ((c.properties loc ms).both (c.oneOf loc ms))).map
      fun (additional, properties, oneOf) => .object properties additional oneOf
  | .array =>
    ((c.items loc ms).both (itemCounts loc ms)).map
      fun (items, least, most) => .array items least most

theorem kind_of_rulesOf {k : Kind} {rules : Rules} (h : c.rulesOf loc ms k = .ok rules) :
    rules.kind = k := by
  cases k with
  | boolean | null | any =>
    cases h
    rfl
  | _ =>
    obtain ⟨a, -, rfl⟩ := Checked.map_eq_ok_iff.1 h
    rfl

/-- What a compiled node takes over from the members of its document. -/
structure Took (c : Checker) (loc : String) (ms : Members) (n : Node) : Prop where
  kind : ms.lookup "kind" = some (.string n.kind.name)
  required : flag loc "required" ms = .ok n.required
  source : n.source = ownKeys ms
  rules : c.rulesOf loc ms n.kind = .ok n.rules

/-- A compiled node takes its parts over from the members that its document has as written. -/
theorem took_of_node (h : c.node loc d = .ok n) : c.Took loc d.written n := by
  have hn := node_written h
  rw [node, assemble_eq_ok_iff] at hn
  obtain ⟨declared, hk, hf, -, hr, hs⟩ := hn
  unfold kindRules at hr
  cases hd : declared.text?.bind Kind.ofName? with
  | none =>
    rw [hd] at hr
    exact absurd hr (Checked.fail_ne_ok _ _ _ _ _)
  | some k =>
    have hrk : c.rulesOf loc d.written k = .ok n.rules := by
      rw [hd] at hr
      cases k <;> exact hr
    obtain rfl : n.kind = k := kind_of_rulesOf hrk
    exact ⟨by rw [hk, declaredKind_eq_some_iff.1 hd], hf, hs, hrk⟩

/-- A well-formed document is compiled, at whatever locator. -/
theorem exists_node_of_wellFormed (h : c.WellFormed d) (loc : String) :
    ∃ n, c.node loc d = .ok n :=
  (c.node loc d).errors_eq_nil_iff.1 ((errors_node c loc d).2 h)

namespace Took

theorem kind_eq (h : c.Took loc ms n) {k : Kind}
    (hk : ms.lookup "kind" = some (.string k.name)) : n.kind = k := by
  have he := h.kind.symm.trans hk
  rw [Option.some.injEq, Json.string.injEq] at he
  exact Option.some.inj (by rw [← Kind.ofName?_name, he, Kind.ofName?_name])

theorem integerRules (h : c.Took loc ms n)
    (hk : ms.lookup "kind" = some (.string Kind.integer.name)) :
    ∃ r, numberRules true loc ms = .ok r ∧ n.rules = .integer r := by
  have hr := h.rules
  rw [h.kind_eq hk] at hr
  obtain ⟨r, hr, he⟩ := Checked.map_eq_ok_iff.1 hr
  exact ⟨r, hr, he.symm⟩

theorem textRules (h : c.Took loc ms n)
    (hk : ms.lookup "kind" = some (.string Kind.string.name)) :
    ∃ r, c.textRules loc ms = .ok r ∧ n.rules = .string r := by
  have hr := h.rules
  rw [h.kind_eq hk] at hr
  obtain ⟨r, hr, he⟩ := Checked.map_eq_ok_iff.1 hr
  exact ⟨r, hr, he.symm⟩

theorem objectRules (h : c.Took loc ms n)
    (hk : ms.lookup "kind" = some (.string Kind.object.name)) :
    ∃ properties additional oneOf, c.properties loc ms = .ok properties ∧
      c.oneOf loc ms = .ok oneOf ∧ n.rules = .object properties additional oneOf := by
  have hr := h.rules
  rw [h.kind_eq hk] at hr
  obtain ⟨⟨additional, properties, oneOf⟩, hb, he⟩ := Checked.map_eq_ok_iff.1 hr
  obtain ⟨hp, ho⟩ := Checked.both_eq_ok_iff.1 (Checked.both_eq_ok_iff.1 hb).2
  exact ⟨properties, additional, oneOf, hp, ho, he.symm⟩

theorem arrayRules (h : c.Took loc ms n)
    (hk : ms.lookup "kind" = some (.string Kind.array.name)) :
    ∃ items least most, c.items loc ms = .ok items ∧ itemCounts loc ms = .ok (least, most) ∧
      n.rules = .array items least most := by
  have hr := h.rules
  rw [h.kind_eq hk] at hr
  obtain ⟨⟨items, least, most⟩, hb, he⟩ := Checked.map_eq_ok_iff.1 hr
  obtain ⟨hi, hc⟩ := Checked.both_eq_ok_iff.1 hb
  exact ⟨items, least, most, hi, hc, he.symm⟩

end Took

/-! ### The nodes below -/

theorem lookup_of_memberNodes {properties : List (String × Node)}
    (h : c.memberNodes base ms = .ok properties) {name : String} {w : Json}
    (hw : ms.lookup name = some w) :
    ∃ m, properties.lookup name = some m ∧ c.node (Locator.withKey base name) w = .ok m := by
  induction ms generalizing properties with
  | nil => cases hw
  | cons entry rest ih =>
    obtain ⟨other, v⟩ := entry
    obtain ⟨⟨m, more⟩, hb, rfl⟩ := Checked.map_eq_ok_iff.1 h
    obtain ⟨hv, hm⟩ := Checked.both_eq_ok_iff.1 hb
    rw [lookup_entry] at hw ⊢
    by_cases hn : name = other
    · subst hn
      rw [if_pos rfl] at hw ⊢
      obtain rfl := Option.some.inj hw
      exact ⟨m, rfl, hv⟩
    · rw [if_neg hn] at hw ⊢
      exact ih hm hw

theorem forall₂_of_elementNodes {i : Nat} {vs : List Json} {nodes : List Node}
    (h : c.elementNodes base i vs = .ok nodes) :
    List.Forall₂ (fun v m => ∃ loc, c.node loc v = .ok m) vs nodes := by
  induction vs generalizing i nodes with
  | nil =>
    cases h
    exact .nil
  | cons v rest ih =>
    obtain ⟨⟨m, more⟩, hb, rfl⟩ := Checked.map_eq_ok_iff.1 h
    obtain ⟨hv, hm⟩ := Checked.both_eq_ok_iff.1 hb
    exact .cons ⟨_, hv⟩ (ih hm)

/-- A declared member has the node of the document that it is declared with. -/
theorem declared_of_properties {properties : List (String × Node)}
    (h : c.properties loc ms = .ok properties) {declared : Members}
    (hp : ms.lookup "properties" = some (.object declared)) {name : String} {w : Json}
    (hw : declared.lookup name = some w) :
    ∃ m loc', properties.lookup name = some m ∧ c.node loc' w = .ok m := by
  rw [properties_eq, hp] at h
  obtain ⟨m, hm, hn⟩ := lookup_of_memberNodes h hw
  exact ⟨m, _, hm, hn⟩

/-- The alternatives have the nodes of the documents that are listed. -/
theorem nodes_of_oneOf {oneOf : Option (List Node)} (h : c.oneOf loc ms = .ok oneOf)
    {ws : List Json} (ho : ms.lookup "oneOf" = some (.array ws)) :
    ∃ nodes, oneOf = some nodes ∧
      List.Forall₂ (fun w m => ∃ loc, c.node loc w = .ok m) ws nodes := by
  rw [oneOf_eq, ho] at h
  obtain ⟨nodes, hn, rfl⟩ := Checked.map_eq_ok_iff.1 h
  exact ⟨nodes, rfl, forall₂_of_elementNodes hn⟩

/-- Without the keyword there are no alternatives to choose from. -/
theorem oneOf_of_lookup_none {oneOf : Option (List Node)} (h : c.oneOf loc ms = .ok oneOf)
    (ho : ms.lookup "oneOf" = none) : oneOf = none := by
  rw [oneOf_eq, ho] at h
  exact (Checked.ok.inj h).symm

/-- What is no list is a document for all elements. -/
theorem itemsOf_of_not_isArray {v : Json} (h : v.isArray = false) :
    c.itemsOf loc v = (c.node (Locator.withKey loc "items") v).map .single := by
  cases v with
  | array vs => cases h
  | _ => rfl

/-- A document for all elements gives the node for all elements. -/
theorem single_of_items {items : Items} (h : c.items loc ms = .ok items) {w : Json}
    (hi : ms.lookup "items" = some w) (hw : w.isArray = false) :
    ∃ m loc', items = .single m ∧ c.node loc' w = .ok m := by
  rw [items_eq, hi, Option.elim_some, itemsOf_of_not_isArray hw] at h
  obtain ⟨m, hm, rfl⟩ := Checked.map_eq_ok_iff.1 h
  exact ⟨m, _, rfl, hm⟩

end Checker

end ShapeCheck
