import ShapeCheck.Proofs.Compilation
import ShapeCheck.Proofs.Reroot

/-!
# Documents written back from nodes

A compiled node keeps all that its document says: the document can be written back from the node,
and is compiled to the same node again.

* `Node.rebuild`: the keys of a node with the nodes below put back under their keywords;
* `Checker.SameOwn`: members that give the same value for each key that holds no nodes;
* `Checker.Recompiles`: the document written back from a node is compiled to the node;
* `Checker.check_rebuild`: compiled nodes are compiled again to themselves.
-/

namespace ShapeCheck

open Json (Members)

/-! ### Writing back -/

mutual

/-- The document of a node: its own keys, followed by those that hold nodes. -/
def Node.rebuild : Node → Json
  | .mk _ source rules => .object (source ++ rules.childMembers)
termination_by structural n => n

/-- The keywords that hold nodes, with the documents of these. -/
def Rules.childMembers : Rules → Members
  | .object properties additional oneOf =>
    [("properties", .object (rebuildMembers properties)),
      ("additionalProperties", additional.rebuild)] ++
    match oneOf with
    | none => []
    | some nodes => [("oneOf", .array (rebuildElements nodes))]
  | .array items _ _ => items.childMembers
  | _ => []
termination_by structural rules => rules

/-- False, true or a document. -/
def Additional.rebuild : Additional → Json
  | .forbidden => .bool false
  | .allowed => .bool true
  | .schema n => n.rebuild
termination_by structural additional => additional

/-- The keyword for elements, if anything is asked of them. -/
def Items.childMembers : Items → Members
  | .free => []
  | .single n => [("items", n.rebuild)]
  | .alternatives nodes => [("items", .array (rebuildElements nodes))]
termination_by structural items => items

/-- The documents of declared members, in order. -/
def rebuildMembers : List (String × Node) → Members
  | [] => []
  | (name, n) :: rest => (name, n.rebuild) :: rebuildMembers rest
termination_by structural properties => properties

/-- The documents of a list of nodes, in order. -/
def rebuildElements : List Node → List Json
  | [] => []
  | n :: rest => n.rebuild :: rebuildElements rest
termination_by structural nodes => nodes

end

theorem Node.rebuild_eq (n : Node) : n.rebuild = .object (n.source ++ n.rules.childMembers) := by
  cases n
  rfl

/-- The three keywords of an object; the last is there only if there are alternatives. -/
theorem Rules.childMembers_object (ps : List (String × Node)) (a : Additional)
    (oneOf : Option (List Node)) :
    (Rules.object ps a oneOf).childMembers =
      ("properties", .object (rebuildMembers ps)) :: ("additionalProperties", a.rebuild) ::
        (oneOf.map fun nodes => ("oneOf", Json.array (rebuildElements nodes))).toList := by
  cases oneOf <;> rfl

namespace Checker

variable {c : Checker} {loc key : String} {ms ns : Members} {integral : Bool}

/-! ### Own keys -/

theorem lookup_ownKeys (ms : Members) (key : String) :
    (ownKeys ms).lookup key = if key ∈ childKeywords then none else ms.lookup key := by
  induction ms with
  | nil => simp [ownKeys]
  | cons m rest ih =>
    obtain ⟨name, v⟩ := m
    rw [ownKeys] at ih ⊢
    by_cases hn : name ∈ childKeywords
    · rw [List.filter_cons_of_neg (by simp [hn]), ih, lookup_entry]
      split
      · rfl
      · rename_i hk
        rw [if_neg (by rintro rfl; exact hk hn)]
    · rw [List.filter_cons_of_pos (by simp [hn]), lookup_entry, lookup_entry, ih]
      by_cases he : key = name
      · subst he
        rw [if_pos rfl, if_pos rfl, if_neg hn]
      · rw [if_neg he, if_neg he]

/-- The members give the same value for each key that holds no nodes. -/
def SameOwn (ms ns : Members) : Prop := ∀ key, key ∉ childKeywords → ms.lookup key = ns.lookup key

section Keywords

/-! What is read off keys that hold no nodes. -/

variable (h : SameOwn ms ns)
include h

theorem flag_congr (hk : key ∉ childKeywords) : flag loc key ms = flag loc key ns := by
  unfold flag
  rw [h key hk]

theorem count_congr (hk : key ∉ childKeywords) : count loc key ms = count loc key ns := by
  unfold count
  rw [h key hk]

theorem bound_congr {exclusiveKey : String} (hk : key ∉ childKeywords)
    (he : exclusiveKey ∉ childKeywords) :
    bound integral loc key exclusiveKey ms = bound integral loc key exclusiveKey ns := by
  unfold bound
  rw [h key hk, flag_congr h he]

theorem enumeration_congr {α : Type} {element : Json → Option α} {message : String} :
    enumeration element message loc ms = enumeration element message loc ns := by
  unfold enumeration
  rw [h "enum" (by decide)]

theorem textRules_congr : c.textRules loc ms = c.textRules loc ns := by
  have hp : pattern loc ms = pattern loc ns := by
    unfold pattern
    rw [h "pattern" (by decide)]
  have hf : c.format loc ms = c.format loc ns := by
    unfold format
    rw [h "format" (by decide)]
  rw [textRules, textRules, hp, hf, count_congr h (by decide), count_congr h (by decide),
    enumeration_congr h]

theorem numberRules_congr : numberRules integral loc ms = numberRules integral loc ns := by
  rw [numberRules, numberRules, bound_congr h (by decide) (by decide),
    bound_congr h (by decide) (by decide), enumeration_congr h]

theorem itemCounts_congr : itemCounts loc ms = itemCounts loc ns := by
  rw [itemCounts, itemCounts, count_congr h (by decide), count_congr h (by decide)]

theorem unsupported_congr : c.unsupported loc ms = c.unsupported loc ns := by
  have hk : ∀ key ∈ unsupportedKeywords, key ∉ childKeywords := by decide
  unfold unsupported
  split
  · refine List.filterMap_congr fun key hm => ?_
    rw [h key (hk key hm)]
  · rfl

end Keywords

/-! ### Rules -/

theorem kindRules_congr (h : SameOwn ms ns) {declared : Json}
    {object array object' array' : Unit → Checked Rules} {r : Rules}
    (ho : object () = .ok r → object' () = .ok r) (ha : array () = .ok r → array' () = .ok r)
    (hr : c.kindRules loc ms declared object array = .ok r) :
    c.kindRules loc ns declared object' array' = .ok r := by
  unfold kindRules at hr ⊢
  cases hk : declared.text?.bind Kind.ofName? with
  | none =>
    rw [hk] at hr
    exact absurd hr (Checked.fail_ne_ok _ _ _ _ _)
  | some k =>
    rw [hk] at hr
    cases k with
    | string =>
      dsimp only at hr ⊢
      rwa [← textRules_congr h]
    | number | integer =>
      dsimp only at hr ⊢
      rwa [← numberRules_congr h]
    | boolean | null | any => exact hr
    | object => exact ho hr
    | array => exact ha hr

theorem assemble_eq_ok_iff {object array : Unit → Checked Rules} {n : Node} :
    c.assemble loc ms object array = .ok n ↔
      ∃ declared, ms.lookup "kind" = some declared ∧ flag loc "required" ms = .ok n.required ∧
        c.unsupported loc ms = [] ∧ c.kindRules loc ms declared object array = .ok n.rules ∧
        n.source = ownKeys ms := by
  unfold assemble
  cases hl : ms.lookup "kind" with
  | none => simp
  | some declared =>
    simp only [Checked.map_eq_ok_iff, Prod.exists, Checked.both_eq_ok_iff,
      Checked.ofReport_eq_ok_iff]
    constructor
    · rintro ⟨required, ⟨⟩, rules, ⟨⟨hf, hu, -⟩, hr⟩, rfl⟩
      exact ⟨declared, rfl, hf, hu, hr, rfl⟩
    · rintro ⟨_, ⟨⟩, hf, hu, hr, hs⟩
      refine ⟨n.required, (), n.rules, ⟨⟨hf, hu, trivial⟩, hr⟩, ?_⟩
      rw [← hs]
      cases n
      rfl

/-! ### Keywords written back -/

theorem mem_childKeywords_of_mem {r : Rules} : ∀ m ∈ r.childMembers, m.1 ∈ childKeywords := by
  cases r with
  | object ps a oneOf => cases oneOf <;> simp [Rules.childMembers, childKeywords]
  | array items least most =>
    cases items <;> simp [Rules.childMembers, Items.childMembers, childKeywords]
  | _ => simp [Rules.childMembers]

/-- What is put back holds nodes, so it is left out of the node's own keys again. -/
theorem ownKeys_rebuild (ms : Members) (r : Rules) :
    ownKeys (ownKeys ms ++ r.childMembers) = ownKeys ms := by
  have hr : r.childMembers.filter (fun m => !childKeywords.contains m.1) = [] := by
    rw [List.filter_eq_nil_iff]
    intro m hm
    simp [mem_childKeywords_of_mem m hm]
  rw [ownKeys, ownKeys, List.filter_append, List.filter_filter, hr, List.append_nil]
  simp only [Bool.and_self]

theorem lookup_childKeyword (hk : key ∈ childKeywords) (ms : Members) (r : Rules) :
    (ownKeys ms ++ r.childMembers).lookup key = r.childMembers.lookup key := by
  rw [List.lookup_append, lookup_ownKeys, if_pos hk, Option.none_or]

theorem sameOwn_rebuild (ms : Members) (r : Rules) : SameOwn ms (ownKeys ms ++ r.childMembers) := by
  intro key hk
  have hr : r.childMembers.lookup key = none := by
    rw [List.lookup_eq_none_iff]
    intro m hm
    refine bne_iff_ne.2 ?_
    rintro rfl
    exact hk (mem_childKeywords_of_mem m hm)
  rw [List.lookup_append, lookup_ownKeys, if_neg hk, hr, Option.or_none]

/-- The document written back from the node is compiled to the node, at whatever locator. -/
def Recompiles (c : Checker) (n : Node) : Prop := ∀ loc, c.node loc n.rebuild = .ok n

theorem memberNodes_rebuild {base : String} {ps : List (String × Node)}
    (ih : ∀ n ∈ ps.map Prod.snd, c.Recompiles n) :
    c.memberNodes base (rebuildMembers ps) = .ok ps := by
  induction ps with
  | nil => rfl
  | cons p rest hr =>
    obtain ⟨name, n⟩ := p
    rw [List.map_cons, List.forall_mem_cons] at ih
    rw [rebuildMembers, memberNodes, ih.1, hr ih.2]
    rfl

theorem elementNodes_rebuild {base : String} {nodes : List Node}
    (ih : ∀ n ∈ nodes, c.Recompiles n) (i : Nat) :
    c.elementNodes base i (rebuildElements nodes) = .ok nodes := by
  induction nodes generalizing i with
  | nil => rfl
  | cons n rest hr =>
    rw [List.forall_mem_cons] at ih
    rw [rebuildElements, elementNodes, ih.1, hr ih.2]
    rfl

section Below

/-! The keywords that hold nodes, read off what is written back. -/

variable {ps : List (String × Node)} {a : Additional} {oneOf : Option (List Node)}

theorem properties_rebuild (ih : ∀ n ∈ ps.map Prod.snd, c.Recompiles n) (ms : Members) :
    c.properties loc (ownKeys ms ++ (Rules.object ps a oneOf).childMembers) = .ok ps := by
  rw [properties_eq, lookup_childKeyword (by decide), Rules.childMembers_object, lookup_entry,
    if_pos rfl]
  exact memberNodes_rebuild ih

theorem additional_rebuild (ih : ∀ n ∈ a.children, c.Recompiles n) (ms : Members) :
    c.additional loc (ownKeys ms ++ (Rules.object ps a oneOf).childMembers) = .ok a := by
  rw [additional_eq, lookup_childKeyword (by decide), Rules.childMembers_object, lookup_entry,
    if_neg (by decide), lookup_entry, if_pos rfl]
  cases a with
  | forbidden | allowed => rfl
  | schema n =>
    have hn := ih n (List.mem_singleton_self n) (Locator.withKey loc "additionalProperties")
    rw [n.rebuild_eq] at hn
    rw [Option.elim_some, additionalOf, Additional.rebuild, n.rebuild_eq]
    -- a document written back is an object, never a truth value
    simp only [Json.bool?, hn]
    rfl

theorem oneOf_rebuild (ih : ∀ n ∈ oneOf.getD [], c.Recompiles n) (ms : Members) :
    c.oneOf loc (ownKeys ms ++ (Rules.object ps a oneOf).childMembers) = .ok oneOf := by
  rw [oneOf_eq, lookup_childKeyword (by decide), Rules.childMembers_object, lookup_entry,
    if_neg (by decide), lookup_entry, if_neg (by decide)]
  cases oneOf with
  | none => rfl
  | some nodes =>
    have hn : ∀ n ∈ nodes, c.Recompiles n := ih
    rw [Option.map_some, Option.toList_some, lookup_entry, if_pos rfl, Option.elim_some, oneOfOf,
      elementNodes_rebuild hn]
    rfl

theorem items_rebuild {items : Items} {least most : Option Nat}
    (ih : ∀ n ∈ items.children, c.Recompiles n) (ms : Members) :
    c.items loc (ownKeys ms ++ (Rules.array items least most).childMembers) = .ok items := by
  rw [items_eq, lookup_childKeyword (by decide), Rules.childMembers]
  cases items with
  | free => rfl
  | single n =>
    have hn := ih n (List.mem_singleton_self n) (Locator.withKey loc "items")
    rw [n.rebuild_eq] at hn
    rw [Items.childMembers, lookup_entry, if_pos rfl, Option.elim_some, n.rebuild_eq]
    simp only [itemsOf, hn]
    rfl
  | alternatives nodes =>
    have hn : ∀ n ∈ nodes, c.Recompiles n := ih
    rw [Items.childMembers, lookup_entry, if_pos rfl, Option.elim_some, itemsOf,
      elementNodes_rebuild hn]
    rfl

theorem objectRules_rebuild (ih : ∀ n ∈ (Rules.object ps a oneOf).children, c.Recompiles n)
    (ms : Members) (hns : ns = ownKeys ms ++ (Rules.object ps a oneOf).childMembers) :
    ((c.additional loc ns).both ((c.properties loc ns).both (c.oneOf loc ns))).map
      (fun (additional, properties, oneOf) => Rules.object properties additional oneOf) =
        .ok (.object ps a oneOf) := by
  have hp : ∀ n ∈ ps.map Prod.snd, c.Recompiles n := fun n hm =>
    ih n (List.mem_append_left _ hm)
  have ha : ∀ n ∈ a.children, c.Recompiles n := fun n hm =>
    ih n (mem_children_of_additional hm)
  have ho : ∀ n ∈ oneOf.getD [], c.Recompiles n := fun n hm =>
    ih n (mem_children_of_oneOf hm)
  rw [hns, additional_rebuild ha, properties_rebuild hp, oneOf_rebuild ho]
  rfl

theorem arrayRules_rebuild {items : Items} {least most : Option Nat}
    (ih : ∀ n ∈ (Rules.array items least most).children, c.Recompiles n)
    (hc : itemCounts loc ms = .ok (least, most))
    (hns : ns = ownKeys ms ++ (Rules.array items least most).childMembers) :
    ((c.items loc ns).both (itemCounts loc ns)).map
      (fun (items, least, most) => Rules.array items least most) =
        .ok (.array items least most) := by
  rw [hns, ← itemCounts_congr (sameOwn_rebuild ms _), hc, items_rebuild ih]
  rfl

end Below

/-! ### Compiling again -/

/-- A text is compiled as the object that it stands for. -/
theorem node_string (c : Checker) (loc s : String) :
    c.node loc (.string s) = c.node loc (.object (shorthand s)) := by
  rw [node, node]
  simp only [additional_eq, properties_eq, oneOf_eq, items_eq, itemCounts, count,
    lookup_shorthand (by decide : "additionalProperties" ≠ "kind"),
    lookup_shorthand (by decide : "properties" ≠ "kind"),
    lookup_shorthand (by decide : "oneOf" ≠ "kind"),
    lookup_shorthand (by decide : "items" ≠ "kind"),
    lookup_shorthand (by decide : "minItems" ≠ "kind"),
    lookup_shorthand (by decide : "maxItems" ≠ "kind")]
  rfl

theorem exists_members_of_node {d : Json} {n : Node} (h : c.node loc d = .ok n) :
    ∃ ms, c.node loc (.object ms) = .ok n := by
  cases d with
  | string s => exact ⟨shorthand s, c.node_string loc s ▸ h⟩
  | object ms => exact ⟨ms, h⟩
  | _ => exact absurd h (Checked.fail_ne_ok _ _ _ _ _)

/-- What is compiled at some locator is compiled at all of them. -/
theorem node_of_node {loc' : String} {d : Json} {n : Node} (h : c.node loc d = .ok n) :
    c.node loc' d = .ok n := by
  have hv : (c.node loc' d).value? = some n := by
    rw [c.value?_node, ← c.value?_node loc, h, Checked.value?_ok]
  cases hd : c.node loc' d with
  | ok m =>
    rw [hd, Checked.value?_ok] at hv
    rw [Option.some.inj hv]
  | bad first rest =>
    rw [hd] at hv
    cases hv

theorem node_rebuild_of_children {d : Json} {n : Node} (h : c.node loc d = .ok n)
    (ih : ∀ child ∈ n.children, c.Recompiles child) : c.node loc n.rebuild = .ok n := by
  obtain ⟨ms, hm⟩ := exists_members_of_node h
  obtain ⟨required, source, rules⟩ := n
  rw [node, assemble_eq_ok_iff] at hm
  obtain ⟨declared, hk, hf, hu, hr, hs⟩ := hm
  have ho := sameOwn_rebuild ms rules
  obtain rfl : source = ownKeys ms := hs
  have hc : ∀ child ∈ rules.children, c.Recompiles child := ih
  rw [Node.rebuild_eq, node, assemble_eq_ok_iff]
  refine ⟨declared, ?_, ?_, ?_, kindRules_congr ho ?_ ?_ hr, (ownKeys_rebuild ms rules).symm⟩
  · exact (ho "kind" (by decide)).symm.trans hk
  · exact (flag_congr ho (by decide)).symm.trans hf
  · exact (unsupported_congr ho).symm.trans hu
  · -- whatever the document had under its keywords, the node has the nodes of it
    intro hb
    obtain ⟨⟨a, ps, oneOf⟩, -, he⟩ := Checked.map_eq_ok_iff.1 hb
    obtain rfl : Rules.object ps a oneOf = rules := he
    exact objectRules_rebuild hc ms rfl
  · intro hb
    obtain ⟨⟨items, least, most⟩, hi, he⟩ := Checked.map_eq_ok_iff.1 hb
    obtain rfl : Rules.array items least most = rules := he
    exact arrayRules_rebuild hc (Checked.both_eq_ok_iff.1 hi).2 rfl

/-- The document written back from a compiled node is compiled to it. -/
theorem recompiles_of_compiles (n : Node) (h : c.Compiles n) : c.Recompiles n := by
  -- the nodes below were compiled by the same checker, from documents that need not be known
  induction n using Node.inductionOn with
  | step n ih =>
    obtain ⟨loc, d, hd⟩ := h
    intro loc'
    have hc : ∀ child ∈ n.children, c.Recompiles child := fun child hm =>
      ih child hm ((built_of_node hd).children child hm)
    exact node_of_node (node_rebuild_of_children hd hc)

/-- **A compiled node can be written back.**  The document that is written back from the node of a
document is well formed, is compiled to the very same node, and so judges all values as the node
does. -/
theorem check_rebuild (c : Checker) {d : Json} {n : Node} (h : c.check d = .ok n) :
    (c.check n.rebuild).errors = [] ∧ c.check n.rebuild = .ok n ∧
      ∃ s, Schema.compile c n.rebuild = .ok s ∧ s.root = n ∧
        ∀ (env : Environment) (v : Json), env.validate s v = env.violations Locator.root n v := by
  have hn : c.check n.rebuild = .ok n := recompiles_of_compiles n ⟨_, d, h⟩ Locator.root
  refine ⟨?_, hn, ⟨n, n.rebuild⟩, ?_, rfl, fun _ _ => rfl⟩
  · rw [hn, Checked.errors_ok]
  · rw [Schema.compile, hn]
    rfl

/-- A document with nodes at three depths, and with a keyword of another kind. -/
def nestedDocument : Json :=
  .object [("properties", .object [("tags", .object [("kind", .string "array"),
      ("items", .array [.string "null", .object [("kind", .string "string"),
        ("enum", .array [.string "new"])]])])]),
    ("kind", .string "object"), ("items", .string "any"), ("additionalProperties", .string "any")]

theorem nestedDocument_rebuild :
    ∃ n, check ⟨.empty, true⟩ nestedDocument = .ok n ∧
      n.rebuild = .object [("kind", .string "object"),
        ("properties", .object [("tags", .object [("kind", .string "array"),
          ("items", .array [.object [("kind", .string "null")],
            .object [("kind", .string "string"), ("enum", .array [.string "new"])]])])]),
        ("additionalProperties", .object [("kind", .string "any")])] ∧
      check ⟨.empty, true⟩ n.rebuild = .ok n :=
  ⟨_, rfl, rfl, (check_rebuild ⟨.empty, true⟩ (d := nestedDocument) rfl).2.1⟩

end Checker

end ShapeCheck
