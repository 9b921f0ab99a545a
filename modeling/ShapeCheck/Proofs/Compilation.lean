import ShapeCheck.Proofs.Grammar

/-!
# Compilation under changing formats

A document that is compiled with some formats is compiled to the same node with more of them.

* `Checked.Kept`: one value is given by another check as well;
* `Checker.Extends`: a checker knows all formats of another and refuses no more keywords;
* `Checker.node_mono`: what a checker compiles, one that extends it compiles to the same node;
* `Checker.Built`: rules whose nodes were all compiled and whose format, if any, is known;
* `Checker.contains_format_of_within`: every format that is named anywhere in a compiled node is
  known.
-/

namespace ShapeCheck

open Json (Members)

/-! ### Kept values -/

namespace Checked

variable {α β : Type}

/-- The second gives whatever the first gives. -/
def Kept (c d : Checked α) : Prop := ∀ a, c = ok a → d = ok a

theorem Kept.refl (c : Checked α) : c.Kept c := fun _ h => h

theorem Kept.map {c d : Checked α} (h : c.Kept d) (f : α → β) : (c.map f).Kept (d.map f) := by
  intro b hb
  obtain ⟨a, ha, rfl⟩ := map_eq_ok_iff.1 hb
  exact map_eq_ok_iff.2 ⟨a, h a ha, rfl⟩

theorem Kept.both {c d : Checked α} {c' d' : Checked β} (h : c.Kept d) (h' : c'.Kept d') :
    (c.both c').Kept (d.both d') := by
  rintro ⟨a, b⟩ hab
  obtain ⟨ha, hb⟩ := both_eq_ok_iff.1 hab
  exact both_eq_ok_iff.2 ⟨h a ha, h' b hb⟩

theorem Kept.ofReport {a : α} {r s : Report} (h : r = [] → s = []) :
    (ofReport a r).Kept (ofReport a s) := by
  intro b hb
  obtain ⟨hr, rfl⟩ := ofReport_eq_ok_iff.1 hb
  exact ofReport_eq_ok_iff.2 ⟨h hr, rfl⟩

theorem kept_fail {locator field message : String} {actual : Json} {c : Checked α} :
    (fail locator field message actual).Kept c :=
  fun a h => absurd h (fail_ne_ok _ _ _ _ a)

end Checked

namespace Checker

/-- The second checker knows all formats of the first and refuses no more keywords. -/
structure Extends (c c' : Checker) : Prop where
  formats : ∀ name, c.formats.contains name = true → c'.formats.contains name = true
  supported : c'.rejectUnsupported = true → c.rejectUnsupported = true

variable {c c' : Checker} {loc : String} {ms : Members}

/-! ### More formats -/

theorem format_eq_ok_iff {f : Option String} :
    c.format loc ms = .ok f ↔
      ms.lookup "format" = f.map Json.string ∧
        ∀ name, f = some name → c.formats.contains name = true := by
  rw [format]
  cases hl : ms.lookup "format" with
  | none => cases f <;> simp
  | some v =>
    have hv (name : String) : v.text?.filter c.formats.contains = some name ↔
        v = .string name ∧ c.formats.contains name = true := by
      rw [Option.filter_eq_some_iff]
      cases v <;> simp [Json.text?]
    dsimp only
    cases hf : v.text?.filter c.formats.contains with
    | none =>
      refine iff_of_false (Checked.fail_ne_ok _ _ _ _ _) ?_
      rintro ⟨hs, hk⟩
      cases f with
      | none => cases hs
      | some name =>
        rw [(hv name).2 ⟨Option.some.inj hs, hk name rfl⟩] at hf
        cases hf
    | some name =>
      obtain ⟨rfl, hc⟩ := (hv name).1 hf
      cases f with
      | none => simp
      | some other =>
        simp only [Checked.ok.injEq, Option.some.injEq, Option.map_some, Json.string.injEq]
        refine ⟨?_, And.left⟩
        rintro rfl
        exact ⟨rfl, fun _ h => h ▸ hc⟩

theorem Extends.format_kept (h : c.Extends c') : (c.format loc ms).Kept (c'.format loc ms) := by
  intro f hf
  obtain ⟨hl, hk⟩ := format_eq_ok_iff.1 hf
  exact format_eq_ok_iff.2 ⟨hl, fun name hn => h.formats name (hk name hn)⟩

theorem Extends.textRules_kept (h : c.Extends c') :
    (c.textRules loc ms).Kept (c'.textRules loc ms) :=
  (((Checked.Kept.refl _).both (((Checked.Kept.refl _).both h.format_kept).both
    (.refl _)))).map _

theorem Extends.unsupported (h : c.Extends c') (hu : c.unsupported loc ms = []) :
    c'.unsupported loc ms = [] :=
  errors_unsupported.2 fun hr => errors_unsupported.1 hu (h.supported hr)

theorem Extends.kindRules_kept (h : c.Extends c') {declared : Json}
    {object array object' array' : Unit → Checked Rules}
    (ho : (object ()).Kept (object' ())) (ha : (array ()).Kept (array' ())) :
    (c.kindRules loc ms declared object array).Kept
      (c'.kindRules loc ms declared object' array') := by
  unfold kindRules
  cases declared.text?.bind Kind.ofName? with
  | none => exact Checked.kept_fail
  | some k =>
    cases k with
    | string => exact h.textRules_kept.map _
    | object => exact ho
    | array => exact ha
    | _ => exact .refl _

theorem Extends.assemble_kept (h : c.Extends c')
    {object array object' array' : Unit → Checked Rules}
    (ho : (object ()).Kept (object' ())) (ha : (array ()).Kept (array' ())) :
    (c.assemble loc ms object array).Kept (c'.assemble loc ms object' array') := by
  unfold assemble
  cases ms.lookup "kind" with
  | none => exact Checked.kept_fail
  | some declared =>
    exact (((Checked.Kept.refl _).both (.ofReport h.unsupported)).both
      (h.kindRules_kept ho ha)).map _

/-- The second checker compiles a document, at whatever locator, to the node to which the first
compiles it. -/
def Keeps (c c' : Checker) (v : Json) : Prop := ∀ loc, (c.node loc v).Kept (c'.node loc v)

theorem memberNodes_kept {base : String} (ih : ∀ name v, (name, v) ∈ ms → c.Keeps c' v) :
    (c.memberNodes base ms).Kept (c'.memberNodes base ms) := by
  induction ms with
  | nil => exact .refl _
  | cons m rest hr =>
    obtain ⟨name, v⟩ := m
    have hv := ih name v List.mem_cons_self (Locator.withKey base name)
    have hrest := hr fun other w h => ih other w (List.mem_cons_of_mem _ h)
    exact (hv.both hrest).map _

theorem elementNodes_kept {base : String} (i : Nat) (vs : List Json)
    (ih : ∀ v ∈ vs, c.Keeps c' v) :
    (c.elementNodes base i vs).Kept (c'.elementNodes base i vs) := by
  induction vs generalizing i with
  | nil => exact .refl _
  | cons v rest hr =>
    have hv := ih v List.mem_cons_self (Locator.withIndex base i)
    have hrest := hr (i + 1) fun w h => ih w (List.mem_cons_of_mem _ h)
    exact (hv.both hrest).map _

/-- A keyword whose value is read by either of two functions. -/
theorem elim_kept {α : Type} {key : String} {absent : α} {read read' : Json → Checked α}
    (h : ∀ v, ms.lookup key = some v → (read v).Kept (read' v)) :
    ((ms.lookup key).elim (.ok absent) read).Kept ((ms.lookup key).elim (.ok absent) read') := by
  cases hl : ms.lookup key with
  | none => exact .refl _
  | some v => exact h v hl

section Below

variable (loc) {v : Json}

theorem additionalOf_kept (ih : c.Keeps c' v) :
    (c.additionalOf loc v).Kept (c'.additionalOf loc v) := by
  cases v with
  | bool b => cases b <;> exact .refl _
  | _ => exact (ih _).map Additional.schema

theorem propertiesOf_kept (ih : ∀ w ∈ v.children, c.Keeps c' w) :
    (c.propertiesOf loc v).Kept (c'.propertiesOf loc v) := by
  cases v with
  | object declared =>
    exact memberNodes_kept fun name w h => ih w (List.mem_map.2 ⟨(name, w), h, rfl⟩)
  | _ => exact Checked.kept_fail

theorem oneOfOf_kept (ih : ∀ w ∈ v.children, c.Keeps c' w) :
    (c.oneOfOf loc v).Kept (c'.oneOfOf loc v) := by
  cases v with
  | array vs => exact (elementNodes_kept 0 vs ih).map _
  | _ => exact Checked.kept_fail

theorem itemsOf_kept (ih : c.Keeps c' v) (ihc : ∀ w ∈ v.children, c.Keeps c' w) :
    (c.itemsOf loc v).Kept (c'.itemsOf loc v) := by
  cases v with
  | array vs => exact (elementNodes_kept 0 vs ihc).map _
  | _ => exact (ih _).map Items.single

end Below

theorem Extends.keeps_of_children (h : c.Extends c') {d : Json}
    (ih : ∀ v ∈ d.children, c.Keeps c' v ∧ ∀ w ∈ v.children, c.Keeps c' w) : c.Keeps c' d := by
  intro loc
  cases d with
  | string s =>
    rw [node, node]
    exact h.assemble_kept (.refl _) (.refl _)
  | object ms =>
    have hv {key : String} {v : Json} (hl : ms.lookup key = some v) :=
      ih v (Json.mem_children_of_lookup hl)
    rw [node, node]
    refine h.assemble_kept ?_ ?_
    · have ha : (c.additional loc ms).Kept (c'.additional loc ms) := by
        rw [additional_eq, additional_eq]
        exact elim_kept fun v hl => additionalOf_kept loc (hv hl).1
      have hp : (c.properties loc ms).Kept (c'.properties loc ms) := by
        rw [properties_eq, properties_eq]
        exact elim_kept fun v hl => propertiesOf_kept loc (hv hl).2
      have ho : (c.oneOf loc ms).Kept (c'.oneOf loc ms) := by
        rw [oneOf_eq, oneOf_eq]
        exact elim_kept fun v hl => oneOfOf_kept loc (hv hl).2
      exact (ha.both (hp.both ho)).map _
    · have hi : (c.items loc ms).Kept (c'.items loc ms) := by
        rw [items_eq, items_eq]
        exact elim_kept fun v hl => itemsOf_kept loc (hv hl).1 (hv hl).2
      exact (hi.both (.refl _)).map _
  | _ => exact Checked.kept_fail

/-- What a checker compiles, one that extends it compiles to the same node. -/
theorem node_mono (h : c.Extends c') (loc : String) (d : Json) :
    (c.node loc d).Kept (c'.node loc d) := by
  induction d using Json.inductionOnTwo generalizing loc with
  | step d ih => exact h.keeps_of_children ih loc

/-! ### What stands in a compiled node -/

/-- The checker compiles some document to the node. -/
def Compiles (c : Checker) (n : Node) : Prop := ∃ loc d, c.node loc d = .ok n

/-- The nodes below the rules are compiled as well, and the format, if there is one, is known. -/
structure Built (c : Checker) (rules : Rules) : Prop where
  children : ∀ n ∈ rules.children, c.Compiles n
  format : ∀ r name, rules = .string r → r.format = some name → c.formats.contains name = true

theorem built_of_ne_string {rules : Rules} (hc : ∀ n ∈ rules.children, c.Compiles n)
    (hs : ∀ r, rules ≠ .string r) : c.Built rules :=
  ⟨hc, fun r _ he _ => absurd he (hs r)⟩

theorem compiles_of_memberNodes {base : String} {properties : List (String × Node)}
    (h : c.memberNodes base ms = .ok properties) : ∀ n ∈ properties.map Prod.snd, c.Compiles n := by
  induction ms generalizing properties with
  | nil =>
    cases h
    exact List.forall_mem_nil _
  | cons m rest hr =>
    obtain ⟨name, v⟩ := m
    obtain ⟨⟨n, more⟩, hb, rfl⟩ := Checked.map_eq_ok_iff.1 h
    obtain ⟨hv, hm⟩ := Checked.both_eq_ok_iff.1 hb
    intro k hk
    rcases List.mem_cons.1 hk with rfl | hk
    · exact ⟨_, v, hv⟩
    · exact hr hm k hk

theorem compiles_of_elementNodes {base : String} {i : Nat} {vs : List Json} {nodes : List Node}
    (h : c.elementNodes base i vs = .ok nodes) : ∀ n ∈ nodes, c.Compiles n := by
  induction vs generalizing i nodes with
  | nil =>
    cases h
    exact List.forall_mem_nil _
  | cons v rest hr =>
    obtain ⟨⟨n, more⟩, hb, rfl⟩ := Checked.map_eq_ok_iff.1 h
    obtain ⟨hv, hm⟩ := Checked.both_eq_ok_iff.1 hb
    intro k hk
    rcases List.mem_cons.1 hk with rfl | hk
    · exact ⟨_, v, hv⟩
    · exact hr hm k hk

/-- A keyword that is read gives its default or what some value stands for. -/
theorem elim_eq_ok {α : Type} {o : Option Json} {absent a : α} {read : Json → Checked α}
    (h : o.elim (.ok absent) read = .ok a) : a = absent ∨ ∃ v, read v = .ok a := by
  cases o with
  | none => exact .inl (Checked.ok.inj h).symm
  | some v => exact .inr ⟨v, h⟩

theorem compiles_of_additional {a : Additional} (h : c.additional loc ms = .ok a) :
    ∀ n ∈ a.children, c.Compiles n := by
  rw [additional_eq] at h
  rcases elim_eq_ok h with rfl | ⟨v, h⟩
  · exact List.forall_mem_nil _
  · rw [additionalOf] at h
    split at h
    · cases h
      exact List.forall_mem_nil _
    · cases h
      exact List.forall_mem_nil _
    · obtain ⟨n, hn, rfl⟩ := Checked.map_eq_ok_iff.1 h
      intro k hk
      rw [List.mem_singleton.1 hk]
      exact ⟨_, v, hn⟩

theorem compiles_of_properties {properties : List (String × Node)}
    (h : c.properties loc ms = .ok properties) : ∀ n ∈ properties.map Prod.snd, c.Compiles n := by
  rw [properties_eq] at h
  rcases elim_eq_ok h with rfl | ⟨v, h⟩
  · exact List.forall_mem_nil _
  · cases v with
    | object declared => exact compiles_of_memberNodes h
    | _ => exact absurd h (Checked.fail_ne_ok _ _ _ _ _)

theorem compiles_of_oneOf {oneOf : Option (List Node)} (h : c.oneOf loc ms = .ok oneOf) :
    ∀ n ∈ oneOf.getD [], c.Compiles n := by
  rw [oneOf_eq] at h
  rcases elim_eq_ok h with rfl | ⟨v, h⟩
  · exact List.forall_mem_nil _
  · cases v with
    | array vs =>
      obtain ⟨nodes, hn, rfl⟩ := Checked.map_eq_ok_iff.1 h
      exact compiles_of_elementNodes hn
    | _ => exact absurd h (Checked.fail_ne_ok _ _ _ _ _)

theorem compiles_of_items {items : Items} (h : c.items loc ms = .ok items) :
    ∀ n ∈ items.children, c.Compiles n := by
  rw [items_eq] at h
  rcases elim_eq_ok h with rfl | ⟨v, h⟩
  · exact List.forall_mem_nil _
  · cases v with
    | array vs =>
      obtain ⟨nodes, hn, rfl⟩ := Checked.map_eq_ok_iff.1 h
      exact compiles_of_elementNodes hn
    | _ =>
      rw [itemsOf] at h
      · obtain ⟨n, hn, rfl⟩ := Checked.map_eq_ok_iff.1 h
        intro k hk
        rw [List.mem_singleton.1 hk]
        exact ⟨_, _, hn⟩
      · intro vs he
        cases he

theorem contains_format_of_textRules {r : TextRules} {name : String}
    (h : c.textRules loc ms = .ok r) (hf : r.format = some name) :
    c.formats.contains name = true := by
  obtain ⟨⟨lengths, ⟨p, f⟩, allowed⟩, hb, rfl⟩ := Checked.map_eq_ok_iff.1 h
  have hn := Checked.both_eq_ok_iff.1 (Checked.both_eq_ok_iff.1 (Checked.both_eq_ok_iff.1 hb).2).1
  exact (format_eq_ok_iff.1 hn.2).2 name hf

theorem built_of_kindRules {declared : Json} {object array : Unit → Checked Rules} {rules : Rules}
    (ho : ∀ rules, object () = .ok rules → c.Built rules)
    (ha : ∀ rules, array () = .ok rules → c.Built rules)
    (h : c.kindRules loc ms declared object array = .ok rules) : c.Built rules := by
  unfold kindRules at h
  cases hk : declared.text?.bind Kind.ofName? with
  | none =>
    rw [hk] at h
    exact absurd h (Checked.fail_ne_ok _ _ _ _ _)
  | some k =>
    rw [hk] at h
    cases k with
    | string =>
      obtain ⟨r, hr, rfl⟩ := Checked.map_eq_ok_iff.1 h
      refine ⟨List.forall_mem_nil _, fun r' name he hf => ?_⟩
      obtain rfl := Rules.string.inj he
      exact contains_format_of_textRules hr hf
    | object => exact ho rules h
    | array => exact ha rules h
    | number | integer =>
      obtain ⟨r, hr, rfl⟩ := Checked.map_eq_ok_iff.1 h
      exact built_of_ne_string (List.forall_mem_nil _) fun r h => by cases h
    | boolean | null | any =>
      cases h
      exact built_of_ne_string (List.forall_mem_nil _) fun r h => by cases h

theorem built_of_assemble {object array : Unit → Checked Rules} {n : Node}
    (ho : ∀ rules, object () = .ok rules → c.Built rules)
    (ha : ∀ rules, array () = .ok rules → c.Built rules)
    (h : c.assemble loc ms object array = .ok n) : c.Built n.rules := by
  unfold assemble at h
  split at h
  · exact absurd h (Checked.fail_ne_ok _ _ _ _ _)
  · obtain ⟨⟨⟨required, _⟩, rules⟩, hb, rfl⟩ := Checked.map_eq_ok_iff.1 h
    exact built_of_kindRules ho ha (Checked.both_eq_ok_iff.1 hb).2

theorem built_of_node {d : Json} {n : Node} (h : c.node loc d = .ok n) : c.Built n.rules := by
  cases d with
  | string s =>
    rw [node] at h
    refine built_of_assemble ?_ ?_ h
    · rintro rules ⟨⟩
      exact built_of_ne_string (List.forall_mem_nil _) fun r h => by cases h
    · rintro rules ⟨⟩
      exact built_of_ne_string (List.forall_mem_nil _) fun r h => by cases h
  | object ms =>
    rw [node] at h
    refine built_of_assemble ?_ ?_ h
    · intro rules hr
      obtain ⟨⟨additional, properties, oneOf⟩, hb, rfl⟩ := Checked.map_eq_ok_iff.1 hr
      obtain ⟨ha, hb⟩ := Checked.both_eq_ok_iff.1 hb
      obtain ⟨hp, ho⟩ := Checked.both_eq_ok_iff.1 hb
      refine built_of_ne_string (fun k hk => ?_) fun r h => by cases h
      rcases List.mem_append.1 hk with hk | hk
      · exact compiles_of_properties hp k hk
      rcases List.mem_append.1 hk with hk | hk
      · exact compiles_of_additional ha k hk
      · exact compiles_of_oneOf ho k hk
    · intro rules hr
      obtain ⟨⟨items, least, most⟩, hb, rfl⟩ := Checked.map_eq_ok_iff.1 hr
      exact built_of_ne_string (compiles_of_items (Checked.both_eq_ok_iff.1 hb).1)
        fun r h => by cases h
  | _ => exact absurd h (Checked.fail_ne_ok _ _ _ _ _)

theorem compiles_of_within {m n : Node} (hm : m.Within n) (hn : c.Compiles n) : c.Compiles m := by
  -- from the outside in: the nodes below a compiled node are compiled by the same checker
  induction hm with
  | refl => exact hn
  | step hc _ ih =>
    obtain ⟨loc, d, h⟩ := hn
    exact ih ((built_of_node h).children _ hc)

/-- Every format that is named anywhere in a compiled node is known. -/
theorem contains_format_of_within {m n : Node} {r : TextRules} {name : String}
    (hn : c.Compiles n) (hm : m.Within n) (hr : m.rules = .string r) (hf : r.format = some name) :
    c.formats.contains name = true := by
  obtain ⟨loc, d, h⟩ := compiles_of_within hm hn
  exact (built_of_node h).format r name hr hf

end Checker

end ShapeCheck
