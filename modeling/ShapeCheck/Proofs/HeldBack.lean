import ShapeCheck.Proofs.Agreement

/-!
# Branches that are held back

A node for members that are not declared and a list of nodes for elements are only tried: what they
report is held back, and the walk goes by whether they accept a value.

* `Node.Exchange`: one tree is the other with such branches replaced by others that accept the same
  values, at whatever depth outside of them;
* `Node.Exchange.agree`: the two trees report the same at every locator;
* `Environment.exchange_unnoticed`: in particular at the root.
-/

namespace ShapeCheck

/-! ### Exchanging branches -/

/-- What becomes of members that are not declared is the same, or two nodes that accept the same
values. -/
inductive Additional.Exchange (env : Environment) : Additional → Additional → Prop where
  | refl (a : Additional) : Exchange env a a
  | schema {m n : Node} (h : ∀ v, env.violations Locator.root m v = [] ↔
      env.violations Locator.root n v = []) : Exchange env (.schema m) (.schema n)

mutual

/-- The second tree is the first, its keys included, with branches that are held back replaced. -/
inductive Node.Exchange (env : Environment) : Node → Node → Prop where
  | mk {required : Bool} {source : Json.Members} {r s : Rules} (h : Rules.Exchange env r s) :
      Node.Exchange env (.mk required source r) (.mk required source s)

/-- The same for the rules of a node. -/
inductive Rules.Exchange (env : Environment) : Rules → Rules → Prop where
  | refl (r : Rules) : Rules.Exchange env r r
  | object {ps qs : List (String × Node)} {a b : Additional} {oneOf oneOf' : Option (List Node)}
      (properties : List.Forall₂ (Named (Node.Exchange env)) ps qs)
      (additional : Additional.Exchange env a b)
      (alternatives : Option.Rel (List.Forall₂ (Node.Exchange env)) oneOf oneOf') :
      Rules.Exchange env (.object ps a oneOf) (.object qs b oneOf')
  | array {items items' : Items} {least most : Option Nat} (h : Items.Exchange env items items') :
      Rules.Exchange env (.array items least most) (.array items' least most)

/-- What is asked of elements is the same with branches replaced further below, or two lists of
nodes one of which accepts an element exactly if one of the other does. -/
inductive Items.Exchange (env : Environment) : Items → Items → Prop where
  | refl (items : Items) : Items.Exchange env items items
  | single {m n : Node} (h : Node.Exchange env m n) : Items.Exchange env (.single m) (.single n)
  | alternatives {nodes nodes' : List Node}
      (h : ∀ v, (∃ n ∈ nodes, env.violations Locator.root n v = []) ↔
        ∃ n ∈ nodes', env.violations Locator.root n v = []) :
      Items.Exchange env (.alternatives nodes) (.alternatives nodes')

end

variable {env : Environment}

/-! ### Nothing shows -/

theorem Additional.Exchange.agree {a b : Additional} (h : Additional.Exchange env a b) :
    a.Agree env env b := by
  cases h with
  | refl => exact fun _ _ _ => rfl
  | schema h =>
    refine .schema fun v => ?_
    rw [← Environment.violations_eq_nil_iff, ← Environment.violations_eq_nil_iff]
    exact h v

theorem Items.Exchange.agree {items items' : Items} (h : Items.Exchange env items items')
    (ih : ∀ m ∈ items.children, ∀ n, Node.Exchange env m n → m.Agree env env n) :
    items.Agree env env items' := by
  cases h with
  | refl => exact fun _ _ => rfl
  | single h => exact .single (ih _ (List.mem_singleton_self _) _ h)
  | alternatives h =>
    refine .alternatives fun v => ?_
    simp only [← Environment.violations_eq_nil_iff _ Locator.root]
    exact h v

theorem Rules.Exchange.agree {r s : Rules} (h : Rules.Exchange env r s)
    (ih : ∀ m ∈ r.children, ∀ n, Node.Exchange env m n → m.Agree env env n) :
    r.Agree env env s := by
  cases h with
  | refl => exact ⟨rfl, fun _ _ => rfl⟩
  | array h => exact .array (h.agree ih) _ _
  | @object ps qs a b oneOf oneOf' properties additional alternatives =>
    have hp : List.Forall₂ (Named (Node.Agree env env)) ps qs := by
      refine forall₂_imp_of_mem properties ?_
      rintro ⟨name, m⟩ hm _ ⟨h⟩
      exact .mk (ih m (List.mem_append_left _ (List.mem_map_of_mem hm)) _ h)
    have ho : Option.Rel (List.Forall₂ (Node.Agree env env)) oneOf oneOf' := by
      cases alternatives with
      | none => exact .none
      | some hn =>
        exact .some (forall₂_imp_of_mem hn fun m hm n h => ih m (mem_children_of_oneOf hm) n h)
    exact .object hp additional.agree ho

/-- A tree and one with branches replaced report the same. -/
theorem Node.Exchange.agree {t t' : Node} (h : t.Exchange env t') : t.Agree env env t' := by
  induction t using Node.inductionOn generalizing t' with
  | step t ih =>
    obtain ⟨h⟩ := h
    exact Node.agree_mk (fun _ => rfl) (h.agree fun m hm n hmn => ih m hm hmn)

namespace Environment

/-- **Of a branch that is held back nothing shows but its verdict.** Trees that differ only in nodes
for members that are not declared, and in alternatives for elements, which accept the same values
report exactly the same of every value. -/
theorem exchange_unnoticed {t t' : Node} (h : t.Exchange env t') (v : Json) :
    env.violations Locator.root t v = env.violations Locator.root t' v :=
  h.agree.violations Locator.root v

/-- A text that has to be one of a list of one. -/
def codeNode : Node := .mk false [] (.string ⟨none, none, none, none, some ["ab"]⟩)

/-- The same with bounds on the length, which say no more but are reported as well. -/
def measuredNode : Node := .mk false [] (.string ⟨some 2, some 2, none, none, some ["ab"]⟩)

/-- A list of codes in an object, below alternatives, where other members are allowed as well. -/
def codesTree (other : Node) (codes : List Node) : Node :=
  .mk false [] (.object [] .forbidden (some [.mk false [] (.object
    [("codes", .mk true [] (.array (.alternatives codes) none none))] (.schema other) none)]))

theorem accepts_measuredNode_iff (v : Json) :
    violations ⟨.empty, .empty⟩ Locator.root measuredNode v = [] ↔
      violations ⟨.empty, .empty⟩ Locator.root codeNode v = [] := by
  cases v with
  | string s =>
    show textViolations .empty ⟨some 2, some 2, none, none, some ["ab"]⟩ Locator.root s = [] ↔
      textViolations .empty ⟨none, none, none, none, some ["ab"]⟩ Locator.root s = []
    rw [textViolations_eq_nil_iff, textViolations_eq_nil_iff]
    constructor
    · intro h
      exact ⟨by simp, by simp, by simp, by simp, h.choice⟩
    · intro h
      obtain rfl : s = "ab" := List.mem_singleton.1 (h.choice _ rfl)
      have hl : "ab".length = 2 := rfl
      exact ⟨by simp [hl], by simp [hl], by simp, by simp, h.choice⟩
  | _ => exact iff_of_false (List.cons_ne_nil _ _) (List.cons_ne_nil _ _)

/-- A list with a text that is no code, beside a member that is none either. -/
def codesValue : Json :=
  .object [("codes", .array [.string "ab", .string "x"]), ("note", .string "")]

theorem codesTree_exchange_unnoticed :
    (codesTree codeNode [codeNode]).Exchange ⟨.empty, .empty⟩
        (codesTree measuredNode [codeNode, measuredNode]) ∧
      (violations ⟨.empty, .empty⟩ Locator.root codeNode (.string "x")).length = 1 ∧
      (violations ⟨.empty, .empty⟩ Locator.root measuredNode (.string "x")).length = 2 ∧
      (violations ⟨.empty, .empty⟩ Locator.root (codesTree codeNode [codeNode]) codesValue).length =
        2 ∧
      violations ⟨.empty, .empty⟩ Locator.root (codesTree codeNode [codeNode]) codesValue =
        violations ⟨.empty, .empty⟩ Locator.root
          (codesTree measuredNode [codeNode, measuredNode]) codesValue := by
  have h : (codesTree codeNode [codeNode]).Exchange ⟨.empty, .empty⟩
      (codesTree measuredNode [codeNode, measuredNode]) := by
    refine .mk (.object .nil (.refl _) (.some (.cons (.mk (.object ?_ ?_ .none)) .nil)))
    · refine .cons (.mk (.mk (.array (.alternatives fun v => ?_)))) .nil
      simp [accepts_measuredNode_iff]
    · exact .schema fun v => (accepts_measuredNode_iff v).symm
  exact ⟨h, rfl, rfl, rfl, exchange_unnoticed h codesValue⟩

end Environment

end ShapeCheck
