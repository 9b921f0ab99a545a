import ShapeCheck.Schema.Node

/-!
# Trees of values and nodes

Values and nodes are trees whose branches are lists.  What lies directly below a value or a node is
listed here once, so that inductions need no companions for lists, members and alternatives.

* `Json.children`, `Node.children`: what lies directly below;
* `Json.inductionOn`, `Node.inductionOn`: induction with a hypothesis for everything directly below;
* `Json.inductionOnTwo`: with one for what lies two steps below as well;
* `Node.Within`: a node stands somewhere in the tree of another.
-/

namespace ShapeCheck

theorem mem_of_lookup {α : Type} {entries : List (String × α)} {name : String} {a : α}
    (h : entries.lookup name = some a) : (name, a) ∈ entries := by
  obtain ⟨before, after, rfl, -⟩ := List.lookup_eq_some_iff.1 h
  simp

theorem lookup_isSome_iff_exists_mem {α : Type} {entries : List (String × α)} {name : String} :
    (entries.lookup name).isSome = true ↔ ∃ a, (name, a) ∈ entries := by
  rw [List.lookup_isSome_iff]
  constructor
  · rintro ⟨⟨other, a⟩, hm, he⟩
    obtain rfl := eq_of_beq he
    exact ⟨a, hm⟩
  · rintro ⟨a, hm⟩
    exact ⟨(name, a), hm, beq_self_eq_true name⟩

theorem mem_of_mem_put {α : Type} {entries : List (String × α)} {name : String} {a : α}
    {entry : String × α} (h : entry ∈ put name a entries) : entry = (name, a) ∨ entry ∈ entries := by
  induction entries with
  | nil => exact .inl (List.mem_singleton.1 h)
  | cons first rest ih =>
    rw [put] at h
    split at h
    · exact (List.mem_cons.1 h).imp_right (List.mem_cons_of_mem _)
    · rcases List.mem_cons.1 h with rfl | h
      · exact .inr List.mem_cons_self
      · exact (ih h).imp_right (List.mem_cons_of_mem _)

/-! ### Values -/

namespace Json

/-- The values directly below a value. -/
def children : Json → List Json
  | array vs => vs
  | object ms => ms.map Prod.snd
  | _ => []

theorem sizeOf_lt_of_mem_children {v w : Json} (h : w ∈ v.children) : sizeOf w < sizeOf v := by
  cases v with
  | array vs =>
    have hw := List.sizeOf_lt_of_mem (show w ∈ vs from h)
    rw [array.sizeOf_spec]
    omega
  | object ms =>
    obtain ⟨⟨name, w'⟩, hm, rfl⟩ := List.mem_map.1 h
    have hw := List.sizeOf_lt_of_mem hm
    rw [Prod.mk.sizeOf_spec] at hw
    show sizeOf w' < sizeOf (object ms)
    rw [object.sizeOf_spec]
    omega
  | _ => simp [children] at h

/-- A property of values holds if each value has it as soon as the values directly below do. -/
theorem inductionOn {motive : Json → Prop} (v : Json)
    (step : ∀ v, (∀ w ∈ v.children, motive w) → motive v) : motive v :=
  step v fun w _ => inductionOn w step
termination_by sizeOf v
decreasing_by exact sizeOf_lt_of_mem_children ‹_›

/-- The same with a hypothesis for what lies two steps below, too: where a member holds a list, what
matters is in the list. -/
theorem inductionOnTwo {motive : Json → Prop} (v : Json)
    (step : ∀ v, (∀ w ∈ v.children, motive w ∧ ∀ x ∈ w.children, motive x) → motive v) :
    motive v := by
  have h : motive v ∧ ∀ w ∈ v.children, motive w := by
    induction v using inductionOn with
    | step v ih => exact ⟨step v ih, fun w hw => (ih w hw).1⟩
  exact h.1

theorem mem_children_of_mem {ms : Members} {name : String} {v : Json} (h : (name, v) ∈ ms) :
    v ∈ (object ms).children :=
  List.mem_map.2 ⟨(name, v), h, rfl⟩

theorem mem_children_of_lookup {ms : Members} {name : String} {v : Json}
    (h : ms.lookup name = some v) : v ∈ (object ms).children :=
  mem_children_of_mem (mem_of_lookup h)

end Json

/-! ### Nodes -/

/-- The node that additional members should conform to, if there is one. -/
def Additional.children : Additional → List Node
  | schema n => [n]
  | _ => []

/-- The nodes that elements should conform to. -/
def Items.children : Items → List Node
  | free => []
  | single n => [n]
  | alternatives nodes => nodes

/-- The nodes directly below rules. -/
def Rules.children : Rules → List Node
  | object properties additional oneOf =>
    properties.map Prod.snd ++ (additional.children ++ oneOf.getD [])
  | array items _ _ => items.children
  | _ => []

theorem mem_children_of_declared {properties : List (String × Node)} {name : String} {n : Node}
    (h : properties.lookup name = some n) {additional : Additional}
    {oneOf : Option (List Node)} : n ∈ (Rules.object properties additional oneOf).children :=
  List.mem_append_left _ (List.mem_map.2 ⟨(name, n), mem_of_lookup h, rfl⟩)

theorem mem_children_of_additional {additional : Additional} {n : Node}
    (h : n ∈ additional.children) {properties : List (String × Node)} {oneOf : Option (List Node)} :
    n ∈ (Rules.object properties additional oneOf).children :=
  List.mem_append_right _ (List.mem_append_left _ h)

theorem mem_children_of_oneOf {oneOf : Option (List Node)} {n : Node} (h : n ∈ oneOf.getD [])
    {properties : List (String × Node)} {additional : Additional} :
    n ∈ (Rules.object properties additional oneOf).children :=
  List.mem_append_right _ (List.mem_append_right _ h)

namespace Node

/-- The nodes directly below a node. -/
def children (n : Node) : List Node := n.rules.children

end Node

theorem Additional.sizeOf_lt_of_mem_children {a : Additional} {n : Node} (h : n ∈ a.children) :
    sizeOf n < sizeOf a := by
  cases a with
  | schema m =>
    obtain rfl := List.mem_singleton.1 h
    simp
  | _ => simp [children] at h

theorem Items.sizeOf_lt_of_mem_children {items : Items} {n : Node} (h : n ∈ items.children) :
    sizeOf n < sizeOf items := by
  cases items with
  | free => simp [children] at h
  | single m =>
    obtain rfl := List.mem_singleton.1 h
    simp
  | alternatives nodes =>
    have hn := List.sizeOf_lt_of_mem (show n ∈ nodes from h)
    rw [alternatives.sizeOf_spec]
    omega

theorem Rules.sizeOf_lt_of_mem_children {rules : Rules} {n : Node} (h : n ∈ rules.children) :
    sizeOf n < sizeOf rules := by
  cases rules with
  | object properties additional oneOf =>
    rw [object.sizeOf_spec]
    rcases List.mem_append.1 h with hp | h
    · obtain ⟨⟨name, m⟩, hm, rfl⟩ := List.mem_map.1 hp
      have hn := List.sizeOf_lt_of_mem hm
      rw [Prod.mk.sizeOf_spec] at hn
      show sizeOf m < _
      omega
    rcases List.mem_append.1 h with ha | ho
    · have hn := Additional.sizeOf_lt_of_mem_children ha
      omega
    · cases oneOf with
      | none => simp at ho
      | some nodes =>
        have hn := List.sizeOf_lt_of_mem (show n ∈ nodes from ho)
        rw [Option.some.sizeOf_spec]
        omega
  | array items least most =>
    have hn := Items.sizeOf_lt_of_mem_children (show n ∈ items.children from h)
    rw [array.sizeOf_spec]
    omega
  | _ => simp [children] at h

namespace Node

theorem sizeOf_lt_of_mem_children {n child : Node} (h : child ∈ n.children) :
    sizeOf child < sizeOf n := by
  obtain ⟨required, source, rules⟩ := n
  have hn := Rules.sizeOf_lt_of_mem_children (show child ∈ rules.children from h)
  rw [mk.sizeOf_spec]
  omega

/-- A property of nodes holds if each node has it as soon as the nodes directly below do. -/
theorem inductionOn {motive : Node → Prop} (n : Node)
    (step : ∀ n, (∀ child ∈ n.children, motive child) → motive n) : motive n :=
  step n fun child _ => inductionOn child step
termination_by sizeOf n
decreasing_by exact sizeOf_lt_of_mem_children ‹_›

/-- The first node is the second or stands somewhere below it. -/
inductive Within : Node → Node → Prop where
  | refl (n : Node) : Within n n
  | step {m child n : Node} (hc : child ∈ n.children) (h : Within m child) : Within m n

end Node

end ShapeCheck
