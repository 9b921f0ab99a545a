import ShapeCheck.Proofs.Locator
import ShapeCheck.Proofs.Walk

/-!
# What violations point at

A violation names a place of the value that was judged, and what is to blame there.

* `Json.Reaches`: names and indices lead from a value to a value inside it;
* `Json.Indexable`: the lists inside a value are short enough for their indices to be read back;
* `Violation.Blames`: what a violation at a place can say is to blame;
* `Violation.PointsInto`: a violation points at some place inside a value;
* `Environment.violation_points_at_place`: the locator of a violation is read back as the steps to
  its place, and what it says is to blame is there.
-/

namespace ShapeCheck

open Locator (Segment extendAll indexLimit)

/-! ### Places inside a value -/

namespace Json

/-- Names and indices lead from a value to a value inside it. -/
inductive Reaches : Json → List Segment → Json → Prop where
  | here (v : Json) : Reaches v [] v
  | member {ms : Members} {name : String} {v w : Json} {steps : List Segment}
      (hm : (name, v) ∈ ms) (h : Reaches v steps w) : Reaches (.object ms) (.key name :: steps) w
  | element {vs : List Json} {i : Nat} {v w : Json} {steps : List Segment}
      (hv : vs[i]? = some v) (h : Reaches v steps w) : Reaches (.array vs) (.index i :: steps) w

/-- The lists inside a value are short enough for their indices to be read back. -/
def Indexable (v : Json) : Prop :=
  ∀ steps vs, v.Reaches steps (.array vs) → vs.length < indexLimit

namespace Indexable

theorem length_lt {vs : List Json} (h : Indexable (.array vs)) : vs.length < indexLimit :=
  h [] vs (.here _)

theorem of_member {ms : Members} (h : Indexable (.object ms)) {name : String} {v : Json}
    (hm : (name, v) ∈ ms) : v.Indexable :=
  fun steps vs hr => h (.key name :: steps) vs (.member hm hr)

theorem of_element {vs : List Json} (h : Indexable (.array vs)) {i : Nat} {v : Json}
    (hv : vs[i]? = some v) : v.Indexable :=
  fun steps ws hr => h (.index i :: steps) ws (.element hv hr)

@[simp] theorem object_iff {ms : Members} : (object ms).Indexable ↔ ∀ m ∈ ms, m.2.Indexable := by
  refine ⟨fun h m hm => h.of_member hm, fun h steps vs hr => ?_⟩
  cases hr with
  | member hm hr => exact h _ hm _ vs hr

@[simp] theorem array_iff {vs : List Json} :
    (array vs).Indexable ↔ vs.length < indexLimit ∧ ∀ v ∈ vs, v.Indexable := by
  refine ⟨fun h => ⟨h.length_lt, fun v hv => ?_⟩, fun h steps ws hr => ?_⟩
  · obtain ⟨i, hi⟩ := List.mem_iff_getElem?.1 hv
    exact h.of_element hi
  · cases hr with
    | here => exact h.1
    | element hi hr => exact h.2 _ (List.mem_of_getElem? hi) _ ws hr

theorem of_children_eq_nil {v : Json} (h : v.children = []) : v.Indexable := by
  intro steps vs hr
  cases hr with
  | here =>
    obtain rfl : vs = [] := h
    decide
  | member hm hr =>
    obtain rfl := List.map_eq_nil_iff.1 h
    cases hm
  | element hi hr =>
    obtain rfl : _ = [] := h
    cases hi

@[simp] theorem null : Indexable .null := of_children_eq_nil rfl

@[simp] theorem bool (b : Bool) : Indexable (.bool b) := of_children_eq_nil rfl

@[simp] theorem number (n : Number) : Indexable (.number n) := of_children_eq_nil rfl

@[simp] theorem string (s : String) : Indexable (.string s) := of_children_eq_nil rfl

end Indexable

/-- The steps to a place can be read back. -/
theorem Reaches.fits {v w : Json} {steps : List Segment} (h : v.Reaches steps w)
    (hv : v.Indexable) : ∀ s ∈ steps, s.Fits := by
  induction h with
  | here => exact List.forall_mem_nil _
  | member hm _ ih =>
    rw [List.forall_mem_cons]
    exact ⟨trivial, ih (hv.of_member hm)⟩
  | element hi _ ih =>
    rw [List.forall_mem_cons]
    have hl := (List.getElem?_eq_some_iff.1 hi).1
    exact ⟨Nat.lt_trans hl hv.length_lt, ih (hv.of_element hi)⟩

end Json

/-! ### What is to blame -/

namespace Violation

/-- What a violation at a place can say is to blame: the value there, its type or the number of its
elements; a member that is not there; or a member that is. -/
inductive Blames (r : Violation) : Json → Prop where
  | whole {w : Json} (hf : r.field = "") (ha : r.actual = w) : Blames r w
  | type {w : Json} (hf : r.field = "") (ha : r.actual = .string w.typeName) : Blames r w
  | count {vs : List Json} (hf : r.field = "")
      (ha : ∃ h, r.actual = .number (.integer vs.length h)) : Blames r (.array vs)
  | missing {ms : Json.Members} (hn : ms.lookup r.field = none) (ha : r.actual = .null) :
      Blames r (.object ms)
  | member {ms : Json.Members} (hm : (r.field, r.actual) ∈ ms) : Blames r (.object ms)

/-- A violation points at some place inside the value at a locator. -/
def PointsInto (r : Violation) (loc : String) (v : Json) : Prop :=
  ∃ steps w, v.Reaches steps w ∧ r.locator = extendAll loc steps ∧ r.Blames w

variable {r : Violation} {loc : String}

theorem pointsInto_of_blames {v : Json} (hl : r.locator = loc) (hb : r.Blames v) :
    r.PointsInto loc v :=
  ⟨[], v, .here v, hl, hb⟩

theorem PointsInto.member {ms : Json.Members} {name : String} {v : Json} (hm : (name, v) ∈ ms)
    (h : r.PointsInto (Locator.withKey loc name) v) : r.PointsInto loc (.object ms) := by
  obtain ⟨steps, w, hr, hl, hb⟩ := h
  exact ⟨.key name :: steps, w, .member hm hr, hl, hb⟩

theorem PointsInto.element {vs : List Json} {i : Nat} {v : Json} (hv : vs[i]? = some v)
    (h : r.PointsInto (Locator.withIndex loc i) v) : r.PointsInto loc (.array vs) := by
  obtain ⟨steps, w, hr, hl, hb⟩ := h
  exact ⟨.index i :: steps, w, .element hv hr, hl, hb⟩

/-- A violation of the value at a locator as a whole, with something to blame. -/
structure IsAt (r : Violation) (loc : String) (actual : Json) : Prop where
  locator : r.locator = loc
  field : r.field = ""
  actual : r.actual = actual

end Violation

/-! ### Rules for leaves -/

section Leaves

variable {r : Violation} {loc message : String} {actual : Json}

theorem isAt_of_mem_violationIf {broken : Bool} (h : r ∈ violationIf broken loc message actual) :
    r.IsAt loc actual := by
  cases broken with
  | false => cases h
  | true =>
    obtain rfl := List.mem_singleton.1 h
    exact ⟨rfl, rfl, rfl⟩

theorem isAt_of_mem_ruleViolation {α : Type} {rule : Option α} {broken : α → Bool}
    {message : α → String} (h : r ∈ ruleViolation rule broken loc message actual) :
    r.IsAt loc actual := by
  cases rule with
  | none => cases h
  | some a => exact isAt_of_mem_violationIf h

theorem isAt_of_mem_textViolations {formats : Formats} {rules : TextRules} {s : String}
    (h : r ∈ textViolations formats rules loc s) : r.IsAt loc (.string s) := by
  simp only [textViolations, List.mem_append] at h
  rcases h with (((h | h) | h) | h) | h <;> exact isAt_of_mem_ruleViolation h

theorem isAt_of_mem_countViolations {least most : Option Nat} {n : Nat}
    (h : r ∈ countViolations least most loc n) : r.IsAt loc (.number (.ofNat n)) := by
  simp only [countViolations, List.mem_append] at h
  rcases h with h | h <;> exact isAt_of_mem_ruleViolation h

theorem isAt_of_mem_wrongType {v : Json} (h : r ∈ wrongType loc message v) :
    r.IsAt loc (.string v.typeName) := by
  obtain rfl := List.mem_singleton.1 h
  exact ⟨rfl, rfl, rfl⟩

theorem pointsInto_of_mem_wrongType {v : Json} (h : r ∈ wrongType loc message v) :
    r.PointsInto loc v :=
  have hr := isAt_of_mem_wrongType h
  Violation.pointsInto_of_blames hr.locator (.type hr.field hr.actual)

theorem pointsInto_of_mem_numericViolations {integral : Bool} {rules : NumberRules} {v : Json}
    (h : r ∈ numericViolations integral rules loc v) : r.PointsInto loc v := by
  unfold numericViolations at h
  split at h
  · simp only [numberViolations, List.mem_append] at h
    have hr : r.IsAt loc v := by
      rcases h with (h | h) | h <;> exact isAt_of_mem_ruleViolation h
    exact Violation.pointsInto_of_blames hr.locator (.whole hr.field hr.actual)
  · exact pointsInto_of_mem_wrongType h

theorem pointsInto_of_mem_countViolations {least most : Option Nat} {vs : List Json}
    (hv : (Json.array vs).Indexable) (h : r ∈ countViolations least most loc vs.length) :
    r.PointsInto loc (.array vs) := by
  have hr := isAt_of_mem_countViolations h
  -- a number of elements that is in range is not capped
  have hl : vs.length < 18446744073709551616 := hv.length_lt
  have hn : Json.Number.ofNat vs.length = .integer vs.length (by omega) := by
    rw [Json.Number.ofNat, Json.Number.integer.injEq]
    omega
  exact Violation.pointsInto_of_blames hr.locator (.count hr.field ⟨_, hn ▸ hr.actual⟩)

theorem pointsInto_of_mem_missingViolations {properties : List (String × Node)} {ms : Json.Members}
    (h : r ∈ missingViolations properties ms loc) : r.PointsInto loc (.object ms) := by
  obtain ⟨⟨name, n⟩, -, hr⟩ := List.mem_filterMap.1 h
  dsimp only at hr
  split at hr
  · rename_i hn
    cases hr
    rw [Bool.and_eq_true, Option.isNone_iff_eq_none] at hn
    exact Violation.pointsInto_of_blames rfl (.missing hn.2 rfl)
  · cases hr

end Leaves

/-- What is kept of alternatives was said by one of them. -/
theorem exists_of_mem_firstClean {r : Violation} {reports : List Report}
    (h : r ∈ firstClean reports) : ∃ report ∈ reports, r ∈ report := by
  unfold firstClean at h
  split at h
  · cases h
  · exact List.mem_flatten.1 h

namespace Environment

variable (env : Environment) {r : Violation} {loc : String}

theorem pointsInto_of_mem_customViolations {source : Json.Members} {v : Json}
    (h : r ∈ env.customViolations source loc v) : r.PointsInto loc v := by
  obtain ⟨message, -, rfl⟩ := List.mem_map.1 h
  exact Violation.pointsInto_of_blames rfl (.whole rfl rfl)

/-! ### Rules that hold nodes -/

/-- What a node reports, at whatever locator, points into the value there. -/
def PointsInto (n : Node) : Prop :=
  ∀ loc v, v.Indexable → ∀ r ∈ env.violations loc n v, r.PointsInto loc v

variable {env}

theorem pointsInto_of_mem_additionalViolations {additional : Additional} {ms : Json.Members}
    {name : String} {v : Json} (hm : (name, v) ∈ ms)
    (h : r ∈ env.additionalViolations loc additional name v) : r.PointsInto loc (.object ms) := by
  cases additional with
  | allowed => cases h
  | forbidden =>
    obtain rfl := List.mem_singleton.1 h
    exact Violation.pointsInto_of_blames rfl (.member hm)
  | schema n =>
    rw [additionalViolations_schema] at h
    split at h
    · cases h
    · obtain rfl := List.mem_singleton.1 h
      exact Violation.pointsInto_of_blames rfl (.member hm)

theorem pointsInto_of_mem_objectViolations {properties : List (String × Node)}
    {additional : Additional} {oneOf : Option (List Node)}
    (ih : ∀ n ∈ (Rules.object properties additional oneOf).children, env.PointsInto n)
    {ms : Json.Members} (hv : (Json.object ms).Indexable)
    (h : r ∈ env.ruleViolations loc (.object properties additional oneOf) (.object ms)) :
    r.PointsInto loc (.object ms) := by
  cases oneOf with
  | some nodes =>
    rw [ruleViolations_oneOf] at h
    obtain ⟨report, hm, hr⟩ := exists_of_mem_firstClean h
    obtain ⟨n, hn, rfl⟩ := List.mem_map.1 hm
    exact ih n (mem_children_of_oneOf hn) loc _ hv r hr
  | none =>
    rw [ruleViolations_members] at h
    rcases List.mem_append.1 h with h | h
    · exact pointsInto_of_mem_missingViolations h
    obtain ⟨⟨name, v⟩, hm, hr⟩ := List.mem_flatMap.1 h
    cases hl : properties.lookup name with
    | some n =>
      rw [memberViolations_declared env loc hl] at hr
      exact .member hm (ih n (mem_children_of_declared hl) _ v (hv.of_member hm) r hr)
    | none =>
      rw [memberViolations_undeclared env loc hl] at hr
      exact pointsInto_of_mem_additionalViolations hm hr

theorem pointsInto_of_mem_itemViolations {items : Items}
    (ih : ∀ n ∈ items.children, env.PointsInto n) {v : Json} (hv : v.Indexable)
    (h : r ∈ env.itemViolations loc items v) : r.PointsInto loc v := by
  cases items with
  | free => cases h
  | single n => exact ih n (List.mem_singleton_self n) loc v hv r h
  | alternatives nodes =>
    rw [itemViolations_alternatives] at h
    have hr := isAt_of_mem_violationIf h
    exact Violation.pointsInto_of_blames hr.locator (.whole hr.field hr.actual)

theorem pointsInto_of_mem_arrayViolations {items : Items} {least most : Option Nat}
    (ih : ∀ n ∈ items.children, env.PointsInto n) {vs : List Json}
    (hv : (Json.array vs).Indexable)
    (h : r ∈ env.ruleViolations loc (.array items least most) (.array vs)) :
    r.PointsInto loc (.array vs) := by
  rw [ruleViolations_array] at h
  rcases List.mem_append.1 h with h | h
  · exact pointsInto_of_mem_countViolations hv h
  · obtain ⟨⟨v, i⟩, hx, hr⟩ := List.mem_flatMap.1 h
    have hi : vs[i]? = some v := List.mem_zipIdx_iff_getElem?.1 hx
    exact .element hi (pointsInto_of_mem_itemViolations ih (hv.of_element hi) hr)

theorem pointsInto_of_mem_ruleViolations {rules : Rules}
    (ih : ∀ n ∈ rules.children, env.PointsInto n) {v : Json} (hv : v.Indexable)
    (h : r ∈ env.ruleViolations loc rules v) : r.PointsInto loc v := by
  cases rules with
  | string rules =>
    cases v with
    | string s =>
      have hr := isAt_of_mem_textViolations h
      exact Violation.pointsInto_of_blames hr.locator (.whole hr.field hr.actual)
    | _ => exact pointsInto_of_mem_wrongType h
  | number rules | integer rules => exact pointsInto_of_mem_numericViolations h
  | boolean =>
    cases v with
    | bool b => cases h
    | _ => exact pointsInto_of_mem_wrongType h
  | null | any => cases h
  | object properties additional oneOf =>
    cases v with
    | object ms => exact pointsInto_of_mem_objectViolations ih hv h
    | _ => exact pointsInto_of_mem_wrongType h
  | array items least most =>
    cases v with
    | array vs => exact pointsInto_of_mem_arrayViolations ih hv h
    | _ => exact pointsInto_of_mem_wrongType h

/-! ### The whole walk -/

theorem pointsInto (env : Environment) (n : Node) : env.PointsInto n := by
  -- on the node and not on the value: an alternative is asked about the value as a whole
  induction n using Node.inductionOn with
  | step n ih =>
    intro loc v hv r hr
    by_cases hn : n.RefusesNull v
    · rw [violations_of_refusesNull env loc hn] at hr
      obtain rfl := List.mem_singleton.1 hr
      exact Violation.pointsInto_of_blames rfl (.whole rfl hn.1.symm)
    · rw [violations_of_not_refusesNull env loc hn] at hr
      rcases List.mem_append.1 hr with hr | hr
      · exact env.pointsInto_of_mem_customViolations hr
      · exact pointsInto_of_mem_ruleViolations ih hv hr

/-- **Every violation points at a place of the value.** Names and indices lead to it, the locator is
the root further by these steps and is read back as the ones that are not empty, the pointer is read
back as well, and what the violation says is to blame is at this place. -/
theorem violation_points_at_place (env : Environment) (n : Node) {v : Json} (hv : v.Indexable)
    {r : Violation} (hr : r ∈ env.violations Locator.root n v) :
    ∃ steps w, v.Reaches steps w ∧ r.locator = extendAll Locator.root steps ∧
      Locator.parse r.locator = .ok (steps.filter fun s => ¬ s.IsEmpty) ∧
      Locator.parse r.pointer =
        .ok ((steps ++ [Segment.key r.field]).filter fun s => ¬ s.IsEmpty) ∧
      r.Blames w := by
  obtain ⟨steps, w, hs, hl, hb⟩ := env.pointsInto n _ v hv r hr
  have hf : ∀ s ∈ steps ++ [.key r.field], s.Fits := by
    rw [List.forall_mem_append, List.forall_mem_singleton]
    exact ⟨hs.fits hv, trivial⟩
  have hp : r.pointer = extendAll Locator.root (steps ++ [.key r.field]) := by
    rw [Violation.pointer, hl, Locator.extendAll_append]
    rfl
  refine ⟨steps, w, hs, hl, ?_, ?_, hb⟩
  · rw [hl, Locator.parse_extendAll_root (hs.fits hv)]
  · rw [hp, Locator.parse_extendAll_root hf]

/-- Lists of truth values in objects, under a name with a quote and the empty name. -/
def nestedNode : Node :=
  .mk false [] (.object [("it's", .mk false [] (.object [("", .mk false []
    (.array (.single (.mk false [] .boolean)) none none))] .forbidden none))] .forbidden none)

/-- A number where a truth value is asked for. -/
def nestedValue : Json :=
  .object [("it's", .object [("", .array [.bool true, .number (.integer 1 (by decide))])])]

/-- What is wrong with the number. -/
def nestedViolation : Violation :=
  ⟨"$['it\\'s'][1]", "", "must be of type [boolean]", .string "number"⟩

theorem indexable_nestedValue : nestedValue.Indexable := by
  simp [nestedValue, indexLimit]

theorem nestedViolation_points_at_place :
    nestedValue.Indexable ∧
      nestedViolation ∈ violations ⟨.empty, .empty⟩ Locator.root nestedNode nestedValue ∧
      ∃ steps w, nestedValue.Reaches steps w ∧
        nestedViolation.locator = extendAll Locator.root steps ∧
        Locator.parse nestedViolation.locator = .ok (steps.filter fun s => ¬ s.IsEmpty) ∧
        Locator.parse nestedViolation.pointer =
          .ok ((steps ++ [Segment.key nestedViolation.field]).filter fun s => ¬ s.IsEmpty) ∧
        nestedViolation.Blames w := by
  have h : violations ⟨.empty, .empty⟩ Locator.root nestedNode nestedValue = [nestedViolation] :=
    rfl
  have hr : nestedViolation ∈ violations ⟨.empty, .empty⟩ Locator.root nestedNode nestedValue :=
    h ▸ List.mem_singleton_self _
  exact ⟨indexable_nestedValue, hr, violation_points_at_place _ _ indexable_nestedValue hr⟩

end Environment

end ShapeCheck
