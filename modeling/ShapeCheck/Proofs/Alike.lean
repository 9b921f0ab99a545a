import ShapeCheck.Proofs.Reordering
import ShapeCheck.Proofs.Walk

/-!
# Judging values in another order of members

* `Customs.IgnoresOrder`: custom validations answer alike when members stand in another order;
* `Node.Alike`: nodes that report the same, up to order, of values that are equal up to order;
* `Rules.Alike`, `Properties.Alike`, `Additional.Alike`, `Items.Alike`: the same for the parts of a
  node.

Parts are shown to be alike from the parts below them being alike, so that whatever builds nodes can
be followed part by part.
-/

namespace ShapeCheck

open Json (Members)

/-- Custom validations give equal answers when the members of the node's keys or of the value, at
whatever depth, stand in another order. -/
def Customs.IgnoresOrder (customs : Customs) : Prop :=
  ∀ name f, (name, f) ∈ customs.entries →
    ∀ source source' : Members, Json.Distinct (.object source) →
      Json.Equiv (.object source) (.object source') →
        ∀ v w : Json, v.Distinct → v.Equiv w → f source v = f source' w

/-! ### Alike -/

/-- The rules are of one kind and report the same, up to order, of values that are equal up to the
order of members. -/
structure Rules.Alike (r s : Rules) : Prop where
  kind : r.kind = s.kind
  violations : ∀ env : Environment, env.customs.IgnoresOrder → ∀ loc (v w : Json), v.Distinct →
    v.Equiv w → Report.Equiv (env.ruleViolations loc r v) (env.ruleViolations loc s w)

/-- The nodes report the same, up to order, of values that are equal up to the order of members. -/
structure Node.Alike (m n : Node) : Prop where
  required : m.required = n.required
  violations : ∀ env : Environment, env.customs.IgnoresOrder → ∀ loc (v w : Json), v.Distinct →
    v.Equiv w → Report.Equiv (env.violations loc m v) (env.violations loc n w)

/-- The declared members are alike, in whatever order they are declared, and none is declared
twice. -/
structure Properties.Alike (ps qs : List (String × Node)) : Prop where
  nodup : (ps.map Prod.fst).Nodup
  nodes : Reordered (Named Node.Alike) ps qs

/-- The same for what becomes of members that are not declared. -/
def Additional.Alike (a b : Additional) : Prop :=
  ∀ env : Environment, env.customs.IgnoresOrder → ∀ loc name (v w : Json), v.Distinct → v.Equiv w →
    Report.Equiv (env.additionalViolations loc a name v) (env.additionalViolations loc b name w)

/-- The same for what is asked of elements. -/
def Items.Alike (a b : Items) : Prop :=
  ∀ env : Environment, env.customs.IgnoresOrder → ∀ loc (v w : Json), v.Distinct → v.Equiv w →
    Report.Equiv (env.itemViolations loc a v) (env.itemViolations loc b w)

theorem Properties.Alike.nil : Properties.Alike [] [] := ⟨List.nodup_nil, .of_forall₂ .nil⟩

/-! ### Nodes -/

theorem Customs.messages_eq {customs : Customs} (hc : customs.IgnoresOrder)
    {source source' : Members} (hd : Json.Distinct (.object source)) (hs : Json.Equiv (.object source) (.object source'))
    {v w : Json} (hv : v.Distinct) (h : v.Equiv w) :
    customs.messages source v = customs.messages source' w := by
  refine List.filterMap_congr fun entry hm => ?_
  obtain ⟨name, f⟩ := entry
  simp only [message?, hs.lookup_isSome_eq hd, hc name f hm source source' hd hs v w hv h]

theorem Node.alike_mk {required : Bool} {source source' : Members} {r s : Rules}
    (hd : Json.Distinct (.object source)) (hs : Json.Equiv (.object source) (.object source'))
    (h : r.Alike s) : Node.Alike (.mk required source r) (.mk required source' s) := by
  refine ⟨rfl, fun env hc loc v w hv hvw => ?_⟩
  have hr : Node.RefusesNull (.mk required source r) v ↔
      Node.RefusesNull (.mk required source' s) w := by
    rw [RefusesNull, RefusesNull, hvw.eq_null_iff, isNullable, isNullable, kind, kind, rules, rules,
      h.kind]
  by_cases hn : Node.RefusesNull (.mk required source r) v
  · rw [env.violations_of_refusesNull loc hn, env.violations_of_refusesNull loc (hr.1 hn)]
    exact .refl _
  · rw [env.violations_of_not_refusesNull loc hn,
      env.violations_of_not_refusesNull loc (mt hr.2 hn)]
    refine .append ?_ (h.violations env hc loc v w hv hvw)
    -- the same messages, each of them about a value that may be in another order
    rw [Environment.customViolations, Environment.customViolations, Node.source, Node.source,
      Customs.messages_eq hc hd hs hv hvw]
    refine .of_forall₂ (List.forall₂_map_left_iff.2 (List.forall₂_map_right_iff.2 ?_))
    exact List.forall₂_same.2 fun message _ => ⟨rfl, rfl, rfl, hvw⟩

/-! ### Leaves -/

/-- Rules without nodes are given objects and lists only to refuse them, whatever their order. -/
theorem Rules.Alike.leaf {r : Rules} (ho : r.kind ≠ .object) (ha : r.kind ≠ .array) :
    r.Alike r := by
  refine ⟨rfl, fun env _ loc v w _ h => ?_⟩
  cases r with
  | object => exact absurd rfl ho
  | array => exact absurd rfl ha
  | _ => cases h <;> exact .refl _

/-! ### Members that are not declared -/

theorem Additional.Alike.allowed : Additional.Alike .allowed .allowed :=
  fun _ _ _ _ _ _ _ _ => .refl _

theorem Additional.Alike.forbidden : Additional.Alike .forbidden .forbidden :=
  fun _ _ _ _ _ _ _ hvw => .single _ _ _ hvw

theorem Additional.Alike.schema {m n : Node} (h : m.Alike n) :
    Additional.Alike (.schema m) (.schema n) := by
  intro env hc loc name v w hv hvw
  have hr := (h.violations env hc (Locator.withKey loc name) v w hv hvw).eq_nil_iff
  rw [env.additionalViolations_schema, env.additionalViolations_schema]
  simp only [hr]
  split
  · exact .refl _
  · exact .single _ _ _ hvw

/-! ### Elements -/

theorem Items.Alike.free : Items.Alike .free .free := fun _ _ _ _ _ _ _ => .refl _

theorem Items.Alike.single {m n : Node} (h : m.Alike n) : Items.Alike (.single m) (.single n) :=
  h.violations

/-- The reports of alternatives, one by one. -/
theorem forall₂_violations {nodes nodes' : List Node} (h : List.Forall₂ Node.Alike nodes nodes')
    {env : Environment} (hc : env.customs.IgnoresOrder) (loc : String) {v w : Json}
    (hv : v.Distinct) (hvw : v.Equiv w) :
    List.Forall₂ Report.Equiv (nodes.map fun n => env.violations loc n v)
      (nodes'.map fun n => env.violations loc n w) := by
  refine List.forall₂_map_left_iff.2 (List.forall₂_map_right_iff.2 (h.imp fun m n hmn => ?_))
  exact hmn.violations env hc loc v w hv hvw

theorem any_isEmpty_eq {reports reports' : List Report}
    (h : List.Forall₂ Report.Equiv reports reports') :
    reports.any List.isEmpty = reports'.any List.isEmpty := by
  induction h with
  | nil => rfl
  | cons hr _ ih => rw [List.any_cons, List.any_cons, ih, hr.isEmpty_eq]

theorem Items.Alike.alternatives {nodes nodes' : List Node}
    (h : List.Forall₂ Node.Alike nodes nodes') :
    Items.Alike (.alternatives nodes) (.alternatives nodes') := by
  intro env hc loc v w hv hvw
  have ha := any_isEmpty_eq (forall₂_violations h hc loc hv hvw)
  rw [Environment.itemViolations, Environment.itemViolations, env.reports_eq_map,
    env.reports_eq_map, ← List.not_any_eq_all_not, ← List.not_any_eq_all_not, ha, violationIf,
    violationIf]
  split
  · exact .single _ _ _ hvw
  · exact .refl _

theorem zipIdx_flatMap_reordered {vs ws : List Json} (h : List.Forall₂ Json.Equiv vs ws)
    (hd : ∀ v ∈ vs, v.Distinct) {f g : Json × Nat → Report}
    (hfg : ∀ v w i, v.Distinct → v.Equiv w → Report.Equiv (f (v, i)) (g (w, i))) (k : Nat) :
    Report.Equiv ((vs.zipIdx k).flatMap f) ((ws.zipIdx k).flatMap g) := by
  induction h generalizing k with
  | nil => exact .refl _
  | cons hvw _ ih =>
    rw [List.zipIdx_cons, List.zipIdx_cons, List.flatMap_cons, List.flatMap_cons]
    exact .append (hfg _ _ k (hd _ List.mem_cons_self) hvw)
      (ih (fun v hv => hd v (List.mem_cons_of_mem _ hv)) (k + 1))

theorem Rules.Alike.array {items items' : Items} (h : items.Alike items')
    (least most : Option Nat) :
    Rules.Alike (.array items least most) (.array items' least most) := by
  refine ⟨rfl, fun env hc loc v w hv hvw => ?_⟩
  cases hvw with
  | @array vs ws hvs =>
    rw [env.ruleViolations_array, env.ruleViolations_array, hvs.length_eq]
    have hd : ∀ x ∈ vs, x.Distinct := fun x hx => hv.of_mem_children hx
    refine .append (Report.Equiv.refl _) (zipIdx_flatMap_reordered hvs hd ?_ 0)
    exact fun x y i hx hxy => h env hc _ x y hx hxy
  | _ => exact .refl _

/-! ### Members -/

/-- Alternatives are silent together, and otherwise all that they report is kept. -/
theorem firstClean_reordered {reports reports' : List Report}
    (h : List.Forall₂ Report.Equiv reports reports') :
    Report.Equiv (firstClean reports) (firstClean reports') := by
  rw [firstClean, firstClean, any_isEmpty_eq h]
  split
  · exact .refl _
  · rw [← List.flatMap_id, ← List.flatMap_id]
    exact Reordered.flatMap_of_forall₂ h fun _ _ hr => hr

theorem missingViolations_reordered {ps qs : List (String × Node)} (h : Properties.Alike ps qs)
    {ms ns : Members} (hm : Json.Equiv (.object ms) (.object ns)) (hd : Json.Distinct (.object ms))
    (loc : String) :
    Report.Equiv (missingViolations ps ms loc) (missingViolations qs ns loc) := by
  refine h.nodes.filterMap ?_
  rintro _ _ ⟨hn⟩
  simp only [hn.required, ← Option.not_isSome, hm.lookup_isSome_eq hd]
  split
  · exact .some (.refl _)
  · exact .none

theorem memberViolations_reordered {ps qs : List (String × Node)} (hp : Properties.Alike ps qs)
    {a b : Additional} (ha : a.Alike b) {env : Environment} (hc : env.customs.IgnoresOrder)
    (loc name : String) {v w : Json} (hv : v.Distinct) (hvw : v.Equiv w) :
    Report.Equiv (env.memberViolations loc ps a name v) (env.memberViolations loc qs b name w) := by
  have hl := hp.nodes.lookup hp.nodup name
  rw [Environment.memberViolations, Environment.memberViolations]
  generalize ps.lookup name = o, qs.lookup name = o' at hl ⊢
  cases hl with
  | none => exact ha env hc loc name v w hv hvw
  | some h => exact h.violations env hc _ v w hv hvw

theorem Rules.Alike.object {ps qs : List (String × Node)} (hp : Properties.Alike ps qs)
    {a b : Additional} (ha : a.Alike b) {oneOf oneOf' : Option (List Node)}
    (ho : Option.Rel (List.Forall₂ Node.Alike) oneOf oneOf') :
    Rules.Alike (.object ps a oneOf) (.object qs b oneOf') := by
  refine ⟨rfl, fun env hc loc v w hv hvw => ?_⟩
  cases hvw with
  | @object ms ls ns order h =>
    have hm : Json.Equiv (.object ms) (.object ns) := .object order h
    cases ho with
    | none =>
      rw [env.ruleViolations_members, env.ruleViolations_members]
      refine .append (missingViolations_reordered hp hm hv loc) ?_
      -- members stand in the order of the value, and only of those below is it known that they
      -- repeat no name
      have hd : Reordered (fun m n => m.2.Distinct ∧ Named Json.Equiv m n) ms ns :=
        (Json.equiv_object_iff.1 hm).imp_of_mem fun m hmem n hmn => ⟨hv.of_member hmem, hmn⟩
      refine hd.flatMap ?_
      rintro _ _ ⟨hx, ⟨hxy⟩⟩
      exact memberViolations_reordered hp ha hc loc _ hx hxy
    | some hs =>
      rw [env.ruleViolations_oneOf, env.ruleViolations_oneOf]
      exact firstClean_reordered (forall₂_violations hs hc loc hv hm)
  | _ => exact .refl _

end ShapeCheck
