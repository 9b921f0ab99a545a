import ShapeCheck.Proofs.Alike
import ShapeCheck.Proofs.Grammar

/-!
# The order of members is immaterial

Schema documents and values that are equal up to the order of members, at whatever depth, are
reported on alike.

* `Checked.Alike`: checks that report the same, up to order, and give related values;
* `Checker.Agree`: members that give equivalent values for each key;
* `Checker.node_alike`: documents that are equal up to the order of members are compiled alike;
* `Checker.member_order_immaterial`: nor does it matter for values.
-/

namespace ShapeCheck

open Json (Members)

/-! ### Checks -/

/-- The checks report the same, up to order, and the values that they give are related. -/
structure Checked.Alike {α β : Type} (R : α → β → Prop) (c : Checked α) (d : Checked β) : Prop where
  errors : Report.Equiv c.errors d.errors
  value : ∀ a b, c = .ok a → d = .ok b → R a b

namespace Checked.Alike

variable {α β γ δ : Type} {R : α → β → Prop} {S : γ → δ → Prop} {c : Checked α} {d : Checked β}
  {c' : Checked γ} {d' : Checked δ}

theorem ok {a : α} {b : β} (h : R a b) : Alike R (.ok a) (.ok b) :=
  ⟨.refl _, by rintro _ _ ⟨⟩ ⟨⟩; exact h⟩

theorem fail (loc field message : String) {v w : Json} (h : v.Equiv w) :
    Alike R (.fail loc field message v) (.fail loc field message w) :=
  ⟨.single _ _ _ h, fun a _ ha _ => absurd ha (fail_ne_ok _ _ _ _ a)⟩

theorem ofReport {r s : Report} (h : Report.Equiv r s) {a : α} {b : β} (hab : R a b) :
    Alike R (.ofReport a r) (.ofReport b s) := by
  refine ⟨?_, fun a' b' ha hb => ?_⟩
  · rw [errors_ofReport, errors_ofReport]
    exact h
  · obtain ⟨-, rfl⟩ := ofReport_eq_ok_iff.1 ha
    obtain ⟨-, rfl⟩ := ofReport_eq_ok_iff.1 hb
    exact hab

theorem map (h : Alike R c d) {f : α → γ} {g : β → δ} (hfg : ∀ a b, R a b → S (f a) (g b)) :
    Alike S (c.map f) (d.map g) := by
  refine ⟨?_, fun a' b' ha hb => ?_⟩
  · rw [errors_map, errors_map]
    exact h.errors
  · obtain ⟨a, hc, rfl⟩ := map_eq_ok_iff.1 ha
    obtain ⟨b, hd, rfl⟩ := map_eq_ok_iff.1 hb
    exact hfg a b (h.value a b hc hd)

theorem both (h : Alike R c d) (h' : Alike S c' d') :
    Alike (fun p q => R p.1 q.1 ∧ S p.2 q.2) (c.both c') (d.both d') := by
  refine ⟨?_, fun p q hp hq => ?_⟩
  · rw [errors_both, errors_both]
    exact .append h.errors h'.errors
  · obtain ⟨ha, ha'⟩ := both_eq_ok_iff.1 hp
    obtain ⟨hb, hb'⟩ := both_eq_ok_iff.1 hq
    exact ⟨h.value _ _ ha hb, h'.value _ _ ha' hb'⟩

/-- Both give a value or neither does. -/
theorem value?_rel (h : Alike R c d) : Option.Rel R c.value? d.value? := by
  have hn := h.errors.eq_nil_iff
  cases c with
  | ok a =>
    cases d with
    | ok b => exact .some (h.value a b rfl rfl)
    | bad => exact absurd (hn.1 rfl) (List.cons_ne_nil _ _)
  | bad =>
    cases d with
    | ok b => exact absurd (hn.2 rfl) (List.cons_ne_nil _ _)
    | bad => exact .none

end Checked.Alike

/-- The checks report the same, up to order, and give the same. -/
abbrev Checked.Same {α : Type} (c d : Checked α) : Prop := Checked.Alike Eq c d

namespace Checked.Same

variable {α β : Type} {c d : Checked α} {c' d' : Checked β}

theorem map (h : c.Same d) (f : α → β) : (c.map f).Same (d.map f) :=
  Alike.map h fun _ _ => congrArg f

theorem both (h : c.Same d) (h' : c'.Same d') : (c.both c').Same (d.both d') :=
  ⟨(Alike.both h h').errors, fun p q hp hq =>
    Prod.ext ((Alike.both h h').value p q hp hq).1 ((Alike.both h h').value p q hp hq).2⟩

end Checked.Same

/-! ### Keywords -/

namespace Checker

/-- The members give equivalent values for each key. -/
def Agree (ms ns : Members) : Prop := ∀ key, Option.Rel Json.Equiv (ms.lookup key) (ns.lookup key)

section Keywords

variable {c : Checker} {loc key : String} {ms ns : Members} {integral : Bool}

theorem number?_eq {v w : Json} (h : v.Equiv w) : number? integral v = number? integral w := by
  rw [number?, number?, h.toBinary64?_eq]

theorem flag_same (h : Agree ms ns) : (flag loc key ms).Same (flag loc key ns) := by
  have hl := h key
  unfold flag
  generalize ms.lookup key = o, ns.lookup key = p at hl ⊢
  cases hl with
  | none => exact .ok rfl
  | some hv =>
    cases hv with
    | bool b => exact .ok rfl
    | _ => exact .fail _ _ _ (.refl _)

theorem count_same (h : Agree ms ns) : (count loc key ms).Same (count loc key ns) := by
  have hl := h key
  unfold count
  generalize ms.lookup key = o, ns.lookup key = p at hl ⊢
  cases hl with
  | none => exact .ok rfl
  | some hv =>
    simp only [hv.toBinary64?_eq]
    split
    · split
      · exact .ok rfl
      · exact .fail _ _ _ hv
    · exact .fail _ _ _ hv

theorem bound_same {exclusiveKey : String} (h : Agree ms ns) :
    (bound integral loc key exclusiveKey ms).Same (bound integral loc key exclusiveKey ns) := by
  have hl := h key
  unfold bound
  generalize ms.lookup key = o, ns.lookup key = p at hl ⊢
  cases hl with
  | none => exact .ok rfl
  | some hv =>
    simp only [number?_eq hv]
    split
    · exact (flag_same h).map _
    · exact .fail _ _ _ hv

/-- The element is read the same from equivalent values. -/
theorem enumElements_same {α : Type} {element : Json → Option α}
    (he : ∀ v w : Json, v.Equiv w → element v = element w) {message base : String}
    {vs ws : List Json} (h : List.Forall₂ Json.Equiv vs ws) (i : Nat) :
    (enumElements element message base i vs).Same (enumElements element message base i ws) := by
  induction h generalizing i with
  | nil => exact .ok rfl
  | @cons v w vs ws hv _ ih =>
    rw [enumElements, enumElements, he v w hv]
    refine Checked.Same.map (Checked.Same.both ?_ (ih (i + 1))) _
    cases element w with
    | some a => exact .ok rfl
    | none => exact .fail _ _ _ hv

theorem enumeration_same {α : Type} {element : Json → Option α}
    (he : ∀ v w : Json, v.Equiv w → element v = element w) {message : String}
    (h : Agree ms ns) :
    (enumeration element message loc ms).Same (enumeration element message loc ns) := by
  have hl := h "enum"
  unfold enumeration
  generalize ms.lookup "enum" = o, ns.lookup "enum" = p at hl ⊢
  cases hl with
  | none => exact .ok rfl
  | some hv =>
    cases hv with
    | array hvs => exact (enumElements_same he hvs 0).map some
    | _ => exact .fail _ _ _ (.refl _)

theorem pattern_same (h : Agree ms ns) : (pattern loc ms).Same (pattern loc ns) := by
  have hl := h "pattern"
  unfold pattern
  generalize ms.lookup "pattern" = o, ns.lookup "pattern" = p at hl ⊢
  cases hl with
  | none => exact .ok rfl
  | some hv =>
    cases hv with
    | string source =>
      dsimp only
      split
      · exact .ok rfl
      · exact .fail _ _ _ (.refl _)
    | array hvs => exact .fail _ _ _ (.array hvs)
    | object order hms => exact .fail _ _ _ (.object order hms)
    | _ => exact .fail _ _ _ (.refl _)

theorem format_same (h : Agree ms ns) : (c.format loc ms).Same (c.format loc ns) := by
  have hl := h "format"
  unfold format
  generalize ms.lookup "format" = o, ns.lookup "format" = p at hl ⊢
  cases hl with
  | none => exact .ok rfl
  | some hv =>
    simp only [hv.text?_eq]
    split
    · exact .ok rfl
    · exact .fail _ _ _ hv

theorem textRules_same (h : Agree ms ns) : (c.textRules loc ms).Same (c.textRules loc ns) :=
  (((count_same h).both (count_same h)).both
    (((pattern_same h).both (format_same h)).both
      (enumeration_same (fun _ _ hv => hv.text?_eq) h))).map _

theorem numberRules_same (h : Agree ms ns) :
    (numberRules integral loc ms).Same (numberRules integral loc ns) :=
  (((bound_same h).both (bound_same h)).both
    (enumeration_same (fun _ _ hv => number?_eq hv) h)).map _

theorem itemCounts_same (h : Agree ms ns) : (itemCounts loc ms).Same (itemCounts loc ns) :=
  (count_same h).both (count_same h)

theorem unsupported_reordered (h : Agree ms ns) :
    Report.Equiv (c.unsupported loc ms) (c.unsupported loc ns) := by
  unfold unsupported
  split
  · refine Reordered.filterMap (.of_forall₂ (List.forall₂_same.2 fun _ _ => rfl)) ?_
    rintro key _ rfl
    have hl := h key
    generalize ms.lookup key = o, ns.lookup key = p at hl ⊢
    cases hl with
    | none => exact .none
    | some hv => exact .some ⟨rfl, rfl, rfl, hv⟩
  · exact .refl _

end Keywords

/-! ### Documents -/

variable {c : Checker} {loc base : String} {ms ns : Members}

theorem ownKeys_equiv (h : Json.Equiv (.object ms) (.object ns)) :
    Json.Equiv (.object (ownKeys ms)) (.object (ownKeys ns)) := by
  refine Json.equiv_object_iff.2 ((Json.equiv_object_iff.1 h).filter ?_)
  rintro _ _ ⟨-⟩
  rfl

theorem kindRules_alike (h : Agree ms ns) {declared declared' : Json}
    (hd : declared.Equiv declared') {object array object' array' : Unit → Checked Rules}
    (ho : (object ()).Alike Rules.Alike (object' ()))
    (ha : (array ()).Alike Rules.Alike (array' ())) :
    (c.kindRules loc ms declared object array).Alike Rules.Alike
      (c.kindRules loc ns declared' object' array') := by
  unfold kindRules
  rw [hd.text?_eq]
  cases declared'.text?.bind Kind.ofName? with
  | none => exact .fail _ _ _ hd
  | some k =>
    cases k with
    | string => exact Checked.Alike.map (textRules_same h) fun r _ he => he ▸ .leaf nofun nofun
    | number | integer =>
      exact Checked.Alike.map (numberRules_same h) fun r _ he => he ▸ .leaf nofun nofun
    | boolean | null | any => exact .ok (.leaf nofun nofun)
    | object => exact ho
    | array => exact ha

theorem assemble_alike (hd : Json.Distinct (.object ms))
    (h : Json.Equiv (.object ms) (.object ns)) {object array object' array' : Unit → Checked Rules}
    (ho : (object ()).Alike Rules.Alike (object' ()))
    (ha : (array ()).Alike Rules.Alike (array' ())) :
    (c.assemble loc ms object array).Alike Node.Alike (c.assemble loc ns object' array') := by
  have hm : Agree ms ns := h.lookup hd
  have hl := hm "kind"
  unfold assemble
  generalize ms.lookup "kind" = o, ns.lookup "kind" = p at hl ⊢
  cases hl with
  | none => exact .fail _ _ _ (.refl _)
  | some hv =>
    have hs : (Checked.ofReport () (c.unsupported loc ms)).Same
        (.ofReport () (c.unsupported loc ns)) := .ofReport (unsupported_reordered hm) rfl
    have hf : (flag loc "required" ms).Same (flag loc "required" ns) := flag_same hm
    refine Checked.Alike.map (Checked.Alike.both (hf.both hs) (kindRules_alike hm hv ho ha)) ?_
    rintro ⟨⟨required, _⟩, r⟩ ⟨_, s⟩ ⟨rfl, hrs⟩
    exact Node.alike_mk (hd.of_sublist List.filter_sublist) (ownKeys_equiv h) hrs

/-- The documents are compiled alike, at whatever locator. -/
def CompilesAlike (c : Checker) (d d' : Json) : Prop :=
  ∀ loc, (c.node loc d).Alike Node.Alike (c.node loc d')

/-- The document is compiled alike with its members in any other order. -/
def IgnoresOrder (c : Checker) (d : Json) : Prop := ∀ d', d.Equiv d' → c.CompilesAlike d d'

theorem errors_memberNodes_eq :
    (c.memberNodes base ms).errors =
      ms.flatMap fun m => (c.node (Locator.withKey base m.1) m.2).errors := by
  induction ms with
  | nil => rfl
  | cons m rest ih =>
    obtain ⟨name, v⟩ := m
    rw [memberNodes, Checked.errors_map, Checked.errors_both, ih, List.flatMap_cons]

theorem eq_filterMap_of_memberNodes {ps : List (String × Node)}
    (h : c.memberNodes base ms = .ok ps) :
    ps = ms.filterMap fun m => (c.node (Locator.withKey base m.1) m.2).value?.map (m.1, ·) := by
  induction ms generalizing ps with
  | nil =>
    cases h
    rfl
  | cons m rest ih =>
    obtain ⟨name, v⟩ := m
    obtain ⟨⟨n, more⟩, hb, rfl⟩ := Checked.map_eq_ok_iff.1 h
    obtain ⟨hv, hm⟩ := Checked.both_eq_ok_iff.1 hb
    rw [List.filterMap_cons, hv]
    exact congrArg ((name, n) :: ·) (ih hm)

theorem map_fst_of_memberNodes {ps : List (String × Node)} (h : c.memberNodes base ms = .ok ps) :
    ps.map Prod.fst = ms.map Prod.fst := by
  induction ms generalizing ps with
  | nil =>
    cases h
    rfl
  | cons m rest ih =>
    obtain ⟨name, v⟩ := m
    obtain ⟨⟨n, more⟩, hb, rfl⟩ := Checked.map_eq_ok_iff.1 h
    rw [List.map_cons, List.map_cons, ih (Checked.both_eq_ok_iff.1 hb).2]

/-- Declared members, in the order of the document. -/
theorem memberNodes_alike (hd : (ms.map Prod.fst).Nodup)
    (h : Reordered (Named Json.Equiv) ms ns)
    (ih : ∀ name v, (name, v) ∈ ms → c.IgnoresOrder v) :
    (c.memberNodes base ms).Alike Properties.Alike (c.memberNodes base ns) := by
  have hr : Reordered (Named c.CompilesAlike) ms ns := by
    refine h.imp_of_mem ?_
    rintro _ hm _ ⟨hvw⟩
    exact .mk (ih _ _ hm _ hvw)
  -- reports and nodes are gathered entry by entry, so both come in the order of the entries
  refine ⟨?_, fun ps qs hp hq => ⟨?_, ?_⟩⟩
  · rw [errors_memberNodes_eq, errors_memberNodes_eq]
    refine hr.flatMap ?_
    rintro _ _ ⟨hv⟩
    exact (hv _).errors
  · rw [map_fst_of_memberNodes hp]
    exact hd
  · rw [eq_filterMap_of_memberNodes hp, eq_filterMap_of_memberNodes hq]
    refine hr.filterMap ?_
    rintro _ _ ⟨hv⟩
    exact rel_map (hv _).value?_rel fun _ _ => .mk

theorem elementNodes_alike {vs ws : List Json} (h : List.Forall₂ Json.Equiv vs ws)
    (ih : ∀ v ∈ vs, c.IgnoresOrder v) (i : Nat) :
    (c.elementNodes base i vs).Alike (List.Forall₂ Node.Alike) (c.elementNodes base i ws) := by
  have hr : List.Forall₂ c.CompilesAlike vs ws := forall₂_imp_of_mem h ih
  clear h ih
  induction hr generalizing i with
  | nil => exact .ok .nil
  | cons hv _ hrest =>
    rw [elementNodes, elementNodes]
    exact ((hv _).both (hrest (i + 1))).map fun _ _ hn => .cons hn.1 hn.2

section Below

/-! The keywords that hold nodes, given that the documents below are compiled alike. -/

variable {v w : Json}

theorem additionalOf_alike (hvw : v.Equiv w) (ih : c.IgnoresOrder v) :
    (c.additionalOf loc v).Alike Additional.Alike (c.additionalOf loc w) := by
  unfold additionalOf
  rw [hvw.bool?_eq]
  split
  · exact .ok .forbidden
  · exact .ok .allowed
  · exact (ih w hvw _).map fun _ _ => .schema

theorem propertiesOf_alike (hd : v.Distinct) (hvw : v.Equiv w)
    (ih : ∀ x ∈ v.children, c.IgnoresOrder x) :
    (c.propertiesOf loc v).Alike Properties.Alike (c.propertiesOf loc w) := by
  cases hvw with
  | object order h =>
    exact memberNodes_alike hd.names_nodup ⟨_, order, h⟩ fun name x hm =>
      ih x (Json.mem_children_of_mem hm)
  | _ => exact .fail _ _ _ (.refl _)

theorem oneOfOf_alike (hvw : v.Equiv w) (ih : ∀ x ∈ v.children, c.IgnoresOrder x) :
    (c.oneOfOf loc v).Alike (Option.Rel (List.Forall₂ Node.Alike)) (c.oneOfOf loc w) := by
  cases hvw with
  | array h => exact (elementNodes_alike h ih 0).map fun _ _ => .some
  | _ => exact .fail _ _ _ (.refl _)

theorem itemsOf_alike (hvw : v.Equiv w) (ih : c.IgnoresOrder v)
    (ihc : ∀ x ∈ v.children, c.IgnoresOrder x) :
    (c.itemsOf loc v).Alike Items.Alike (c.itemsOf loc w) := by
  -- the cases below no longer know that the values are equivalent
  have hn := ih w hvw (Locator.withKey loc "items")
  cases hvw with
  | array h => exact (elementNodes_alike h ihc 0).map fun _ _ => .alternatives
  | _ => exact Checked.Alike.map (S := Items.Alike) hn fun _ _ => .single

/-- A keyword that holds nodes. -/
theorem elim_alike {α β : Type} {R : α → β → Prop} {absent : α} {absent' : β}
    {read : Json → Checked α} {read' : Json → Checked β} {key : String} (h : Agree ms ns)
    (ha : R absent absent')
    (hr : ∀ v w, ms.lookup key = some v → v.Equiv w → (read v).Alike R (read' w)) :
    ((ms.lookup key).elim (.ok absent) read).Alike R
      ((ns.lookup key).elim (.ok absent') read') := by
  have hl := h key
  generalize ms.lookup key = o, ns.lookup key = p at hl hr ⊢
  cases hl with
  | none => exact .ok ha
  | some hv => exact hr _ _ rfl hv

end Below

theorem distinct_shorthand (kind : String) : Json.Distinct (.object (shorthand kind)) := by
  simp [shorthand]

theorem ignoresOrder_of_children {d : Json} (hd : d.Distinct)
    (ih : ∀ v ∈ d.children, c.IgnoresOrder v ∧ ∀ w ∈ v.children, c.IgnoresOrder w) :
    c.IgnoresOrder d := by
  intro d' h loc
  cases h with
  | string s =>
    rw [node]
    refine assemble_alike (distinct_shorthand s) (.refl _) (.ok ?_) (.ok ?_)
    · exact .object .nil .forbidden .none
    · exact .array .free none none
  | @object ms ls ns order h =>
    have he : Json.Equiv (.object ms) (.object ns) := .object order h
    have hm : Agree ms ns := he.lookup hd
    have hv {key : String} {v : Json} (hl : ms.lookup key = some v) :=
      ih v (Json.mem_children_of_lookup hl)
    rw [node, node]
    refine assemble_alike hd he ?_ ?_
    · have ha : (c.additional loc ms).Alike Additional.Alike (c.additional loc ns) := by
        rw [additional_eq, additional_eq]
        exact elim_alike hm .forbidden fun v w hl hvw => additionalOf_alike hvw (hv hl).1
      have hp : (c.properties loc ms).Alike Properties.Alike (c.properties loc ns) := by
        rw [properties_eq, properties_eq]
        exact elim_alike hm .nil fun v w hl hvw =>
          propertiesOf_alike (hd.of_mem_children (Json.mem_children_of_lookup hl)) hvw (hv hl).2
      have ho : (c.oneOf loc ms).Alike (Option.Rel (List.Forall₂ Node.Alike)) (c.oneOf loc ns) := by
        rw [oneOf_eq, oneOf_eq]
        exact elim_alike hm .none fun v w hl hvw => oneOfOf_alike hvw (hv hl).2
      refine (ha.both (hp.both ho)).map ?_
      rintro ⟨a, ps, os⟩ ⟨b, qs, os'⟩ ⟨hab, hpq, hos⟩
      exact .object hpq hab hos
    · have hi : (c.items loc ms).Alike Items.Alike (c.items loc ns) := by
        rw [items_eq, items_eq]
        exact elim_alike hm .free fun v w hl hvw => itemsOf_alike hvw (hv hl).1 (hv hl).2
      refine (hi.both (itemCounts_same hm)).map ?_
      rintro ⟨items, least, most⟩ ⟨items', _, _⟩ ⟨hii, ⟨⟩⟩
      exact .array hii least most
  | _ => exact .fail _ _ _ (.refl _)

/-- Documents that are equal up to the order of members are compiled alike, at whatever locator. -/
theorem ignoresOrder (c : Checker) {d : Json} (hd : d.Distinct) : c.IgnoresOrder d := by
  -- two steps at a time: most keywords hold documents in a list or an object
  induction d using Json.inductionOnTwo with
  | step d ih =>
    refine ignoresOrder_of_children hd fun v hv => ⟨(ih v hv).1 (hd.of_mem_children hv), ?_⟩
    exact fun w hw => (ih v hv).2 w hw ((hd.of_mem_children hv).of_mem_children hw)

/-- **The order of members is immaterial.**  Documents that are equal up to the order of members are
reported on alike, up to order, so that both are well formed or neither is; and if they are, values
that are equal up to the order of members are reported on alike, up to order, as long as custom
validations do not look at the order either. -/
theorem member_order_immaterial (c : Checker) {d d' : Json} (hd : d.Distinct) (h : d.Equiv d') :
    Report.Equiv (c.check d).errors (c.check d').errors ∧
      ((∃ s, Schema.compile c d = .ok s) ↔ ∃ s, Schema.compile c d' = .ok s) ∧
      ∀ s s', Schema.compile c d = .ok s → Schema.compile c d' = .ok s' →
        ∀ env : Environment, env.customs.IgnoresOrder → ∀ v v' : Json, v.Distinct → v.Equiv v' →
          Report.Equiv (env.validate s v) (env.validate s' v') ∧
            (env.validate s v = [] ↔ env.validate s' v' = []) := by
  have hc : (c.check d).Alike Node.Alike (c.check d') := c.ignoresOrder hd d' h Locator.root
  refine ⟨hc.errors, ?_, fun s s' hs hs' env he v v' hv hvv' => ?_⟩
  · rw [← Checked.errors_eq_nil_iff, ← Checked.errors_eq_nil_iff, Schema.compile, Schema.compile,
      Checked.errors_map, Checked.errors_map]
    exact hc.errors.eq_nil_iff
  · obtain ⟨n, hn, rfl⟩ := Checked.map_eq_ok_iff.1 hs
    obtain ⟨n', hn', rfl⟩ := Checked.map_eq_ok_iff.1 hs'
    have hr := (hc.value n n' hn hn').violations env he Locator.root v v' hv hvv'
    exact ⟨hr, hr.eq_nil_iff⟩

/-- A document with a key for a custom validation and two properties. -/
def writtenDocument : Json :=
  .object [("kind", .string "object"), ("greeted", .bool true),
    ("properties", .object [("name", .string "string"),
      ("age", .object [("kind", .string "integer"), ("required", .bool true)])])]

/-- The same document from the last key to the first. -/
def reversedDocument : Json :=
  .object [("properties", .object [
      ("age", .object [("required", .bool true), ("kind", .string "integer")]),
      ("name", .string "string")]),
    ("greeted", .bool true), ("kind", .string "object")]

/-- A value without an age, with a name that is none and a member too many. -/
def writtenValue : Json :=
  .object [("name", .null), ("pet", .object [("name", .string "Tom"), ("tame", .bool false)])]

/-- The same value from the last member to the first. -/
def reversedValue : Json :=
  .object [("pet", .object [("tame", .bool false), ("name", .string "Tom")]), ("name", .null)]

/-- A custom validation that looks at the type of a value alone. -/
def greeting : Customs :=
  Table.insert .empty "greeted" fun _ v => some ("no greeting from [" ++ v.typeName ++ "]")

theorem writtenDocument_equiv : writtenDocument.Equiv reversedDocument := by
  refine .object (List.reverse_perm _).symm ?_
  refine .cons (.mk ?_) (.cons (.mk (.refl _)) (.cons (.mk (.refl _)) .nil))
  refine .object (List.reverse_perm _).symm ?_
  refine .cons (.mk ?_) (.cons (.mk (.refl _)) .nil)
  exact .object (List.reverse_perm _).symm (.cons (.mk (.refl _)) (.cons (.mk (.refl _)) .nil))

theorem writtenValue_equiv : writtenValue.Equiv reversedValue := by
  refine .object (List.reverse_perm _).symm ?_
  refine .cons (.mk ?_) (.cons (.mk (.refl _)) .nil)
  exact .object (List.reverse_perm _).symm (.cons (.mk (.refl _)) (.cons (.mk (.refl _)) .nil))

theorem ignoresOrder_greeting : greeting.IgnoresOrder := by
  intro name f hm source source' _ _ v w _ h
  obtain ⟨-, rfl⟩ := Prod.mk.inj (List.mem_singleton.1 hm)
  simp only [h.typeName_eq]

theorem reversedDocument_immaterial :
    ∃ s s', Schema.compile ⟨.empty, true⟩ writtenDocument = .ok s ∧
      Schema.compile ⟨.empty, true⟩ reversedDocument = .ok s' ∧
      Report.Equiv (Environment.validate ⟨.empty, greeting⟩ s writtenValue)
        (Environment.validate ⟨.empty, greeting⟩ s' reversedValue) ∧
      (Environment.validate ⟨.empty, greeting⟩ s writtenValue).length = 4 := by
  have hd : writtenDocument.Distinct := by simp [writtenDocument]
  have hv : writtenValue.Distinct := by simp [writtenValue]
  have h := member_order_immaterial ⟨.empty, true⟩ hd writtenDocument_equiv
  refine ⟨_, _, rfl, rfl, ?_, rfl⟩
  exact (h.2.2 _ _ rfl rfl ⟨.empty, greeting⟩ ignoresOrder_greeting _ _ hv writtenValue_equiv).1

end Checker

end ShapeCheck
