import ShapeCheck.Proofs.MemberOrder
import ShapeCheck.Proofs.Subdocument

/-!
# Findings

What the checker reports about a document is what it finds there itself and what it reports about
the documents directly below, in a fixed order.

* `IsDemand`: a message that says what must be the case;
* `Checker.Complaint`: what a violation found at a document says of it;
* `Checker.Finding`, `Checker.findings`: what the checker comes to at a document: demands that are
  not met, keywords to be refused, and documents below;
* `Checker.errors_node_eq`: the report about a document is that of its findings, in order;
* `Checker.complaint_of_mem_findings`: demands that are not met are complaints;
* `Checker.filter_findings`: the other findings are the keywords and the subdocuments, in order.
-/

namespace ShapeCheck

open Json (Members Place)
open Locator (extendAll)

/-! ### Messages -/

/-- The message says what must be the case. -/
def IsDemand (message : String) : Prop := ∃ demand, message = "must " ++ demand

theorem IsDemand.append {message : String} (h : IsDemand message) (rest : String) :
    IsDemand (message ++ rest) := by
  obtain ⟨demand, rfl⟩ := h
  exact ⟨demand ++ rest, String.append_assoc⟩

theorem isDemand_wholeMessage : IsDemand Checker.wholeMessage :=
  ⟨"be of type [number] with no digits", rfl⟩

theorem isDemand_typeMessage (name : String) : IsDemand (Checker.typeMessage name) :=
  (IsDemand.append ⟨"be of type [", rfl⟩ name).append "]"

theorem isDemand_choiceMessage (choices : List String) : IsDemand (Checker.choiceMessage choices) :=
  (IsDemand.append ⟨"be one of [", rfl⟩ _).append "]"

theorem isDemand_numberMessage (integral : Bool) : IsDemand (Checker.numberMessage integral) := by
  cases integral with
  | false => exact isDemand_typeMessage "number"
  | true => exact isDemand_wholeMessage

/-- The message for a keyword that is refused is no demand. -/
theorem not_isDemand_unsupported : ¬ IsDemand "unsupported keyword" := by
  rintro ⟨demand, h⟩
  have hl := congrArg String.toList h
  rw [String.toList_append] at hl
  simp at hl

namespace Checker

/-! ### Complaints -/

/-- What a violation found at a document says of it: that it is no document, that it declares no
kind, something about the value of a key or its type, or something about an element of a list of
allowed values. -/
inductive Complaint (loc : String) (d : Json) : Violation → Prop where
  | whole {message : String} (hm : IsDemand message) :
      Complaint loc d ⟨loc, "", message, .string d.typeName⟩
  | kindless {ms : Members} {message : String} (hd : d = .object ms)
      (hk : ms.lookup "kind" = none) (hm : IsDemand message) :
      Complaint loc d ⟨loc, "", message, .null⟩
  | value {key message : String} {v : Json} (hk : key ≠ "")
      (hv : d.written.lookup key = some v) (hm : IsDemand message) :
      Complaint loc d ⟨loc, key, message, v⟩
  | type {key message : String} {v : Json} (hk : key ≠ "") (hn : key ≠ "kind")
      (hv : d.written.lookup key = some v) (hm : IsDemand message) :
      Complaint loc d ⟨loc, key, message, .string v.typeName⟩
  | choice {vs : List Json} {i : Nat} {message : String} {v : Json}
      (hv : d.written.lookup "enum" = some (.array vs)) (hi : vs[i]? = some v)
      (hm : IsDemand message) :
      Complaint loc d ⟨Locator.withIndex (Locator.withKey loc "enum") i, "", message, v⟩

theorem Complaint.isDemand {loc : String} {d : Json} {r : Violation} (h : Complaint loc d r) :
    IsDemand r.message := by
  cases h with
  | whole hm => exact hm
  | kindless _ _ hm => exact hm
  | value _ _ hm => exact hm
  | type _ _ _ hm => exact hm
  | choice _ _ hm => exact hm

section Keywords

variable {c : Checker} {loc key : String} {d : Json} {r : Violation}

theorem complaint_of_mem_flag (hk : key ≠ "") (hn : key ≠ "kind")
    (h : r ∈ (flag loc key d.written).errors) : Complaint loc d r := by
  unfold flag at h
  split at h
  · cases h
  · cases h
  · rename_i hv
    obtain rfl := List.mem_singleton.1 h
    exact .type hk hn hv (isDemand_typeMessage _)

theorem complaint_of_mem_count (hk : key ≠ "") (h : r ∈ (count loc key d.written).errors) :
    Complaint loc d r := by
  have hm : IsDemand (wholeMessage ++ " greater than or equal to 0") :=
    isDemand_wholeMessage.append _
  unfold count at h
  split at h
  · cases h
  · rename_i hv
    split at h
    · split at h
      · cases h
      · obtain rfl := List.mem_singleton.1 h
        exact .value hk hv hm
    · obtain rfl := List.mem_singleton.1 h
      exact .value hk hv hm

theorem complaint_of_mem_bound {integral : Bool} {exclusiveKey : String} (hk : key ≠ "")
    (he : exclusiveKey ≠ "") (hn : exclusiveKey ≠ "kind")
    (h : r ∈ (bound integral loc key exclusiveKey d.written).errors) : Complaint loc d r := by
  unfold bound at h
  split at h
  · cases h
  · rename_i hv
    split at h
    · rw [Checked.errors_map] at h
      exact complaint_of_mem_flag he hn h
    · obtain rfl := List.mem_singleton.1 h
      exact .value hk hv (isDemand_numberMessage _)

/-- What is wrong with an element is found at its index, counted from where the list starts. -/
theorem exists_of_mem_enumElements {α : Type} {element : Json → Option α} {message base : String}
    {i : Nat} {vs : List Json} (h : r ∈ (enumElements element message base i vs).errors) :
    ∃ j v, vs[j]? = some v ∧ r = ⟨Locator.withIndex base (i + j), "", message, v⟩ := by
  induction vs generalizing i with
  | nil => cases h
  | cons v rest ih =>
    rw [enumElements, Checked.errors_map, Checked.errors_both, List.mem_append] at h
    rcases h with h | h
    · refine ⟨0, v, rfl, ?_⟩
      cases he : element v with
      | some a =>
        rw [he] at h
        cases h
      | none =>
        rw [he] at h
        exact List.mem_singleton.1 h
    · obtain ⟨j, w, hj, rfl⟩ := ih h
      exact ⟨j + 1, w, hj, by rw [Nat.add_assoc, Nat.add_comm 1 j]⟩

theorem complaint_of_mem_enumeration {α : Type} {element : Json → Option α} {message : String}
    (hm : IsDemand message) (h : r ∈ (enumeration element message loc d.written).errors) :
    Complaint loc d r := by
  unfold enumeration at h
  split at h
  · cases h
  · rename_i hv
    rw [Checked.errors_map] at h
    obtain ⟨j, v, hj, rfl⟩ := exists_of_mem_enumElements h
    rw [Nat.zero_add]
    exact .choice hv hj hm
  · rename_i hv
    obtain rfl := List.mem_singleton.1 h
    exact .type (by decide) (by decide) hv (isDemand_typeMessage _)

theorem complaint_of_mem_pattern (h : r ∈ (pattern loc d.written).errors) : Complaint loc d r := by
  unfold pattern at h
  split at h
  · cases h
  · rename_i hv
    split at h
    · cases h
    · obtain rfl := List.mem_singleton.1 h
      exact .value (by decide) hv ⟨"be valid regular expression pattern", rfl⟩
  · rename_i hv
    obtain rfl := List.mem_singleton.1 h
    exact .value (by decide) hv (isDemand_typeMessage _)

theorem complaint_of_mem_format (h : r ∈ (c.format loc d.written).errors) : Complaint loc d r := by
  unfold format at h
  split at h
  · cases h
  · rename_i hv
    split at h
    · cases h
    · obtain rfl := List.mem_singleton.1 h
      exact .value (by decide) hv (isDemand_choiceMessage _)

theorem complaint_of_mem_textRules (h : r ∈ (c.textRules loc d.written).errors) :
    Complaint loc d r := by
  simp only [textRules, Checked.errors_map, Checked.errors_both, List.mem_append] at h
  rcases h with (h | h) | (h | h) | h
  · exact complaint_of_mem_count (by decide) h
  · exact complaint_of_mem_count (by decide) h
  · exact complaint_of_mem_pattern h
  · exact complaint_of_mem_format h
  · exact complaint_of_mem_enumeration (isDemand_typeMessage _) h

theorem complaint_of_mem_numberRules {integral : Bool}
    (h : r ∈ (numberRules integral loc d.written).errors) : Complaint loc d r := by
  simp only [numberRules, Checked.errors_map, Checked.errors_both, List.mem_append] at h
  rcases h with (h | h) | h
  · exact complaint_of_mem_bound (by decide) (by decide) (by decide) h
  · exact complaint_of_mem_bound (by decide) (by decide) (by decide) h
  · exact complaint_of_mem_enumeration (isDemand_numberMessage _) h

theorem complaint_of_mem_itemCounts (h : r ∈ (itemCounts loc d.written).errors) :
    Complaint loc d r := by
  rw [itemCounts, Checked.errors_both, List.mem_append] at h
  exact h.elim (complaint_of_mem_count (by decide)) (complaint_of_mem_count (by decide))

end Keywords

/-! ### Findings -/

/-- What the checker comes to at a document: demands that are not met, the keywords that it refuses,
or a document below. -/
inductive Finding where
  | demands (report : Report)
  | refusals
  | below (place : Place)

/-- What is reported of a finding, given the keywords that are refused and what is reported of
places below. -/
def Finding.report (refused : Report) (f : Place → Report) : Finding → Report
  | demands report => report
  | refusals => refused
  | below p => f p

/-- The finding is one of demands. -/
def Finding.isDemands : Finding → Bool
  | demands _ => true
  | _ => false

/-- What is found at the value of a key that holds documents. -/
def heldFindings (ms : Members) (key : String) (misfit : Json → Report)
    (places : Json → List Place) : List Finding :=
  (ms.lookup key).elim [] fun v => .demands (misfit v) :: (places v).map .below

/-- The value of a key is of the wrong type, unless it fits. -/
def misfit (loc key type : String) (fits : Json → Bool) (v : Json) : Report :=
  if fits v then [] else [⟨loc, key, typeMessage type, .string v.typeName⟩]

/-- What is found at the keywords of objects. -/
def objectFindings (loc : String) (ms : Members) : List Finding :=
  heldFindings ms "additionalProperties" (fun _ => []) Json.additionalPlaces ++
    (heldFindings ms "properties" (misfit loc "properties" "object" (·.members?.isSome))
        (Json.memberPlaces "properties") ++
      heldFindings ms "oneOf" (misfit loc "oneOf" "array" (·.elements?.isSome))
        (Json.elementPlaces "oneOf"))

/-- What is found at the keywords of lists. -/
def arrayFindings (loc : String) (ms : Members) : List Finding :=
  heldFindings ms "items" (fun _ => []) Json.itemPlaces ++ [.demands (itemCounts loc ms).errors]

/-- What is found at the keywords of the declared kind. -/
def kindFindings (c : Checker) (loc : String) (ms : Members) (declared : Json) : List Finding :=
  match declared.text?.bind Kind.ofName? with
  | some .string => [.demands (c.textRules loc ms).errors]
  | some .number => [.demands (numberRules false loc ms).errors]
  | some .integer => [.demands (numberRules true loc ms).errors]
  | some .boolean => []
  | some .null => []
  | some .any => []
  | some .object => objectFindings loc ms
  | some .array => arrayFindings loc ms
  | none => [.demands [⟨loc, "kind", choiceMessage (Kind.all.map Kind.name), declared⟩]]

/-- What is found at a document with the given members. -/
def memberFindings (c : Checker) (loc : String) (ms : Members) : List Finding :=
  match ms.lookup "kind" with
  | none => [.demands [⟨loc, "", "must contain [kind] property", .null⟩]]
  | some declared =>
    .demands (flag loc "required" ms).errors :: .refusals ::
      c.kindFindings loc ms declared

/-- What is found at a document, in the order in which it is reported. -/
def findings (c : Checker) (loc : String) (d : Json) : List Finding :=
  match d with
  | .string _ | .object _ => c.memberFindings loc d.written
  | _ => [.demands [⟨loc, "", "must be of type [object] and not null", .string d.typeName⟩]]

/-! ### Reports -/

section Reports

variable (c : Checker) (loc : String)

/-- What is reported of a place below a document. -/
def reportBelow (p : Place) : Report := (c.node (extendAll loc p.steps) p.value).errors

theorem errors_elementNodes_eq (base : String) (i : Nat) (vs : List Json) :
    (c.elementNodes base i vs).errors =
      (vs.zipIdx i).flatMap fun x => (c.node (Locator.withIndex base x.2) x.1).errors := by
  induction vs generalizing i with
  | nil => rfl
  | cons v rest ih =>
    rw [elementNodes, Checked.errors_map, Checked.errors_both, ih, List.zipIdx_cons,
      List.flatMap_cons]

theorem errors_additionalOf_eq (v : Json) :
    (c.additionalOf loc v).errors = (Json.additionalPlaces v).flatMap (c.reportBelow loc) := by
  unfold additionalOf Json.additionalPlaces
  rcases v.bool? with _ | _ | _
  · rw [Checked.errors_map, List.flatMap_singleton]
    rfl
  · rfl
  · rfl

theorem errors_propertiesOf_eq (v : Json) :
    (c.propertiesOf loc v).errors =
      misfit loc "properties" "object" (·.members?.isSome) v ++
        (Json.memberPlaces "properties" v).flatMap (c.reportBelow loc) := by
  cases v with
  | object ms =>
    rw [propertiesOf, errors_memberNodes_eq, Json.memberPlaces, List.flatMap_map]
    rfl
  | _ => rfl

theorem errors_oneOfOf_eq (v : Json) :
    (c.oneOfOf loc v).errors =
      misfit loc "oneOf" "array" (·.elements?.isSome) v ++
        (Json.elementPlaces "oneOf" v).flatMap (c.reportBelow loc) := by
  cases v with
  | array vs =>
    rw [oneOfOf, Checked.errors_map, errors_elementNodes_eq, Json.elementPlaces, List.flatMap_map]
    rfl
  | _ => rfl

theorem errors_itemsOf_eq (v : Json) :
    (c.itemsOf loc v).errors = (Json.itemPlaces v).flatMap (c.reportBelow loc) := by
  cases hv : v.isArray with
  | false =>
    rw [itemsOf_of_not_isArray hv, Checked.errors_map, Json.itemPlaces, hv,
      if_neg Bool.false_ne_true, List.flatMap_singleton]
    rfl
  | true =>
    cases v with
    | array vs =>
      rw [itemsOf, Checked.errors_map, errors_elementNodes_eq, Json.itemPlaces, if_pos hv,
        Json.elementPlaces, List.flatMap_map]
      rfl
    | _ => cases hv

theorem errors_elim_eq {α : Type} {ms : Members} {key : String} {absent : α}
    {read : Json → Checked α} {misfit : Json → Report} {places : Json → List Place}
    {refused : Report} {f : Place → Report}
    (h : ∀ v, (read v).errors = misfit v ++ (places v).flatMap f) :
    ((ms.lookup key).elim (.ok absent) read).errors =
      (heldFindings ms key misfit places).flatMap (Finding.report refused f) := by
  unfold heldFindings
  cases ms.lookup key with
  | none => rfl
  | some v =>
    rw [Option.elim_some, Option.elim_some, h, List.flatMap_cons, List.flatMap_map]
    rfl

theorem errors_objectRules_eq (refused : Report) (ms : Members) :
    ((c.additional loc ms).both ((c.properties loc ms).both (c.oneOf loc ms))).errors =
      (objectFindings loc ms).flatMap (Finding.report refused (c.reportBelow loc)) := by
  have ha (v : Json) : (c.additionalOf loc v).errors =
      (fun _ => []) v ++ (Json.additionalPlaces v).flatMap (c.reportBelow loc) :=
    c.errors_additionalOf_eq loc v
  rw [Checked.errors_both, Checked.errors_both, additional_eq, properties_eq, oneOf_eq,
    errors_elim_eq ha, errors_elim_eq (c.errors_propertiesOf_eq loc),
    errors_elim_eq (c.errors_oneOfOf_eq loc), objectFindings, List.flatMap_append,
    List.flatMap_append]

theorem errors_arrayRules_eq (refused : Report) (ms : Members) :
    ((c.items loc ms).both (itemCounts loc ms)).errors =
      (arrayFindings loc ms).flatMap (Finding.report refused (c.reportBelow loc)) := by
  have hi (v : Json) : (c.itemsOf loc v).errors =
      (fun _ => []) v ++ (Json.itemPlaces v).flatMap (c.reportBelow loc) :=
    c.errors_itemsOf_eq loc v
  rw [Checked.errors_both, items_eq, errors_elim_eq hi, arrayFindings, List.flatMap_append,
    List.flatMap_singleton]
  rfl

theorem errors_kindRules_eq (refused : Report) (ms : Members) (declared : Json) :
    (c.kindRules loc ms declared
      (fun _ => ((c.additional loc ms).both ((c.properties loc ms).both (c.oneOf loc ms))).map
        fun (additional, properties, oneOf) => .object properties additional oneOf)
      (fun _ => ((c.items loc ms).both (itemCounts loc ms)).map
        fun (items, least, most) => .array items least most)).errors =
      (c.kindFindings loc ms declared).flatMap (Finding.report refused (c.reportBelow loc)) := by
  unfold kindRules kindFindings
  rcases declared.text?.bind Kind.ofName? with _ | k
  · rfl
  cases k with
  | string | number | integer =>
    rw [Checked.errors_map, List.flatMap_singleton]
    rfl
  | boolean | null | any => rfl
  | object => rw [Checked.errors_map, errors_objectRules_eq]
  | array => rw [Checked.errors_map, errors_arrayRules_eq]

theorem errors_node_object_eq (ms : Members) :
    (c.node loc (.object ms)).errors =
      (c.memberFindings loc ms).flatMap
        (Finding.report (c.unsupported loc ms) (c.reportBelow loc)) := by
  rw [node, assemble, memberFindings]
  cases ms.lookup "kind" with
  | none => rfl
  | some declared =>
    rw [Checked.errors_map, Checked.errors_both, Checked.errors_both, Checked.errors_ofReport,
      errors_kindRules_eq _ _ (c.unsupported loc ms), List.flatMap_cons, List.flatMap_cons,
      List.append_assoc]
    rfl

/-- The report about a document is that of its findings, one after the other. -/
theorem errors_node_eq (d : Json) :
    (c.node loc d).errors =
      (c.findings loc d).flatMap
        (Finding.report (c.unsupported loc d.written) (c.reportBelow loc)) := by
  cases d with
  | string s => rw [node_string, errors_node_object_eq, findings, Json.written]
  | object ms => rw [errors_node_object_eq, findings, Json.written]
  | _ => rfl

end Reports

/-! ### Demands -/

section Demands

variable {c : Checker} {loc : String} {d : Json} {r : Violation} {report : Report}

/-- Demands on the value of a key are those on a value that the key has. -/
theorem of_demands_mem_heldFindings {ms : Members} {key : String} {misfit : Json → Report}
    {places : Json → List Place} (h : .demands report ∈ heldFindings ms key misfit places) :
    ∃ v, ms.lookup key = some v ∧ report = misfit v := by
  unfold heldFindings at h
  cases hl : ms.lookup key with
  | none =>
    rw [hl] at h
    cases h
  | some v =>
    rw [hl, Option.elim_some, List.mem_cons] at h
    rcases h with h | h
    · exact ⟨v, rfl, Finding.demands.inj h⟩
    · obtain ⟨p, -, hp⟩ := List.mem_map.1 h
      cases hp

theorem complaint_of_mem_misfit {key type : String} {fits : Json → Bool} {v : Json} (hk : key ≠ "")
    (hn : key ≠ "kind") (hv : d.written.lookup key = some v)
    (h : r ∈ misfit loc key type fits v) : Complaint loc d r := by
  unfold misfit at h
  split at h
  · cases h
  · obtain rfl := List.mem_singleton.1 h
    exact .type hk hn hv (isDemand_typeMessage type)

theorem complaint_of_mem_objectFindings (hf : .demands report ∈ objectFindings loc d.written)
    (hr : r ∈ report) : Complaint loc d r := by
  simp only [objectFindings, List.mem_append] at hf
  rcases hf with hf | hf | hf <;> obtain ⟨v, hv, rfl⟩ := of_demands_mem_heldFindings hf
  · cases hr
  · exact complaint_of_mem_misfit (by decide) (by decide) hv hr
  · exact complaint_of_mem_misfit (by decide) (by decide) hv hr

theorem complaint_of_mem_arrayFindings (hf : .demands report ∈ arrayFindings loc d.written)
    (hr : r ∈ report) : Complaint loc d r := by
  rw [arrayFindings, List.mem_append, List.mem_singleton] at hf
  rcases hf with hf | hf
  · obtain ⟨v, -, rfl⟩ := of_demands_mem_heldFindings hf
    cases hr
  · obtain rfl := Finding.demands.inj hf
    exact complaint_of_mem_itemCounts hr

theorem complaint_of_mem_kindFindings {declared : Json}
    (hd : d.written.lookup "kind" = some declared)
    (hf : .demands report ∈ c.kindFindings loc d.written declared) (hr : r ∈ report) :
    Complaint loc d r := by
  unfold kindFindings at hf
  generalize declared.text?.bind Kind.ofName? = kind? at hf
  rcases kind? with _ | k
  · obtain rfl := Finding.demands.inj (List.mem_singleton.1 hf)
    obtain rfl := List.mem_singleton.1 hr
    exact .value (by decide) hd (isDemand_choiceMessage _)
  cases k with
  | string =>
    obtain rfl := Finding.demands.inj (List.mem_singleton.1 hf)
    exact complaint_of_mem_textRules hr
  | number | integer =>
    obtain rfl := Finding.demands.inj (List.mem_singleton.1 hf)
    exact complaint_of_mem_numberRules hr
  | boolean | null | any => cases hf
  | object => exact complaint_of_mem_objectFindings hf hr
  | array => exact complaint_of_mem_arrayFindings hf hr

/-- A document without a kind is no text: a text has itself for its kind. -/
theorem complaint_of_mem_memberFindings (ho : (∃ ms, d = .object ms) ∨ ∃ s, d = .string s)
    (hf : .demands report ∈ c.memberFindings loc d.written) (hr : r ∈ report) :
    Complaint loc d r := by
  unfold memberFindings at hf
  cases hk : d.written.lookup "kind" with
  | none =>
    rw [hk] at hf
    obtain rfl := Finding.demands.inj (List.mem_singleton.1 hf)
    obtain rfl := List.mem_singleton.1 hr
    rcases ho with ⟨ms, rfl⟩ | ⟨s, rfl⟩
    · exact .kindless rfl hk ⟨"contain [kind] property", rfl⟩
    · cases hk
  | some declared =>
    simp only [hk, List.mem_cons] at hf
    rcases hf with hf | hf | hf
    · obtain rfl := Finding.demands.inj hf
      exact complaint_of_mem_flag (by decide) (by decide) hr
    · cases hf
    · exact complaint_of_mem_kindFindings hk hf hr

/-- Demands that are not met are complaints. -/
theorem complaint_of_mem_findings (hf : .demands report ∈ c.findings loc d) (hr : r ∈ report) :
    Complaint loc d r := by
  unfold findings at hf
  cases d with
  | string s => exact complaint_of_mem_memberFindings (.inr ⟨s, rfl⟩) hf hr
  | object ms => exact complaint_of_mem_memberFindings (.inl ⟨ms, rfl⟩) hf hr
  | _ =>
    obtain rfl := Finding.demands.inj (List.mem_singleton.1 hf)
    obtain rfl := List.mem_singleton.1 hr
    exact .whole ⟨"be of type [object] and not null", rfl⟩

end Demands

/-! ### Documents below -/

section Below

variable {c : Checker} {loc : String} {d : Json}

theorem filter_heldFindings {key : String} {misfit : Json → Report} {places : Json → List Place} :
    (heldFindings d.written key misfit places).filter (fun f => !f.isDemands) =
      (d.held key places).map .below := by
  unfold heldFindings Json.held
  cases d.written.lookup key with
  | none => rfl
  | some v =>
    rw [Option.elim_some, Option.elim_some, List.filter_cons_of_neg (by simp [Finding.isDemands]),
      List.filter_eq_self, List.forall_mem_map]
    exact fun _ _ => rfl

theorem filter_kindFindings {declared : Json} (hd : d.written.lookup "kind" = some declared) :
    (c.kindFindings loc d.written declared).filter (fun f => !f.isDemands) =
      d.subdocuments.map .below := by
  have hk : d.declared? = declared.text?.bind Kind.ofName? := by
    rw [Json.declared?, hd]
    rfl
  rw [kindFindings, Json.subdocuments, hk]
  rcases declared.text?.bind Kind.ofName? with _ | k
  · rfl
  cases k with
  | object =>
    dsimp only
    rw [objectFindings, List.filter_append, List.filter_append, filter_heldFindings,
      filter_heldFindings, filter_heldFindings, List.map_append, List.map_append]
  | array =>
    dsimp only
    rw [arrayFindings, List.filter_append, filter_heldFindings]
    exact List.append_nil _
  | _ => rfl

/-- Apart from demands, what is found at a document are its keywords, if it has a kind, and the
documents directly below, in order. -/
theorem filter_findings (c : Checker) (loc : String) (d : Json) :
    (c.findings loc d).filter (fun f => !f.isDemands) =
      ((d.written.lookup "kind").elim [] fun _ => [.refusals]) ++ d.subdocuments.map .below := by
  have hm : (c.memberFindings loc d.written).filter (fun f => !f.isDemands) =
      ((d.written.lookup "kind").elim [] fun _ => [.refusals]) ++ d.subdocuments.map .below := by
    unfold memberFindings
    cases hk : d.written.lookup "kind" with
    | none =>
      rw [Json.subdocuments, Json.declared?, hk]
      rfl
    | some declared =>
      rw [List.filter_cons_of_neg (by simp [Finding.isDemands]),
        List.filter_cons_of_pos (by simp [Finding.isDemands]), filter_kindFindings hk]
      rfl
  unfold findings
  cases d with
  | string s => exact hm
  | object ms => exact hm
  | _ => rfl

theorem mem_subdocuments_of_below_mem {p : Place} (h : .below p ∈ c.findings loc d) :
    p ∈ d.subdocuments := by
  have hf : Finding.below p ∈ (c.findings loc d).filter (fun f => !f.isDemands) :=
    List.mem_filter.2 ⟨h, rfl⟩
  rw [filter_findings, List.mem_append] at hf
  rcases hf with hf | hf
  · cases hk : d.written.lookup "kind" with
    | none =>
      rw [hk] at hf
      cases hf
    | some declared =>
      rw [hk] at hf
      cases List.mem_singleton.1 hf
  · obtain ⟨q, hq, he⟩ := List.mem_map.1 hf
    obtain rfl := Finding.below.inj he
    exact hq

end Below

end Checker

end ShapeCheck
