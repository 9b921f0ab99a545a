import ShapeCheck.Proofs.Compilation
import ShapeCheck.Proofs.Finding

/-!
# Leniency

Whether keywords that are not supported are refused changes nothing else.

* `Violation.IsRefusal`: violations that refuse a keyword;
* `Json.unsupportedMembers`: the keywords that are refused at a document, with their values;
* `Checker.errors_lenient`: without refusals, the report is the same up to them;
* `Checker.refusals_strict`: the refusals are those of all documents inside, in order;
* `Checker.leniency`: both, and nodes that are compiled with refusals are compiled without them.
-/

namespace ShapeCheck

open Json (Members Place)
open Locator (extendAll)

/-! ### Refusals -/

namespace Violation

/-- The violation refuses a keyword. -/
def IsRefusal (r : Violation) : Prop := r.message = "unsupported keyword"

instance (r : Violation) : Decidable r.IsRefusal := inferInstanceAs (Decidable (_ = _))

/-- The refusal of a keyword with its value, at a locator. -/
def refusal (loc : String) (m : String × Json) : Violation := ⟨loc, m.1, "unsupported keyword", m.2⟩

theorem isRefusal_refusal (loc : String) (m : String × Json) : (refusal loc m).IsRefusal := rfl

end Violation

/-- The keywords of a document that are not supported, with their values; a document without a kind
is not asked for them. -/
def Json.unsupportedMembers (d : Json) : Members :=
  (d.written.lookup "kind").elim [] fun _ =>
    Checker.unsupportedKeywords.filterMap fun key => (d.written.lookup key).map fun v => (key, v)

namespace Checker

/-- The checker that refuses keywords. -/
def strict (formats : Formats) : Checker := ⟨formats, true⟩

/-- The checker that refuses none. -/
def lenient (formats : Formats) : Checker := ⟨formats, false⟩

variable (formats : Formats) (loc : String)

theorem unsupported_lenient (ms : Members) : (lenient formats).unsupported loc ms = [] := rfl

theorem unsupported_strict (ms : Members) :
    (strict formats).unsupported loc ms =
      (unsupportedKeywords.filterMap fun key => (ms.lookup key).map fun v => (key, v)).map
        (Violation.refusal loc) := by
  rw [List.map_filterMap]
  refine List.filterMap_congr fun key _ => ?_
  rw [Option.map_map]
  rfl

theorem isRefusal_of_mem_unsupported {ms : Members} {r : Violation}
    (h : r ∈ (strict formats).unsupported loc ms) : r.IsRefusal := by
  rw [unsupported_strict] at h
  obtain ⟨m, -, rfl⟩ := List.mem_map.1 h
  exact Violation.isRefusal_refusal loc m

theorem not_isRefusal_of_mem_findings {c : Checker} {d : Json} {report : Report} {r : Violation}
    (hf : .demands report ∈ c.findings loc d) (hr : r ∈ report) : ¬ r.IsRefusal := by
  intro h
  have hm : IsDemand r.message := (complaint_of_mem_findings hf hr).isDemand
  rw [h] at hm
  exact not_isDemand_unsupported hm

/-- What is found at a document does not depend on whether keywords are refused. -/
theorem findings_lenient (d : Json) :
    (lenient formats).findings loc d = (strict formats).findings loc d := rfl

/-! ### The same reports up to refusals -/

/-- The checker that refuses no keywords reports what the other one does, without the refusals. -/
theorem errors_lenient (d : Json) :
    ((lenient formats).node loc d).errors =
      ((strict formats).node loc d).errors.filter fun r => ¬ r.IsRefusal := by
  induction d using Json.inductionOnSubdocuments generalizing loc with
  | step d ih =>
    rw [errors_node_eq, errors_node_eq, List.filter_flatMap, findings_lenient]
    refine List.flatMap_congr fun f hf => ?_
    cases f with
    | demands report =>
      refine (List.filter_eq_self.2 fun r hr => ?_).symm
      exact decide_eq_true (not_isRefusal_of_mem_findings loc hf hr)
    | refusals =>
      rw [Finding.report, Finding.report, unsupported_lenient]
      refine (List.filter_eq_nil_iff.2 fun r hr => ?_).symm
      simpa using isRefusal_of_mem_unsupported formats loc hr
    | below p => exact ih p (mem_subdocuments_of_below_mem hf) _

/-! ### All refusals -/

/-- What gives nothing may be left out before. -/
theorem flatMap_filter_of_eq_nil {α β : Type} {p : α → Bool} {g : α → List β} {l : List α}
    (h : ∀ x ∈ l, p x = false → g x = []) : (l.filter p).flatMap g = l.flatMap g := by
  induction l with
  | nil => rfl
  | cons x rest ih =>
    have hr := ih fun y hy => h y (List.mem_cons_of_mem x hy)
    cases hx : p x with
    | true => rw [List.filter_cons_of_pos hx, List.flatMap_cons, List.flatMap_cons, hr]
    | false =>
      rw [List.filter_cons_of_neg (by simp [hx]), List.flatMap_cons, h x List.mem_cons_self hx, hr,
        List.nil_append]

/-- Demands that are not met refuse nothing. -/
theorem refusals_of_isDemands {d : Json} {refused : Report} {below : Place → Report} {f : Finding}
    (hf : f ∈ (strict formats).findings loc d) (hd : (!f.isDemands) = false) :
    ((f.report refused below).filter fun r => r.IsRefusal) = [] := by
  cases f with
  | demands report =>
    refine List.filter_eq_nil_iff.2 fun r hr => ?_
    simpa using not_isRefusal_of_mem_findings loc hf hr
  | refusals => cases hd
  | below p => cases hd

/-- The keywords that are refused at a document are those that it carries. -/
theorem refusals_at (d : Json) {below : Place → Report} :
    (((d.written.lookup "kind").elim [] fun _ => [Finding.refusals]).flatMap fun f =>
        (f.report ((strict formats).unsupported loc d.written) below).filter fun r => r.IsRefusal) =
      d.unsupportedMembers.map (Violation.refusal loc) := by
  unfold Json.unsupportedMembers
  cases d.written.lookup "kind" with
  | none => rfl
  | some declared =>
    rw [Option.elim_some, Option.elim_some, List.flatMap_singleton, Finding.report,
      List.filter_eq_self.2 fun r hr =>
        decide_eq_true (isRefusal_of_mem_unsupported formats loc hr), unsupported_strict]

/-- The refusals about a document are its own, then those about the documents directly below. -/
theorem refusals_node (d : Json) :
    (((strict formats).node loc d).errors.filter fun r => r.IsRefusal) =
      d.unsupportedMembers.map (Violation.refusal loc) ++ d.subdocuments.flatMap fun p =>
        ((strict formats).reportBelow loc p).filter fun r => r.IsRefusal := by
  rw [errors_node_eq, List.filter_flatMap,
    ← flatMap_filter_of_eq_nil fun f hf hd => refusals_of_isDemands formats loc hf hd,
    filter_findings, List.flatMap_append, refusals_at, List.flatMap_map]
  rfl

/-- The refusals are those of all documents inside, each with the keywords that it carries. -/
theorem refusals_strict (d : Json) :
    (((strict formats).node loc d).errors.filter fun r => r.IsRefusal) =
      d.visited.flatMap fun p =>
        p.value.unsupportedMembers.map (Violation.refusal (extendAll loc p.steps)) := by
  induction d using Json.inductionOnSubdocuments generalizing loc with
  | step d ih =>
    rw [refusals_node, Json.visited_eq, List.flatMap_cons, List.flatMap_assoc]
    refine congrArg (_ ++ ·) (List.flatMap_congr fun p hp => ?_)
    rw [reportBelow, ih p hp, List.flatMap_map]
    simp only [Place.steps_behind, Place.value_behind, Locator.extendAll_append]

/-! ### Both checkers -/

theorem extends_lenient : (strict formats).Extends (lenient formats) :=
  ⟨fun _ h => h, fun _ => rfl⟩

/-- **Allowing keywords that are not supported changes nothing else.** The report of the lenient
checker is that of the strict one without the refusals; these are one for each document inside and
for each such keyword that it carries, at the locator of the document; and what the strict checker
compiles, the lenient one compiles to the same node. -/
theorem leniency (formats : Formats) (d : Json) :
    ((lenient formats).check d).errors =
        ((strict formats).check d).errors.filter (fun r => ¬ r.IsRefusal) ∧
      ((strict formats).check d).errors.filter (fun r => r.IsRefusal) =
        d.visited.flatMap (fun p =>
          p.value.unsupportedMembers.map
            (Violation.refusal (extendAll Locator.root p.steps))) ∧
      (d.Distinct → (d.visited.map Place.steps).Nodup) ∧
      ∀ n, (strict formats).check d = .ok n → (lenient formats).check d = .ok n :=
  ⟨errors_lenient formats Locator.root d, refusals_strict formats Locator.root d,
    Json.nodup_visited, node_mono (extends_lenient formats) Locator.root d⟩

/-- Two members with keywords that are not supported, one of which has no kind. -/
def mixedDocument : Json :=
  .object [("kind", .string "object"), ("$ref", .null),
    ("properties", .object [("id", .object [("kind", .string "string"), ("disallow", .bool true)]),
      ("note", .object [("$ref", .null)])])]

/-- The member without a kind is not asked for its keyword. -/
theorem mixedDocument_lenient :
    mixedDocument.Distinct ∧
      ((strict .empty).check mixedDocument).errors =
        [.refusal "$" ("$ref", .null), .refusal "$['properties']['id']" ("disallow", .bool true),
          ⟨"$['properties']['note']", "", "must contain [kind] property", .null⟩] ∧
      ((lenient .empty).check mixedDocument).errors =
        [⟨"$['properties']['note']", "", "must contain [kind] property", .null⟩] ∧
      (mixedDocument.visited.map Place.steps).Nodup ∧
      (lenient .empty).check (.string "null") =
        .ok (.mk false [("kind", .string "null")] .null) := by
  have hd : mixedDocument.Distinct := by simp [mixedDocument]
  have hs : ((strict .empty).check mixedDocument).errors =
      [.refusal "$" ("$ref", .null), .refusal "$['properties']['id']" ("disallow", .bool true),
        ⟨"$['properties']['note']", "", "must contain [kind] property", .null⟩] := rfl
  obtain ⟨hl, -, hn, -⟩ := leniency .empty mixedDocument
  refine ⟨hd, hs, ?_, hn hd, (leniency .empty (.string "null")).2.2.2 _ rfl⟩
  rw [hl, hs]
  rfl

end Checker

end ShapeCheck
