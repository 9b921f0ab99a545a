import ShapeCheck.Proofs.Finding

/-!
# Tracing violations of schema documents

What the checker reports about a document is traced back to the place where it was found.

* `Json.choices`: the places of the allowed values of a document;
* `Violation.Faults`: what a violation at a place says is there;
* `Checker.found`: what the checker reports of a document apart from the documents below;
* `Checker.exists_found`: what is reported was found at one of the documents inside;
* `Checker.errors_traced`: the locator of a violation is read back as the steps to the place, the
  empty ones left out, and what the violation says is there.
-/

namespace ShapeCheck

open Json (Members Place)
open Locator (Segment extendAll)

/-- The places of the allowed values of a document. -/
def Json.choices (d : Json) : List Place := d.held "enum" (elementPlaces "enum")

theorem Json.reaches_of_mem_choices {d : Json} {p : Place} (h : p ∈ d.choices) :
    d.Reaches p.steps p.value :=
  (standBelow_held (by decide) fun _ => lieIn_elementPlaces).reaches p h

/-! ### What a violation says -/

/-- What a violation at a place of a document can say: without a field it names the value there, its
type, or nothing for an object without a kind; with a field, the member of that name or its type, or
the text that is a kind by itself. -/
inductive Violation.Faults (r : Violation) : Json → Prop where
  | whole {w : Json} (hf : r.field = "") (ha : r.actual = w) : Faults r w
  | type {w : Json} (hf : r.field = "") (ha : r.actual = .string w.typeName) : Faults r w
  | kindless {ms : Members} (hf : r.field = "") (hk : ms.lookup "kind" = none)
      (ha : r.actual = .null) : Faults r (.object ms)
  | member {ms : Members} {v : Json} (hf : r.field ≠ "") (hm : ms.lookup r.field = some v)
      (ha : r.actual = v ∨ r.actual = .string v.typeName) : Faults r (.object ms)
  | name {s : String} (hf : r.field = "kind") (ha : r.actual = .string s) : Faults r (.string s)

namespace Checker

variable {c : Checker} {loc : String} {d : Json} {r : Violation}

/-- The members that a text stands for are its kind only. -/
theorem faults_of_lookup_written {v : Json} (hf : r.field ≠ "")
    (hv : d.written.lookup r.field = some v) (ha : r.actual = v) : r.Faults d := by
  cases d with
  | object ms => exact .member hf hv (.inl ha)
  | string s =>
    by_cases hk : r.field = "kind"
    · rw [hk] at hv
      obtain rfl := Option.some.inj hv
      exact .name hk ha
    · rw [Json.written, lookup_shorthand hk] at hv
      cases hv
  | _ => cases hv

theorem faults_of_typeName {v : Json} (hf : r.field ≠ "") (hn : r.field ≠ "kind")
    (hv : d.written.lookup r.field = some v) (ha : r.actual = .string v.typeName) :
    r.Faults d := by
  cases d with
  | object ms => exact .member hf hv (.inr ha)
  | string s =>
    rw [Json.written, lookup_shorthand hn] at hv
    cases hv
  | _ => cases hv

/-- The violation tells the place by its locator and says what is there. -/
structure TracedTo (loc : String) (r : Violation) (p : Place) : Prop where
  locator : r.locator = extendAll loc p.steps
  faults : r.Faults p.value

theorem TracedTo.behind {steps : List Segment} {p : Place}
    (h : TracedTo (extendAll loc steps) r p) : TracedTo loc r (p.behind steps) := by
  refine ⟨?_, h.faults⟩
  rw [h.locator, Place.steps_behind, Locator.extendAll_append]

/-- A complaint is about the document itself or about one of its allowed values. -/
theorem Complaint.traced (h : Complaint loc d r) :
    TracedTo loc r ⟨[], d⟩ ∨ ∃ p ∈ d.choices, TracedTo loc r p := by
  cases h with
  | whole hm => exact .inl ⟨rfl, .type rfl rfl⟩
  | kindless hd hk hm =>
    subst hd
    exact .inl ⟨rfl, .kindless rfl hk rfl⟩
  | value hk hv hm => exact .inl ⟨rfl, faults_of_lookup_written hk hv rfl⟩
  | type hk hn hv hm => exact .inl ⟨rfl, faults_of_typeName hk hn hv rfl⟩
  | @choice vs i message v hv hi hm =>
    refine .inr ⟨⟨[.key "enum", .index i], v⟩, ?_, rfl, .whole rfl rfl⟩
    rw [Json.choices, Json.held, hv]
    exact List.mem_map.2 ⟨(v, i), List.mem_zipIdx_iff_getElem?.2 hi, rfl⟩

/-- A keyword that is refused is one that the document has. -/
theorem traced_of_mem_unsupported (h : r ∈ c.unsupported loc d.written) :
    TracedTo loc r ⟨[], d⟩ := by
  have hk : ∀ key ∈ unsupportedKeywords, key ≠ "" := by decide
  unfold unsupported at h
  split at h
  · obtain ⟨key, hm, hr⟩ := List.mem_filterMap.1 h
    obtain ⟨v, hv, rfl⟩ := Option.map_eq_some_iff.1 hr
    exact ⟨rfl, faults_of_lookup_written (hk key hm) hv rfl⟩
  · cases h

/-! ### Where violations are found -/

/-- What the checker reports of a document apart from the documents below. -/
def found (c : Checker) (loc : String) (d : Json) : Report :=
  (c.findings loc d).flatMap (Finding.report (c.unsupported loc d.written) fun _ => [])

/-- What is found at a document is about it or about one of its allowed values. -/
theorem traced_of_mem_found (h : r ∈ c.found loc d) :
    TracedTo loc r ⟨[], d⟩ ∨ ∃ p ∈ d.choices, TracedTo loc r p := by
  obtain ⟨f, hf, hr⟩ := List.mem_flatMap.1 h
  cases f with
  | demands report => exact (complaint_of_mem_findings hf hr).traced
  | refusals => exact .inl (traced_of_mem_unsupported hr)
  | below p => cases hr

/-- What is reported about a document was found at one of the documents inside. -/
theorem exists_found (h : r ∈ (c.node loc d).errors) :
    ∃ p ∈ d.visited, r ∈ c.found (extendAll loc p.steps) p.value := by
  induction d using Json.inductionOnSubdocuments generalizing loc with
  | step d ih =>
    rw [errors_node_eq] at h
    obtain ⟨f, hf, hr⟩ := List.mem_flatMap.1 h
    have hd : ⟨[], d⟩ ∈ d.visited := Json.mem_visited_iff.2 (.inl rfl)
    cases f with
    | demands report => exact ⟨_, hd, List.mem_flatMap.2 ⟨_, hf, hr⟩⟩
    | refusals => exact ⟨_, hd, List.mem_flatMap.2 ⟨_, hf, hr⟩⟩
    | below p =>
      have hp := mem_subdocuments_of_below_mem hf
      obtain ⟨q, hq, hr⟩ := ih p hp hr
      refine ⟨q.behind p.steps, Json.mem_visited_iff.2 (.inr ⟨p, hp, q, hq, rfl⟩), ?_⟩
      rwa [Place.steps_behind, Locator.extendAll_append]

/-! ### Tracing back -/

/-- **Violations of schema documents are traced back into the document.** Each is found at one of
the documents inside.  It tells this place or that of an allowed value there: its locator is read
back as the steps that lead there and, without repeated names, nowhere else, the empty names left
out; and what it says is there. -/
theorem errors_traced (c : Checker) {d : Json} (hd : d.Indexable) {r : Violation}
    (hr : r ∈ (c.check d).errors) :
    ∃ p ∈ d.visited, r ∈ c.found (extendAll Locator.root p.steps) p.value ∧
      ∃ q, (q = p ∨ ∃ e ∈ p.value.choices, q = e.behind p.steps) ∧
        d.Reaches q.steps q.value ∧ (d.Distinct → ∀ w, d.Reaches q.steps w → w = q.value) ∧
        Locator.parse r.locator = .ok (q.steps.filter fun s => ¬ s.IsEmpty) ∧
        r.Faults q.value := by
  obtain ⟨p, hp, hf⟩ := exists_found hr
  refine ⟨p, hp, hf, ?_⟩
  obtain ⟨q, hq, hv, ht⟩ : ∃ q, (q = p ∨ ∃ e ∈ p.value.choices, q = e.behind p.steps) ∧
      d.Reaches q.steps q.value ∧ TracedTo Locator.root r q := by
    have hv := Json.reaches_of_mem_visited hp
    rcases traced_of_mem_found hf with ht | ⟨e, he, ht⟩
    · refine ⟨p, .inl rfl, hv, ?_, ht.faults⟩
      rw [ht.locator, Locator.extendAll_nil]
    · exact ⟨_, .inr ⟨e, he, rfl⟩, hv.append (Json.reaches_of_mem_choices he), ht.behind⟩
  refine ⟨q, hq, hv, fun hn w hw => hv.unique hn hw, ?_, ht.faults⟩
  rw [ht.locator, Locator.parse_extendAll_root (hv.fits hd)]

/-- An allowed value of the wrong type, for a member whose name is empty. -/
def unnamedDocument : Json :=
  .object [("kind", .string "object"),
    ("properties", .object [("", .object [("kind", .string "string"),
      ("enum", .array [.string "a", .bool true])])])]

/-- What is wrong with the value. -/
def unnamedViolation : Violation :=
  ⟨"$['properties']['enum'][1]", "", "must be of type [string]", .bool true⟩

theorem errors_unnamedDocument :
    (check ⟨.empty, true⟩ unnamedDocument).errors = [unnamedViolation] := rfl

theorem unnamedViolation_traced :
    unnamedDocument.Indexable ∧
      unnamedViolation ∈ (check ⟨.empty, true⟩ unnamedDocument).errors ∧
      ∃ p ∈ unnamedDocument.visited,
        unnamedViolation ∈ found ⟨.empty, true⟩ (extendAll Locator.root p.steps) p.value ∧
        ∃ q, (q = p ∨ ∃ e ∈ p.value.choices, q = e.behind p.steps) ∧
          unnamedDocument.Reaches q.steps q.value ∧
          (unnamedDocument.Distinct → ∀ w, unnamedDocument.Reaches q.steps w → w = q.value) ∧
          Locator.parse unnamedViolation.locator =
            .ok (q.steps.filter fun s => ¬ s.IsEmpty) ∧
          unnamedViolation.Faults q.value := by
  have hi : unnamedDocument.Indexable := by simp [unnamedDocument, Locator.indexLimit]
  have hr : unnamedViolation ∈ (check ⟨.empty, true⟩ unnamedDocument).errors := by
    rw [errors_unnamedDocument]
    exact List.mem_singleton_self _
  exact ⟨hi, hr, errors_traced _ hi hr⟩

/-- The steps that are read back from the locator lead to nothing: the empty name is not one of
them. -/
theorem unnamedViolation_not_reached :
    ∃ r ∈ (check ⟨.empty, true⟩ unnamedDocument).errors,
      ¬ ∃ steps w, Locator.parse r.locator = .ok steps ∧ unnamedDocument.Reaches steps w := by
  refine ⟨unnamedViolation, ?_, ?_⟩
  · rw [errors_unnamedDocument]
    exact List.mem_singleton_self _
  · rintro ⟨steps, w, hp, h⟩
    have hf : ∀ s ∈ [Segment.key "properties", .key "enum", .index 1], s.Fits := by
      simp [Segment.Fits, Locator.indexLimit]
    have hs : Locator.parse unnamedViolation.locator =
        .ok [.key "properties", .key "enum", .index 1] := Locator.parse_extendAll_root hf
    obtain rfl := Except.ok.inj (hs.symm.trans hp)
    rcases h with _ | ⟨hm, h⟩ | _
    obtain rfl : _ = Json.object [("", _)] := by simpa using hm
    rcases h with _ | ⟨hm, h⟩ | _
    simp at hm

end Checker

end ShapeCheck
