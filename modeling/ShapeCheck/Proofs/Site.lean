import ShapeCheck.Proofs.Frame
import ShapeCheck.Proofs.Position
import ShapeCheck.Proofs.Written

/-!
# Sites of a document

The walk of a value along a document as written, and the custom validations that it comes across.

* `Site`: a value next to the document that it is judged by;
* `Site.Leads`: one step of the walk, read off the members of documents;
* `Site.Matches`: a position of the walk along the compiled node stands for a site;
* `Site.Matches.step`: each step between sites is one between positions;
* `Environment.custom_validation_heard`: what a custom validation says at a site that has its key is
  in the report, unless the key is one of those that hold nodes;
* `Environment.violations_erase_childKeyword`: a custom validation of such a name is never asked.
-/

namespace ShapeCheck

open Json (Members)
open Checker (childKeywords ownKeys)

/-- A value next to the document that it is judged by. -/
structure Site where
  locator : String
  document : Json
  value : Json

/-- A document, once it is compiled, has nothing to say against a value. -/
def Checker.Takes (c : Checker) (env : Environment) (d v : Json) : Prop :=
  ∃ n, c.check d = .ok n ∧ env.violations Locator.root n v = []

namespace Site

/-- The site where the walk of a value along a document starts. -/
def root (d v : Json) : Site := ⟨Locator.root, d, v⟩

/-- The document declares a kind. -/
def Declares (p : Site) (k : Kind) : Prop :=
  p.document.written.lookup "kind" = some (.string k.name)

/-- One step of a walk along a document: to a declared member that is there, unless there are
alternatives; to an alternative if no alternative takes the value; and to an element if there is one
document for all. -/
inductive Leads (c : Checker) (env : Environment) : Site → Site → Prop where
  | member {p : Site} {declared ms : Members} {name : String} {w v : Json}
      (kind : p.Declares .object) (value : p.value = .object ms)
      (plain : p.document.written.lookup "oneOf" = none)
      (properties : p.document.written.lookup "properties" = some (.object declared))
      (hw : declared.lookup name = some w) (hm : (name, v) ∈ ms) :
      Leads c env p ⟨Locator.withKey p.locator name, w, v⟩
  | alternative {p : Site} {ws : List Json} {ms : Members} {w : Json}
      (kind : p.Declares .object) (value : p.value = .object ms)
      (alternatives : p.document.written.lookup "oneOf" = some (.array ws))
      (refused : ∀ w ∈ ws, ¬ c.Takes env w p.value) (hw : w ∈ ws) :
      Leads c env p ⟨p.locator, w, p.value⟩
  | element {p : Site} {vs : List Json} {i : Nat} {w v : Json}
      (kind : p.Declares .array) (value : p.value = .array vs)
      (items : p.document.written.lookup "items" = some w) (single : w.isArray = false)
      (hv : vs[i]? = some v) :
      Leads c env p ⟨Locator.withIndex p.locator i, w, v⟩

/-- A position stands for a site: its node is that of the document. -/
structure Matches (c : Checker) (p : Site) (q : Position) : Prop where
  locator : q.locator = p.locator
  value : q.value = p.value
  node : ∃ loc, c.node loc p.document = .ok q.node

variable {c : Checker} {env : Environment} {p p' : Site} {q : Position}

theorem matches_root {d : Json} {n : Node} (h : c.check d = .ok n) (v : Json) :
    (root d v).Matches c (.root n v) :=
  ⟨rfl, rfl, _, h⟩

/-- Each step between sites is one between the positions that stand for them. -/
theorem Matches.step (h : p.Matches c q) (hp : Leads c env p p') :
    ∃ q', ShapeCheck.Leads env q q' ∧ p'.Matches c q' := by
  obtain ⟨route, loc, ⟨required, source, rules⟩, v⟩ := q
  obtain ⟨hl, hv, at', hn⟩ := h
  obtain rfl : loc = p.locator := hl
  obtain rfl : v = p.value := hv
  have ht := Checker.took_of_node hn
  cases hp with
  | @member declared ms name w v kind value plain properties hw hm =>
    obtain ⟨ps, a, oneOf, hp, ho, hr⟩ := ht.objectRules kind
    obtain rfl : rules = .object ps a oneOf := hr
    obtain rfl := Checker.oneOf_of_lookup_none ho plain
    obtain ⟨m, loc', hm', hn'⟩ := Checker.declared_of_properties hp properties hw
    obtain ⟨i, hi⟩ := List.mem_iff_getElem?.1 hm
    rw [value]
    exact ⟨_, .member hi hm', rfl, rfl, loc', hn'⟩
  | @alternative ws ms w kind value alternatives refused hw =>
    obtain ⟨ps, a, oneOf, -, ho, hr⟩ := ht.objectRules kind
    obtain rfl : rules = .object ps a oneOf := hr
    obtain ⟨nodes, rfl, hf⟩ := Checker.nodes_of_oneOf ho alternatives
    obtain ⟨hlen, hget⟩ := List.forall₂_iff_get.1 hf
    obtain ⟨i, hi, rfl⟩ := List.mem_iff_getElem.1 hw
    have hm : nodes[i]? = some nodes[i] := List.getElem?_eq_getElem (hlen ▸ hi)
    -- what the node of an alternative takes, its document takes
    have hr (m : Node) (hm : m ∈ nodes) : ¬ env.Conforms m (.object ms) := by
      intro hc
      obtain ⟨j, hj, rfl⟩ := List.mem_iff_getElem.1 hm
      obtain ⟨loc', hn'⟩ := hget j (hlen ▸ hj) hj
      refine refused _ (List.getElem_mem (hlen ▸ hj)) ⟨_, Checker.node_of_node hn', ?_⟩
      rw [value, Environment.violations_eq_nil_iff]
      exact hc
    rw [value]
    exact ⟨_, .alternative hr hm, rfl, rfl, hget i hi (hlen ▸ hi)⟩
  | @element vs i w v kind value items single hv =>
    obtain ⟨items', least, most, hi, -, hr⟩ := ht.arrayRules kind
    obtain rfl : rules = .array items' least most := hr
    obtain ⟨m, loc', rfl, hn'⟩ := Checker.single_of_items hi items single
    rw [value]
    exact ⟨_, .element hv, rfl, rfl, loc', hn'⟩

/-- The walk along the compiled node comes to all sites. -/
theorem exists_matches {d : Json} {n : Node} (h : c.check d = .ok n) {v : Json}
    (hp : Relation.ReflTransGen (Leads c env) (root d v) p) :
    ∃ q, env.Reached n v q ∧ p.Matches c q := by
  induction hp with
  | refl => exact ⟨_, .refl, matches_root h v⟩
  | tail _ hs ih =>
    obtain ⟨q, hq, hm⟩ := ih
    obtain ⟨q', hl, hm'⟩ := hm.step hs
    exact ⟨q', hq.tail hl, hm'⟩

theorem Matches.kind_eq (h : p.Matches c q) {k : Kind} (hk : p.Declares k) : q.node.kind = k := by
  obtain ⟨loc, hn⟩ := h.node
  exact (Checker.took_of_node hn).kind_eq hk

/-- A key as written is a key of the node, unless it holds nodes. -/
theorem Matches.isSome_lookup (h : p.Matches c q) {key : String} (hk : key ∉ childKeywords)
    (hp : (p.document.written.lookup key).isSome = true) :
    (q.node.source.lookup key).isSome = true := by
  obtain ⟨loc, hn⟩ := h.node
  rw [(Checker.took_of_node hn).source, Checker.lookup_ownKeys, if_neg hk]
  exact hp

end Site

namespace Environment

variable {c : Checker} {env : Environment} {d v : Json} {n : Node} {key message : String}
  {f : Custom}

/-- What a custom validation says is reported at each node that has its key. -/
theorem mem_customViolations {source : Members} {loc : String} (hf : env.customs.get? key = some f)
    (hk : (source.lookup key).isSome = true) (hv : f source v = some message)
    (hm : message ≠ "") : ⟨loc, "", message, v⟩ ∈ env.customViolations source loc v := by
  refine List.mem_map_of_mem (List.mem_filterMap.2 ⟨(key, f), mem_of_lookup hf, ?_⟩)
  rw [Customs.message?, if_pos hk]
  exact Option.filter_eq_some_iff.2 ⟨hv, decide_eq_true hm⟩

/-- What a reached position has to say itself is in the report. -/
theorem mem_violations_of_reached {q : Position} (hq : env.Reached n v q) {r : Violation}
    (hr : r ∈ q.ownViolations env) : r ∈ env.violations Locator.root n v := by
  obtain ⟨ps, -, hmem, hperm⟩ : ∃ ps : List Position, (ps.map Position.route).Nodup ∧
      (∀ p, p ∈ ps ↔ env.Reached n v p) ∧
      (env.violations Locator.root n v).Perm (ps.flatMap (Position.ownViolations env)) :=
    (Position.root n v).exists_positions
  exact hperm.mem_iff.2 (List.mem_flatMap.2 ⟨q, (hmem q).2 hq, hr⟩)

/-- **Custom validations are heard wherever their key is written.** If a value comes, along a
well-formed document, to a site that has the key of a custom validation, and the custom validation
has something to say about the value there, whatever the keys of the node, then this is in the
report. The key may be any text but the four keywords that hold nodes, and the node of any kind. -/
theorem custom_validation_heard (wellFormed : c.WellFormed d) (v : Json) {p : Site}
    (reached : Relation.ReflTransGen (Site.Leads c env) (.root d v) p)
    (written : (p.document.written.lookup key).isSome = true) (own : key ∉ childKeywords)
    (registered : env.customs.get? key = some f)
    (answer : ∀ source, f source p.value = some message) (nonempty : message ≠ "")
    (null : p.value = .null → p.Declares .null ∨ p.Declares .any) :
    ∃ n, c.check d = .ok n ∧
      ⟨p.locator, "", message, p.value⟩ ∈ env.violations Locator.root n v := by
  obtain ⟨n, hn⟩ := Checker.exists_node_of_wellFormed wellFormed Locator.root
  obtain ⟨q, hq, hm⟩ := Site.exists_matches hn reached
  refine ⟨n, hn, mem_violations_of_reached hq ?_⟩
  have hnull : ¬ q.node.RefusesNull q.value := by
    rw [Node.not_refusesNull_iff, hm.value]
    exact fun h => (null h).imp hm.kind_eq hm.kind_eq
  rw [Position.ownViolations, if_neg hnull, hm.locator, hm.value]
  exact List.mem_append_left _ (mem_customViolations registered
    (hm.isSome_lookup own written) (answer _) nonempty)

/-- A text, with a keyword for numbers. -/
def codeDocument : Json := .object [("kind", .string "string"), ("minimum", .null)]

/-- A list of texts. -/
def listDocument : Json := .object [("kind", .string "array"), ("items", codeDocument)]

/-- An object with such a list under some name. -/
def listedDocument : Json :=
  .object [("kind", .string "object"), ("properties", .object [("codes", listDocument)])]

/-- Such an object as the only alternative. -/
def codesDocument : Json :=
  .object [("kind", .string "object"), ("oneOf", .array [listedDocument])]

/-- One text, in a list, in an object. -/
def codesObject : Json := .object [("codes", .array [.string "a"])]

/-- Standard formats, and a custom validation under the name of a keyword for numbers. -/
def noMinimum : Environment := ⟨.builtin, Table.empty.insert "minimum" fun _ _ => some "not here"⟩

theorem codesObject_reaches_code :
    Relation.ReflTransGen (Site.Leads ⟨.builtin, true⟩ noMinimum)
      (.root codesDocument codesObject) ⟨"$['codes'][0]", codeDocument, .string "a"⟩ := by
  have ha : Site.Leads ⟨.builtin, true⟩ noMinimum (.root codesDocument codesObject)
      ⟨Locator.root, listedDocument, codesObject⟩ := by
    refine .alternative rfl rfl rfl ?_ (List.mem_singleton_self _)
    rintro w hw ⟨n, hn, hv⟩
    obtain rfl := List.mem_singleton.1 hw
    obtain rfl := Checked.ok.inj hn
    cases hv
  have hm : Site.Leads ⟨.builtin, true⟩ noMinimum ⟨Locator.root, listedDocument, codesObject⟩
      ⟨Locator.withKey Locator.root "codes", listDocument, .array [.string "a"]⟩ :=
    .member rfl rfl rfl rfl rfl (List.mem_singleton_self _)
  have he : Site.Leads ⟨.builtin, true⟩ noMinimum
      ⟨Locator.withKey Locator.root "codes", listDocument, .array [.string "a"]⟩
      ⟨Locator.withIndex (Locator.withKey Locator.root "codes") 0, codeDocument, .string "a"⟩ :=
    .element rfl rfl rfl rfl rfl
  exact .head ha (.head hm (.single he))

theorem code_heard :
    Checker.WellFormed ⟨.builtin, true⟩ codesDocument ∧
      "minimum" ∉ childKeywords ∧
      ∃ n, Checker.check ⟨.builtin, true⟩ codesDocument = .ok n ∧
        ⟨"$['codes'][0]", "", "not here", .string "a"⟩ ∈
          noMinimum.violations Locator.root n codesObject := by
  have hw : Checker.WellFormed ⟨.builtin, true⟩ codesDocument := by decide
  have hk : "minimum" ∉ childKeywords := by decide
  refine ⟨hw, hk, ?_⟩
  exact custom_validation_heard hw codesObject codesObject_reaches_code rfl hk rfl (fun _ => rfl)
    (by decide) (fun h => by cases h)

/-! ### Names of keywords that hold nodes -/

/-- A custom validation under the name of a keyword that holds nodes is never asked. -/
theorem violations_erase_childKeyword (env : Environment) (h : c.Compiles n)
    (hk : key ∈ childKeywords) (loc : String) (v : Json) :
    violations { env with customs := env.customs.erase key } loc n v = env.violations loc n v := by
  refine violations_eq_of_agreesOn (env.agreesOn_removeValidation ?_) loc v
  rintro ⟨m, hm, w, hw⟩
  obtain ⟨at', d, hd⟩ := Checker.compiles_of_within hm h
  have hl := lookup_isSome_iff_exists_mem.2 ⟨w, hw⟩
  rw [(Checker.took_of_node hd).source, Checker.lookup_ownKeys, if_pos hk] at hl
  cases hl

/-- An object with no members declared. -/
def bareDocument : Json := .object [("kind", .string "object"), ("properties", .object [])]

/-- A custom validation that rejects every value of a node with declared members. -/
def noProperties : Environment := ⟨.builtin, Table.empty.insert "properties" fun _ _ => some "seen"⟩

/-- The document has the key, and the custom validation is not heard. -/
theorem bareDocument_not_heard :
    Checker.WellFormed ⟨.builtin, true⟩ bareDocument ∧
      Relation.ReflTransGen (Site.Leads ⟨.builtin, true⟩ noProperties)
        (.root bareDocument (.object [])) (.root bareDocument (.object [])) ∧
      (bareDocument.written.lookup "properties").isSome = true ∧
      noProperties.customs.get? "properties" = some (fun _ _ => some "seen") ∧
      ¬ ∃ n, Checker.check ⟨.builtin, true⟩ bareDocument = .ok n ∧
        ∃ r ∈ noProperties.violations Locator.root n (.object []), r.message = "seen" := by
  refine ⟨by decide, .refl, rfl, rfl, ?_⟩
  rintro ⟨n, hn, r, hr, -⟩
  obtain rfl := Checked.ok.inj hn
  cases hr

end Environment

end ShapeCheck
