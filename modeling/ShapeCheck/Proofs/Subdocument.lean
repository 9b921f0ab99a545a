import ShapeCheck.Proofs.Blame
import ShapeCheck.Proofs.Position
import ShapeCheck.Proofs.Reordering
import ShapeCheck.Proofs.Written

/-!
# Documents inside a document

Keywords of objects and lists hold further documents.  Where these stand depends on the document
alone: neither on the formats that are known nor on the keywords that are refused.

* `Json.Place`: a value inside another, with the steps that lead to it;
* `Json.subdocuments`: the places directly below a document where documents are looked for;
* `Json.visited`: all such places, the document itself first;
* `Json.inductionOnSubdocuments`: induction with a hypothesis for what is directly below;
* `Json.reaches_of_mem_visited`: the steps of a place lead to its value;
* `Json.nodup_visited`: no two places have the same steps, unless some name stands twice.
-/

namespace ShapeCheck.Json

open Locator (Segment)

/-! ### Steps -/

theorem Reaches.append {u v w : Json} {ss ts : List Segment} (h : u.Reaches ss v)
    (h' : v.Reaches ts w) : u.Reaches (ss ++ ts) w := by
  induction h with
  | here => exact h'
  | member hm _ ih => exact .member hm (ih h')
  | element hi _ ih => exact .element hi (ih h')

theorem Reaches.single_key {ms : Members} {name : String} {v : Json}
    (h : ms.lookup name = some v) : (object ms).Reaches [.key name] v :=
  .member (mem_of_lookup h) (.here v)

/-- Steps lead downwards. -/
theorem Reaches.sizeOf_lt {v w : Json} {ss : List Segment} (h : v.Reaches ss w) (hs : ss ≠ []) :
    sizeOf w < sizeOf v := by
  induction h with
  | here => exact absurd rfl hs
  | @member ms name v w ss hm h ih =>
    have hv : sizeOf v < sizeOf (object ms) := sizeOf_lt_of_mem_children (mem_children_of_mem hm)
    by_cases hs : ss = []
    · subst hs
      cases h
      exact hv
    · exact (ih hs).trans hv
  | @element vs i v w ss hi h ih =>
    have hv : sizeOf v < sizeOf (array vs) :=
      sizeOf_lt_of_mem_children (List.mem_of_getElem? hi)
    by_cases hs : ss = []
    · subst hs
      cases h
      exact hv
    · exact (ih hs).trans hv

theorem Reaches.distinct {v w : Json} {ss : List Segment} (h : v.Reaches ss w) (hd : v.Distinct) :
    w.Distinct := by
  induction h with
  | here => exact hd
  | member hm _ ih => exact ih (hd.of_member hm)
  | element hi _ ih => exact ih (hd.of_mem_children (List.mem_of_getElem? hi))

/-- Without repeated names, steps lead to one value only. -/
theorem Reaches.unique {v w x : Json} {ss : List Segment} (hd : v.Distinct)
    (h : v.Reaches ss w) (h' : v.Reaches ss x) : x = w := by
  induction h with
  | here =>
    cases h'
    rfl
  | @member ms name v w ss hm h ih =>
    cases h' with
    | member hm' h' =>
      have he := (lookup_eq_some_iff_mem hd.names_nodup).2 hm
      rw [(lookup_eq_some_iff_mem hd.names_nodup).2 hm'] at he
      obtain rfl := Option.some.inj he
      exact ih (hd.of_member hm) h'
  | @element vs i v w ss hi h ih =>
    cases h' with
    | element hi' h' =>
      obtain rfl := Option.some.inj (hi'.symm.trans hi)
      exact ih (hd.of_mem_children (List.mem_of_getElem? hi)) h'

/-! ### Places -/

/-- A value inside another, with the steps that lead to it. -/
structure Place where
  steps : List Segment
  value : Json

/-- No steps lead on from both places. -/
def Place.Apart (p q : Place) : Prop := ∀ ss ts, p.steps ++ ss ≠ q.steps ++ ts

/-- A place behind some more steps. -/
def Place.behind (steps : List Segment) (p : Place) : Place := ⟨steps ++ p.steps, p.value⟩

@[simp] theorem Place.steps_behind (steps : List Segment) (p : Place) :
    (p.behind steps).steps = steps ++ p.steps := rfl

@[simp] theorem Place.value_behind (steps : List Segment) (p : Place) :
    (p.behind steps).value = p.value := rfl

/-- The value of a key as a place. -/
def keyPlace (key : String) (v : Json) : Place := ⟨[.key key], v⟩

/-- The members of the value of a key. -/
def memberPlaces (key : String) : Json → List Place
  | object ms => ms.map fun m => ⟨[.key key, .key m.1], m.2⟩
  | _ => []

/-- The elements of the value of a key. -/
def elementPlaces (key : String) : Json → List Place
  | array vs => vs.zipIdx.map fun x => ⟨[.key key, .index x.2], x.1⟩
  | _ => []

/-- What holds for members that are not declared is a document, unless it is true or false. -/
def additionalPlaces (v : Json) : List Place :=
  match v.bool? with
  | some _ => []
  | none => [keyPlace "additionalProperties" v]

/-- What holds for elements is a document or a list of documents. -/
def itemPlaces (v : Json) : List Place :=
  if v.isArray then elementPlaces "items" v else [keyPlace "items" v]

/-- The kind that a document declares. -/
def declared? (d : Json) : Option Kind :=
  (d.written.lookup "kind").bind fun v => v.text?.bind Kind.ofName?

/-- The places in the value of a key, if the document has the key. -/
def held (d : Json) (key : String) (places : Json → List Place) : List Place :=
  (d.written.lookup key).elim [] places

/-- The places directly below a document where documents are looked for. -/
def subdocuments (d : Json) : List Place :=
  match d.declared? with
  | some .object =>
    d.held "additionalProperties" additionalPlaces ++
      (d.held "properties" (memberPlaces "properties") ++
        d.held "oneOf" (elementPlaces "oneOf"))
  | some .array => d.held "items" itemPlaces
  | _ => []

/-! ### Places in the value of a key -/

/-- Places that a key leads to: the key is their first step, and the others lead through its value;
without repeated names they are apart. -/
structure LieIn (key : String) (v : Json) (ps : List Place) : Prop where
  below : ∀ p ∈ ps, ∃ rest, p.steps = .key key :: rest ∧ v.Reaches rest p.value
  apart : v.Distinct → ps.Pairwise Place.Apart

section LieIn

variable {key : String} {v : Json}

theorem lieIn_nil : LieIn key v [] := ⟨List.forall_mem_nil _, fun _ => .nil⟩

theorem lieIn_keyPlace : LieIn key v [keyPlace key v] := by
  refine ⟨?_, fun _ => List.pairwise_singleton _ _⟩
  rw [List.forall_mem_singleton]
  exact ⟨[], rfl, .here v⟩

theorem lieIn_memberPlaces : LieIn key v (memberPlaces key v) := by
  cases v with
  | object ms =>
    refine ⟨?_, fun hd => ?_⟩
    · rw [memberPlaces, List.forall_mem_map]
      exact fun m hm => ⟨[.key m.1], rfl, .member hm (.here m.2)⟩
    · rw [memberPlaces, List.pairwise_map]
      refine (List.pairwise_map.1 hd.names_nodup).imp fun hne ss ts he => hne ?_
      simpa using congrArg List.head? (congrArg List.tail he)
  | _ => exact lieIn_nil

theorem lieIn_elementPlaces : LieIn key v (elementPlaces key v) := by
  cases v with
  | array vs =>
    refine ⟨?_, fun _ => ?_⟩
    · rw [elementPlaces, List.forall_mem_map]
      exact fun x hx =>
        ⟨[.index x.2], rfl, .element (List.mem_zipIdx_iff_getElem?.1 hx) (.here x.1)⟩
    · rw [elementPlaces, List.pairwise_map]
      refine (Position.pairwise_zipIdx vs).imp fun hne ss ts he => hne ?_
      simpa using congrArg List.head? (congrArg List.tail he)
  | _ => exact lieIn_nil

theorem lieIn_additionalPlaces : LieIn "additionalProperties" v (additionalPlaces v) := by
  unfold additionalPlaces
  split
  · exact lieIn_nil
  · exact lieIn_keyPlace

theorem lieIn_itemPlaces : LieIn "items" v (itemPlaces v) := by
  unfold itemPlaces
  split
  · exact lieIn_elementPlaces
  · exact lieIn_keyPlace

end LieIn

/-! ### Places directly below -/

/-- A key other than that of the kind is one of an object as written. -/
theorem reaches_of_lookup_written {d v : Json} {key : String} (hk : key ≠ "kind")
    (h : d.written.lookup key = some v) : d.Reaches [.key key] v := by
  cases d with
  | object ms => exact .single_key h
  | string s =>
    rw [written, Checker.lookup_shorthand hk] at h
    cases h
  | _ => cases h

/-- Places below some keys of a document: the steps start with one of the keys and lead to the
values; without repeated names the places are apart. -/
structure StandBelow (d : Json) (keys : List String) (ps : List Place) : Prop where
  starts : ∀ p ∈ ps, ∃ key ∈ keys, ∃ rest, p.steps = .key key :: rest
  reaches : ∀ p ∈ ps, d.Reaches p.steps p.value
  apart : d.Distinct → ps.Pairwise Place.Apart

variable {d : Json}

theorem standBelow_nil : d.StandBelow [] [] :=
  ⟨List.forall_mem_nil _, List.forall_mem_nil _, fun _ => .nil⟩

theorem standBelow_held {key : String} {places : Json → List Place} (hk : key ≠ "kind")
    (h : ∀ v, LieIn key v (places v)) : d.StandBelow [key] (d.held key places) := by
  unfold held
  cases hl : d.written.lookup key with
  | none => exact ⟨List.forall_mem_nil _, List.forall_mem_nil _, fun _ => .nil⟩
  | some v =>
    refine ⟨fun p hp => ?_, fun p hp => ?_, fun hd => ?_⟩
    · obtain ⟨rest, hs, -⟩ := (h v).below p hp
      exact ⟨key, List.mem_singleton_self key, rest, hs⟩
    · obtain ⟨rest, hs, hv⟩ := (h v).below p hp
      rw [hs]
      exact (reaches_of_lookup_written hk hl).append hv
    · exact (h v).apart ((reaches_of_lookup_written hk hl).distinct hd)

/-- Places below different keys are apart from each other. -/
theorem StandBelow.append {keys keys' : List String} {ps qs : List Place}
    (h : d.StandBelow keys ps) (h' : d.StandBelow keys' qs) (hk : ∀ key ∈ keys, key ∉ keys') :
    d.StandBelow (keys ++ keys') (ps ++ qs) := by
  refine ⟨fun p hp => ?_, fun p hp => ?_, fun hd => ?_⟩
  · rcases List.mem_append.1 hp with hp | hp
    · obtain ⟨key, hm, hs⟩ := h.starts p hp
      exact ⟨key, List.mem_append_left _ hm, hs⟩
    · obtain ⟨key, hm, hs⟩ := h'.starts p hp
      exact ⟨key, List.mem_append_right _ hm, hs⟩
  · exact (List.mem_append.1 hp).elim (h.reaches p) (h'.reaches p)
  · refine List.pairwise_append.2 ⟨h.apart hd, h'.apart hd, fun p hp q hq ss ts he => ?_⟩
    obtain ⟨key, hm, rest, hs⟩ := h.starts p hp
    obtain ⟨key', hm', rest', hs'⟩ := h'.starts q hq
    rw [hs, hs', List.cons_append, List.cons_append, List.cons.injEq, Segment.key.injEq] at he
    exact hk key hm (he.1 ▸ hm')

theorem standBelow_subdocuments (d : Json) : ∃ keys, d.StandBelow keys d.subdocuments := by
  unfold subdocuments
  split
  · have ha : d.StandBelow _ (d.held "additionalProperties" additionalPlaces) :=
      standBelow_held (by decide) fun _ => lieIn_additionalPlaces
    have hp : d.StandBelow _ (d.held "properties" (memberPlaces "properties")) :=
      standBelow_held (by decide) fun _ => lieIn_memberPlaces
    have ho : d.StandBelow _ (d.held "oneOf" (elementPlaces "oneOf")) :=
      standBelow_held (by decide) fun _ => lieIn_elementPlaces
    exact ⟨_, ha.append (hp.append ho (by decide)) (by decide)⟩
  · exact ⟨_, standBelow_held (by decide) fun _ => lieIn_itemPlaces⟩
  · exact ⟨_, standBelow_nil⟩

theorem steps_ne_nil_of_mem_subdocuments {p : Place} (h : p ∈ d.subdocuments) : p.steps ≠ [] := by
  obtain ⟨keys, hk⟩ := d.standBelow_subdocuments
  obtain ⟨key, -, rest, hs⟩ := hk.starts p h
  rw [hs]
  exact List.cons_ne_nil _ _

theorem reaches_of_mem_subdocuments {p : Place} (h : p ∈ d.subdocuments) :
    d.Reaches p.steps p.value := by
  obtain ⟨keys, hk⟩ := d.standBelow_subdocuments
  exact hk.reaches p h

theorem pairwise_subdocuments (hd : d.Distinct) : d.subdocuments.Pairwise Place.Apart := by
  obtain ⟨keys, hk⟩ := d.standBelow_subdocuments
  exact hk.apart hd

theorem sizeOf_lt_of_mem_subdocuments {p : Place} (h : p ∈ d.subdocuments) :
    sizeOf p.value < sizeOf d :=
  (reaches_of_mem_subdocuments h).sizeOf_lt (steps_ne_nil_of_mem_subdocuments h)

/-- A property of documents holds if each document has it as soon as the documents directly below
do. -/
theorem inductionOnSubdocuments {motive : Json → Prop} (d : Json)
    (step : ∀ d, (∀ p ∈ d.subdocuments, motive p.value) → motive d) : motive d :=
  step d fun p _ => inductionOnSubdocuments p.value step
termination_by sizeOf d
decreasing_by exact sizeOf_lt_of_mem_subdocuments ‹_›

/-! ### All places -/

/-- All places of a document where documents are looked for: the document itself, then those below,
each before what is below it. -/
def visited (d : Json) : List Place :=
  ⟨[], d⟩ :: d.subdocuments.attach.flatMap fun p => (visited p.1.value).map (.behind p.1.steps)
termination_by sizeOf d
decreasing_by exact sizeOf_lt_of_mem_subdocuments p.2

theorem visited_eq (d : Json) :
    d.visited =
      ⟨[], d⟩ :: d.subdocuments.flatMap fun p => p.value.visited.map (.behind p.steps) := by
  rw [visited]
  simp only [List.flatMap_subtype, List.unattach_attach]

/-- A place is the document itself or a place of a document directly below. -/
theorem mem_visited_iff {q : Place} :
    q ∈ d.visited ↔
      q = ⟨[], d⟩ ∨ ∃ p ∈ d.subdocuments, ∃ r ∈ p.value.visited, q = r.behind p.steps := by
  rw [visited_eq, List.mem_cons, List.mem_flatMap]
  simp only [List.mem_map, eq_comm]

/-- The steps of a place lead to its value. -/
theorem reaches_of_mem_visited {q : Place} (h : q ∈ d.visited) : d.Reaches q.steps q.value := by
  induction d using inductionOnSubdocuments generalizing q with
  | step d ih =>
    rcases mem_visited_iff.1 h with rfl | ⟨p, hp, r, hr, rfl⟩
    · exact .here d
    · exact (reaches_of_mem_subdocuments hp).append (ih p hp hr)

/-- Without repeated names, no two places have the same steps. -/
theorem nodup_visited (hd : d.Distinct) : (d.visited.map Place.steps).Nodup := by
  induction d using inductionOnSubdocuments with
  | step d ih =>
    rw [visited_eq, List.map_cons, List.nodup_cons, List.map_flatMap, List.nodup_flatMap]
    simp only [List.map_map]
    refine ⟨fun h => ?_, fun p hp => ?_, ?_⟩
    · obtain ⟨p, hp, h⟩ := List.mem_flatMap.1 h
      obtain ⟨r, -, he⟩ := List.mem_map.1 h
      exact steps_ne_nil_of_mem_subdocuments hp (List.append_eq_nil_iff.1 he).1
    · have hn := ih p hp ((reaches_of_mem_subdocuments hp).distinct hd)
      have hs : p.value.visited.map (Place.steps ∘ Place.behind p.steps) =
          (p.value.visited.map Place.steps).map (p.steps ++ ·) := by
        rw [List.map_map]
        rfl
      rw [hs]
      exact hn.map (List.append_right_injective p.steps)
    · refine (pairwise_subdocuments hd).imp fun {p q} ha => List.disjoint_left.2 fun ss h h' => ?_
      obtain ⟨r, -, rfl⟩ := List.mem_map.1 h
      obtain ⟨r', -, he⟩ := List.mem_map.1 h'
      exact ha _ _ he.symm

end ShapeCheck.Json
