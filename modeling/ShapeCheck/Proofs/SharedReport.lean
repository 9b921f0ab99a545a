import ShapeCheck.Proofs.Reroot

/-!
# Checking with a shared report

A document can be checked with one report to which all parts write.  A part that fails leaves
something in place of its value, and a node is given up if the report has grown since its check
began. What was in the report before makes no difference, and the outcome is the one of
`Checker.node`.

* `Checked.pour`: the value of a check or another one instead, with its violations written;
* `Checker.nodeInto`: the node of a document, with all that is wrong written to the shared report;
* `Writes`: a part writes the violations of a check, and gives its value if there are none;
* `Checker.nodeInto_yields`: the node and the report after a check;
* `violations_rerooted`: reports at any locator, behind any report, are the reports at the root with
  the locator for the root.
-/

namespace ShapeCheck

open Json (Members)

/-! ### Parts that write to a shared report -/

/-- Write to the end of the shared report. -/
def write (r : Report) : StateM Report Unit := modify (· ++ r)

/-- The value of a check or another one instead, with its violations written. -/
def Checked.pour {α : Type} (c : Checked α) (instead : α) : StateM Report α := do
  write c.errors
  pure (c.value?.getD instead)

/-- One part after the other. -/
def alongside {α β : Type} (m : StateM Report α) (k : StateM Report β) : StateM Report (α × β) := do
  let a ← m
  let b ← k
  pure (a, b)

/-- What a part gives, unless the report has grown meanwhile. -/
def unlessGrown {α : Type} (m : StateM Report (Option α)) : StateM Report (Option α) := do
  let before := (← get).length
  let a ← m
  if before < (← get).length then pure none else pure a

namespace Checker

/-- The elements of an enumeration that are sound. -/
def enumElementsInto {α : Type} (element : Json → Option α) (message base : String) :
    Nat → List Json → StateM Report (List α)
  | _, [] => pure []
  | i, v :: rest => do
    if (element v).isNone then write [⟨Locator.withIndex base i, "", message, v⟩]
    let more ← enumElementsInto element message base (i + 1) rest
    pure ((element v).toList ++ more)

/-- A list of allowed values. -/
def enumerationInto {α : Type} (element : Json → Option α) (message loc : String) (ms : Members) :
    StateM Report (Option (List α)) :=
  match ms.lookup "enum" with
  | none => pure none
  | some (.array vs) => some <$> enumElementsInto element message (Locator.withKey loc "enum") 0 vs
  | some v => do
    write [⟨loc, "enum", typeMessage "array", .string v.typeName⟩]
    pure none

/-- The keywords of strings. -/
def textRulesInto (c : Checker) (loc : String) (ms : Members) : StateM Report TextRules :=
  let lengths := alongside ((count loc "minLength" ms).pour none)
    ((count loc "maxLength" ms).pour none)
  let names := alongside ((pattern loc ms).pour none) ((c.format loc ms).pour none)
  let allowed := enumerationInto Json.text? (typeMessage "string") loc ms
  (fun ((least, most), (p, f), allowed) => ⟨least, most, p, f, allowed⟩) <$>
    alongside lengths (alongside names allowed)

/-- The keywords of numbers. -/
def numberRulesInto (integral : Bool) (loc : String) (ms : Members) : StateM Report NumberRules :=
  let bounds := alongside ((bound integral loc "minimum" "exclusiveMinimum" ms).pour none)
    ((bound integral loc "maximum" "exclusiveMaximum" ms).pour none)
  let allowed := enumerationInto (number? integral) (numberMessage integral) loc ms
  (fun ((least, most), allowed) => ⟨least, most, allowed⟩) <$> alongside bounds allowed

/-- The rules of the declared kind, if it is one. -/
def kindRulesInto (c : Checker) (loc : String) (ms : Members) (declared : Json)
    (object array : StateM Report Rules) : StateM Report (Option Rules) :=
  match declared.text?.bind Kind.ofName? with
  | some .string => (some ∘ .string) <$> c.textRulesInto loc ms
  | some .number => (some ∘ .number) <$> numberRulesInto false loc ms
  | some .integer => (some ∘ .integer) <$> numberRulesInto true loc ms
  | some .boolean => pure (some .boolean)
  | some .null => pure (some .null)
  | some .any => pure (some .any)
  | some .object => some <$> object
  | some .array => some <$> array
  | none => do
    write [⟨loc, "kind", choiceMessage (Kind.all.map Kind.name), declared⟩]
    pure none

/-- A node of its own keys and of the rules for the nodes below, given up if anything was
written. -/
def assembleInto (c : Checker) (loc : String) (ms : Members) (object array : StateM Report Rules) :
    StateM Report (Option Node) :=
  match ms.lookup "kind" with
  | none => do
    write [⟨loc, "", "must contain [kind] property", .null⟩]
    pure none
  | some declared =>
    let required := (flag loc "required" ms).pour false
    let supported := write (c.unsupported loc ms)
    let rules := c.kindRulesInto loc ms declared object array
    unlessGrown ((fun ((required, _), rules) => rules.map (.mk required (ownKeys ms))) <$>
      alongside (alongside required supported) rules)

mutual

/-- The node of a document at a locator, if it is well formed. -/
def nodeInto (c : Checker) (loc : String) : Json → StateM Report (Option Node)
  | .string kind =>
    c.assembleInto loc (shorthand kind) (pure (.object [] .forbidden none))
      (pure (.array .free none none))
  | .object ms =>
    c.assembleInto loc ms
      ((fun (additional, properties, oneOf) => .object properties additional oneOf) <$>
        alongside (c.additionalInto loc ms)
          (alongside (c.propertiesInto loc ms) (c.oneOfInto loc ms)))
      ((fun (items, least, most) => .array items least most) <$>
        alongside (c.itemsInto loc ms)
          (alongside ((count loc "minItems" ms).pour none) ((count loc "maxItems" ms).pour none)))
  | v => do
    write [⟨loc, "", "must be of type [object] and not null", .string v.typeName⟩]
    pure none
termination_by structural v => v

/-- What becomes of members that are not declared; they are forbidden if their node is not well
formed. -/
def additionalInto (c : Checker) (loc : String) : Members → StateM Report Additional
  | [] => pure .forbidden
  | (name, v) :: rest =>
    if name = "additionalProperties" then
      match v.bool? with
      | some false => pure .forbidden
      | some true => pure .allowed
      | none =>
        (Option.elim · .forbidden .schema) <$>
          c.nodeInto (Locator.withKey loc "additionalProperties") v
    else c.additionalInto loc rest
termination_by structural ms => ms

/-- The declared members whose nodes are well formed. -/
def propertiesInto (c : Checker) (loc : String) : Members → StateM Report (List (String × Node))
  | [] => pure []
  | (name, v) :: rest =>
    if name = "properties" then
      match v with
      | .object declared => c.memberNodesInto (Locator.withKey loc "properties") declared
      | _ => do
        write [⟨loc, "properties", typeMessage "object", .string v.typeName⟩]
        pure []
    else c.propertiesInto loc rest
termination_by structural ms => ms

/-- The alternatives that are well formed. -/
def oneOfInto (c : Checker) (loc : String) : Members → StateM Report (Option (List Node))
  | [] => pure none
  | (name, v) :: rest =>
    if name = "oneOf" then
      match v with
      | .array vs => some <$> c.elementNodesInto (Locator.withKey loc "oneOf") 0 vs
      | _ => do
        write [⟨loc, "oneOf", typeMessage "array", .string v.typeName⟩]
        pure none
    else c.oneOfInto loc rest
termination_by structural ms => ms

/-- What is asked of elements; nothing if their node is not well formed. -/
def itemsInto (c : Checker) (loc : String) : Members → StateM Report Items
  | [] => pure .free
  | (name, v) :: rest =>
    if name = "items" then
      if v.isArray then .alternatives <$> c.listNodesInto (Locator.withKey loc "items") v
      else (Option.elim · .free .single) <$> c.nodeInto (Locator.withKey loc "items") v
    else c.itemsInto loc rest
termination_by structural ms => ms

/-- The nodes of the elements of a value, if it is a list. -/
def listNodesInto (c : Checker) (base : String) : Json → StateM Report (List Node)
  | .array vs => c.elementNodesInto base 0 vs
  | _ => pure []
termination_by structural v => v

/-- The nodes of the members of an object that are well formed. -/
def memberNodesInto (c : Checker) (base : String) : Members → StateM Report (List (String × Node))
  | [] => pure []
  | (name, v) :: rest =>
    (fun (n, more) => (n.map fun n => (name, n)).toList ++ more) <$>
      alongside (c.nodeInto (Locator.withKey base name) v) (c.memberNodesInto base rest)
termination_by structural ms => ms

/-- The nodes of the elements of a list that are well formed, from an index on. -/
def elementNodesInto (c : Checker) (base : String) (i : Nat) : List Json → StateM Report (List Node)
  | [] => pure []
  | v :: rest =>
    (fun (n, more) => n.toList ++ more) <$>
      alongside (c.nodeInto (Locator.withIndex base i) v) (c.elementNodesInto base (i + 1) rest)
termination_by structural vs => vs

end

end Checker

/-! ### What parts write -/

namespace Checked

variable {α β γ : Type}

theorem map_both_some {c : Checked α} {d : Checked β} {f : α × Option β → Option γ}
    {g : α × β → γ} (h : ∀ a b, f (a, some b) = some (g (a, b))) :
    (c.both (d.map some)).map f = ((c.both d).map g).map some := by
  cases c <;> cases d <;> simp [both, map, h]

theorem map_some_both {c : Checked α} {d : Checked β} {f : Option α × β → γ} {g : α × β → γ}
    (h : ∀ a b, f (some a, b) = g (a, b)) : ((c.map some).both d).map f = (c.both d).map g := by
  cases c <;> cases d <;> simp [both, map, h]

end Checked

/-- A part writes the violations of a check, and gives its value if there are none. -/
def Writes {α : Type} (m : StateM Report α) (c : Checked α) : Prop :=
  ∀ shared, (m.run shared).2 = shared ++ c.errors ∧ ∀ a, c = .ok a → (m.run shared).1 = a

namespace Writes

variable {α β : Type}

theorem pure (a : α) : Writes (Pure.pure a) (.ok a) := by
  intro shared
  refine ⟨(List.append_nil shared).symm, ?_⟩
  rintro b ⟨⟩
  rfl

theorem pour (c : Checked α) (instead : α) : Writes (c.pour instead) c := by
  intro shared
  refine ⟨rfl, ?_⟩
  rintro a rfl
  rfl

theorem write (r : Report) : Writes (ShapeCheck.write r) (.ofReport () r) := by
  intro shared
  rw [Checked.errors_ofReport]
  exact ⟨rfl, fun _ _ => rfl⟩

/-- One violation is written, and something is given instead of a value. -/
theorem fail (loc field message : String) (actual : Json) (instead : α) :
    Writes (do ShapeCheck.write [⟨loc, field, message, actual⟩]; Pure.pure instead)
      (.fail loc field message actual) :=
  pour (.fail loc field message actual) instead

theorem map {m : StateM Report α} {c : Checked α} (h : Writes m c) (f : α → β) :
    Writes (f <$> m) (c.map f) := by
  intro shared
  refine ⟨?_, fun b hb => ?_⟩
  · rw [Checked.errors_map]
    exact (h shared).1
  · obtain ⟨a, ha, rfl⟩ := Checked.map_eq_ok_iff.1 hb
    exact congrArg f ((h shared).2 a ha)

theorem alongside {m : StateM Report α} {k : StateM Report β} {c : Checked α} {d : Checked β}
    (hm : Writes m c) (hk : Writes k d) : Writes (alongside m k) (c.both d) := by
  intro shared
  refine ⟨?_, ?_⟩
  · show (k.run (m.run shared).2).2 = _
    rw [(hk _).1, (hm _).1, Checked.errors_both, List.append_assoc]
  · rintro ⟨a, b⟩ hab
    obtain ⟨ha, hb⟩ := Checked.both_eq_ok_iff.1 hab
    exact Prod.ext ((hm shared).2 a ha) ((hk _).2 b hb)

end Writes

/-- A part writes the violations of a check, and gives its value exactly if there are none. -/
def Yields {α : Type} (m : StateM Report (Option α)) (c : Checked α) : Prop :=
  ∀ shared, m.run shared = (c.value?, shared ++ c.errors)

theorem Yields.writes {α : Type} {m : StateM Report (Option α)} {c : Checked α} (h : Yields m c) :
    Writes m (c.map some) := by
  intro shared
  rw [h shared, Checked.errors_map]
  refine ⟨rfl, fun o ho => ?_⟩
  obtain ⟨a, rfl, rfl⟩ := Checked.map_eq_ok_iff.1 ho
  rfl

/-- The report has grown exactly if there was something to write. -/
theorem unlessGrown_yields {α : Type} {m : StateM Report (Option α)} {c : Checked α}
    (h : Writes m (c.map some)) : Yields (unlessGrown m) c := by
  intro shared
  obtain ⟨hs, hv⟩ := h shared
  have hr : (unlessGrown m).run shared =
      (if shared.length < (m.run shared).2.length then none else (m.run shared).1,
        (m.run shared).2) := by
    show StateT.run (if shared.length < (m.run shared).2.length then Pure.pure none
      else Pure.pure (m.run shared).1) (m.run shared).2 = _
    split <;> rfl
  rw [hr, hs, Checked.errors_map, List.length_append]
  cases c with
  | ok a =>
    rw [if_neg (by simp), hv (some a) rfl]
    rfl
  | bad first rest =>
    rw [if_pos (by simp)]
    rfl

theorem Yields.writes_elim {α β : Type} {m : StateM Report (Option α)} {c : Checked α}
    (h : Yields m c) (instead : β) (f : α → β) :
    Writes ((Option.elim · instead f) <$> m) (c.map f) := by
  have hw := h.writes.map (Option.elim · instead f)
  cases c <;> exact hw

namespace Checker

section Keywords

variable {c : Checker} {loc : String} {ms : Members}

theorem enumElementsInto_writes {α : Type} (element : Json → Option α) (message base : String)
    (i : Nat) (vs : List Json) :
    Writes (enumElementsInto element message base i vs)
      (enumElements element message base i vs) := by
  induction vs generalizing i with
  | nil => exact .pure _
  | cons v rest ih =>
    intro shared
    cases hv : element v with
    | none =>
      have hrest := ih (i + 1) (shared ++ [⟨Locator.withIndex base i, "", message, v⟩])
      simp only [enumElementsInto, enumElements, hv, Checked.errors_map, Checked.errors_both,
        Checked.errors_fail]
      refine ⟨?_, fun as has => ?_⟩
      · rw [← List.append_assoc]
        exact hrest.1
      · obtain ⟨⟨a, more⟩, hb, -⟩ := Checked.map_eq_ok_iff.1 has
        exact absurd (Checked.both_eq_ok_iff.1 hb).1 (Checked.fail_ne_ok _ _ _ _ _)
    | some a =>
      have hrest := ih (i + 1) shared
      simp only [enumElementsInto, enumElements, hv, Checked.errors_map, Checked.errors_both,
        Checked.errors_ok, List.nil_append]
      refine ⟨hrest.1, fun as has => ?_⟩
      obtain ⟨⟨a', more⟩, hb, rfl⟩ := Checked.map_eq_ok_iff.1 has
      obtain ⟨ha, hm⟩ := Checked.both_eq_ok_iff.1 hb
      cases ha
      exact congrArg (a :: ·) (hrest.2 more hm)

theorem enumerationInto_writes {α : Type} (element : Json → Option α) (message : String) :
    Writes (enumerationInto element message loc ms) (enumeration element message loc ms) := by
  unfold enumerationInto enumeration
  cases ms.lookup "enum" with
  | none => exact .pure _
  | some v =>
    cases v with
    | array vs => exact (enumElementsInto_writes element message _ 0 vs).map some
    | _ => exact .fail _ _ _ _ _

theorem textRulesInto_writes : Writes (c.textRulesInto loc ms) (c.textRules loc ms) :=
  (((Writes.pour _ _).alongside (.pour _ _)).alongside
    (((Writes.pour _ _).alongside (.pour _ _)).alongside (enumerationInto_writes _ _))).map _

theorem numberRulesInto_writes (integral : Bool) :
    Writes (numberRulesInto integral loc ms) (numberRules integral loc ms) :=
  (((Writes.pour _ _).alongside (.pour _ _)).alongside (enumerationInto_writes _ _)).map _

theorem kindRulesInto_writes {declared : Json} {object array : StateM Report Rules}
    {object' array' : Unit → Checked Rules} (ho : Writes object (object' ()))
    (ha : Writes array (array' ())) :
    Writes (c.kindRulesInto loc ms declared object array)
      ((c.kindRules loc ms declared object' array').map some) := by
  unfold kindRulesInto kindRules
  cases declared.text?.bind Kind.ofName? with
  | none => exact .fail _ _ _ _ _
  | some k =>
    cases k with
    | string => exact (textRulesInto_writes.map Rules.string).map some
    | number => exact ((numberRulesInto_writes false).map Rules.number).map some
    | integer => exact ((numberRulesInto_writes true).map Rules.integer).map some
    | boolean | null | any => exact .pure _
    | object => exact ho.map some
    | array => exact ha.map some

theorem assembleInto_yields {object array : StateM Report Rules}
    {object' array' : Unit → Checked Rules} (ho : Writes object (object' ()))
    (ha : Writes array (array' ())) :
    Yields (c.assembleInto loc ms object array) (c.assemble loc ms object' array') := by
  unfold assembleInto assemble
  cases ms.lookup "kind" with
  | none => exact fun shared => rfl
  | some declared =>
    have hk : Writes (c.kindRulesInto loc ms declared object array)
        ((c.kindRules loc ms declared object' array').map some) := kindRulesInto_writes ho ha
    have hw := (((Writes.pour (flag loc "required" ms) false).alongside
      (.write (c.unsupported loc ms))).alongside hk).map
        fun p => p.2.map (Node.mk p.1.1 (ownKeys ms))
    rw [Checked.map_both_some (g := fun p => .mk p.1.1 (ownKeys ms) p.2) fun _ _ => rfl] at hw
    exact unlessGrown_yields hw

end Keywords

/-! ### Documents -/

mutual

theorem nodeInto_yields (c : Checker) (loc : String) :
    (d : Json) → Yields (c.nodeInto loc d) (c.node loc d)
  | .string kind => by
    unfold nodeInto node
    exact assembleInto_yields (.pure _) (.pure _)
  | .object ms => by
    unfold nodeInto node
    refine assembleInto_yields ?_ ?_
    · exact ((additionalInto_writes c loc ms).alongside
        ((propertiesInto_writes c loc ms).alongside (oneOfInto_writes c loc ms))).map _
    · exact ((itemsInto_writes c loc ms).alongside ((Writes.pour _ _).alongside (.pour _ _))).map _
  | .null | .bool _ | .number _ | .array _ => fun _ => rfl
termination_by structural d => d

theorem additionalInto_writes (c : Checker) (loc : String) :
    (ms : Members) → Writes (c.additionalInto loc ms) (c.additional loc ms)
  | [] => .pure _
  | (name, v) :: rest => by
    unfold additionalInto additional
    by_cases hn : name = "additionalProperties"
    · rw [if_pos hn, if_pos hn]
      cases v.bool? with
      | some b => cases b <;> exact .pure _
      | none =>
        exact (nodeInto_yields c (Locator.withKey loc "additionalProperties") v).writes_elim _ _
    · rw [if_neg hn, if_neg hn]
      exact additionalInto_writes c loc rest
termination_by structural ms => ms

theorem propertiesInto_writes (c : Checker) (loc : String) :
    (ms : Members) → Writes (c.propertiesInto loc ms) (c.properties loc ms)
  | [] => .pure _
  | (name, v) :: rest => by
    by_cases hn : name = "properties"
    · cases v with
      | object declared =>
        simp only [propertiesInto, properties, if_pos hn]
        exact memberNodesInto_writes c (Locator.withKey loc "properties") declared
      | _ =>
        simp only [propertiesInto, properties, if_pos hn]
        exact .fail _ _ _ _ _
    · unfold propertiesInto properties
      rw [if_neg hn, if_neg hn]
      exact propertiesInto_writes c loc rest
termination_by structural ms => ms

theorem oneOfInto_writes (c : Checker) (loc : String) :
    (ms : Members) → Writes (c.oneOfInto loc ms) (c.oneOf loc ms)
  | [] => .pure _
  | (name, v) :: rest => by
    by_cases hn : name = "oneOf"
    · cases v with
      | array vs =>
        simp only [oneOfInto, oneOf, if_pos hn]
        exact (elementNodesInto_writes c (Locator.withKey loc "oneOf") 0 vs).map some
      | _ =>
        simp only [oneOfInto, oneOf, if_pos hn]
        exact .fail _ _ _ _ _
    · unfold oneOfInto oneOf
      rw [if_neg hn, if_neg hn]
      exact oneOfInto_writes c loc rest
termination_by structural ms => ms

theorem itemsInto_writes (c : Checker) (loc : String) :
    (ms : Members) → Writes (c.itemsInto loc ms) (c.items loc ms)
  | [] => .pure _
  | (name, v) :: rest => by
    unfold itemsInto items
    by_cases hn : name = "items"
    · rw [if_pos hn, if_pos hn]
      by_cases ha : v.isArray = true
      · rw [if_pos ha, if_pos ha]
        exact (listNodesInto_writes c (Locator.withKey loc "items") v).map Items.alternatives
      · rw [if_neg ha, if_neg ha]
        exact (nodeInto_yields c (Locator.withKey loc "items") v).writes_elim _ _
    · rw [if_neg hn, if_neg hn]
      exact itemsInto_writes c loc rest
termination_by structural ms => ms

theorem listNodesInto_writes (c : Checker) (base : String) :
    (v : Json) → Writes (c.listNodesInto base v) (c.listNodes base v)
  | .array vs => by
    unfold listNodesInto listNodes
    exact elementNodesInto_writes c base 0 vs
  | .null | .bool _ | .number _ | .string _ | .object _ => .pure _
termination_by structural v => v

theorem memberNodesInto_writes (c : Checker) (base : String) :
    (ms : Members) → Writes (c.memberNodesInto base ms) (c.memberNodes base ms)
  | [] => .pure _
  | (name, v) :: rest => by
    have hw := ((nodeInto_yields c (Locator.withKey base name) v).writes.alongside
      (memberNodesInto_writes c base rest)).map
        fun (n, more) => (n.map fun n => (name, n)).toList ++ more
    rw [Checked.map_some_both (g := fun (n, more) => (name, n) :: more) fun _ _ => rfl] at hw
    exact hw
termination_by structural ms => ms

theorem elementNodesInto_writes (c : Checker) (base : String) (i : Nat) :
    (vs : List Json) → Writes (c.elementNodesInto base i vs) (c.elementNodes base i vs)
  | [] => .pure _
  | v :: rest => by
    have hw := ((nodeInto_yields c (Locator.withIndex base i) v).writes.alongside
      (elementNodesInto_writes c base (i + 1) rest)).map fun (n, more) => n.toList ++ more
    rw [Checked.map_some_both (g := fun (n, more) => n :: more) fun _ _ => rfl] at hw
    exact hw
termination_by structural vs => vs

end

end Checker

/-- **Reports at any locator are the reports at the root with the locator for the root.**  What is
reported of a value at a locator is what is reported at the root, and a check at a locator that
writes to a report gives what a check at the root gives, and leaves the report followed by what is
found at the root, each time with the locator in place of the root and nothing else changed. -/
theorem violations_rerooted (p : String) :
    (∀ (env : Environment) (n : Node) (v : Json),
      (∀ r ∈ env.violations Locator.root n v, ∃ rest, r.locator = Locator.root ++ rest) ∧
        env.violations p n v = (env.violations Locator.root n v).map (Violation.reroot p)) ∧
      ∀ (c : Checker) (d : Json) (shared : Report),
        (∀ r ∈ (c.check d).errors, ∃ rest, r.locator = Locator.root ++ rest) ∧
          (c.nodeInto Locator.root d).run [] = ((c.check d).value?, (c.check d).errors) ∧
          (c.nodeInto p d).run shared =
            (((c.nodeInto Locator.root d).run []).1, shared ++
              ((c.nodeInto Locator.root d).run []).2.map (Violation.reroot p)) := by
  refine ⟨fun env n v => ⟨?_, env.violations_eq_map_reroot p n v⟩, fun c d shared => ?_⟩
  · rw [env.violations_eq_map_under]
    exact Violation.exists_of_mem_map_under
  · have hr : (c.nodeInto Locator.root d).run [] = ((c.check d).value?, (c.check d).errors) :=
      c.nodeInto_yields Locator.root d []
    refine ⟨?_, hr, ?_⟩
    · rw [Checker.check, c.node_eq_under, Checked.errors_under]
      exact Violation.exists_of_mem_map_under
    · rw [hr, c.nodeInto_yields p d shared, c.value?_node, c.errors_node_eq_map_reroot]

end ShapeCheck
