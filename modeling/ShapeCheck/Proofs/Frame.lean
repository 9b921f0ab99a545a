import ShapeCheck.Proofs.Agreement
import ShapeCheck.Proofs.Registration

/-!
# What a schema does not depend on

Formats and custom validations are looked up by name while a value is judged, at every node.  A
schema is therefore touched only by changes of the names that stand in it.

* `Node.NamesFormat`, `Node.HasKey`: the names that stand in a tree;
* `Environment.AgreesOn`: two environments give the same for each of them;
* `Environment.violations_eq_of_agreesOn`: then they judge values alike;
* `Operation.Spares`: the changes of a validator that do not concern a schema;
* `Operation.spared_schema_unmoved`: they leave what its name stands for as it is.
-/

namespace ShapeCheck

/-! ### The names in a tree -/

namespace Node

/-- A string node somewhere in the tree asks for the format. -/
def NamesFormat (n : Node) (name : String) : Prop :=
  ∃ (m : Node) (r : TextRules), m.Within n ∧ m.rules = .string r ∧ r.format = some name

/-- A node somewhere in the tree has the key, so a custom validation of this name runs on it. -/
def HasKey (n : Node) (name : String) : Prop :=
  ∃ m : Node, m.Within n ∧ ∃ v, (name, v) ∈ m.source

end Node

/-! ### Custom validations -/

namespace Customs

variable {source : Json.Members} {name : String}

theorem message?_of_not_key (h : ¬ ∃ v, (name, v) ∈ source) (value : Json) (f : Custom) :
    message? source value (name, f) = none := by
  rw [message?, if_neg (mt lookup_isSome_iff_exists_mem.1 h)]

/-- A custom validation that does not apply to a node says nothing about it. -/
theorem messages_insert (customs : Customs) (f : Custom) (h : ¬ ∃ v, (name, v) ∈ source)
    (value : Json) :
    Customs.messages (customs.insert name f) source value = customs.messages source value := by
  show (put name f customs.entries).filterMap (message? source value) = _
  rw [messages]
  generalize customs.entries = entries
  induction entries with
  | nil => simp [message?_of_not_key h]
  | cons entry rest ih =>
    obtain ⟨other, g⟩ := entry
    by_cases hn : other = name
    · subst hn
      simp [put, message?_of_not_key h]
    · rw [put, if_neg hn, List.filterMap_cons, List.filterMap_cons, ih]

theorem messages_erase (customs : Customs) (h : ¬ ∃ v, (name, v) ∈ source) (value : Json) :
    Customs.messages (customs.erase name) source value = customs.messages source value := by
  show (drop name customs.entries).filterMap (message? source value) = _
  rw [messages, drop, List.filterMap_filter]
  refine List.filterMap_congr fun entry _ => ?_
  obtain ⟨other, g⟩ := entry
  by_cases hn : other = name
  · subst hn
    simp [message?_of_not_key h]
  · simp [hn]

end Customs

/-! ### Environments -/

namespace Environment

/-- The environments have the same formats of the names that a tree asks for, and custom validations
that say the same of each of its nodes. -/
structure AgreesOn (env env' : Environment) (n : Node) : Prop where
  formats : ∀ name, n.NamesFormat name → env.formats.get? name = env'.formats.get? name
  messages : ∀ m : Node, m.Within n → ∀ v,
    env.customs.messages m.source v = env'.customs.messages m.source v

variable {env env' : Environment}

theorem AgreesOn.refl (env : Environment) (n : Node) : env.AgreesOn env n :=
  ⟨fun _ _ => rfl, fun _ _ _ => rfl⟩

theorem AgreesOn.child {n child : Node} (h : env.AgreesOn env' n) (hc : child ∈ n.children) :
    env.AgreesOn env' child := by
  refine ⟨fun name hf => ?_, fun m hm v => h.messages m (.step hc hm) v⟩
  obtain ⟨m, r, hm, hr, hf⟩ := hf
  exact h.formats name ⟨m, r, .step hc hm, hr, hf⟩

/-- The rules of a node report the same in environments that agree on it, if the nodes below do. -/
theorem rules_agree {required : Bool} {source : Json.Members} {rules : Rules}
    (h : env.AgreesOn env' (.mk required source rules))
    (ih : ∀ child ∈ rules.children, Node.Agree env env' child child) :
    rules.Agree env env' rules := by
  cases rules with
  | string r =>
    exact .text fun name hf => h.formats name ⟨_, r, .refl _, rfl, hf⟩
  | object properties additional oneOf =>
    have hp : List.Forall₂ (Named (Node.Agree env env')) properties properties := by
      refine List.forall₂_same.2 fun entry hm => ?_
      obtain ⟨name, n⟩ := entry
      exact .mk (ih n (List.mem_append_left _ (List.mem_map_of_mem hm)))
    have ha : additional.Agree env env' additional := by
      cases additional with
      | schema n =>
        refine .schema fun v => ?_
        rw [← violations_eq_nil_iff n Locator.root, ← violations_eq_nil_iff n Locator.root,
          (ih n (mem_children_of_additional (List.mem_singleton_self n))).violations]
      | _ => exact fun _ _ _ => rfl
    have ho : Option.Rel (List.Forall₂ (Node.Agree env env')) oneOf oneOf := by
      cases oneOf with
      | none => exact .none
      | some nodes =>
        exact .some (List.forall₂_same.2 fun n hn => ih n (mem_children_of_oneOf hn))
    exact .object hp ha ho
  | array items least most =>
    refine .array ?_ least most
    cases items with
    | free => exact fun _ _ => rfl
    | single n => exact .single (ih n (List.mem_singleton_self n))
    | alternatives nodes =>
      refine .alternatives fun v => exists_congr fun n => and_congr_right fun hn => ?_
      rw [← violations_eq_nil_iff n Locator.root, ← violations_eq_nil_iff n Locator.root,
        (ih n hn).violations]
  | _ => exact ⟨rfl, fun _ _ => rfl⟩

theorem agree_of_agreesOn {n : Node} (h : env.AgreesOn env' n) : n.Agree env env' n := by
  induction n using Node.inductionOn with
  | step n ih =>
    obtain ⟨required, source, rules⟩ := n
    exact Node.agree_mk (h.messages _ (.refl _)) (rules_agree h fun child hc =>
      ih child hc (h.child hc))

/-- Environments that agree on a tree judge values alike by it. -/
theorem violations_eq_of_agreesOn {n : Node} (h : env.AgreesOn env' n) (loc : String) (v : Json) :
    env.violations loc n v = env'.violations loc n v :=
  (agree_of_agreesOn h).violations loc v

/-! ### Changes of names that do not stand in a tree -/

variable {n : Node} {name : String}

theorem agreesOn_registerFormat (env : Environment) (f : Format) (h : ¬ n.NamesFormat name) :
    AgreesOn { env with formats := env.formats.insert name f } env n := by
  refine ⟨fun key hk => ?_, fun _ _ _ => rfl⟩
  have hne : key ≠ name := by
    rintro rfl
    exact h hk
  rw [Table.get?_insert, if_neg hne]

theorem agreesOn_addValidation (env : Environment) (f : Custom) (h : ¬ n.HasKey name) :
    AgreesOn { env with customs := env.customs.insert name f } env n :=
  ⟨fun _ _ => rfl, fun m hm => env.customs.messages_insert f fun hk => h ⟨m, hm, hk⟩⟩

theorem agreesOn_removeValidation (env : Environment) (h : ¬ n.HasKey name) :
    AgreesOn { env with customs := env.customs.erase name } env n :=
  ⟨fun _ _ => rfl, fun m hm => env.customs.messages_erase fun hk => h ⟨m, hm, hk⟩⟩

end Environment

/-! ### Changes of a validator -/

namespace Operation

/-- The change does not concern the schema of a name: it files or takes out another name, is a
registration that is refused, changes a format or a custom validation that the schema does not name,
or loads a directory without accepting a document of this name before the loading ends. -/
inductive Spares (v : Validator) (name : String) (s : Schema) : Operation → Prop where
  | registerOther {other : String} {document : Json} (h : other ≠ name) :
      Spares v name s (.register other document)
  | registerRefused {document : Json} (h : (v.register name document).1 ≠ []) :
      Spares v name s (.register name document)
  | unregisterOther {other : String} (h : other ≠ name) : Spares v name s (.unregister other)
  | registerFormat {format : String} {f : Format} (h : ¬ s.root.NamesFormat format) :
      Spares v name s (.registerFormat format f)
  | addValidation {key : String} {f : Custom} (h : ¬ s.root.HasKey key) :
      Spares v name s (.addValidation key f)
  | removeValidation {key : String} (h : ¬ s.root.HasKey key) :
      Spares v name s (.removeValidation key)
  | loadDirectory {fs : FileSystem} {dir : String}
      (h : name ∉ (v.accepted (Validator.documents fs dir)).map Prod.fst) :
      Spares v name s (.loadDirectory fs dir)

variable {v : Validator} {name : String} {s : Schema} {op : Operation}

theorem Spares.schema?_eq (h : op.Spares v name s) :
    (op.apply v).schema? name = v.schema? name := by
  cases h with
  | registerOther h => exact Validator.schema?_register_of_ne h.symm
  | registerRefused h => rw [apply, Validator.register_of_ne_nil h]
  | unregisterOther h => exact (Table.get?_erase _ _ _).trans (if_neg h.symm)
  | registerFormat => rfl
  | addValidation => rfl
  | removeValidation => rfl
  | loadDirectory h => rw [apply, Validator.loadDirectory_snd, Validator.schema?_registerAll h]

theorem Spares.agreesOn (h : op.Spares v name s) :
    (op.apply v).environment.AgreesOn v.environment s.root := by
  cases h with
  | registerOther => rw [apply, Validator.environment_register]; exact .refl _ _
  | registerRefused => rw [apply, Validator.environment_register]; exact .refl _ _
  | unregisterOther => exact .refl _ _
  | registerFormat h => exact v.environment.agreesOn_registerFormat _ h
  | addValidation h => exact v.environment.agreesOn_addValidation _ h
  | removeValidation h => exact v.environment.agreesOn_removeValidation h
  | loadDirectory => rw [apply, Validator.environment_loadDirectory]; exact .refl _ _

/-- **A change that does not concern the schema of a name leaves what the name stands for as it
is**: every value is reported to violate the same as before. -/
theorem spared_schema_unmoved (hs : v.schema? name = some s) (h : op.Spares v name s)
    (value : Json) :
    (op.apply v).validate (.named name) value = v.validate (.named name) value := by
  have hs' : (op.apply v).schemas.get? name = some s := h.schema?_eq.trans hs
  rw [Validator.schema?] at hs
  simp only [Validator.validate, hs, hs', Validator.validateCompiled, Environment.validate]
  exact Environment.violations_eq_of_agreesOn h.agreesOn Locator.root value

/-- A validator with a format of its own and a schema that asks for it. -/
def evenCodes : Validator :=
  ((Validator.new.registerFormat "even" (.predicate fun s => s.length % 2 == 0)).register "code"
    Validator.evenDocument).2

theorem within_evenSchema {m : Node} (h : m.Within Validator.evenSchema.root) :
    m = Validator.evenSchema.root := by
  cases h with
  | refl => rfl
  | step hc _ => exact absurd hc List.not_mem_nil

theorem evenCodes_unmoved :
    evenCodes.schema? "code" = some Validator.evenSchema ∧
      (evenCodes.validate (.named "code") (.string "abc")).length = 1 ∧
      ((register "code" (.string "strung")).apply evenCodes).validate (.named "code")
        (.string "abc") = evenCodes.validate (.named "code") (.string "abc") ∧
      ((registerFormat "odd" (.predicate fun _ => true)).apply evenCodes).validate (.named "code")
        (.string "abc") = evenCodes.validate (.named "code") (.string "abc") ∧
      ((addValidation "never" fun _ _ => some "never").apply evenCodes).validate (.named "code")
        (.string "abc") = evenCodes.validate (.named "code") (.string "abc") := by
  have hs : evenCodes.schema? "code" = some Validator.evenSchema := rfl
  have hr : (register "code" (.string "strung")).Spares evenCodes "code" Validator.evenSchema :=
    .registerRefused (List.cons_ne_nil _ _)
  have hf : (registerFormat "odd" (.predicate fun _ => true)).Spares evenCodes "code"
      Validator.evenSchema := by
    refine .registerFormat ?_
    rintro ⟨m, r, hm, hr, hf⟩
    rw [within_evenSchema hm] at hr
    cases hr
    simp at hf
  have ha : (addValidation "never" fun _ _ => some "never").Spares evenCodes "code"
      Validator.evenSchema := by
    refine .addValidation ?_
    rintro ⟨m, hm, v, hv⟩
    rw [within_evenSchema hm] at hv
    simp [Validator.evenSchema, Node.source] at hv
  exact ⟨hs, rfl, spared_schema_unmoved hs hr _, spared_schema_unmoved hs hf _,
    spared_schema_unmoved hs ha _⟩

end Operation

end ShapeCheck
