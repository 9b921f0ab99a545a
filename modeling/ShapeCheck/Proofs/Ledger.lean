import ShapeCheck.Proofs.History
import ShapeCheck.Proofs.Registration

/-!
# Validators and their histories

The three tables of a validator are told by the changes that it has undergone.

* `Validator.unused`, `Validator.run`: a validator with which nothing was filed, and one after
  changes;
* `Validator.schemaHistory`: the registrations that succeeded and the names that were taken out;
* `customHistory`, `formatHistory`: what has become of custom validations and formats;
* `follows_schemas_apply`, `follows_customs_apply`, `formats_apply`: what one change does to each
  table, and `follows_schemas_run`, `follows_customs_run`, `formats_run`: what a run does;
* `Reachable.exists_run`: every validator in use is an unused one after changes;
* `Customs.messages_eq_filterMap_names`: which custom validations a node hears from;
* `Validator.tables_follow_history`: the tables of a validator at every moment.
-/

namespace ShapeCheck

open Table (History Step Follows)

/-! ### What a change puts on record -/

namespace Operation

/-- The documents that are accepted and the name that is taken out. -/
def schemaSteps (v : Validator) : Operation → History Json
  | register name document =>
    (v.accepted [(name, document)]).map fun entry => .insert entry.1 entry.2
  | unregister name => [.erase name]
  | loadDirectory fs dir =>
    (v.accepted (Validator.documents fs dir)).map fun entry => .insert entry.1 entry.2
  | _ => []

/-- The custom validation that is filed or taken out. -/
def customSteps : Operation → History Custom
  | addValidation name f => [.insert name f]
  | removeValidation name => [.erase name]
  | _ => []

/-- The format that is filed. -/
def formatEntries : Operation → List (String × Format)
  | registerFormat name f => [(name, f)]
  | _ => []

end Operation

namespace Validator

/-- A validator that nothing has been filed with, with its two settings. -/
def unused (checkSchema rejectUnsupported : Bool) : Validator :=
  ⟨.builtin, .empty, .empty, checkSchema, rejectUnsupported⟩

/-- The validator after changes. -/
def run (v : Validator) (ops : List Operation) : Validator := ops.foldl (fun v op => op.apply v) v

@[simp] theorem run_nil (v : Validator) : v.run [] = v := rfl

@[simp] theorem run_cons (v : Validator) (op : Operation) (ops : List Operation) :
    v.run (op :: ops) = (op.apply v).run ops := rfl

/-- What changes of a validator do to its schemas. -/
def schemaHistory (v : Validator) : List Operation → History Json
  | [] => []
  | op :: rest => op.schemaSteps v ++ (op.apply v).schemaHistory rest

end Validator

/-- What changes do to custom validations. -/
def customHistory (ops : List Operation) : History Custom := ops.flatMap Operation.customSteps

/-- The formats that changes file. -/
def formatHistory (ops : List Operation) : List (String × Format) :=
  ops.flatMap Operation.formatEntries

/-! ### One change -/

theorem follows_schemas_registerAll {v : Validator} {log : History Json}
    (h : v.schemas.Follows Schema.document log) (entries : List (String × Json)) :
    (v.registerAll entries).schemas.Follows Schema.document
      (log ++ (v.accepted entries).map fun entry => .insert entry.1 entry.2) := by
  induction entries generalizing v log with
  | nil => simpa [Validator.accepted] using h
  | cons entry rest ih =>
    rw [Validator.accepted_cons, List.map_append, ← List.append_assoc, Validator.registerAll_cons]
    refine ih ?_
    by_cases he : (v.register entry.1 entry.2).1 = []
    · obtain ⟨s, hs⟩ := Validator.register_fst_eq_nil_iff.1 he
      have hi := h.insert entry.1 s
      rw [Schema.document_of_compile hs] at hi
      rw [Validator.accepted_of_nil he, Validator.register_of_ok hs]
      exact hi
    · rw [Validator.accepted_of_ne_nil he, Validator.register_of_ne_nil he, List.map_nil,
        List.append_nil]
      exact h

theorem follows_schemas_apply {v : Validator} {log : History Json}
    (h : v.schemas.Follows Schema.document log) (op : Operation) :
    (op.apply v).schemas.Follows Schema.document (log ++ op.schemaSteps v) := by
  have hn : v.schemas.Follows Schema.document (log ++ []) := by rwa [List.append_nil]
  cases op with
  | register name document => exact follows_schemas_registerAll h [(name, document)]
  | unregister name => exact h.erase name
  | loadDirectory fs dir =>
    rw [Operation.apply, Validator.loadDirectory_snd]
    exact follows_schemas_registerAll h _
  | _ => exact hn

theorem follows_customs_apply {v : Validator} {log : History Custom}
    (h : v.customs.Follows id log) (op : Operation) :
    (op.apply v).customs.Follows id (log ++ op.customSteps) := by
  have hn : v.customs.Follows id (log ++ []) := by rwa [List.append_nil]
  have he {w : Validator} (hw : w.environment = v.environment) :
      w.customs.Follows id (log ++ []) := by
    have hc : w.customs = v.customs := congrArg Environment.customs hw
    rwa [hc]
  cases op with
  | addValidation name f => exact h.insert name f
  | removeValidation name => exact h.erase name
  | register name document => exact he Validator.environment_register
  | loadDirectory fs dir => exact he (Validator.environment_loadDirectory _ _ _)
  | _ => exact hn

theorem formats_apply (v : Validator) (op : Operation) :
    (op.apply v).formats = v.formats.insertAll op.formatEntries := by
  have he {w : Validator} (hw : w.environment = v.environment) : w.formats = v.formats :=
    congrArg Environment.formats hw
  cases op with
  | register name document => exact he Validator.environment_register
  | loadDirectory fs dir => exact he (Validator.environment_loadDirectory _ _ _)
  | _ => rfl

/-! ### Runs -/

theorem follows_schemas_run {v : Validator} {log : History Json}
    (h : v.schemas.Follows Schema.document log) (ops : List Operation) :
    (v.run ops).schemas.Follows Schema.document (log ++ v.schemaHistory ops) := by
  induction ops generalizing v log with
  | nil => simpa [Validator.schemaHistory] using h
  | cons op rest ih =>
    rw [Validator.schemaHistory, ← List.append_assoc]
    exact ih (follows_schemas_apply h op)

theorem follows_customs_run {v : Validator} {log : History Custom}
    (h : v.customs.Follows id log) (ops : List Operation) :
    (v.run ops).customs.Follows id (log ++ customHistory ops) := by
  induction ops generalizing v log with
  | nil => simpa [customHistory] using h
  | cons op rest ih =>
    rw [customHistory, List.flatMap_cons, ← List.append_assoc]
    exact ih (follows_customs_apply h op)

theorem formats_run (v : Validator) (ops : List Operation) :
    (v.run ops).formats = v.formats.insertAll (formatHistory ops) := by
  induction ops generalizing v with
  | nil => rfl
  | cons op rest ih =>
    rw [Validator.run_cons, ih, formats_apply, ← Table.insertAll_append]
    rfl

namespace Validator

theorem run_append (v : Validator) (ops more : List Operation) :
    v.run (ops ++ more) = (v.run ops).run more :=
  List.foldl_append

theorem exists_run_of_registerPatterns {v w : Validator} {patterns : List (String × String)}
    (h : v.registerPatterns patterns = .ok w) : ∃ ops, w = v.run ops := by
  induction patterns generalizing v with
  | nil =>
    cases h
    exact ⟨[], rfl⟩
  | cons entry rest ih =>
    obtain ⟨name, source⟩ := entry
    unfold registerPatterns at h
    split at h
    · rename_i f _
      obtain ⟨ops, rfl⟩ := ih h
      exact ⟨.registerFormat name f :: ops, rfl⟩
    · cases h

theorem exists_run_of_loadDirectories {v w : Validator} {fs : FileSystem} {dirs : List String}
    (h : v.loadDirectories fs dirs = .ok w) : ∃ ops, w = v.run ops := by
  induction dirs generalizing v with
  | nil =>
    cases h
    exact ⟨[], rfl⟩
  | cons dir rest ih =>
    unfold loadDirectories at h
    split at h
    · rename_i u hu
      obtain ⟨ops, rfl⟩ := ih h
      have hd : u = (v.loadDirectory fs dir).2 := by rw [hu]
      exact ⟨.loadDirectory fs dir :: ops, by rw [hd]; rfl⟩
    · cases h

/-- Settings are changes of an unused validator as well, so every validator in use has a history. -/
theorem Reachable.exists_run {v : Validator} (h : v.Reachable) :
    ∃ checkSchema rejectUnsupported ops, v = (unused checkSchema rejectUnsupported).run ops := by
  induction h with
  | new => exact ⟨true, true, [], rfl⟩
  | @ofSettings fs s v h =>
    obtain ⟨u, hu, hv⟩ := ofSettings_eq_ok h
    obtain ⟨patterns, rfl⟩ := exists_run_of_registerPatterns hu
    obtain ⟨loads, rfl⟩ := exists_run_of_loadDirectories hv
    exact ⟨s.checkSchema, s.rejectUnsupported, patterns ++ loads, (run_append _ _ _).symm⟩
  | step op _ ih =>
    obtain ⟨checkSchema, rejectUnsupported, ops, rfl⟩ := ih
    refine ⟨checkSchema, rejectUnsupported, ops ++ [op], ?_⟩
    rw [run_append]
    rfl

end Validator

/-! ### What custom validations say -/

/-- A node hears from the custom validations that it has a key for, each once, in the order of their
names. -/
theorem Customs.messages_eq_filterMap_names (customs : Customs) (node : Json.Members)
    (value : Json) :
    customs.messages node value =
      (customs.names.filter fun name => (node.lookup name).isSome).filterMap fun name =>
        ((customs.get? name).bind fun f => f node value).filter (· ≠ "") := by
  rw [messages, Table.names, List.filter_map, List.filterMap_map, List.filterMap_filter]
  refine List.filterMap_congr fun entry hm => ?_
  have hg : customs.get? entry.1 = some entry.2 :=
    (lookup_eq_some_iff_mem customs.nodup).2 hm
  simp [message?, hg]

namespace Validator

/-- **At every moment the tables of a validator are what its history says.** Schemas and custom
validations stand under the names that were put in and not taken out since, in the order in which
these entered, with what was filed last; formats follow the standard ones. What is refused changes
nothing, what is taken out was there, and each custom validation that stands is heard once at a
node that has its key. -/
theorem tables_follow_history (checkSchema rejectUnsupported : Bool) (ops : List Operation) :
    let start := unused checkSchema rejectUnsupported
    let v := start.run ops
    v.schemas.Follows Schema.document (start.schemaHistory ops) ∧
      v.customs.Follows id (customHistory ops) ∧
      v.formats.names = Formats.builtin.names ++
        (((formatHistory ops).map Prod.fst).filter (· ∉ Formats.builtin.names)).eraseDups ∧
      (∀ name, v.formats.get? name =
        ((formatHistory ops).reverse.lookup name).or (Formats.builtin.get? name)) ∧
      (∀ name document, (v.register name document).1 ≠ [] → (v.register name document).2 = v) ∧
      (∀ name, (v.unregister name).1 = true ↔ name ∈ v.schemas.names) ∧
      (∀ name, (v.removeValidation name).1 = true ↔ name ∈ v.customs.names) ∧
      ∀ (n : Node) (loc : String) (value : Json),
        v.environment.customViolations n.source loc value =
          ((v.customs.names.filter fun name => (n.source.lookup name).isSome).filterMap fun name =>
            ((v.customs.get? name).bind fun f => f n.source value).filter (· ≠ "")).map
              fun message => ⟨loc, "", message, value⟩ := by
  intro start v
  have hs : v.schemas.Follows Schema.document ([] ++ start.schemaHistory ops) :=
    follows_schemas_run (Table.follows_empty Schema.document) ops
  have hc : v.customs.Follows id ([] ++ customHistory ops) :=
    follows_customs_run (v := start) (Table.follows_empty id) ops
  refine ⟨hs, hc, ?_, fun name => ?_, fun _ _ => register_of_ne_nil,
    fun _ => Table.contains_iff_mem_names, fun _ => Table.contains_iff_mem_names,
    fun n loc value => ?_⟩
  · rw [formats_run]
    exact Table.names_insertAll _ _
  · rw [formats_run]
    exact Table.get?_insertAll _ _ _
  · rw [Environment.customViolations]
    exact congrArg _ (Customs.messages_eq_filterMap_names _ _ _)

/-- Names that are filed, filed again, refused, taken out and filed once more. -/
def busyRun : List Operation := [
  .register "a" (.string "string"), .register "b" (.string "any"),
  .register "a" (.string "integer"), .register "a" (.string "whole"), .unregister "b",
  .registerFormat "email" (.predicate fun _ => true), .register "c" (.string "null"),
  .registerFormat "code" (.predicate fun s => s.length == 2), .register "b" (.string "boolean")]

theorem busyRun_follows_history :
    (new.run busyRun).schemas.names = ["a", "c", "b"] ∧
      ((new.run busyRun).schemas.get? "a").map Schema.document = some (.string "integer") ∧
      (new.run busyRun).schemas.Follows Schema.document (new.schemaHistory busyRun) ∧
      (new.run busyRun).formats.names = Formats.builtin.names ++ ["code"] ∧
      ((new.run busyRun).register "a" (.string "whole")).2 = new.run busyRun := by
  obtain ⟨schemas, -, formats, -, refused, -⟩ := tables_follow_history true true busyRun
  exact ⟨rfl, rfl, schemas, formats.trans (congrArg _ rfl),
    refused "a" (.string "whole") (List.cons_ne_nil _ _)⟩

end Validator

end ShapeCheck
