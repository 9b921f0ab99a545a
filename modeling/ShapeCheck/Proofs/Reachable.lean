import ShapeCheck.Proofs.Compilation
import ShapeCheck.Settings.Basic

/-!
# Validators in use

The schemas of a validator were compiled with the formats of their time, and are used with those of
a later time.

* `Operation`: the changes that a validator can undergo;
* `Validator.Reachable`: the validators that arise from new ones by changes;
* `Validator.Sound`: the schema of each name is what its document would be compiled to now;
* `Validator.Reachable.sound`: reachable validators are sound, since formats are never taken out and
  the settings stay the same;
* `Validator.named_agrees_with_inline`: a registered schema judges values as its document does.
-/

namespace ShapeCheck

/-- The changes that a validator can undergo. -/
inductive Operation where
  | register (name : String) (document : Json)
  | unregister (name : String)
  | registerFormat (name : String) (f : Format)
  | addValidation (name : String) (f : Custom)
  | removeValidation (name : String)
  | clone
  | loadDirectory (fs : FileSystem) (dir : String)

/-- The validator after a change, whatever the change answers. A clone is an equal value. -/
def Operation.apply (v : Validator) : Operation → Validator
  | register name document => (v.register name document).2
  | unregister name => (v.unregister name).2
  | registerFormat name f => v.registerFormat name f
  | addValidation name f => v.addValidation name f
  | removeValidation name => (v.removeValidation name).2
  | clone => v
  | loadDirectory fs dir => (v.loadDirectory fs dir).2

namespace Schema

theorem compile_mono {c c' : Checker} (h : c.Extends c') (d : Json) :
    (compile c d).Kept (compile c' d) :=
  (Checker.node_mono h Locator.root d).map _

theorem document_of_compile {c : Checker} {d : Json} {s : Schema} (h : compile c d = .ok s) :
    s.document = d := by
  obtain ⟨root, -, rfl⟩ := Checked.map_eq_ok_iff.1 h
  rfl

theorem compiles_root {c : Checker} {d : Json} {s : Schema} (h : compile c d = .ok s) :
    c.Compiles s.root := by
  obtain ⟨root, hr, rfl⟩ := Checked.map_eq_ok_iff.1 h
  exact ⟨_, d, hr⟩

end Schema

namespace Validator

/-- The validators that arise from new ones by changes. -/
inductive Reachable : Validator → Prop where
  | new : Reachable new
  | ofSettings {fs : FileSystem} {s : Settings} {v : Validator}
      (h : Validator.ofSettings fs s = .ok v) : Reachable v
  | step {v : Validator} (op : Operation) (h : Reachable v) : Reachable (op.apply v)

/-- The schema of each name is what its document would be compiled to now. -/
def Sound (v : Validator) : Prop :=
  ∀ name s, v.schemas.get? name = some s → v.compile s.document = .ok s

/-! ### Single changes -/

theorem Sound.of_extends {v w : Validator} (hv : v.Sound) (h : v.checker.Extends w.checker)
    (hs : ∀ name s, w.schemas.get? name = some s → v.schemas.get? name = some s) : w.Sound := by
  intro name s hn
  exact Schema.compile_mono h s.document s (hv name s (hs name s hn))

theorem sound_of_empty {v : Validator} (h : v.schemas = .empty) : v.Sound := by
  intro name s hs
  rw [h, Table.get?_empty] at hs
  cases hs

theorem extends_registerFormat (v : Validator) (name : String) (f : Format) :
    v.checker.Extends (v.registerFormat name f).checker := by
  refine ⟨fun key hk => ?_, id⟩
  show ((v.formats.insert name f).get? key).isSome = true
  rw [Table.get?_insert]
  split
  · rfl
  · exact hk

theorem Sound.registerFormat {v : Validator} (hv : v.Sound) (name : String) (f : Format) :
    (v.registerFormat name f).Sound :=
  hv.of_extends (extends_registerFormat v name f) fun _ _ h => h

theorem Sound.register {v : Validator} (hv : v.Sound) (name : String) (document : Json) :
    (v.register name document).2.Sound := by
  unfold Validator.register
  split
  · rename_i s hc
    -- neither formats nor settings have changed, so only the name itself has to be looked at
    intro key t ht
    show v.compile t.document = .ok t
    rw [Table.get?_insert] at ht
    split at ht
    · cases ht
      rwa [Schema.document_of_compile hc]
    · exact hv key t ht
  · exact hv

theorem Sound.unregister {v : Validator} (hv : v.Sound) (name : String) :
    (v.unregister name).2.Sound := by
  intro key s hs
  have he : (v.schemas.erase name).get? key = some s := hs
  rw [Table.get?_erase] at he
  split at he
  · cases he
  · exact hv key s he

/-! ### Directories -/

theorem loadDocument_snd (v : Validator) (done : Summary) (path : String) (document : Json) :
    (v.loadDocument done path document).2 =
      (v.register ((FileName.stem? path).getD "") document).2 := by
  rw [loadDocument]
  cases v.register ((FileName.stem? path).getD "") document with
  | mk errors w => cases errors <;> rfl

theorem Sound.loadFiles {v : Validator} (hv : v.Sound) (done : Summary)
    (files : List (String × ByteArray)) : (v.loadFiles done files).2.Sound := by
  induction files generalizing v done with
  | nil => exact hv
  | cons file rest ih =>
    obtain ⟨path, content⟩ := file
    unfold Validator.loadFiles
    split
    · exact hv
    · rename_i document _
      have hd : (v.loadDocument done path document).2.Sound := by
        rw [loadDocument_snd]
        exact hv.register _ document
      exact ih hd _

theorem Sound.loadDirectory {v : Validator} (hv : v.Sound) (fs : FileSystem) (dir : String) :
    (v.loadDirectory fs dir).2.Sound := by
  unfold Validator.loadDirectory
  split
  · exact hv
  · exact hv.loadFiles _ _

theorem Sound.apply {v : Validator} (hv : v.Sound) (op : Operation) : (op.apply v).Sound := by
  cases op with
  | register name document => exact hv.register name document
  | unregister name => exact hv.unregister name
  | registerFormat name f => exact hv.registerFormat name f
  | addValidation name f => exact hv
  | removeValidation name => exact hv
  | clone => exact hv
  | loadDirectory fs dir => exact hv.loadDirectory fs dir

/-! ### Settings -/

theorem Sound.registerPatterns {v w : Validator} (hv : v.Sound) {patterns : List (String × String)}
    (h : v.registerPatterns patterns = .ok w) : w.Sound := by
  induction patterns generalizing v with
  | nil =>
    cases h
    exact hv
  | cons entry rest ih =>
    obtain ⟨name, source⟩ := entry
    unfold Validator.registerPatterns at h
    split at h
    · rename_i f _
      exact ih (hv.registerFormat name f) h
    · cases h

theorem Sound.loadDirectories {v w : Validator} (hv : v.Sound) {fs : FileSystem}
    {dirs : List String} (h : v.loadDirectories fs dirs = .ok w) : w.Sound := by
  induction dirs generalizing v with
  | nil =>
    cases h
    exact hv
  | cons dir rest ih =>
    have hd := hv.loadDirectory fs dir
    unfold Validator.loadDirectories at h
    split at h
    · rename_i u hu
      rw [hu] at hd
      exact ih hd h
    · cases h

theorem ofSettings_eq_ok {fs : FileSystem} {s : Settings} {v : Validator}
    (h : Validator.ofSettings fs s = .ok v) :
    ∃ u, Validator.registerPatterns ⟨.builtin, .empty, .empty, s.checkSchema, s.rejectUnsupported⟩
      s.formats.entries = .ok u ∧ u.loadDirectories fs s.schemaDirs = .ok v := by
  change (Validator.registerPatterns ⟨.builtin, .empty, .empty, s.checkSchema, s.rejectUnsupported⟩
    s.formats.entries).bind (·.loadDirectories fs s.schemaDirs) = .ok v at h
  cases hu : Validator.registerPatterns
      ⟨.builtin, .empty, .empty, s.checkSchema, s.rejectUnsupported⟩ s.formats.entries with
  | error failure =>
    rw [hu] at h
    cases h
  | ok u =>
    rw [hu] at h
    exact ⟨u, rfl, h⟩

theorem sound_ofSettings {fs : FileSystem} {s : Settings} {v : Validator}
    (h : Validator.ofSettings fs s = .ok v) : v.Sound := by
  obtain ⟨u, hu, hv⟩ := ofSettings_eq_ok h
  exact ((sound_of_empty rfl).registerPatterns hu).loadDirectories hv

/-! ### Whole runs -/

theorem Reachable.sound {v : Validator} (h : v.Reachable) : v.Sound := by
  induction h with
  | new => exact sound_of_empty rfl
  | ofSettings h => exact sound_ofSettings h
  | step op _ ih => exact ih.apply op

/-- **A registered schema is what its document would be compiled to now, names known formats only,
and judges values as its document does.** -/
theorem named_agrees_with_inline {v : Validator} (h : v.Reachable) {name : String} {s : Schema}
    (hs : v.schema? name = some s) :
    v.compile s.document = .ok s ∧
      (∀ (m : Node) (r : TextRules) (format : String), m.Within s.root → m.rules = .string r →
        r.format = some format → v.formats.contains format = true) ∧
      ∀ value, v.validate (.named name) value = v.validate (.inline s.document) value := by
  have hc : v.compile s.document = .ok s := h.sound name s hs
  refine ⟨hc, fun m r format hm hr hf => ?_, fun value => ?_⟩
  · exact Checker.contains_format_of_within (Schema.compiles_root hc) hm hr hf
  · have hn : v.validate (.named name) value = v.validateCompiled s value := by
      rw [schema?] at hs
      simp only [validate, hs]
    have hi : v.validate (.inline s.document) value = v.validateCompiled s value := by
      simp only [validate, hc]
    rw [hn, hi]

/-- A document that names a format of one's own. -/
def evenDocument : Json := .object [("kind", .string "string"), ("format", .string "even")]

/-- What the document is compiled to. -/
def evenSchema : Schema where
  root := .mk false [("kind", .string "string"), ("format", .string "even")]
    (.string ⟨none, none, none, some "even", none⟩)
  document := evenDocument

/-- A format is filed, a document is registered that names it, and the format is replaced. -/
def overridden : Validator :=
  ((new.registerFormat "even" (.predicate fun s => s.length % 2 == 0)).register "code"
    evenDocument).2.registerFormat "even" (.predicate fun _ => true)

theorem overridden_agrees :
    overridden.Reachable ∧ overridden.schema? "code" = some evenSchema ∧
      overridden.validate (.named "code") (.string "abc") = [] ∧
      overridden.validate (.named "code") (.string "abc") =
        overridden.validate (.inline evenDocument) (.string "abc") := by
  have hr : overridden.Reachable :=
    .step (.registerFormat "even" _) (.step (.register "code" evenDocument)
      (.step (.registerFormat "even" _) .new))
  have hs : overridden.schema? "code" = some evenSchema := rfl
  exact ⟨hr, hs, rfl, (named_agrees_with_inline hr hs).2.2 (.string "abc")⟩

end Validator

end ShapeCheck
