import ShapeCheck.Proofs.FileWriting
import ShapeCheck.Proofs.SettingSources
import ShapeCheck.Proofs.TomlDocument

/-!
# Settings saved and loaded again

* `ConfigFile.form_eq_of_find?`: how a file of settings is written is told by its name;
* `Settings.layerOf`: what the document of settings says;
* `Settings.load_saved`: the settings that are loaded once some have been saved, where there is no
  other source;
* `Settings.load_save`: they are those that were saved exactly if all formats have names in lower
  case.
-/

namespace ShapeCheck

open Unicode (lowerCase lowerCase_lowerCase)

/-! ### Files -/

namespace ConfigFile

variable {fs : FileSystem} {path file : String} {form : ConfigFormat}

/-- What a name stands for is a file, whose own name tells how it is written. -/
theorem form_eq_of_find? (h : find? fs path = some (file, form)) :
    fs.isFile file = true ∧ ConfigFormat.ofPath? file = some form := by
  have hall : ∀ e ∈ ConfigFormat.all, e.1 ≠ "" ∧ '.' ∉ e.1.toList ∧ '/' ∉ e.1.toList ∧
      ConfigFormat.all.lookup e.1 = some e.2 := by decide
  rw [find?] at h
  split at h
  · rename_i hfile
    obtain ⟨n, hn, he⟩ := Option.map_eq_some_iff.1 h
    cases he
    exact ⟨hfile, hn⟩
  · obtain ⟨⟨extension, n⟩, hmem, h⟩ := List.exists_of_findSome?_eq_some h
    simp only [Option.bind_eq_bind, Option.bind_eq_some_iff, Option.ite_none_right_eq_some] at h
    obtain ⟨longer, hlonger, hfile, he⟩ := h
    cases he
    obtain ⟨hne, hdot, hslash, hl⟩ := hall _ hmem
    refine ⟨hfile, ?_⟩
    rw [ConfigFormat.ofPath?, FileName.extension?_extended hlonger hne hdot hslash,
      Option.bind_some, hl]

theorem find?_of_isFile (hfile : fs.isFile path = true)
    (hform : ConfigFormat.ofPath? path = some form) : find? fs path = some (path, form) := by
  rw [find?, if_pos hfile, hform, Option.map_some]

end ConfigFile

theorem ConfigFormat.isSome_ofPath? {path : String} {form : ConfigFormat}
    (h : ofPath? path = some form) : (FileName.ofPath? path).isSome := by
  cases hp : FileName.ofPath? path with
  | none => rw [ofPath?, FileName.extension?, hp] at h; cases h
  | some name => rfl

theorem FileSystem.SamePlace.form_eq {fs : FileSystem} {p q : String} {m n : ConfigFormat}
    (h : fs.SamePlace p q) (hp : ConfigFormat.ofPath? p = some m)
    (hq : ConfigFormat.ofPath? q = some n) : m = n := by
  have hname := h.ofPath?_eq (ConfigFormat.isSome_ofPath? hp) (ConfigFormat.isSome_ofPath? hq)
  rw [ConfigFormat.ofPath?, FileName.extension?, hname] at hp
  exact Option.some.inj (hp.symm.trans hq)

theorem FileSystem.exists_of_isFile {fs : FileSystem} {path : String} (h : fs.isFile path = true) :
    ∃ content, fs.find path = .ok (.file content) := by
  rw [isFile] at h
  split at h
  · exact ⟨_, by assumption⟩
  · cases h

/-! ### What a document says -/

namespace Settings

variable {s : Settings}

/-- What the document of settings says. -/
def layerOf (s : Settings) : Layer :=
  [("validation", .table [("check_schema", .bool s.checkSchema),
      ("reject_unsupported_keywords", .bool s.rejectUnsupported)]),
    ("store", .table [("schema_dirs", .list (s.schemaDirs.map .text))]),
    ("formats", .table (s.formats.entries.map fun (name, p) => (name, .text p)))]

/-- Whether formats are those of some settings with their names in lower case.  Of formats whose
names become the same, one is kept. -/
structure FormatsLowered (s s' : Settings) : Prop where
  isSome : ∀ name ∈ s.formats.names, (s'.formats.get? (lowerCase name)).isSome
  origin : ∀ key p, s'.formats.get? key = some p →
    ∃ name, lowerCase name = key ∧ s.formats.get? name = some p

/-- Formats are kept if their names are in lower case already, and not otherwise. -/
theorem FormatsLowered.eq_iff {s' : Settings} (h : FormatsLowered s s') :
    (∀ key, s'.formats.get? key = s.formats.get? key) ↔
      ∀ name ∈ s.formats.names, lowerCase name = name := by
  have hmem {name p : String} (hp : s.formats.get? name = some p) : name ∈ s.formats.names :=
    Table.contains_iff_mem_names.1 (by rw [Table.contains, hp]; rfl)
  constructor
  · intro hall name hn
    obtain ⟨p, hp⟩ := Option.isSome_iff_exists.1 (Table.contains_iff_mem_names.2 hn)
    obtain ⟨other, rfl, -⟩ := h.origin name p (by rw [hall, hp])
    exact lowerCase_lowerCase other
  · intro hlow key
    have hback {p : String} (hp : s'.formats.get? key = some p) : s.formats.get? key = some p := by
      obtain ⟨name, hname, hp⟩ := h.origin key p hp
      rwa [← hname, hlow name (hmem hp)]
    cases hp : s'.formats.get? key with
    | some p => exact (hback hp).symm
    | none =>
      cases hq : s.formats.get? key with
      | none => rfl
      | some q =>
        have hsome := h.isSome key (hmem hq)
        rw [hlow key (hmem hq), hp] at hsome
        cases hsome

theorem layer?_document (h : s.formats.names.head? ≠ some Toml.dateMark) :
    ConfigFormat.layer? .toml s.document = some s.layerOf := by
  have helements (ss : List String) :
      Setting.ofTomlElements (ss.map .string) = ss.map .text := by
    induction ss with
    | nil => rfl
    | cons s ss ih => rw [List.map_cons, List.map_cons, Setting.ofTomlElements, ih]; rfl
  have hentries (entries : List (String × String)) :
      Setting.ofTomlEntries (entries.map fun (name, p) => (name, .string p)) =
        entries.map fun (name, p) => (name, .text p) := by
    induction entries with
    | nil => rfl
    | cons entry rest ih => rw [List.map_cons, List.map_cons, Setting.ofTomlEntries, ih]; rfl
  rw [ConfigFormat.layer?, Toml.read?_document h, Option.map_some, layerOf, ← helements, ← hentries]
  rfl

theorem texts?_list (ss : List String) : texts? (.list (ss.map .text)) = some ss := by
  rw [texts?]
  induction ss with
  | nil => rfl
  | cons s ss ih =>
    rw [List.map_cons, List.mapM_cons, ih]
    rfl

theorem wellTyped_layerOf (s : Settings) : Layer.WellTyped s.layerOf := by
  have hflag (b : Bool) {name : String}
      (hn : name = "check_schema" ∨ name = "reject_unsupported_keywords") :
      Setting.Fits "validation" (lowerCase name) (.bool b) :=
    Setting.fits_of_reads (k := .flag) (by rcases hn with rfl | rfl <;> decide +kernel) rfl
  have hdirs : Setting.Fits "store" (lowerCase "schema_dirs") (.list (s.schemaDirs.map .text)) :=
    Setting.fits_of_reads (k := .texts) (by decide +kernel) (by
      rw [Setting.Wanted.Reads, texts?_list]
      rfl)
  simp only [Layer.WellTyped, layerOf, List.forall_mem_cons]
  refine ⟨.of_part (by decide) ?_, .of_part (by decide) ?_, .of_part (by decide) ?_, nofun⟩
  · exact List.forall_mem_cons.2
      ⟨hflag _ (.inl rfl), List.forall_mem_singleton.2 (hflag _ (.inr rfl))⟩
  · exact List.forall_mem_singleton.2 hdirs
  · intro entry he
    obtain ⟨⟨name, p⟩, -, rfl⟩ := List.mem_map.1 he
    exact Setting.fits_of_reads (Setting.wanted?_formats _) rfl

theorem value?_layerOf (part : String) {entries : List (String × Setting)}
    (h : s.layerOf.lookup part = some (.table entries)) (name : String) :
    Layer.value? part name s.layerOf = (Setting.named name entries).getLast? := by
  have hnames : s.layerOf.map Prod.fst = Setting.partNames := rfl
  have hpart {other : String} {t : Setting} (hm : (other, t) ∈ s.layerOf) :
      other ∈ Setting.partNames := hnames ▸ List.mem_map_of_mem (f := Prod.fst) hm
  rw [Layer.value?, flatMap_eq_of_nodup part (by rw [hnames]; decide), h]
  · rw [Option.map_some, Option.getD_some, Layer.said_part (hpart (mem_of_lookup h))]
  · rintro ⟨other, t⟩ hm hne
    obtain ⟨hpath, hl⟩ := Setting.ofText_of_mem_partNames (hpart hm)
    rw [Layer.said, hpath, hl, if_neg hne]

/-- Of two names in lower case each has its own value. -/
theorem getLast?_named_pair {a b : String} (ha : lowerCase a = a) (hb : lowerCase b = b)
    (hne : a ≠ b) (v w : Setting) : (Setting.named a [(a, v), (b, w)]).getLast? = some v ∧
      (Setting.named b [(a, v), (b, w)]).getLast? = some w := by
  simp [Setting.named, ha, hb, hne, hne.symm]

theorem formatsLowered_of_lastOf {s' : Settings} (h : LastOf [s.layerOf] s') :
    FormatsLowered s s' := by
  have hget (key : String) : s'.formats.get? key = (s.formats.entries.filterMap
      fun e => if lowerCase e.1 = key then some e.2 else none).getLast? := by
    rw [h.formats, getLast?_filterMap_singleton, Layer.pattern?,
      value?_layerOf "formats" rfl]
    have hnamed : Setting.named key (s.formats.entries.map fun (name, p) => (name, .text p)) =
        (s.formats.entries.filterMap
          fun e => if lowerCase e.1 = key then some e.2 else none).map .text := by
      rw [Setting.named, List.filterMap_map, List.map_filterMap]
      refine List.filterMap_congr fun e _ => ?_
      simp only [Function.comp_apply]
      split <;> rfl
    rw [hnamed, List.getLast?_map]
    cases (s.formats.entries.filterMap _).getLast? <;> rfl
  constructor
  · intro name hn
    obtain ⟨e, he, rfl⟩ := List.mem_map.1 hn
    rw [hget, List.getLast?_isSome]
    exact List.ne_nil_of_mem (List.mem_filterMap.2 ⟨e, he, if_pos rfl⟩)
  · intro key p hp
    rw [hget] at hp
    obtain ⟨⟨name, q⟩, he, hq⟩ := List.mem_filterMap.1 (List.mem_of_getLast? hp)
    rw [Option.ite_none_right_eq_some] at hq
    obtain ⟨hname, hq⟩ := hq
    obtain rfl := Option.some.inj hq
    exact ⟨name, hname, (lookup_eq_some_iff_mem s.formats.nodup).2 he⟩

theorem settings_of_lastOf {s' : Settings} (h : LastOf [s.layerOf] s') :
    s'.checkSchema = s.checkSchema ∧ s'.rejectUnsupported = s.rejectUnsupported ∧
      s'.schemaDirs = s.schemaDirs := by
  obtain ⟨hcheck, hreject⟩ := getLast?_named_pair (a := "check_schema")
    (b := "reject_unsupported_keywords") (by decide +kernel) (by decide +kernel) (by decide)
    (.bool s.checkSchema) (.bool s.rejectUnsupported)
  refine ⟨?_, ?_, ?_⟩
  · rw [h.checkSchema, getLast?_filterMap_singleton, Layer.checkSchema?,
      value?_layerOf "validation" rfl, hcheck]
    rfl
  · rw [h.rejectUnsupported, getLast?_filterMap_singleton, Layer.rejectUnsupported?,
      value?_layerOf "validation" rfl, hreject]
    rfl
  · have hname : lowerCase "schema_dirs" = "schema_dirs" := by decide +kernel
    have hnamed (v : Setting) : Setting.named "schema_dirs" [("schema_dirs", v)] = [v] := by
      rw [Setting.named, List.filterMap_cons, if_pos hname]
      rfl
    rw [h.schemaDirs, getLast?_filterMap_singleton, Layer.schemaDirs?,
      value?_layerOf "store" rfl, hnamed, List.getLast?_singleton, Option.bind_some,
      texts?_list, Option.getD_some]

/-! ### Saving and loading -/

variable {fs fs' : FileSystem} {path : String} {userFile : Option String} {vars : Variables}

theorem write_of_save (h : s.save fs path = .ok fs') : fs.write path s.document = .ok fs' := by
  rw [save] at h
  cases hw : fs.write path s.document with
  | error fault => rw [hw] at h; cases h
  | ok fs'' => rw [hw] at h; cases h; rfl

/-- Settings that have been saved are what their file and every other path to it are taken to
hold. -/
theorem holds_of_save (hsave : s.save fs path = .ok fs')
    (hpath : FileName.extension? path = some "toml")
    (hmark : s.formats.names.head? ≠ some Toml.dateMark) :
    ConfigFile.find? fs' path = some (path, .toml) ∧ ∀ q file form,
      ConfigFile.find? fs' q = some (file, form) → fs'.SamePlace file path →
        ConfigFile.Holds fs' q s.layerOf := by
  have hfind := FileSystem.find_write (write_of_save hsave)
  have hform : ConfigFormat.ofPath? path = some .toml := by
    rw [ConfigFormat.ofPath?, hpath]
    rfl
  have hfile : fs'.isFile path = true := by rw [FileSystem.isFile, hfind]
  refine ⟨ConfigFile.find?_of_isFile hfile hform, fun q file form hq hplace => ?_⟩
  obtain ⟨hqfile, hqform⟩ := ConfigFile.form_eq_of_find? hq
  obtain ⟨content, hcontent⟩ := FileSystem.exists_of_isFile hqfile
  rw [hplace.find_eq hcontent hfind] at hcontent
  obtain rfl := hplace.form_eq hqform hform
  exact .found hq (FileSystem.readText_of_find hcontent) (layer?_document hmark)

/-- Settings that have been saved are loaded from their file if there is no other source of
settings, but for the names of formats, which are in lower case then. -/
theorem load_saved (hsave : s.save fs path = .ok fs')
    (hpath : FileName.extension? path = some "toml")
    (halone : ∀ q ∈ sourceFiles fs' userFile none, ∀ file form,
      ConfigFile.find? fs' q = some (file, form) → fs'.SamePlace file path)
    (hvars : ∀ v ∈ vars, Variables.path? v.1 = none)
    (hmark : s.formats.names.head? ≠ some Toml.dateMark) :
    ∃ s', load fs' userFile (some path) vars = .ok s' ∧ s'.checkSchema = s.checkSchema ∧
      s'.rejectUnsupported = s.rejectUnsupported ∧ s'.schemaDirs = s.schemaDirs ∧
      FormatsLowered s s' := by
  obtain ⟨hfound, hholds⟩ := holds_of_save hsave hpath hmark
  have hsources : sourceFiles fs' userFile (some path) =
      sourceFiles fs' userFile none ++ [path] := by
    simp [sourceFiles]
  -- what every file that is looked for holds: the settings, or nothing if it is missing
  let layerAt (q : String) : Layer := if (ConfigFile.find? fs' q).isSome then s.layerOf else []
  have hplace : ∀ q ∈ sourceFiles fs' userFile (some path), ∀ file form,
      ConfigFile.find? fs' q = some (file, form) → fs'.SamePlace file path := by
    rw [hsources]
    intro q hq file form hfind
    rcases List.mem_append.1 hq with hq | hq
    · exact halone q hq file form hfind
    · rw [List.mem_singleton.1 hq, hfound] at hfind
      cases hfind
      rfl
  have hfiles : List.Forall₂ (ConfigFile.Holds fs') (sourceFiles fs' userFile (some path))
      ((sourceFiles fs' userFile (some path)).map layerAt) := by
    refine List.forall₂_map_right_iff.2 (List.forall₂_same.2 fun q hq => ?_)
    cases hfind : ConfigFile.find? fs' q with
    | none =>
      simp only [layerAt, hfind]
      exact .missing hfind
    | some found =>
      simp only [layerAt, hfind]
      exact hholds q found.1 found.2 hfind (hplace q hq _ _ hfind)
  have hmem : s.layerOf ∈ (sourceFiles fs' userFile (some path)).map layerAt :=
    List.mem_map.2 ⟨path, by simp [hsources], by simp only [layerAt, hfound]; rfl⟩
  have hall : ∀ layer ∈ (sourceFiles fs' userFile (some path)).map layerAt,
      layer = [] ∨ layer = s.layerOf :=
    List.forall_mem_map.2 fun q _ => (ite_eq_or_eq _ _ _).symm
  obtain ⟨s', hs', hone⟩ :=
    load_of_alike hfiles (by simp [hfound]) hmem hall (wellTyped_layerOf s) hvars
  obtain ⟨hcheck, hreject, hdirs⟩ := settings_of_lastOf hone
  exact ⟨s', hs', hcheck, hreject, hdirs, formatsLowered_of_lastOf hone⟩

/-- Settings that have been saved are loaded from their file if there is no other source of
settings, and they are the same exactly if all formats have names in lower case. -/
theorem load_save (hsave : s.save fs path = .ok fs')
    (hpath : FileName.extension? path = some "toml")
    (halone : ∀ q ∈ sourceFiles fs' userFile none, ∀ file form,
      ConfigFile.find? fs' q = some (file, form) → fs'.SamePlace file path)
    (hvars : ∀ v ∈ vars, Variables.path? v.1 = none)
    (hmark : s.formats.names.head? ≠ some Toml.dateMark) :
    ∃ s', load fs' userFile (some path) vars = .ok s' ∧ s'.checkSchema = s.checkSchema ∧
      s'.rejectUnsupported = s.rejectUnsupported ∧ s'.schemaDirs = s.schemaDirs ∧
      FormatsLowered s s' ∧
      ((∀ key, s'.formats.get? key = s.formats.get? key) ↔
        ∀ name ∈ s.formats.names, lowerCase name = name) := by
  obtain ⟨s', hs', hcheck, hreject, hdirs, hformats⟩ :=
    load_saved hsave hpath halone hvars hmark
  exact ⟨s', hs', hcheck, hreject, hdirs, hformats, hformats.eq_iff⟩

/-- Settings with a format whose name is in upper case. -/
def upperFormat : Settings := ⟨true, true, [], Table.empty.insert "ZIP" "x"⟩

/-- The only file after they have been saved. -/
def upperFile : FileSystem :=
  ⟨.directory [("saved.toml", .file upperFormat.document.toUTF8)], []⟩

theorem save_upperFormat : upperFormat.save noFiles "saved.toml" = .ok upperFile := by
  have hnames : noFiles.names "saved.toml" = ["saved.toml"] := by
    rw [FileSystem.names, show "saved.toml".startsWith "/" = false by decide +kernel,
      splitOn_slash_of_notMem (by decide)]
    rfl
  rw [save, upperFile]
  generalize upperFormat.document = text
  have hwrite : noFiles.write "saved.toml" text =
      .ok ⟨.directory [("saved.toml", .file text.toUTF8)], []⟩ := by
    rw [FileSystem.write, if_neg (by decide), FileSystem.above, hnames]
    change (if "saved.toml".endsWith "/" = true then Except.error _ else _) = _
    rw [if_neg (by decide +kernel), FileSystem.plant, hnames]
    rfl
  rw [hwrite]
  rfl

theorem find?_upperFile : ∀ q ∈ sourceFiles upperFile none none,
    ConfigFile.find? upperFile q = none := by
  simp only [ConfigFile.find?, FileName.extended?, FileName.ofPath?, FileName.parts,
    FileSystem.isFile, FileSystem.find, FileSystem.names, splitOn_slash]
  decide +kernel

theorem extension?_saved : FileName.extension? "saved.toml" = some "toml" := by
  simp only [FileName.extension?, FileName.ofPath?, FileName.parts, splitOn_slash]
  decide +kernel

theorem get?_upperFormat (name : String) :
    upperFormat.formats.get? name = if name = "ZIP" then some "x" else none :=
  Table.get?_insert _ _ _ _

/-- A format whose name is in upper case is lost. -/
theorem upperFormat_lost : ∃ fs' s', upperFormat.save noFiles "saved.toml" = .ok fs' ∧
    load fs' none (some "saved.toml") [] = .ok s' ∧
      upperFormat.formats.get? "ZIP" = some "x" ∧ s'.formats.get? "ZIP" = none ∧
        s'.formats.get? "zip" = some "x" := by
  obtain ⟨s', hs', -, -, -, hformats⟩ := @load_saved _ _ _ _ none [] save_upperFormat
    extension?_saved (fun q hq _ _ h => by rw [find?_upperFile q hq] at h; cases h) nofun
    (by decide +kernel)
  have hlow : lowerCase "ZIP" = "zip" := by decide +kernel
  have horigin {key p : String} (hp : s'.formats.get? key = some p) : key = "zip" ∧ p = "x" := by
    obtain ⟨name, rfl, hname⟩ := hformats.origin key p hp
    rw [get?_upperFormat, Option.ite_none_right_eq_some] at hname
    rw [hname.1]
    exact ⟨hlow, (Option.some.inj hname.2).symm⟩
  refine ⟨upperFile, s', save_upperFormat, hs', by rw [get?_upperFormat, if_pos rfl], ?_, ?_⟩
  · exact Option.eq_none_iff_forall_ne_some.2 fun p hp => absurd (horigin hp).1 (by decide)
  · obtain ⟨p, hp⟩ := Option.isSome_iff_exists.1
      (hformats.isSome "ZIP" List.mem_cons_self)
    rw [hlow] at hp
    rw [hp, (horigin hp).2]

/-- So settings with such a format are not the same once they have been saved and loaded. -/
theorem load_save_upperFormat : ∃ fs' s', upperFormat.save noFiles "saved.toml" = .ok fs' ∧
    load fs' none (some "saved.toml") [] = .ok s' ∧
      ¬ ∀ key, s'.formats.get? key = upperFormat.formats.get? key := by
  obtain ⟨s', hs', -, -, -, -, hiff⟩ := @load_save _ _ _ _ none [] save_upperFormat
    extension?_saved (fun q hq _ _ h => by rw [find?_upperFile q hq] at h; cases h) nofun
    (by decide +kernel)
  exact ⟨upperFile, s', save_upperFormat, hs', fun hall =>
    absurd (hiff.1 hall "ZIP" (by decide)) (by decide +kernel)⟩

end Settings

end ShapeCheck
