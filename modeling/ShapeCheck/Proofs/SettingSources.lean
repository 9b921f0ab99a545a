import ShapeCheck.Proofs.Directory
import ShapeCheck.Proofs.Overlay

/-!
# Settings from several sources

* `Layer.checkSchema?`, `Layer.pattern?` and their like: what a source sets;
* `Settings.LastOf`: settings each of which is what the last source that sets it gives;
* `Settings.load_of_layers`: well-typed layers are read as such settings;
* `Settings.load_isLastOf`: so are local files, the file of the user, the file asked for, and
  environment variables, in this order.
-/

namespace ShapeCheck

open Setting (Laid Wanted)

namespace Settings

/-! ### Tables of texts -/

theorem mapM_textEntry? {entries : List (String × Setting)}
    (h : ∀ entry ∈ entries, (entry.2.text?).isSome) :
    ∃ texts, entries.mapM textEntry? = some texts ∧
      texts.map Prod.fst = entries.map Prod.fst ∧
        ∀ name, texts.lookup name = (entries.lookup name).bind Setting.text? := by
  induction entries with
  | nil => exact ⟨[], rfl, rfl, fun _ => rfl⟩
  | cons entry rest ih =>
    obtain ⟨other, v⟩ := entry
    obtain ⟨texts, hm, hn, hl⟩ := ih fun e he => h e (List.mem_cons_of_mem _ he)
    obtain ⟨s, hs⟩ := Option.isSome_iff_exists.1 (h _ List.mem_cons_self)
    refine ⟨(other, s) :: texts, ?_, by rw [List.map_cons, List.map_cons, hn], fun name => ?_⟩
    · rw [List.mapM_cons, textEntry?, hs, hm]
      rfl
    · rw [lookup_entry, lookup_entry, hl]
      split
      · rw [Option.bind_some, hs]
      · rfl

/-! ### Reading -/

variable {v : Setting}

theorem part?_eq {α : Type} {read? : Setting → Option α} (default : α) {o : Option Setting}
    (h : ∀ w, o = some w → (read? w).isSome) :
    part? read? default o = some ((o.bind read?).getD default) := by
  cases o with
  | none => rfl
  | some w =>
    obtain ⟨a, ha⟩ := Option.isSome_iff_exists.1 (h w rfl)
    rw [part?, Option.bind_some, ha, Option.getD_some]

theorem record?_eq (hv : Laid v) {part : String} (hp : part ∈ Setting.partNames)
    (names : List String) :
    record? names (v.entries.lookup part) = some (names.map fun name => v.at? part name) := by
  have ht := hv.part_getD hp
  cases hl : v.entries.lookup part with
  | none => simp only [record?, Setting.at?_of_none hl]
  | some t =>
    rw [hl, Option.getD_some] at ht
    rw [record?, ht.isTable, Setting.parts?]
    simp only [Setting.at?_of_some hl]

theorem textTable?_of_part {t : Setting} (ht : Setting.Part "formats" t) :
    ∃ formats, textTable? t = some formats ∧
      ∀ name, formats.get? name = (t.entries.lookup name).bind Setting.text? := by
  obtain ⟨texts, hm, hn, hl⟩ := mapM_textEntry? fun e he => ht.fits e he .text rfl
  refine ⟨.ofList texts, ?_, fun name => ?_⟩
  · rw [ht.isTable, textTable?, hm]
    rfl
  · rw [Table.get?_ofList (by rw [hn]; exact ht.nodup), hl]

/-- What well-typed layers come to is read as settings. -/
theorem ofSetting?_of_laid (hv : Laid v) : ∃ s, ofSetting? v = some s ∧
    s.checkSchema = ((v.at? "validation" "check_schema").bind Setting.truth?).getD true ∧
    s.rejectUnsupported =
      ((v.at? "validation" "reject_unsupported_keywords").bind Setting.truth?).getD true ∧
    s.schemaDirs = ((v.at? "store" "schema_dirs").bind texts?).getD [] ∧
    ∀ name, s.formats.get? name = (v.at? "formats" name).bind Setting.text? := by
  have hcheck := part?_eq true
    fun w (h : v.at? "validation" "check_schema" = some w) => hv.fits_of_at? h .flag rfl
  have hreject := part?_eq true
    fun w (h : v.at? "validation" "reject_unsupported_keywords" = some w) =>
      hv.fits_of_at? h .flag rfl
  have hdirs := part?_eq [] fun w (h : v.at? "store" "schema_dirs" = some w) =>
    hv.fits_of_at? h .texts rfl
  obtain ⟨formats, hformats, hget⟩ : ∃ formats,
      part? textTable? Table.empty (v.entries.lookup "formats") = some formats ∧
        ∀ name, formats.get? name = (v.at? "formats" name).bind Setting.text? := by
    have ht := hv.part_getD (show "formats" ∈ Setting.partNames by decide)
    cases hl : v.entries.lookup "formats" with
    | none => exact ⟨.empty, rfl, fun name => by rw [Setting.at?_of_none hl]; rfl⟩
    | some t =>
      rw [hl, Option.getD_some] at ht
      obtain ⟨formats, hf, hget⟩ := textTable?_of_part ht
      exact ⟨formats, hf, fun name => by rw [hget, Setting.at?_of_some hl]⟩
  refine ⟨⟨_, _, _, formats⟩, ?_, rfl, rfl, rfl, hget⟩
  rw [ofSetting?, record?_eq hv (by decide), record?_eq hv (by decide)]
  simp only [Option.bind_eq_bind, Option.bind_some, List.map_cons, List.map_nil,
    List.getElem?_cons_zero, List.getElem?_cons_succ, Option.join_some, default, hcheck, hreject,
    hdirs, hformats]
  rfl

end Settings

/-! ### What a source sets -/

namespace Layer

/-- Whether schemas are to be checked, as far as a source tells. -/
def checkSchema? (layer : Layer) : Option Bool :=
  (layer.value? "validation" "check_schema").bind Setting.truth?

/-- Whether unsupported keywords are to be rejected, as far as a source tells. -/
def rejectUnsupported? (layer : Layer) : Option Bool :=
  (layer.value? "validation" "reject_unsupported_keywords").bind Setting.truth?

/-- The directories with schemas, as far as a source tells. -/
def schemaDirs? (layer : Layer) : Option (List String) :=
  (layer.value? "store" "schema_dirs").bind Settings.texts?

/-- The pattern of a format, as far as a source tells. -/
def pattern? (name : String) (layer : Layer) : Option String :=
  (layer.value? "formats" name).bind Setting.text?

end Layer

namespace Settings

/-- Every setting is what the last source that sets it gives: by default flags are set, and there
are no directories; the formats are those that some source sets. -/
structure LastOf (sources : List Layer) (s : Settings) : Prop where
  checkSchema : s.checkSchema = (sources.filterMap Layer.checkSchema?).getLast?.getD true
  rejectUnsupported :
    s.rejectUnsupported = (sources.filterMap Layer.rejectUnsupported?).getLast?.getD true
  schemaDirs : s.schemaDirs = (sources.filterMap Layer.schemaDirs?).getLast?.getD []
  formats : ∀ name, s.formats.get? name = (sources.filterMap (Layer.pattern? name)).getLast?

/-- The last value that can be read is the last value, if all can be read. -/
theorem getLast?_filterMap_bind {α β γ : Type} {f : α → Option β} {g : β → Option γ} {xs : List α}
    (h : ∀ x ∈ xs, ∀ y, f x = some y → (g y).isSome) :
    (xs.filterMap fun x => (f x).bind g).getLast? = (xs.filterMap f).getLast?.bind g := by
  rw [← List.filterMap_filterMap]
  have hall : ∀ y ∈ xs.filterMap f, (g y).isSome := fun y hy => by
    obtain ⟨x, hx, hf⟩ := List.mem_filterMap.1 hy
    exact h x hx y hf
  rcases List.eq_nil_or_concat (xs.filterMap f) with he | ⟨init, last, he⟩
  · rw [he]
    rfl
  · rw [he] at hall ⊢
    obtain ⟨z, hz⟩ := Option.isSome_iff_exists.1 (hall last (by simp))
    simp [List.filterMap_append, hz]

theorem getLast?_filterMap_singleton {α β : Type} (f : α → Option β) (x : α) :
    ([x].filterMap f).getLast? = f x := by
  rw [List.filterMap_cons]
  cases f x <;> rfl

theorem getLast?_filterMap_of_alike {α β : Type} {f : α → Option β} {xs : List α} {x : α}
    (hx : x ∈ xs) (h : ∀ y ∈ xs, f y = none ∨ f y = f x) : (xs.filterMap f).getLast? = f x := by
  cases hf : f x with
  | none =>
    rw [List.filterMap_eq_nil_iff.2 fun y hy => (h y hy).elim id (·.trans hf)]
    rfl
  | some b =>
    have hb : ∀ c ∈ xs.filterMap f, c = b := fun c hc => by
      obtain ⟨y, hy, hc⟩ := List.mem_filterMap.1 hc
      rcases h y hy with hn | he
      · rw [hn] at hc
        cases hc
      · exact Option.some.inj (hc.symm.trans (he.trans hf))
    have hne : xs.filterMap f ≠ [] := List.ne_nil_of_mem (List.mem_filterMap.2 ⟨x, hx, hf⟩)
    rw [List.getLast?_eq_some_getLast hne, hb _ (List.getLast_mem hne)]

/-- If the only layer that sets anything is a certain one, this layer alone counts. -/
theorem LastOf.of_alike {sources : List Layer} {s : Settings} (h : LastOf sources s) {layer : Layer}
    (hl : layer ∈ sources) (ha : ∀ l ∈ sources, l = [] ∨ l = layer) : LastOf [layer] s := by
  have hlast {α : Type} {f : Layer → Option α} (hf : f [] = none) :
      (sources.filterMap f).getLast? = ([layer].filterMap f).getLast? := by
    rw [getLast?_filterMap_of_alike hl fun l hm => (ha l hm).imp (· ▸ hf) (congrArg f),
      getLast?_filterMap_singleton]
  refine ⟨?_, ?_, ?_, fun name => ?_⟩
  · rw [h.checkSchema, hlast rfl]
  · rw [h.rejectUnsupported, hlast rfl]
  · rw [h.schemaDirs, hlast rfl]
  · rw [h.formats, hlast rfl]

/-- Well-typed layers of all sources are read as settings each of which is what the last source that
sets it gives. -/
theorem load_of_layers {fs : FileSystem} {userFile explicit : Option String} {vars : Variables}
    {sources : List Layer} (hl : layers fs userFile explicit vars = .ok sources)
    (ht : ∀ layer ∈ sources, Layer.WellTyped layer) :
    ∃ s, load fs userFile explicit vars = .ok s ∧ LastOf sources s := by
  obtain ⟨v, hm, hv, hat⟩ := Layer.merged?_of_wellTyped ht
  obtain ⟨s, hs, hcheck, hreject, hdirs, hformats⟩ := ofSetting?_of_laid hv
  have hlast {α : Type} {read? : Setting → Option α} {part name : String} {k : Wanted}
      (hk : Setting.wanted? part name = some k) (hread : ∀ w, k.Reads w → (read? w).isSome) :
      (v.at? part name).bind read? =
        (sources.filterMap fun layer => (layer.value? part name).bind read?).getLast? := by
    rw [hat part name (by rw [hk]; rfl), getLast?_filterMap_bind]
    exact fun layer hl w hw => hread w ((ht layer hl).fits hw k hk)
  refine ⟨s, ?_, ?_, ?_, ?_, fun name => ?_⟩
  · simp only [load, hl, bind, Except.bind, hm, hs]
  · rw [hcheck, hlast (k := .flag) rfl fun _ h => h]
    rfl
  · rw [hreject, hlast (k := .flag) rfl fun _ h => h]
    rfl
  · rw [hdirs, hlast (k := .texts) rfl fun _ h => h]
    rfl
  · rw [hformats, hlast (k := .text) rfl fun _ h => h]
    rfl

end Settings

/-! ### Files and environment variables -/

/-- What a file is taken to hold: nothing if there is none, and what its text is read as
otherwise. -/
inductive ConfigFile.Holds (fs : FileSystem) (path : String) : Layer → Prop where
  | missing (hfind : find? fs path = none) : Holds fs path []
  | found {file text : String} {form : ConfigFormat} {layer : Layer}
      (hfind : find? fs path = some (file, form)) (htext : fs.readText file = .ok text)
      (hlayer : form.layer? text = some layer) : Holds fs path layer

theorem ConfigFile.Holds.read {fs : FileSystem} {path : String} {layer : Layer} {required : Bool}
    (h : Holds fs path layer) (hr : required = true → (find? fs path).isSome) :
    read fs path required = .ok layer := by
  cases h with
  | missing hfind =>
    cases required with
    | false => rw [ConfigFile.read, hfind]; rfl
    | true => rw [hfind] at hr; cases hr rfl
  | found hfind htext hlayer => rw [ConfigFile.read, hfind]; simp only [htext, hlayer]

theorem mapM_of_forall₂ {ε α β : Type} {f : α → Except ε β} {xs : List α} {ys : List β}
    (h : List.Forall₂ (fun x y => f x = .ok y) xs ys) : xs.mapM f = .ok ys := by
  induction h with
  | nil => rfl
  | cons hx _ ih =>
    rw [List.mapM_cons, hx, ih]
    rfl

theorem Variables.layer_of_none {vars : Variables} (h : ∀ v ∈ vars, path? v.1 = none) :
    layer vars = [] :=
  List.filterMap_eq_nil_iff.2 fun v hv => by rw [h v hv]; rfl

namespace Settings

variable {fs : FileSystem} {userFile explicit : Option String} {vars : Variables}

/-- The files that settings come from, the weakest first. -/
def sourceFiles (fs : FileSystem) (userFile explicit : Option String) : List String :=
  localFiles ++ existing fs userFile ++ explicit.toList

theorem layers_of_holds (vars : Variables) {files : List Layer}
    (hfiles : List.Forall₂ (ConfigFile.Holds fs) (sourceFiles fs userFile explicit) files)
    (hexplicit : ∀ path ∈ explicit, (ConfigFile.find? fs path).isSome) :
    layers fs userFile explicit vars = .ok (files ++ [Variables.layer vars]) := by
  -- the file asked for is read apart from the others, since it must be there
  have hopt := List.forall₂_take (localFiles ++ existing fs userFile).length hfiles
  have hreq := List.forall₂_drop (localFiles ++ existing fs userFile).length hfiles
  rw [sourceFiles, List.take_left] at hopt
  rw [sourceFiles, List.drop_left] at hreq
  have h₁ := mapM_of_forall₂ (f := (ConfigFile.read fs · false)) <|
    hopt.imp fun _ _ h => h.read nofun
  have h₂ := mapM_of_forall₂ (f := (ConfigFile.read fs · true)) <|
    forall₂_imp_of_mem hreq fun path hp _ h => h.read fun _ => hexplicit path (by simpa using hp)
  rw [layers, h₁, h₂]
  change Except.ok (_ ++ _ ++ _) = _
  rw [List.take_append_drop]

/-- Every source that there is overrides those before it, setting by setting: local files, the file
of the user, the file asked for, and environment variables. -/
theorem load_isLastOf {files : List Layer}
    (hfiles : List.Forall₂ (ConfigFile.Holds fs) (sourceFiles fs userFile explicit) files)
    (hexplicit : ∀ path ∈ explicit, (ConfigFile.find? fs path).isSome)
    (htyped : ∀ layer ∈ files ++ [Variables.layer vars], Layer.WellTyped layer) :
    ∃ s, load fs userFile explicit vars = .ok s ∧ LastOf (files ++ [Variables.layer vars]) s :=
  load_of_layers (layers_of_holds vars hfiles hexplicit) htyped

/-- If all files that there are hold the same, and no variable has a setting, this is what
counts. -/
theorem load_of_alike {files : List Layer}
    (hfiles : List.Forall₂ (ConfigFile.Holds fs) (sourceFiles fs userFile explicit) files)
    (hexplicit : ∀ path ∈ explicit, (ConfigFile.find? fs path).isSome) {layer : Layer}
    (hl : layer ∈ files) (ha : ∀ l ∈ files, l = [] ∨ l = layer) (ht : Layer.WellTyped layer)
    (hvars : ∀ v ∈ vars, Variables.path? v.1 = none) :
    ∃ s, load fs userFile explicit vars = .ok s ∧ LastOf [layer] s := by
  have hlayers := layers_of_holds vars hfiles hexplicit
  rw [Variables.layer_of_none hvars] at hlayers
  have hall : ∀ l ∈ files ++ [[]], l = [] ∨ l = layer := by
    intro l hl
    rcases List.mem_append.1 hl with hl | hl
    · exact ha l hl
    · exact .inl (List.mem_singleton.1 hl)
  obtain ⟨s, hs, hlast⟩ := load_of_layers hlayers fun l hl => by
    rcases hall l hl with rfl | rfl
    · exact nofun
    · exact ht
  exact ⟨s, hs, hlast.of_alike (List.mem_append_left _ hl) hall⟩

/-- No files. -/
def noFiles : FileSystem := ⟨.directory [], []⟩

/-- A local file and a file to ask for. -/
def twoFiles : FileSystem :=
  ⟨.directory [("validator.toml", .file "[formats]\nzip = \"a\"\n".toUTF8),
    ("own.toml", .file "[formats]\nZIP = \"b\"\n".toUTF8)], []⟩

theorem find_twoFiles {path : String} (hn : path ≠ "")
    (hs : '/' ∉ path.toList) (hp : path.startsWith "/" = false) :
    twoFiles.find path = (FileTree.follow [] twoFiles.root [path]).map Prod.snd := by
  rw [FileSystem.find, if_neg hn, FileSystem.names, hp, splitOn_slash_of_notMem hs]
  rfl

/-- With both files and a variable, the file asked for overrides the local one. -/
theorem load_isLastOf_twoFiles :
    ∃ s, load twoFiles none (some "own.toml") [("VALIDATOR__VALIDATION__CHECK_SCHEMA", "no")] =
        .ok s ∧
      s.checkSchema = false ∧ s.formats.get? "zip" = some "b" ∧ s.formats.get? "ZIP" = none := by
  have hfind : ConfigFile.find? twoFiles "validator.toml" = some ("validator.toml", .toml) ∧
      ConfigFile.find? twoFiles ".validator.toml" = none ∧
      ConfigFile.find? twoFiles "config/validator.toml" = none ∧
      ConfigFile.find? twoFiles "own.toml" = some ("own.toml", .toml) := by
    simp only [ConfigFile.find?, ConfigFormat.ofPath?, FileName.extension?, FileName.extended?,
      FileName.ofPath?, FileName.parts, FileSystem.isFile, FileSystem.find, FileSystem.names,
      splitOn_slash]
    decide +kernel
  have hlocal : ConfigFile.Holds twoFiles "validator.toml"
      [("formats", .table [("zip", .text "a")])] := by
    have htext : twoFiles.readText "validator.toml" = .ok "[formats]\nzip = \"a\"\n" := by
      refine FileSystem.readText_of_find ?_
      rw [find_twoFiles (by decide) (by decide) (by decide +kernel)]
      rfl
    refine .found hfind.1 htext ?_
    rw [ConfigFormat.layer?]
    cbv
  have hasked : ConfigFile.Holds twoFiles "own.toml"
      [("formats", .table [("ZIP", .text "b")])] := by
    have htext : twoFiles.readText "own.toml" = .ok "[formats]\nZIP = \"b\"\n" := by
      refine FileSystem.readText_of_find ?_
      rw [find_twoFiles (by decide) (by decide) (by decide +kernel)]
      rfl
    refine .found hfind.2.2.2 htext ?_
    rw [ConfigFormat.layer?]
    cbv
  have hvars : Variables.layer [("VALIDATOR__VALIDATION__CHECK_SCHEMA", "no")] =
      [("validation.check_schema", .text "no")] := by cbv
  have hformats (name p : String) : Layer.WellTyped [("formats", .table [(name, .text p)])] := by
    refine List.forall_mem_singleton.2 (.of_part (by decide) (List.forall_mem_singleton.2 ?_))
    exact Setting.fits_of_reads (Setting.wanted?_formats _) rfl
  have hset : Layer.WellTyped [("validation.check_schema", .text "no")] := by
    have hpath : KeyPath.ofText "validation.check_schema" =
        ⟨"validation", [.entry "check_schema"]⟩ := by decide +kernel
    exact List.forall_mem_singleton.2 <| .value hpath <|
      Setting.fits_of_reads (k := .flag) (by decide +kernel)
        (show (Setting.truth? (.text "no")).isSome by decide +kernel)
  obtain ⟨s, hs, hl⟩ := @load_isLastOf twoFiles none (some "own.toml")
    [("VALIDATOR__VALIDATION__CHECK_SCHEMA", "no")] _
    (.cons hlocal (.cons (.missing hfind.2.1) (.cons (.missing hfind.2.2.1)
      (.cons hasked .nil))))
    (by simp [hfind.2.2.2])
    (by
      have hnone : Layer.WellTyped [] := List.forall_mem_nil _
      simp only [hvars, List.cons_append, List.nil_append, List.forall_mem_cons]
      exact ⟨hformats _ _, hnone, hnone, hformats _ _, hset, List.forall_mem_nil _⟩)
  rw [hvars] at hl
  refine ⟨s, hs, ?_, ?_, ?_⟩
  · rw [hl.checkSchema]
    decide +kernel
  · rw [hl.formats]
    decide +kernel
  · rw [hl.formats]
    decide +kernel

end Settings

end ShapeCheck
