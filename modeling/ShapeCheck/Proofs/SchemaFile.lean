import ShapeCheck.Command.Run
import ShapeCheck.Log.Filter
import ShapeCheck.Proofs.CommandLine
import ShapeCheck.Proofs.Directory
import ShapeCheck.Proofs.EventLog
import ShapeCheck.Proofs.Registration

/-!
# Schemas in files

A schema in a file can be given by the path of the file, or by its name together with a directory
that holds the file.

* `Validator.schema?_registerAll_of_last`: a name stands for its last well-formed document;
* `Validator.schema?_loadDirectory`: after a directory is loaded, a name stands for the last
  well-formed document that goes by it;
* `Command.question_byName`, `question_byFile`: what is asked about a value;
* `Command.prepare_of_no_settings`: without files of settings, the validator is the standard one;
* `Outcome.execute_both`: what both ways come to;
* `Outcome.same_verdict_by_name_and_by_file`: they come to the same report, and what is told on the
  way differs by the loading of the directory.

A directory is loaded as a whole before a name is looked up: files that are rejected are passed
over, and one name can be used more than once.  The loading is told of on the stream that the report
is written to, so who asks to hear of it sees more by name than by path.
-/

namespace ShapeCheck

namespace Validator

variable {v : Validator} {name : String} {document : Json}

/-! ### Registrations -/

@[simp] theorem checker_register : (v.register name document).2.checker = v.checker := by
  cases h : v.compile document with
  | ok s =>
    rw [register_of_ok h]
    rfl
  | bad first rest => rw [register_of_bad h]

@[simp] theorem checker_registerAll (v : Validator) (entries : List (String × Json)) :
    (v.registerAll entries).checker = v.checker := by
  induction entries generalizing v with
  | nil => rfl
  | cons entry rest ih => rw [registerAll_cons, ih, checker_register]

theorem registerAll_append (v : Validator) (entries more : List (String × Json)) :
    v.registerAll (entries ++ more) = (v.registerAll entries).registerAll more :=
  List.foldl_append

/-- A document gives a schema exactly if it is well formed. -/
theorem exists_compile_iff : (∃ s, v.compile document = .ok s) ↔ v.checker.WellFormed document := by
  rw [← Checker.errors_node v.checker Locator.root document, Checked.errors_eq_nil_iff]
  constructor
  · rintro ⟨s, hs⟩
    obtain ⟨n, hn, -⟩ := Checked.map_eq_ok_iff.1 hs
    exact ⟨n, hn⟩
  · rintro ⟨n, hn⟩
    exact ⟨_, Checked.map_eq_ok_iff.2 ⟨n, hn, rfl⟩⟩

/-- Only well-formed documents are accepted. -/
theorem wellFormed_of_mem_accepted {entries : List (String × Json)} {entry : String × Json}
    (h : entry ∈ v.accepted entries) : entry ∈ entries ∧ v.checker.WellFormed entry.2 := by
  induction entries generalizing v with
  | nil => cases h
  | cons first rest ih =>
    rw [accepted_cons, List.mem_append] at h
    rcases h with h | h
    · by_cases hf : (v.register first.1 first.2).1 = []
      · rw [accepted_of_nil hf, List.mem_singleton] at h
        subst h
        exact ⟨List.mem_cons_self, exists_compile_iff.1 (register_fst_eq_nil_iff.1 hf)⟩
      · rw [accepted_of_ne_nil hf] at h
        cases h
    · obtain ⟨hm, hw⟩ := ih h
      rw [checker_register] at hw
      exact ⟨List.mem_cons_of_mem _ hm, hw⟩

/-- A name stands for its last well-formed document. -/
theorem schema?_registerAll_of_last {before after : List (String × Json)} {s : Schema}
    (hs : v.compile document = .ok s)
    (last : ∀ d, (name, d) ∈ after → ¬ v.checker.WellFormed d) :
    (v.registerAll (before ++ (name, document) :: after)).schema? name = some s := by
  have hc : (v.registerAll before).compile document = .ok s := by
    rw [compile, checker_registerAll]
    exact hs
  rw [registerAll_append, registerAll_cons, register_of_ok hc, schema?_registerAll]
  · rw [schema?, Table.get?_insert, if_pos rfl]
  · intro hm
    obtain ⟨⟨other, d⟩, ha, rfl⟩ := List.mem_map.1 hm
    obtain ⟨hd, hw⟩ := wellFormed_of_mem_accepted ha
    refine last d hd ?_
    have he : v.checker = (v.registerAll before).checker := (checker_registerAll v before).symm
    rw [he]
    exact hw

/-! ### Directories -/

/-- The loading comes to its end exactly if all files can be read. -/
theorem exists_loadFiles_iff {done : Summary} {files : List (String × ByteArray)} :
    (∃ summary, (v.loadFiles done files).1 = .ok summary) ↔
      ∀ file ∈ files, ∃ d, readDocument file.1 file.2 = .ok d := by
  induction files generalizing v done with
  | nil => exact ⟨fun _ => List.forall_mem_nil _, fun _ => ⟨done, rfl⟩⟩
  | cons file rest ih =>
    obtain ⟨path, content⟩ := file
    rw [loadFiles, List.forall_mem_cons]
    cases hd : readDocument path content with
    | error failure => simp
    | ok d => exact ih.trans (and_iff_right ⟨d, rfl⟩).symm

theorem readable_append {files more : List (String × ByteArray)}
    (h : ∀ file ∈ files, ∃ d, readDocument file.1 file.2 = .ok d) :
    readable (files ++ more) = readable files ++ readable more := by
  induction files with
  | nil => rfl
  | cons file rest ih =>
    obtain ⟨path, content⟩ := file
    rw [List.forall_mem_cons] at h
    obtain ⟨⟨d, hd⟩, hrest⟩ := h
    simp only [List.cons_append, readable, hd, ih hrest]

theorem exists_of_mem_readable {files : List (String × ByteArray)} {entry : String × Json}
    (h : entry ∈ readable files) :
    ∃ file ∈ files, readDocument file.1 file.2 = .ok entry.2 ∧
      (FileName.stem? file.1).getD "" = entry.1 := by
  induction files with
  | nil => cases h
  | cons file rest ih =>
    obtain ⟨path, content⟩ := file
    rw [readable] at h
    cases hd : readDocument path content with
    | error failure =>
      rw [hd] at h
      cases h
    | ok d =>
      rw [hd] at h
      rcases List.mem_cons.1 h with rfl | h
      · exact ⟨(path, content), List.mem_cons_self, hd, rfl⟩
      · obtain ⟨file, hm, hf⟩ := ih h
        exact ⟨file, List.mem_cons_of_mem _ hm, hf⟩

theorem loadDirectory_of_walk {fs : FileSystem} {dir : String}
    {files : List (String × ByteArray)} (hw : fs.walk dir = .ok files) :
    v.loadDirectory fs dir =
      v.loadFiles ⟨[], []⟩ (files.filter fun file => isSchemaFile file.1) := by
  rw [loadDirectory, hw]

theorem documents_of_walk {fs : FileSystem} {dir : String} {files : List (String × ByteArray)}
    (hw : fs.walk dir = .ok files) :
    documents fs dir = readable (files.filter fun file => isSchemaFile file.1) := by
  rw [documents, hw]

/-- A schema file has a stem. -/
theorem stem?_eq_some {path : String} (h : isSchemaFile path = true) :
    FileName.stem? path = some ((FileName.stem? path).getD "") := by
  have he := eq_of_beq h
  rw [FileName.extension?] at he
  rw [FileName.stem?]
  cases hp : FileName.ofPath? path with
  | none =>
    rw [hp] at he
    cases he
  | some name => rfl

/-- A file is the last one of a list that goes by a name and holds a well-formed document. -/
structure IsLast (v : Validator) (name : String) (file : String × ByteArray) (document : Json)
    (files : List (String × ByteArray)) : Prop where
  extension : isSchemaFile file.1 = true
  stem : FileName.stem? file.1 = some name
  read : readDocument file.1 file.2 = .ok document
  wellFormed : v.checker.WellFormed document
  last : ∃ before after, files = before ++ file :: after ∧
    ∀ other ∈ after, isSchemaFile other.1 = true → FileName.stem? other.1 = some name →
      ∀ d, readDocument other.1 other.2 = .ok d → ¬ v.checker.WellFormed d

/-- After a directory is loaded, a name stands for the last well-formed document in its files that
goes by the name. -/
theorem schema?_loadDirectory {fs : FileSystem} {dir : String} {summary : Summary}
    {files : List (String × ByteArray)} {file : String × ByteArray} {s : Schema}
    (hl : (v.loadDirectory fs dir).1 = .ok summary) (hw : fs.walk dir = .ok files)
    (h : v.IsLast name file document files) (hs : v.compile document = .ok s) :
    (v.loadDirectory fs dir).2.schema? name = some s := by
  obtain ⟨before, after, rfl, hlast⟩ := h.last
  -- files that are no schemas play no part, and all others before the last one can be read
  have hfilter : (before ++ file :: after).filter (fun file => isSchemaFile file.1) =
      before.filter (fun file => isSchemaFile file.1) ++
        file :: after.filter fun file => isSchemaFile file.1 := by
    rw [List.filter_append, List.filter_cons, if_pos h.extension]
  have hr : ∀ other ∈ before.filter (fun file => isSchemaFile file.1),
      ∃ d, readDocument other.1 other.2 = .ok d := by
    rw [loadDirectory_of_walk hw, hfilter] at hl
    exact fun other hm => exists_loadFiles_iff.1 ⟨_, hl⟩ other (List.mem_append_left _ hm)
  have hd : documents fs dir = readable (before.filter fun file => isSchemaFile file.1) ++
      (name, document) :: readable (after.filter fun file => isSchemaFile file.1) := by
    rw [documents_of_walk hw, hfilter, readable_append hr, readable, h.read]
    simp only [h.stem, Option.getD_some]
  rw [loadDirectory_snd, hd]
  refine schema?_registerAll_of_last hs fun d hm => ?_
  obtain ⟨other, ho, hread, hname⟩ := exists_of_mem_readable hm
  obtain ⟨ho, he⟩ := List.mem_filter.1 ho
  exact hlast other ho he ((stem?_eq_some he).trans (congrArg some hname)) d hread

/-- After a directory is loaded, a value is judged by the name of a file in it as it was judged by
the document in this file before, and the same happens meanwhile. -/
theorem validate_loadDirectory {fs : FileSystem} {dir : String} {summary : Summary}
    {files : List (String × ByteArray)} {file : String × ByteArray}
    (hl : (v.loadDirectory fs dir).1 = .ok summary) (hw : fs.walk dir = .ok files)
    (h : v.IsLast name file document files) (value : Json) :
    (v.loadDirectory fs dir).2.validate (.named name) value =
        v.validate (.inline document) value ∧
      (v.loadDirectory fs dir).2.validateEvents (.named name) value =
        v.validateEvents (.inline document) value := by
  obtain ⟨s, hc⟩ := exists_compile_iff.2 h.wellFormed
  have hname : (v.loadDirectory fs dir).2.schemas.get? name = some s :=
    schema?_loadDirectory hl hw h hc
  constructor
  · simp only [validate, hname, hc, validateCompiled, environment_loadDirectory]
  · simp only [validateEvents, hname, hc, environment_loadDirectory]

end Validator

/-! ### Settings -/

/-- No file is found under a name if none of the files that it can stand for is there. -/
theorem ConfigFile.find?_eq_none {fs : FileSystem} {path : String}
    (h : ∀ c ∈ ConfigFile.candidates path, fs.isFile c = false) :
    ConfigFile.find? fs path = none := by
  rw [ConfigFile.candidates, List.forall_mem_cons] at h
  rw [ConfigFile.find?, if_neg (Bool.eq_false_iff.1 h.1)]
  refine List.findSome?_eq_none_iff.2 ?_
  rintro ⟨extension, form⟩ hm
  cases hl : FileName.extended? path extension with
  | none => simp [hl]
  | some longer =>
    have hf := h.2 longer (List.mem_filterMap.2 ⟨(extension, form), hm, hl⟩)
    simp [hl, hf]

/-- Where no settings are given, they are those that stand for themselves. -/
theorem Settings.load_eq_default {fs : FileSystem} {vars : Variables} (hv : vars.layer = [])
    (h : ∀ c ∈ Settings.candidates none none, fs.isFile c = false) :
    Settings.load fs none none vars = .ok .default := by
  have hr : ∀ path ∈ Settings.localFiles, ConfigFile.read fs path false = .ok [] := by
    intro path hp
    have hc : ∀ c ∈ ConfigFile.candidates path, fs.isFile c = false := fun c hc =>
      h c (List.mem_flatMap.2 ⟨path, by simpa using hp, hc⟩)
    rw [ConfigFile.read, ConfigFile.find?_eq_none hc]
    rfl
  simp only [Settings.localFiles, List.forall_mem_cons] at hr
  obtain ⟨h1, h2, h3, -⟩ := hr
  have hl : Settings.layers fs none none vars = .ok [[], [], [], []] := by
    simp [Settings.layers, Settings.localFiles, Settings.existing, h1, h2, h3, hv]
    rfl
  rw [Settings.load, hl]
  rfl

/-! ### Commands -/

namespace Command

/-- What is read from a file is what is read from its bytes. -/
theorem readDocument_of_readBytes {fs : FileSystem} {path path' : String} {content : ByteArray}
    {document : Json} (hb : fs.readBytes path = .ok content)
    (h : Validator.readDocument path' content = .ok document) :
    readDocument fs path = .ok document := by
  rw [Validator.readDocument] at h
  rw [readDocument, FileSystem.readText, hb, Except.bind]
  cases ht : FileSystem.textOf content with
  | error fault =>
    rw [ht] at h
    cases h
  | ok text =>
    rw [ht] at h
    dsimp only at h ⊢
    cases hj : Json.read text with
    | error error =>
      rw [hj] at h
      cases h
    | ok d =>
      rw [hj] at h
      cases h
      rfl

/-- With the schema by name, the question is about what the name stands for. -/
theorem question_byName (fs : FileSystem) (name value : String) :
    question fs [value] (some name) =
      (readDocument fs value).map fun w => ⟨.named name, value, w⟩ := by
  have he : question fs [value] (some name) =
      (readDocument fs value).bind fun w => .ok ⟨.named name, value, w⟩ := rfl
  rw [he]
  cases readDocument fs value <;> rfl

/-- With the schema in a file that can be read, the question is about the document there. -/
theorem question_byFile {fs : FileSystem} {schema : String} {document : Json}
    (h : readDocument fs schema = .ok document) (value : String) :
    question fs [schema, value] none =
      (readDocument fs value).map fun w => ⟨.inline document, value, w⟩ := by
  have he : question fs [schema, value] none = (readDocument fs value).bind fun w =>
      (readDocument fs schema).bind fun d => .ok ⟨.inline d, value, w⟩ := rfl
  rw [he, h]
  cases readDocument fs value <;> rfl

/-- The value is judged alike by the name, once the directory is loaded, and by the file. -/
theorem judged_alike {fs : FileSystem} {v : Validator} {dir schema name : String}
    {summary : Summary} {files : List (String × ByteArray)} {file : String × ByteArray}
    {document : Json} (loaded : (v.loadDirectory fs dir).1 = .ok summary)
    (walked : fs.walk dir = .ok files) (last : v.IsLast name file document files)
    (hread : readDocument fs schema = .ok document) (json : Bool) (value : String) :
    validateFile fs (v.loadDirectory fs dir).2 json [value] (some name) =
        validateFile fs v json [schema, value] none ∧
      fileEvents fs (v.loadDirectory fs dir).2 [value] (some name) =
        fileEvents fs v [schema, value] none := by
  have hjudge := Validator.validate_loadDirectory loaded walked last
  simp only [validateFile, fileEvents, question_byName, question_byFile hread]
  cases readDocument fs value with
  | error trouble => exact ⟨rfl, rfl⟩
  | ok w => exact ⟨by simp only [Except.map, (hjudge w).1], (hjudge w).2⟩

/-- A directory that is loaded to its end leaves the validator that its loading gives. -/
theorem loadDirectories_singleton {fs : FileSystem} {v : Validator} {dir : String}
    {summary : Summary} (h : (v.loadDirectory fs dir).1 = .ok summary) :
    loadDirectories fs v [dir] =
      (summary.rejected.map rejection, .ok (v.loadDirectory fs dir).2) := by
  cases hl : v.loadDirectory fs dir with
  | mk result w =>
    rw [hl] at h
    obtain rfl : result = .ok summary := h
    simp only [loadDirectories, hl, List.append_nil]

theorem directoriesEvents_singleton {fs : FileSystem} {v : Validator} {dir : String}
    {summary : Summary} (h : (v.loadDirectory fs dir).1 = .ok summary) :
    v.directoriesEvents fs (fun _ _ => []) [dir] = v.directoryEvents fs dir := by
  cases hl : v.loadDirectory fs dir with
  | mk result w =>
    rw [hl] at h
    obtain rfl : result = .ok summary := h
    simp only [Validator.directoriesEvents, hl, List.append_nil]

/-- Where no settings are given, the validator is the standard one. -/
theorem prepare_of_no_settings {fs : FileSystem} {vars : Variables} (hv : vars.layer = [])
    (h : ∀ c ∈ Settings.candidates none none, fs.isFile c = false) :
    prepare ⟨fs, none, vars⟩ none = .ok .new := by
  rw [prepare, Settings.load_eq_default hv h]
  rfl

end Command

namespace Outcome

open Command

/-- The report and the exit code are those of the verdict, whatever happens on the way. -/
theorem ofResult_congr (log log' : List Event) (warnings warnings' : List String)
    (result : Except Trouble Verdict) :
    (ofResult log warnings result).exitCode = (ofResult log' warnings' result).exitCode ∧
      (ofResult log warnings result).output = (ofResult log' warnings' result).output := by
  cases result with
  | ok verdict => exact ⟨rfl, rfl⟩
  | error trouble => cases trouble <;> exact ⟨rfl, rfl⟩

@[simp] theorem log_ofResult (log : List Event) (warnings : List String)
    (result : Except Trouble Verdict) : (ofResult log warnings result).log = log := by
  cases result with
  | ok verdict => rfl
  | error trouble => cases trouble <;> rfl

/-- What happens besides goes unnoticed exactly if nothing of it is shown. -/
theorem standardOutput_insert_iff (listener : Listener) (place : Place) (clock : Nat → String)
    (before more after : List Event) (warnings warnings' : List String)
    (result : Except Trouble Verdict) :
    (ofResult (before ++ more ++ after) warnings result).standardOutput listener place clock =
        (ofResult (before ++ after) warnings' result).standardOutput listener place clock ↔
      ∀ e ∈ more, listener.shows place.logRequest e = false := by
  obtain ⟨-, hreport⟩ :=
    ofResult_congr (before ++ more ++ after) (before ++ after) warnings warnings' result
  rw [standardOutput, standardOutput, hreport, List.append_cancel_right_eq, log_ofResult,
    log_ofResult]
  exact listener.lines_insert_iff _ _ _ _ _

/-- Where nobody asks for what happens, only the report is printed. -/
theorem standardOutput_unasked (o : Outcome) (listener : Listener) {place : Place}
    (h : place.logRequest = none) (clock : Nat → String) :
    o.standardOutput listener place clock = o.output := by
  rw [standardOutput, h, Listener.lines_unasked, List.nil_append]

theorem execute_validate {place : Place} {v : Validator} {config : Option String}
    (h : prepare place config = .ok v) (json : Bool) (files : List String) (name : Option String)
    (dirs : List String) :
    Request.execute ⟨config, json, .validate files name dirs⟩ place =
      ofResult
        (preparationEvents place config ++ (Command.validate files name dirs).events place.files v)
        (loadDirectories place.files v dirs).1
        ((loadDirectories place.files v dirs).2.bind fun v =>
          validateFile place.files v json files name) := by
  simp only [Request.execute, h, run]

variable {place : Place} {v : Validator} {front back : List String} {fw bw : List Word}
  {config : Option String} {json : Bool} {dir schema name value : String} {summary : Summary}
  {files : List (String × ByteArray)} {file : String × ByteArray} {document : Json}

/-- What comes of a value judged by the name of a schema, with the directory of its file. -/
def byName (place : Place) (front back : List String) (name dir value : String) : Outcome :=
  ofArguments place
    (front ++ ("validate" :: (["--name", name, "--schema-dir", dir, value] ++ back)))

/-- What comes of a value judged by the schema in a file. -/
def byFile (place : Place) (front back : List String) (schema value : String) : Outcome :=
  ofArguments place (front ++ ("validate" :: ([schema, value] ++ back)))

theorem execute_byFile (hf : Flags front fw) (hb : Flags back bw)
    (hs : settings? fw bw = some (config, json)) (prepared : prepare place config = .ok v)
    (hsp : Plain schema) (hv : Plain value) (hsne : schema ≠ "") (hvne : value ≠ "") :
    byFile place front back schema value =
      ofResult (preparationEvents place config ++ fileEvents place.files v [schema, value] none) []
        (validateFile place.files v json [schema, value] none) := by
  rw [byFile, ofArguments, Request.ofArguments?_byFile hf hb hsp hv hsne hvne, hs, Option.map_some]
  exact execute_validate prepared _ _ _ _

theorem execute_byName (hf : Flags front fw) (hb : Flags back bw)
    (hs : settings? fw bw = some (config, json)) (prepared : prepare place config = .ok v)
    (loaded : (v.loadDirectory place.files dir).1 = .ok summary)
    (hn : Plain name) (hd : Plain dir) (hv : Plain value) (hdne : dir ≠ "") (hvne : value ≠ "") :
    byName place front back name dir value =
      ofResult
        (preparationEvents place config ++ (v.directoryEvents place.files dir ++
          fileEvents place.files (v.loadDirectory place.files dir).2 [value] (some name)))
        (summary.rejected.map rejection)
        (validateFile place.files (v.loadDirectory place.files dir).2 json [value]
          (some name)) := by
  rw [byName, ofArguments, Request.ofArguments?_byName hf hb hn hd hv hdne hvne, hs,
    Option.map_some]
  dsimp only
  rw [execute_validate prepared, Command.events, directoriesEvents_singleton loaded,
    loadDirectories_singleton loaded]
  rfl

/-- By name the verdict is that of the file, and the loading of the directory is all that happens
besides. -/
theorem execute_both (proper : place.files.root.Proper)
    (hf : Flags front fw) (hb : Flags back bw) (hs : settings? fw bw = some (config, json))
    (prepared : prepare place config = .ok v)
    (loaded : (v.loadDirectory place.files dir).1 = .ok summary)
    (walked : place.files.walk dir = .ok files) (last : v.IsLast name file document files)
    (path : place.files.readBytes schema = place.files.readBytes file.1)
    (hn : Plain name) (hd : Plain dir) (hsp : Plain schema) (hv : Plain value) (hvne : value ≠ "") :
    byName place front back name dir value =
        ofResult
          (preparationEvents place config ++ v.directoryEvents place.files dir ++
            fileEvents place.files v [schema, value] none)
          (summary.rejected.map rejection)
          (validateFile place.files v json [schema, value] none) ∧
      byFile place front back schema value =
        ofResult (preparationEvents place config ++ fileEvents place.files v [schema, value] none)
          [] (validateFile place.files v json [schema, value] none) := by
  obtain ⟨ahead, behind, hfiles, -⟩ := last.last
  have hread : place.files.readBytes schema = .ok file.2 := by
    rw [path]
    exact FileSystem.readBytes_of_mem_walk proper walked
      (hfiles ▸ List.mem_append_right _ List.mem_cons_self)
  have hdne : dir ≠ "" := by
    rintro rfl
    cases walked
  have hsne : schema ≠ "" := by
    rintro rfl
    cases hread
  obtain ⟨hverdict, hevents⟩ :=
    judged_alike loaded walked last (readDocument_of_readBytes hread last.read) json value
  refine ⟨?_, execute_byFile hf hb hs prepared hsp hv hsne hvne⟩
  rw [execute_byName hf hb hs prepared loaded hn hd hv hdne hvne, hverdict, hevents,
    List.append_assoc]

/-- **A schema in a file can be given by name or by path.**  If the settings give a validator, a
directory is loaded to its end, and a file in it is the last one there that goes by its name and
holds a well-formed document, then a value is judged alike by the name, with the directory, and by
the file, under any path that leads to it: the exit code and the report are the same, and what
happens on the way differs by the loading of the directory.

So the same lines are printed, up to the times that they bear, exactly if nothing of this loading is
to be shown.  For who asks for a level this is the level of errors, or a level up to information if
no file is rejected.  Where nobody asks for what happens, the report is all that is printed. -/
theorem same_verdict_by_name_and_by_file (proper : place.files.root.Proper)
    (hf : Flags front fw) (hb : Flags back bw) (hs : settings? fw bw = some (config, json))
    (prepared : prepare place config = .ok v)
    (loaded : (v.loadDirectory place.files dir).1 = .ok summary)
    (walked : place.files.walk dir = .ok files) (last : v.IsLast name file document files)
    (path : place.files.readBytes schema = place.files.readBytes file.1)
    (hn : Plain name) (hd : Plain dir) (hsp : Plain schema) (hv : Plain value) (hvne : value ≠ "")
    (listener : Listener) (clock clock' : Nat → String) :
    let named := byName place front back name dir value
    let filed := byFile place front back schema value
    named.exitCode = filed.exitCode ∧ named.output = filed.output ∧
    named.log = preparationEvents place config ++ v.directoryEvents place.files dir ++
      fileEvents place.files v [schema, value] none ∧
    filed.log = preparationEvents place config ++ fileEvents place.files v [schema, value] none ∧
    (named.standardOutput listener place clock = filed.standardOutput listener place clock ↔
      ∀ e ∈ v.directoryEvents place.files dir, listener.shows place.logRequest e = false) ∧
    (∀ l : Level, place.logRequest = some l.name →
      (named.standardOutput listener place clock = filed.standardOutput listener place clock ↔
        l = .error ∨ l.rank ≤ Level.info.rank ∧ summary.rejected = [])) ∧
    (place.logRequest = none →
      named.standardOutput listener place clock = named.output ∧
        filed.standardOutput listener place clock' = filed.output) := by
  intro named filed
  obtain ⟨hname, hfile⟩ :=
    execute_both proper hf hb hs prepared loaded walked last path hn hd hsp hv hvne
  have hsame : named.exitCode = filed.exitCode ∧ named.output = filed.output := by
    simp only [named, filed, hname, hfile]
    exact ofResult_congr _ _ _ _ _
  have hlog := (congrArg Outcome.log hname).trans (log_ofResult _ _ _)
  have hlog' := (congrArg Outcome.log hfile).trans (log_ofResult _ _ _)
  have hprinted :
      named.standardOutput listener place clock = filed.standardOutput listener place clock ↔
        ∀ e ∈ v.directoryEvents place.files dir, listener.shows place.logRequest e = false := by
    simp only [named, filed, hname, hfile]
    exact standardOutput_insert_iff _ _ _ _ _ _ _ _ _
  refine ⟨hsame.1, hsame.2, hlog, hlog', hprinted, fun l hl => ?_, fun hr => ?_⟩
  · rw [hprinted, hl]
    exact Validator.directory_unheard_iff loaded listener l
  · exact ⟨named.standardOutput_unasked listener hr clock,
      filed.standardOutput_unasked listener hr clock'⟩

/-- A file with a value, and a directory with a file that says what values are. -/
def codeFiles : FileSystem :=
  ⟨.directory [("codes", .directory [("code.json", .file "\"integer\"".toUTF8)]),
    ("seven.json", .file "7".toUTF8)], []⟩

theorem codeFiles_proper : codeFiles.root.Proper := by
  have hc : (FileTree.directory [("code.json", .file "\"integer\"".toUTF8)]).Proper :=
    .of_entries (by decide) (List.forall_mem_singleton.2 ⟨by decide, .file _⟩)
  refine .of_entries (by decide) ?_
  rw [List.forall_mem_cons, List.forall_mem_singleton]
  exact ⟨⟨by decide, hc⟩, by decide, .file _⟩

theorem codeFiles_no_settings :
    ∀ c ∈ Settings.candidates none none, codeFiles.isFile c = false := by
  simp only [Settings.candidates, Settings.localFiles, List.flatMap_cons, Option.toList_none,
    List.append_nil, List.flatMap_nil, ConfigFile.candidates, FileName.extended?, FileName.ofPath?,
    FileName.parts, splitOn_slash, FileSystem.isFile, FileSystem.find, FileSystem.names]
  decide +kernel

theorem walk_codes : codeFiles.walk "codes" = .ok [("codes/code.json", "\"integer\"".toUTF8)] := by
  have hf : codeFiles.find "codes" =
      .ok (.directory [("code.json", .file "\"integer\"".toUTF8)]) := by
    have hn : codeFiles.names "codes" = ["codes"] := by
      rw [FileSystem.names, splitOn_slash]
      decide +kernel
    rw [FileSystem.find, if_neg (by decide), hn]
    rfl
  have hj : FileTree.join "codes" "code.json" = "codes/code.json" := by
    rw [FileTree.join]
    decide +kernel
  rw [FileSystem.walk, hf]
  simp [Except.map, FileTree.walk, FileTree.walkEntries, hj]

theorem code_isLast : Validator.new.IsLast "code" ("codes/code.json", "\"integer\"".toUTF8)
    (.string "integer") [("codes/code.json", "\"integer\"".toUTF8)] where
  extension := by
    rw [Validator.isSchemaFile, FileName.extension?, FileName.ofPath?, FileName.parts,
      splitOn_slash]
    decide +kernel
  stem := by
    rw [FileName.stem?, FileName.ofPath?, FileName.parts, splitOn_slash]
    decide +kernel
  read := by
    rw [Validator.readDocument, FileSystem.textOf_toUTF8]
    rfl
  wellFormed := Validator.exists_compile_iff.1 ⟨_, rfl⟩
  last := ⟨[], [], rfl, List.forall_mem_nil _⟩

theorem codes_loaded : (Validator.new.loadDirectory codeFiles "codes").1 = .ok ⟨["code"], []⟩ := by
  rw [Validator.loadDirectory_of_walk walk_codes, List.filter_singleton, code_isLast.extension]
  simp only [cond_true, Validator.loadFiles, code_isLast.read, Validator.loadDocument,
    code_isLast.stem]
  rfl

theorem plain_words : ∀ word ∈ ["code", "codes", "codes/code.json", "seven.json"], Plain word := by
  decide +kernel

theorem sevenCode_same_verdict :
    let place : Place := ⟨codeFiles, none, []⟩
    let listener := Listener.standard true
    let named := byName place [] [] "code" "codes" "seven.json"
    let filed := byFile place [] [] "codes/code.json" "seven.json"
    named.exitCode = filed.exitCode ∧ named.output = filed.output ∧
    named.log = preparationEvents place none ++ Validator.new.directoryEvents codeFiles "codes" ++
      fileEvents codeFiles .new ["codes/code.json", "seven.json"] none ∧
    filed.log = preparationEvents place none ++
      fileEvents codeFiles .new ["codes/code.json", "seven.json"] none ∧
    (named.standardOutput listener place toString = named.output ∧
      filed.standardOutput listener place toString = filed.output) := by
  intro place listener named filed
  have prepared : prepare place none = .ok .new :=
    prepare_of_no_settings rfl codeFiles_no_settings
  obtain ⟨hcode, hreport, hlog, hlog', -, -, hunasked⟩ :=
    same_verdict_by_name_and_by_file codeFiles_proper .nil .nil rfl prepared codes_loaded walk_codes
      code_isLast rfl (plain_words "code" (by simp)) (plain_words "codes" (by simp))
      (plain_words "codes/code.json" (by simp)) (plain_words "seven.json" (by simp)) (by decide)
      listener toString toString
  exact ⟨hcode, hreport, hlog, hlog', hunasked rfl⟩

/-- An environment that asks for what happens, in plain text. -/
def askingVariables : Variables := [("RUST_LOG", "debug"), ("NO_COLOR", "1")]

theorem layer_askingVariables : askingVariables.layer = [] := by decide +kernel

/-- If the environment asks for what happens, more is printed by name than by file, although all is
well with the settings, the directory and the file in it. -/
theorem codes_told_of_by_name :
    let place : Place := ⟨codeFiles, none, askingVariables⟩
    let listener := Listener.standard true
    codeFiles.root.Proper ∧ prepare place none = .ok .new ∧
      (Validator.new.loadDirectory codeFiles "codes").1 = .ok ⟨["code"], []⟩ ∧
      codeFiles.walk "codes" = .ok [("codes/code.json", "\"integer\"".toUTF8)] ∧
      Validator.new.IsLast "code" ("codes/code.json", "\"integer\"".toUTF8) (.string "integer")
        [("codes/code.json", "\"integer\"".toUTF8)] ∧
      (byName place [] [] "code" "codes" "seven.json").standardOutput listener place toString ≠
        (byFile place [] [] "codes/code.json" "seven.json").standardOutput listener place
          toString := by
  intro place listener
  have prepared : prepare place none = .ok .new :=
    prepare_of_no_settings layer_askingVariables codeFiles_no_settings
  refine ⟨codeFiles_proper, prepared, codes_loaded, walk_codes, code_isLast, fun h => ?_⟩
  obtain ⟨hname, hfile⟩ :=
    execute_both codeFiles_proper .nil .nil rfl prepared codes_loaded walk_codes code_isLast
      rfl (plain_words "code" (by simp)) (plain_words "codes" (by simp))
      (plain_words "codes/code.json" (by simp)) (plain_words "seven.json" (by simp)) (by decide)
  rw [hname, hfile, standardOutput_insert_iff] at h
  have hquiet := (Validator.directory_unheard_iff codes_loaded listener .debug).1 h
  simp [Level.rank] at hquiet

end Outcome

end ShapeCheck
