import ShapeCheck.Proofs.History
import ShapeCheck.Proofs.SchemaFile

/-!
# Loading directories

Loading a directory registers the documents in its schema files from left to right, and stops at the
first file that holds none.

* `FileTree.exists_lists`: a walk comes to all files, in the order of the names that lead to them;
* `Validator.Source`: a document read from a file, with the path and the stem of the file;
* `Validator.told`, `Validator.filing`: what is told of sources, and the validator with those that
  are well formed filed;
* `Validator.loadDocument_eq`, `Validator.loadFiles_append`: one source, and all of them one after
  the other;
* `Validator.loadDirectory_folds`: what is told of a directory, and what is left of a directory that
  is not loaded to its end.
-/

namespace ShapeCheck

/-! ### The order of a walk -/

namespace FileTree

/-- A file with the content stands at the end of the names. -/
inductive Holds : FileTree → List String → ByteArray → Prop where
  | here (content : ByteArray) : Holds (.file content) [] content
  | entry {entries : List (String × FileTree)} {name : String} {t : FileTree}
      {route : List String} {content : ByteArray} (he : (name, t) ∈ entries)
      (h : Holds t route content) : Holds (.directory entries) (name :: route) content

/-- The routes lead to all files of a tree, each once and in the order of their names, and a walk
from any path comes to them in this order. -/
structure Lists (t : FileTree) (routes : List (List String × ByteArray)) : Prop where
  walk : ∀ path, t.walk path = routes.map fun r => (r.1.foldl join path, r.2)
  order : (routes.map Prod.fst).Pairwise (· < ·)
  mem : ∀ route content, (route, content) ∈ routes ↔ t.Holds route content

theorem lists_file (content : ByteArray) : (file content).Lists [([], content)] := by
  refine ⟨fun _ => rfl, List.pairwise_singleton _ _, fun route other => ?_⟩
  rw [List.mem_singleton, Prod.mk.injEq]
  constructor
  · rintro ⟨rfl, rfl⟩
    exact .here _
  · rintro ⟨⟩
    exact ⟨rfl, rfl⟩

/-- The entries of a directory by name. -/
def byName (entries : List (String × FileTree)) : List (String × FileTree) :=
  entries.mergeSort fun a b => decide (a.1 ≤ b.1)

theorem mem_byName {entries : List (String × FileTree)} {entry : String × FileTree} :
    entry ∈ byName entries ↔ entry ∈ entries := List.mem_mergeSort

/-- Entries with different names are in the strict order of their names. -/
theorem pairwise_byName {entries : List (String × FileTree)} (h : (entries.map Prod.fst).Nodup) :
    (byName entries).Pairwise fun a b => a.1 < b.1 := by
  have hs : (byName entries).Pairwise fun a b => decide (a.1 ≤ b.1) = true :=
    List.pairwise_mergeSort (by simpa using fun a b c => le_trans)
      (by simpa using fun a b => le_total a b) entries
  have hp : ((byName entries).map Prod.fst).Nodup := ((List.mergeSort_perm _ _).map _).nodup_iff.2 h
  refine (hs.and (List.pairwise_map.1 hp)).imp fun hab => ?_
  exact lt_of_le_of_ne (of_decide_eq_true hab.1) hab.2

theorem walk_directory (path : String) (entries : List (String × FileTree)) :
    walk path (.directory entries) =
      (byName entries).flatMap fun entry => walk (join path entry.1) entry.2 := by
  have hm : (byName entries).map (fun entry => (entry.1, walk (join path entry.1) entry.2)) =
      (entries.map fun entry => (entry.1, walk (join path entry.1) entry.2)).mergeSort
        fun a b => decide (a.1 ≤ b.1) := List.map_mergeSort fun _ _ _ _ => rfl
  rw [walk, walkEntries_eq_map, ← hm, List.flatMap_map]

/-- The routes into a directory, given those into its entries. -/
theorem lists_directory {entries : List (String × FileTree)}
    {routes : String → FileTree → List (List String × ByteArray)}
    (hn : (entries.map Prod.fst).Nodup)
    (h : ∀ name t, (name, t) ∈ entries → t.Lists (routes name t)) :
    (directory entries).Lists ((byName entries).flatMap fun entry =>
      (routes entry.1 entry.2).map fun r => (entry.1 :: r.1, r.2)) := by
  refine ⟨fun path => ?_, ?_, fun route content => ?_⟩
  · rw [walk_directory, List.map_flatMap]
    refine List.flatMap_congr fun entry he => ?_
    rw [(h entry.1 entry.2 (mem_byName.1 he)).walk, List.map_map]
    rfl
  · rw [List.map_flatMap, List.pairwise_flatMap]
    constructor
    · intro entry he
      rw [List.map_map, List.pairwise_map]
      refine (List.pairwise_map.1 (h entry.1 entry.2 (mem_byName.1 he)).order).imp fun hr => ?_
      exact List.cons_lt_cons_iff.2 (.inr ⟨rfl, hr⟩)
    · -- routes into different entries differ in their first names
      refine (pairwise_byName hn).imp fun {a b} hab => ?_
      simp only [List.map_map, List.mem_map]
      rintro _ ⟨r, -, rfl⟩ _ ⟨q, -, rfl⟩
      exact List.cons_lt_cons_iff.2 (.inl hab)
  · simp only [List.mem_flatMap, List.mem_map, mem_byName, Prod.mk.injEq]
    constructor
    · rintro ⟨⟨name, t⟩, he, ⟨rest, content⟩, hr, rfl, rfl⟩
      exact .entry he (((h name t he).mem rest content).1 hr)
    · intro hh
      cases hh with
      | @entry _ name t rest content he hh =>
        exact ⟨(name, t), he, (rest, content), ((h name t he).mem rest content).2 hh, rfl, rfl⟩

/-- A walk comes to all files of a proper tree, in the order of the names that lead to them. -/
theorem exists_lists {t : FileTree} (h : t.Proper) : ∃ routes, t.Lists routes := by
  induction h with
  | file content => exact ⟨_, lists_file content⟩
  | directory distinct names below ih =>
    choose! routes hr using ih
    exact ⟨_, lists_directory distinct hr⟩

end FileTree

/-- One summary after another. -/
def Summary.more (done next : Summary) : Summary :=
  ⟨done.loaded ++ next.loaded, done.rejected ++ next.rejected⟩

theorem Summary.more_assoc (a b c : Summary) : (a.more b).more c = a.more (b.more c) := by
  simp only [Summary.more, List.append_assoc]

namespace Validator

/-! ### Sources -/

/-- Bytes are text that is read as a document. -/
def Readable (content : ByteArray) : Prop :=
  ∃ text document, String.fromUTF8? content = some text ∧ Json.read text = .ok document

/-- Why a file holds no document: its bytes are no text, or their text is not read. -/
inductive Unreadable (file : String × ByteArray) : Failure → Prop where
  | notText (ht : String.fromUTF8? file.2 = none) : Unreadable file (.io .notText)
  | malformed {text : String} {error : Json.ReadError} (ht : String.fromUTF8? file.2 = some text)
      (he : Json.read text = .error error) : Unreadable file (.schemaFile file.1 error)

/-- A document read from a file, with the path and the stem of the file. -/
structure Source where
  path : String
  name : String
  document : Json

/-- The source is that of a file. -/
structure Source.Of (file : String × ByteArray) (x : Source) : Prop where
  path : x.path = file.1
  name : FileName.stem? file.1 = some x.name
  document : ∃ text, String.fromUTF8? file.2 = some text ∧ Json.read text = .ok x.document

theorem Source.Of.readDocument {file : String × ByteArray} {x : Source} (h : Source.Of file x) :
    Validator.readDocument file.1 file.2 = .ok x.document := by
  obtain ⟨text, ht, hd⟩ := h.document
  rw [Validator.readDocument, FileSystem.textOf, ht]
  simp only [hd]

/-- A schema file with a document is the file of some source. -/
theorem exists_source {file : String × ByteArray} (hs : isSchemaFile file.1 = true)
    (h : Readable file.2) : ∃ x, Source.Of file x := by
  obtain ⟨text, document, ht, hd⟩ := h
  exact ⟨⟨file.1, _, document⟩, rfl, stem?_eq_some hs, text, ht, hd⟩

theorem exists_sources {files : List (String × ByteArray)}
    (h : ∀ file ∈ files, isSchemaFile file.1 = true ∧ Readable file.2) :
    ∃ sources, files.Forall₂ Source.Of sources := by
  induction files with
  | nil => exact ⟨[], .nil⟩
  | cons file rest ih =>
    rw [List.forall_mem_cons] at h
    obtain ⟨x, hx⟩ := exists_source h.1.1 h.1.2
    obtain ⟨sources, hs⟩ := ih h.2
    exact ⟨x :: sources, .cons hx hs⟩

theorem exists_unreadable {file : String × ByteArray} (h : ¬ Readable file.2) :
    ∃ failure, Unreadable file failure ∧ readDocument file.1 file.2 = .error failure := by
  rw [readDocument, FileSystem.textOf]
  cases ht : String.fromUTF8? file.2 with
  | none => exact ⟨_, .notText ht, rfl⟩
  | some text =>
    cases hd : Json.read text with
    | error error => exact ⟨_, .malformed ht hd, by simp only [hd]⟩
    | ok document => exact absurd ⟨text, document, ht, hd⟩ h

/-! ### What becomes of sources -/

variable (v : Validator)

/-- What is told of sources: the names of those that are well formed, and the paths of the others
with what is wrong there. -/
def told (sources : List Source) : Summary where
  loaded := (sources.filter fun x => v.checker.WellFormed x.document).map Source.name
  rejected := (sources.filter fun x => ¬ v.checker.WellFormed x.document).map fun x =>
    (x.path, v.validateSchema x.document)

/-- The schemas of the sources that are well formed, with their names. -/
def filed (sources : List Source) : List (String × Schema) :=
  sources.filterMap fun x => (v.compile x.document).value?.map fun s => (x.name, s)

/-- The validator with the schemas of sources filed one after the other. -/
def filing (sources : List Source) : Validator :=
  { v with schemas := v.schemas.insertAll (v.filed sources) }

theorem told_cons (x : Source) (rest : List Source) :
    v.told (x :: rest) = (v.told [x]).more (v.told rest) := by
  simp only [told, Summary.more, ← List.map_append, ← List.filter_append, List.singleton_append]

theorem filing_cons (x : Source) (rest : List Source) :
    v.filing (x :: rest) = (v.filing [x]).filing rest := by
  have hf : v.filed (x :: rest) = v.filed [x] ++ v.filed rest :=
    List.filterMap_append (l := [x])
  rw [filing, hf, Table.insertAll_append]
  rfl

/-- One source: it is filed under its name or told of as rejected. -/
theorem loadDocument_eq {x : Source} (hn : FileName.stem? x.path = some x.name) (done : Summary) :
    v.loadDocument done x.path x.document = (done.more (v.told [x]), v.filing [x]) := by
  cases hc : v.compile x.document with
  | ok s =>
    have hw : v.checker.WellFormed x.document := exists_compile_iff.1 ⟨s, hc⟩
    simp [loadDocument, hn, register_of_ok hc, told, hw, Summary.more, filing, filed, hc,
      Table.insertAll]
  | bad first rest =>
    have hw : ¬ v.checker.WellFormed x.document := by
      rw [← exists_compile_iff, hc]
      rintro ⟨s, ⟨⟩⟩
    have he : v.validateSchema x.document = first :: rest := by
      have hr := congrArg Checked.errors hc
      rwa [compile, Schema.compile, Checked.errors_map] at hr
    simp [loadDocument, hn, register_of_bad hc, told, hw, Summary.more, filing, filed, hc,
      Table.insertAll, he]

/-- Sources one after the other, before the files behind them. -/
theorem loadFiles_append {before : List (String × ByteArray)} {sources : List Source}
    (h : before.Forall₂ Source.Of sources) (done : Summary) (after : List (String × ByteArray)) :
    v.loadFiles done (before ++ after) =
      (v.filing sources).loadFiles (done.more (v.told sources)) after := by
  induction h generalizing v done with
  | nil => simp [told, filing, filed, Summary.more, Table.insertAll]
  | @cons file x before sources hx hs ih =>
    have hn : FileName.stem? x.path = some x.name := hx.path ▸ hx.name
    -- what is told of the others does not depend on what was filed before
    have ht : v.told sources = (v.filing [x]).told sources := rfl
    rw [List.cons_append, told_cons, filing_cons, ← Summary.more_assoc, ht, ← ih, loadFiles,
      hx.readDocument, ← hx.path]
    simp only [loadDocument_eq v hn]

/-! ### Names -/

theorem names_filed (sources : List Source) :
    (v.filed sources).map Prod.fst = (v.told sources).loaded := by
  induction sources with
  | nil => rfl
  | cons x rest ih =>
    rw [told_cons, Summary.more, ← ih]
    cases hc : v.compile x.document with
    | ok s =>
      have hw : v.checker.WellFormed x.document := exists_compile_iff.1 ⟨s, hc⟩
      simp [filed, told, hc, hw]
    | bad first more =>
      have hw : ¬ v.checker.WellFormed x.document := by
        rw [← exists_compile_iff, hc]
        rintro ⟨s, ⟨⟩⟩
      simp [filed, told, hc, hw]

/-- The names that were there come first, then those of the sources that are well formed, each at
its first place. -/
theorem names_filing (sources : List Source) :
    (v.filing sources).schemas.names =
      v.schemas.names ++ ((v.told sources).loaded.filter (· ∉ v.schemas.names)).eraseDups := by
  rw [filing, Table.names_insertAll, names_filed]

/-- A name stands for its last source that is well formed, or for what it stood for before. -/
theorem schema?_filing (sources : List Source) (name : String) :
    (v.filing sources).schema? name =
      ((v.filed sources).reverse.lookup name).or (v.schema? name) :=
  Table.get?_insertAll _ _ _

/-! ### Directories -/

/-- **A directory is loaded from left to right, up to the first schema file without a document.**
The walk comes to all files in the order of the names that lead to them.  If all schema files hold
documents, their sources are told of and filed one after the other; and if one is the first that
holds none, the loading fails with what is wrong there, and the sources before it stay filed.
Nothing but the schemas changes: names that were there stay in front, the new ones follow in the
order in which they were filed first, and a name stands for what was filed under it last. -/
theorem loadDirectory_folds {fs : FileSystem} {dir : String} {files : List (String × ByteArray)}
    (hw : fs.walk dir = .ok files) :
    let schemaFiles := files.filter fun file => isSchemaFile file.1
    (fs.root.Proper → ∃ t routes, fs.find dir = .ok t ∧ t.Lists routes ∧
      files = routes.map fun r => (r.1.foldl FileTree.join dir, r.2)) ∧
    ((∀ file ∈ schemaFiles, Readable file.2) →
      ∃ sources, schemaFiles.Forall₂ Source.Of sources ∧
        v.loadDirectory fs dir = (.ok (v.told sources), v.filing sources)) ∧
    (∀ before file after, schemaFiles = before ++ file :: after →
      (∀ other ∈ before, Readable other.2) → ¬ Readable file.2 →
      ∃ sources failure, before.Forall₂ Source.Of sources ∧ Unreadable file failure ∧
        v.loadDirectory fs dir = (.error failure, v.filing sources)) ∧
    ∀ sources, (v.filing sources).schemas.names =
        v.schemas.names ++ ((v.told sources).loaded.filter (· ∉ v.schemas.names)).eraseDups ∧
      ∀ name, (v.filing sources).schema? name =
        ((v.filed sources).reverse.lookup name).or (v.schema? name) := by
  intro schemaFiles
  have hs : ∀ file ∈ schemaFiles, isSchemaFile file.1 = true := fun file hm =>
    (List.mem_filter.1 hm).2
  have hl : v.loadDirectory fs dir = v.loadFiles ⟨[], []⟩ schemaFiles := loadDirectory_of_walk hw
  refine ⟨fun hp => ?_, fun hr => ?_, fun before file after he hr hn => ?_,
    fun sources => ⟨v.names_filing sources, v.schema?_filing sources⟩⟩
  · cases hf : fs.find dir with
    | error fault =>
      rw [FileSystem.walk, hf] at hw
      cases hw
    | ok t =>
      obtain ⟨routes, hr⟩ := FileTree.exists_lists (FileSystem.find_proper hp hf)
      refine ⟨t, routes, rfl, hr, ?_⟩
      rw [FileSystem.walk, hf] at hw
      rw [← hr.walk]
      exact (Except.ok.inj hw).symm
  · obtain ⟨sources, hsrc⟩ := exists_sources fun file hm => ⟨hs file hm, hr file hm⟩
    refine ⟨sources, hsrc, ?_⟩
    rw [hl, ← List.append_nil schemaFiles, v.loadFiles_append hsrc]
    rfl
  · have hb : ∀ other ∈ before, isSchemaFile other.1 = true ∧ Readable other.2 := fun other hm =>
      ⟨hs other (he ▸ List.mem_append_left _ hm), hr other hm⟩
    obtain ⟨sources, hsrc⟩ := exists_sources hb
    obtain ⟨failure, hu, hd⟩ := exists_unreadable hn
    refine ⟨sources, failure, hsrc, hu, ?_⟩
    rw [hl, he, v.loadFiles_append hsrc, loadFiles, hd]

/-- A schema file in a directory, a schema file of the same stem that is malformed, a file of
another sort, and a schema file that ends too early. -/
def mixedEntries : List (String × FileTree) :=
  [("base", .directory [("code.json", .file "\"any\"".toUTF8)]), ("code.json", .file "null".toUTF8),
    ("notes.txt", .file "".toUTF8), ("z.json", .file "[".toUTF8)]

/-- The files below one directory. -/
def mixedFiles : FileSystem := ⟨.directory [("codes", .directory mixedEntries)], []⟩

theorem walk_mixedFiles : mixedFiles.walk "codes" =
    .ok [("codes/base/code.json", "\"any\"".toUTF8), ("codes/code.json", "null".toUTF8),
      ("codes/notes.txt", "".toUTF8), ("codes/z.json", "[".toUTF8)] := by
  have hn : mixedFiles.names "codes" = ["codes"] := by
    rw [FileSystem.names, splitOn_slash]
    decide +kernel
  have hf : mixedFiles.find "codes" = .ok (.directory mixedEntries) := by
    rw [FileSystem.find, if_neg (by decide), hn]
    rfl
  have hs : FileTree.byName mixedEntries = mixedEntries :=
    List.mergeSort_of_pairwise (by decide +kernel)
  have hj (path name : String) (h : path.endsWith "/" = false) :
      FileTree.join path name = path ++ "/" ++ name := by
    rw [FileTree.join, h, if_neg Bool.false_ne_true]
  have hc : "codes".endsWith "/" = false := by decide +kernel
  have hb : "codes/base".endsWith "/" = false := by decide +kernel
  rw [FileSystem.walk, hf, Except.map, FileTree.walk_directory, hs]
  simp [mixedEntries, FileTree.walk, FileTree.walkEntries, hj _ _ hc, hj _ _ hb]

/-- The malformed schema leaves the other one of its name, and the files before the last one stay
filed. -/
theorem mixedFiles_folded :
    mixedFiles.walk "codes" =
      .ok [("codes/base/code.json", "\"any\"".toUTF8), ("codes/code.json", "null".toUTF8),
        ("codes/notes.txt", "".toUTF8), ("codes/z.json", "[".toUTF8)] ∧
    ∃ sources failure,
      List.Forall₂ Source.Of
        [("codes/base/code.json", "\"any\"".toUTF8), ("codes/code.json", "null".toUTF8)] sources ∧
      Unreadable ("codes/z.json", "[".toUTF8) failure ∧
      new.loadDirectory mixedFiles "codes" = (.error failure, new.filing sources) := by
  have hw := walk_mixedFiles
  obtain ⟨-, -, hfail, -⟩ := new.loadDirectory_folds hw
  refine ⟨hw, hfail _ _ [] ?_ ?_ ?_⟩
  · have hs : isSchemaFile "codes/base/code.json" ∧ isSchemaFile "codes/code.json" ∧
        isSchemaFile "codes/notes.txt" = false ∧ isSchemaFile "codes/z.json" := by
      simp only [isSchemaFile, FileName.extension?, FileName.ofPath?, FileName.parts, splitOn_slash]
      decide +kernel
    simp [hs]
  · rw [List.forall_mem_cons, List.forall_mem_singleton]
    exact ⟨⟨_, .string "any", FileSystem.fromUTF8?_toUTF8 "\"any\"", rfl⟩,
      ⟨_, .null, FileSystem.fromUTF8?_toUTF8 "null", rfl⟩⟩
  · rintro ⟨text, document, ht, hd⟩
    obtain rfl := Option.some.inj ((FileSystem.fromUTF8?_toUTF8 "[").symm.trans ht)
    cases hd

end Validator

end ShapeCheck
