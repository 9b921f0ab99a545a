import ShapeCheck.Proofs.Reachable

/-!
# Registration

What filing documents changes and what it leaves alone, for one document and for a directory of
them.

* `Validator.register_of_ok`, `Validator.register_of_ne_nil`: a registration files the schema of the
  document, or is refused and changes nothing;
* `Validator.registerAll`, `Validator.accepted`: documents registered one after the other, and those
  of them that are accepted;
* `Validator.documents`: the documents that loading a directory comes to, with their names;
* `Validator.loadDirectory_snd`: loading a directory is to register these documents;
* `Validator.loaded_loadDirectory`: if it comes to its end, the names of those that are accepted are
  what it tells.

A file that cannot be read ends the loading, and what comes before it stays registered.
-/

namespace ShapeCheck

namespace Validator

/-! ### One document -/

section Register

variable {v : Validator} {name : String} {document : Json}

theorem register_of_ok {s : Schema} (h : v.compile document = .ok s) :
    v.register name document = ([], { v with schemas := v.schemas.insert name s }) := by
  rw [register, h]

theorem register_of_bad {first : Violation} {rest : Report}
    (h : v.compile document = .bad first rest) :
    v.register name document = (first :: rest, v) := by
  rw [register, h]

/-- A registration succeeds exactly if the document gives a schema. -/
theorem register_fst_eq_nil_iff :
    (v.register name document).1 = [] ↔ ∃ s, v.compile document = .ok s := by
  cases h : v.compile document with
  | ok s => simp [register_of_ok h]
  | bad first rest => simp [register_of_bad h]

/-- A registration that is refused changes nothing. -/
theorem register_of_ne_nil (h : (v.register name document).1 ≠ []) :
    (v.register name document).2 = v := by
  cases hc : v.compile document with
  | ok s => exact absurd (register_fst_eq_nil_iff.2 ⟨s, hc⟩) h
  | bad first rest => rw [register_of_bad hc]

@[simp] theorem environment_register :
    (v.register name document).2.environment = v.environment := by
  cases h : v.compile document with
  | ok s =>
    rw [register_of_ok h]
    rfl
  | bad first rest => rw [register_of_bad h]

/-- A registration concerns its own name only. -/
theorem schema?_register_of_ne {other : String} (h : other ≠ name) :
    (v.register name document).2.schema? other = v.schema? other := by
  cases hc : v.compile document with
  | ok s => rw [register_of_ok hc, schema?, schema?, Table.get?_insert, if_neg h]
  | bad first rest => rw [register_of_bad hc]

end Register

/-! ### Documents one after the other -/

/-- Documents registered one after the other, whether or not they are refused. -/
def registerAll (v : Validator) (entries : List (String × Json)) : Validator :=
  entries.foldl (fun v entry => (v.register entry.1 entry.2).2) v

/-- Those that are accepted of documents registered one after the other. -/
def accepted (v : Validator) : List (String × Json) → List (String × Json)
  | [] => []
  | entry :: rest =>
    let more := (v.register entry.1 entry.2).2.accepted rest
    if (v.register entry.1 entry.2).1.isEmpty then entry :: more else more

@[simp] theorem registerAll_nil (v : Validator) : v.registerAll [] = v := rfl

@[simp] theorem registerAll_cons (v : Validator) (entry : String × Json)
    (rest : List (String × Json)) :
    v.registerAll (entry :: rest) = (v.register entry.1 entry.2).2.registerAll rest := rfl

theorem accepted_cons (v : Validator) (entry : String × Json) (rest : List (String × Json)) :
    v.accepted (entry :: rest) =
      v.accepted [entry] ++ (v.register entry.1 entry.2).2.accepted rest := by
  simp only [accepted]
  split <;> rfl

theorem accepted_of_nil {v : Validator} {entry : String × Json}
    (h : (v.register entry.1 entry.2).1 = []) : v.accepted [entry] = [entry] := by
  simp [accepted, h]

theorem accepted_of_ne_nil {v : Validator} {entry : String × Json}
    (h : (v.register entry.1 entry.2).1 ≠ []) : v.accepted [entry] = [] := by
  simp [accepted, h]

@[simp] theorem environment_registerAll (v : Validator) (entries : List (String × Json)) :
    (v.registerAll entries).environment = v.environment := by
  induction entries generalizing v with
  | nil => rfl
  | cons entry rest ih => rw [registerAll_cons, ih, environment_register]

/-- A name under which no document is accepted keeps its schema. -/
theorem schema?_registerAll {v : Validator} {entries : List (String × Json)} {name : String}
    (h : name ∉ (v.accepted entries).map Prod.fst) :
    (v.registerAll entries).schema? name = v.schema? name := by
  induction entries generalizing v with
  | nil => rfl
  | cons entry rest ih =>
    rw [accepted_cons, List.map_append, List.mem_append, not_or] at h
    rw [registerAll_cons, ih h.2]
    by_cases he : (v.register entry.1 entry.2).1 = []
    · rw [accepted_of_nil he, List.map_singleton, List.mem_singleton] at h
      exact schema?_register_of_ne h.1
    · rw [register_of_ne_nil he]

/-! ### Directories -/

/-- The documents in files up to the first that cannot be read, each with the name it goes by. -/
def readable : List (String × ByteArray) → List (String × Json)
  | [] => []
  | (path, content) :: rest =>
    match readDocument path content with
    | .error _ => []
    | .ok document => ((FileName.stem? path).getD "", document) :: readable rest

/-- The documents that loading a directory comes to, each with the name it goes by. -/
def documents (fs : FileSystem) (dir : String) : List (String × Json) :=
  match fs.walk dir with
  | .error _ => []
  | .ok files => readable (files.filter fun file => isSchemaFile file.1)

theorem loadFiles_snd (v : Validator) (done : Summary) (files : List (String × ByteArray)) :
    (v.loadFiles done files).2 = v.registerAll (readable files) := by
  induction files generalizing v done with
  | nil => rfl
  | cons file rest ih =>
    obtain ⟨path, content⟩ := file
    rw [loadFiles, readable]
    cases readDocument path content with
    | error failure => rfl
    | ok document => rw [ih, registerAll_cons, loadDocument_snd]

/-- Loading a directory is to register the documents that it comes to. -/
theorem loadDirectory_snd (v : Validator) (fs : FileSystem) (dir : String) :
    (v.loadDirectory fs dir).2 = v.registerAll (documents fs dir) := by
  rw [loadDirectory, documents]
  cases fs.walk dir with
  | error fault => rfl
  | ok files => exact v.loadFiles_snd _ _

@[simp] theorem environment_loadDirectory (v : Validator) (fs : FileSystem) (dir : String) :
    (v.loadDirectory fs dir).2.environment = v.environment := by
  rw [loadDirectory_snd, environment_registerAll]

theorem loaded_loadDocument (v : Validator) (done : Summary) (path : String) (document : Json) :
    (v.loadDocument done path document).1.loaded =
      done.loaded ++ (v.accepted [((FileName.stem? path).getD "", document)]).map Prod.fst := by
  rw [loadDocument]
  cases hr : v.register ((FileName.stem? path).getD "") document with
  | mk errors w =>
    cases errors with
    | nil => simp [accepted, hr]
    | cons first rest => simp [accepted, hr]

theorem loaded_loadFiles {v : Validator} {done summary : Summary}
    {files : List (String × ByteArray)} (h : (v.loadFiles done files).1 = .ok summary) :
    summary.loaded = done.loaded ++ (v.accepted (readable files)).map Prod.fst := by
  induction files generalizing v done with
  | nil =>
    cases h
    simp [readable, accepted]
  | cons file rest ih =>
    obtain ⟨path, content⟩ := file
    rw [loadFiles] at h
    rw [readable]
    cases hd : readDocument path content with
    | error failure =>
      rw [hd] at h
      cases h
    | ok document =>
      rw [hd] at h
      change ((v.loadDocument done path document).2.loadFiles
        (v.loadDocument done path document).1 rest).1 = .ok summary at h
      have hs := ih h
      rw [loaded_loadDocument, loadDocument_snd, List.append_assoc, ← List.map_append] at hs
      rw [accepted_cons]
      exact hs

/-- A directory that is loaded to its end is told by the names of the documents that are accepted
from it. -/
theorem loaded_loadDirectory {v : Validator} {fs : FileSystem} {dir : String} {summary : Summary}
    (h : (v.loadDirectory fs dir).1 = .ok summary) :
    summary.loaded = (v.accepted (documents fs dir)).map Prod.fst := by
  rw [loadDirectory] at h
  rw [documents]
  cases hw : fs.walk dir with
  | error fault =>
    rw [hw] at h
    cases h
  | ok files =>
    rw [hw] at h
    simpa using loaded_loadFiles h

end Validator

end ShapeCheck
